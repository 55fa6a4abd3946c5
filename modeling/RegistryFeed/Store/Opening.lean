import RegistryFeed.Store.Location

/-! # The opening of a database

A database is opened under a name. If the name begins with a scheme it goes on with a path, in which
a percent sign begins a byte, and may have parameters of its own behind a question mark. They have
the last word on what the database is opened for. -/
namespace RegistryFeed

/-- What a database is opened for; a file may be made where there is none. -/
structure StoreAccess where
  readOnly : Bool
  writable : Bool
  create : Bool
  inMemory : Bool
deriving DecidableEq, Repr

namespace StoreAccess

/-- Greater for more access; what is in memory may be opened for anything. -/
def rank (a : StoreAccess) : Nat :=
  a.readOnly.toNat + 2 * a.writable.toNat + 4 * a.create.toNat + 128 * a.inMemory.toNat

def ofLocation (l : StoreLocation) : StoreAccess :=
  ⟨l.readOnly, !l.readOnly, !l.readOnly, l.inMemory⟩

/-- The words for an access. -/
def modes : List (String × StoreAccess) :=
  [("ro", ⟨true, false, false, false⟩), ("rw", ⟨false, true, false, false⟩),
    ("rwc", ⟨false, true, true, false⟩), ("memory", ⟨false, false, false, true⟩)]

/-- Changes an access to the one of a word, which may not ask for more. -/
def change (a : StoreAccess) (word : String) : Except OpeningFault StoreAccess :=
  match modes.lookup word with
  | none => .error (.noAccessMode word)
  | some b =>
    if { b with inMemory := false }.rank ≤ a.rank then .ok b
    else .error (.accessNotAllowed word)

end StoreAccess

/-- How a database is opened. The file may be said never to change; a new one gets the permissions
of its model. The module of the file system is named if it is not the usual one. -/
structure Opening where
  path : String
  access : StoreAccess
  immutable : Bool
  model : Option String
  fileSystem : Option String
deriving DecidableEq, Repr

namespace Opening

/-- The module that keeps all files in memory. -/
def memoryModule : String := "memdb"

def fileSystems : List String := ["unix", "unix-none", "unix-dotfile", "unix-excl", memoryModule]

/-- Takes note of one parameter. -/
def withParameter (o : Opening) (name value : String) : Except OpeningFault Opening :=
  if name = "vfs" then .ok { o with fileSystem := some value }
  else if name = "cache" then
    if value = "shared" || value = "private" then .ok o else .error (.noCacheMode value)
  else if name = "mode" then do return { o with access := ← o.access.change value }
  else .ok o

/-- Parameters without a name are left out. -/
def parameters (query : List Char) : List (String × String) :=
  (Text.fields '&' query).filterMap fun f =>
    let (name, value) := (Text.cut? '=' f).getD (f, [])
    let name := Percent.untilZero name
    if name.isEmpty then none else some (name, Percent.untilZero value)

/-- The greatest number that a value can begin with; one that is greater counts as zero. -/
def maxNumber : Nat := 2147483647

/-- The number that a text begins with, in base sixteen after a zero and an x. -/
def leadingNumber (cs : List Char) : Nat :=
  let decimal := Text.ofDigits 0 (cs.takeWhile Text.isAsciiDigit)
  let n := match cs with
    | '0' :: x :: rest =>
      if x = 'x' || x = 'X' then Text.ofHexDigits (rest.takeWhile Text.isHexDigit) else decimal
    | _ => decimal
  if n ≤ maxNumber then n else 0

/-- Whether a value means yes: a number with a last byte other than zero, or one of three words. -/
def isYes (value : String) : Bool :=
  if (value.toList.head?.map Text.isAsciiDigit).getD false then
    leadingNumber value.toList % 256 ≠ 0
  else ["on", "yes", "true"].any (Text.sameWord · value)

/-- Opens a path with parameters. The first ones say whether the file never changes and which file
is its model, the last one which module is meant. -/
def ofParts (access : StoreAccess) (path : String) (query : List Char) :
    Except OpeningFault Opening := do
  let ps := parameters query
  let immutable := ((ps.lookup "immutable").map isYes).getD false
  let start : Opening := ⟨path, access, immutable, ps.lookup "modeof", none⟩
  let o ← ps.foldlM (fun o p => o.withParameter p.1 p.2) start
  match o.fileSystem with
  | none => return o
  | some name => if name ∈ fileSystems then return o else throw (.noFileSystem name)

def scheme : List Char := "file:".toList

/-- The rest of a name after the host between two slashes and a third one, which can only be the one
at hand. -/
def withoutHost (cs : List Char) : Except OpeningFault (List Char) :=
  match cs with
  | '/' :: '/' :: rest =>
    let host := String.ofList (rest.takeWhile (· ≠ '/'))
    if host = "" || host = "localhost" then .ok (rest.dropWhile (· ≠ '/'))
    else .error (.foreignHost host)
  | _ => .ok cs

/-- Reads a name; a number sign ends it. -/
def ofName (access : StoreAccess) (name : String) : Except OpeningFault Opening :=
  if scheme.isPrefixOf name.toList then do
    let rest ← withoutHost (name.toList.drop scheme.length)
    let body := rest.takeWhile (· ≠ '#')
    let (path, query) := (Text.cut? '?' body).getD (body, [])
    ofParts access (Percent.untilZero path) query
  else ofParts access name []

/-- The parameters that a location hands on, as they stand in it. -/
def handedOn (l : StoreLocation) : List (List Char) :=
  (if l.immutable then ["immutable=true".toList] else []) ++
    (l.fileSystem.map fun value => "vfs=".toList ++ value.toList).toList

/-- Opens the database at a location. Its path is a name if nothing is handed on; else it is taken
as it is, up to a zero. -/
def ofLocation (l : StoreLocation) : Except StoreFault Opening :=
  let access := StoreAccess.ofLocation l
  let query := ['&'].intercalate (handedOn l)
  let name := if query.isEmpty then l.path.toList else query
  if name.contains '\x00' then .error .nulInName
  else (if query.isEmpty then ofName access l.path
    else ofParts access (String.ofList (l.path.toList.takeWhile (· ≠ '\x00')))
      (query.takeWhile (· ≠ '#'))).mapError .opening

/-- Whether there is a file with the database. -/
def hasFile (o : Opening) : Bool :=
  !o.access.inMemory && !o.path.isEmpty && o.path != ":memory:"

def isReadOnly (o : Opening) : Bool := o.access.readOnly || (o.immutable && o.hasFile)

/-- Whether there is a file and it is in memory. -/
def hasMemoryFile (o : Opening) : Bool := o.hasFile && o.fileSystem == some memoryModule

/-- Whether the database is gone when it is closed. -/
def isVolatile (o : Opening) : Bool := !o.hasFile || o.hasMemoryFile

/-- The greatest number of bytes in the path of a file in memory. -/
def maxMemoryPath : Nat := 1016

/-- What keeps a database that is gone when it is closed from being made. -/
def volatileFault? (o : Opening) : Option OpeningFault :=
  if o.hasMemoryFile && maxMemoryPath < o.path.utf8ByteSize then some .cannotOpen
  else if o.isReadOnly then some .readOnly
  else none

example : ofName ⟨false, true, true, false⟩ "file:a%20b?mode=ro#c" =
    .ok ⟨"a b", ⟨true, false, false, false⟩, false, none, none⟩ := by rfl
example : isYes "0x101" ∧ !isYes "256" ∧ !isYes "4294967297" ∧ isYes "On" := by decide +kernel

end Opening

end RegistryFeed
