import RegistryFeed.Settings
import RegistryFeed.Text.Percent

/-! # The location of a store

The path in the settings is part of a location, in which a question mark begins parameters and a
percent sign a byte. What the location says about opening comes after the path, as one more
parameter; so a path with a question mark in it swallows that parameter into its own last one. -/
namespace RegistryFeed

/-- Where a store is, and what it is opened for. The file may be said never to change; the module of
the file system stands as the location gives it. -/
structure StoreLocation where
  path : String
  inMemory : Bool
  readOnly : Bool
  immutable : Bool
  fileSystem : Option String
deriving DecidableEq, Repr

namespace StoreLocation

def atPath (path : String) : StoreLocation := ⟨path, false, false, false, none⟩

def memory : StoreLocation := { atPath "memory" with inMemory := true }

/-- The rest of a text after a beginning, taken off as often as it is there. -/
def stripAll (beginning : List Char) (cs : List Char) : List Char :=
  if h : beginning ≠ [] ∧ beginning.isPrefixOf cs then
    have : 0 < beginning.length := List.length_pos_iff.2 h.1
    have : beginning.length ≤ cs.length := (List.isPrefixOf_iff_prefix.1 h.2).length_le
    stripAll beginning (cs.drop beginning.length)
  else cs
termination_by cs.length
decreasing_by
  rw [List.length_drop]
  omega

/-- What a value of a parameter says, for the parameters with a choice of values. A file is made
where there is none, whether the location says so or not. -/
def choices : List (String × List (String × (StoreLocation → StoreLocation))) :=
  [("mode", [("ro", fun l => { l with readOnly := true }), ("rw", id), ("rwc", id),
      ("memory", fun l => { l with inMemory := true })]),
    ("cache", [("private", id), ("shared", id)]),
    ("immutable", [("true", fun l => { l with immutable := true }),
      ("1", fun l => { l with immutable := true }),
      ("false", fun l => { l with immutable := false }),
      ("0", fun l => { l with immutable := false })])]

/-- Takes note of one parameter. -/
def withParameter (l : StoreLocation) (name value : String) :
    Except LocationFault StoreLocation :=
  if name = "vfs" then .ok { l with fileSystem := some value }
  else match choices.lookup name with
    | some values => match values.lookup value with
      | some change => .ok (change l)
      | none => .error (.badValue name value)
    | none => .error (.unknownParameter name)

/-- Reads a location: its scheme, the path up to the first question mark, and the parameters. -/
def ofText (text : String) : Except LocationFault StoreLocation := do
  let body := stripAll "sqlite:".toList (stripAll "sqlite://".toList text.toList)
  let (path, parameters) := (Text.cut? '?' body).getD (body, [])
  let start ← if path = ":memory:".toList then pure memory
    else match Percent.decodeText path with
      | .ok path => pure (atPath path)
      | .error flaw => throw (.notUtf8 flaw.length flaw.index)
  (Percent.parameters parameters).foldlM (fun l p => l.withParameter p.1 p.2) start

end StoreLocation

/-- The location that the settings of a store lead to. -/
def StoreSettings.location (s : StoreSettings) : Except LocationFault StoreLocation :=
  if s.isInMemory then .ok .memory else StoreLocation.ofText ("sqlite://" ++ s.path ++ "?mode=rwc")

end RegistryFeed
