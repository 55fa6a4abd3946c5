import RegistryFeed.Store.Opening

/-! # The disk

What a database meets where its file is to be. A path is followed step by step, from the root or, if
it does not begin with a slash, from the current folder; two dots take back the step before them,
wherever it led. Paths are kept with their last step first. -/
namespace RegistryFeed

/-- What stands at a path: a folder, perhaps one in which no file can be made; a device that keeps
nothing, has no room, or cannot be opened; or a file that is no database. -/
inductive Place
  | folder
  | sealedFolder
  | sink
  | full
  | closed
  | foreign
deriving DecidableEq, Repr

def Place.isFolder : Place → Bool
  | .folder | .sealedFolder => true
  | _ => false

structure Disk where
  current : List String
  places : List (List String × Place)
deriving Repr

namespace Disk

/-- The greatest number of bytes in a step. -/
def maxStep : Nat := 255

/-- The greatest number of bytes in the name of a database, whose journal has eight more. -/
def maxName : Nat := 247

/-- The greatest number of bytes in the path of a database. -/
def maxPath : Nat := 504

def stepsOf (path : String) : List String :=
  ((Text.fields '/' path.toList).filter fun f => !f.isEmpty).map String.ofList

def place? (d : Disk) (path : List String) : Option Place := d.places.lookup path

/-- Goes one step on; there is none from what is no folder. A folder may be missing. -/
def step (d : Disk) (path : List String) (name : String) : Option (List String) :=
  if name = "." then some path
  else if name = ".." then some path.tail
  else if maxStep < name.utf8ByteSize || !((d.place? path).map Place.isFolder).getD true then none
  else some (name :: path)

def follow? (d : Disk) (path : String) : Option (List String) :=
  (stepsOf path).foldlM d.step (if path.toList.head? = some '/' then [] else d.current)

/-- Goes one step on to what may be missing, but only from a folder that is there. -/
def stepFromFolder (d : Disk) (path : List String) (name : String) : Option (List String) :=
  if !((d.place? path).map Place.isFolder).getD false then none
  else if name = "" || name = "." then some path
  else if name = ".." then some path.tail
  else some (name :: path)

/-- Whether something stands at a path that is followed through the folders there are. -/
def has (d : Disk) (path : String) : Bool :=
  let steps := (Text.fields '/' path.toList).map String.ofList
  let start := if path.toList.head? = some '/' then [] else d.current
  !path.isEmpty && ((steps.foldlM d.stepFromFolder start).bind d.place?).isSome

def pathSize (path : List String) : Nat := path.foldr (fun name n => name.utf8ByteSize + 1 + n) 0

/-- Makes a file, and a journal beside it. -/
def make (d : Disk) (name : String) (folder : List String) (o : Opening) :
    Except OpeningFault Unit :=
  if !o.access.create || d.place? folder ≠ some .folder then .error .cannotOpen
  else if o.isReadOnly then .error .readOnly
  else if maxName < name.utf8ByteSize then .error .cannotOpen
  else .ok ()

/-- Opens a file and writes to it. A folder can be opened to be read, and then cannot be read. -/
def openFile (d : Disk) (o : Opening) : Except OpeningFault Unit :=
  match d.follow? o.path with
  | none | some [] => .error .cannotOpen
  | some (name :: folder) =>
    if maxPath < pathSize (name :: folder) then .error .cannotOpen
    else if (o.model.map fun model => !d.has model).getD false then .error .noModel
    else match d.place? (name :: folder) with
      | none => d.make name folder o
      | some .folder | some .sealedFolder =>
        .error (if o.access.readOnly then .unreadable else .cannotOpen)
      | some .closed => .error .cannotOpen
      | some .foreign => .error .notDatabase
      | some .sink => .error (if o.isReadOnly then .readOnly else .notFlushed)
      | some .full => .error (if o.isReadOnly then .readOnly else .noRoom)

/-- The folders and devices that are everywhere, and the one folder that is the current one. -/
def usual : Disk :=
  let every (p : Place) (paths : List String) : List (List String × Place) :=
    paths.map fun path => ((stepsOf path).reverse, p)
  ⟨["registry", "srv"],
    every .folder ["/", "/boot", "/dev", "/dev/shm", "/etc", "/home", "/media", "/mnt", "/opt",
      "/root", "/run", "/srv", "/srv/registry", "/tmp", "/usr", "/usr/bin", "/usr/lib",
      "/usr/local", "/usr/sbin", "/usr/share", "/bin", "/lib", "/lib64", "/sbin", "/var",
      "/var/cache", "/var/lib", "/var/log", "/var/tmp"] ++
    every .sealedFolder ["/dev/fd", "/dev/pts", "/proc", "/sys"] ++
    every .sink ["/dev/null", "/dev/random", "/dev/urandom", "/dev/zero"] ++
    every .full ["/dev/full"] ++
    every .closed ["/dev/stderr", "/dev/stdin", "/dev/stdout", "/dev/tty"] ++
    every .foreign ["/bin/sh", "/etc/group", "/etc/hostname", "/etc/hosts", "/etc/passwd",
      "/etc/resolv.conf"]⟩

end Disk

end RegistryFeed
