import RegistryFeed.Store.Files

/-! # Changes from outside

Other programs can write to the tables of a store past this library: rows get kinds and names that
the library would not write, or lose their files. Each change counts the rows it touches. -/
namespace RegistryFeed.Store

def isVersion (source : Source) (version : Int) (r : VersionRow) : Bool :=
  r.source = source && r.version = version

/-- Overwrites the kind of a version. -/
def setKind (s : Store) (source : Source) (version : Int) (kind : String) : Nat × Store :=
  ((s.versions.filter (isVersion source version)).length,
    { s with versions := s.versions.map fun r =>
        if isVersion source version r then { r with kind := kind } else r })

/-- Overwrites the kind of every version of a source. -/
def setKinds (s : Store) (source : Source) (kind : String) : Store :=
  { s with versions := s.versions.map fun r =>
      if r.source = source then { r with kind := kind } else r }

/-- Whether a file belongs to a version. -/
def ownsFile (s : Store) (source : Source) (version : Int) (f : FileRow) : Bool :=
  s.versions.any fun r => isVersion source version r && r.id = f.versionId

def dropFiles (s : Store) (source : Source) (version : Int) : Nat × Store :=
  ((s.files.filter (s.ownsFile source version)).length,
    { s with files := s.files.filter fun f => !s.ownsFile source version f })

/-- Renames the file of a version; a name of another file is refused. -/
def renameFile (s : Store) (source : Source) (version : Int) (name : String) :
    Except EngineError (Nat × Store) :=
  let renamed := s.files.filter (s.ownsFile source version)
  if !renamed.isEmpty && s.files.any fun f => f.name = name && !s.ownsFile source version f then
    .error (.store (.violated .fileNameTaken))
  else .ok (renamed.length,
    { s with files := s.files.map fun f =>
        if s.ownsFile source version f then { f with name := name } else f })

def clearLeases (s : Store) : Nat × Store := (s.leases.length, { s with leases := [] })

end RegistryFeed.Store
