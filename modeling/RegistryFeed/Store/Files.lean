import RegistryFeed.Store.Versions

/-! # The files of the store

A file belongs to a version, and neither two files of a version nor two files of one name can be
saved. Of several violated constraints the database reports the first in this order: the version has
a file, the name is taken, there is no such version. -/
namespace RegistryFeed

/-- Name and hash of a file, with the place of its version in the chain. -/
structure FileReference where
  version : Int
  kind : DocumentKind
  fileName : String
  hash : String
deriving DecidableEq, Repr

namespace Store

def saveFile (s : Store) (file : FileRow) : Except EngineError Store :=
  if s.files.any (·.versionId = file.versionId) then
    .error (.store (.violated .fileOfVersionTaken))
  else if s.files.any (·.name = file.name) then .error (.store (.violated .fileNameTaken))
  else if !s.versions.any (·.id = file.versionId) then .error (.store (.violated .versionMissing))
  else .ok { s with files := s.files ++ [file] }

def findFile (s : Store) (name : String) : Option FileRow := s.files.find? (·.name = name)

/-- The reference to a file of a version row. -/
def reference (row : VersionRow) (file : FileRow) : Except EngineError FileReference :=
  match DocumentKind.ofText row.kind with
  | .ok kind => .ok ⟨row.version, kind, file.name, file.hash⟩
  | .error cause => .error (.internal (.corruptVersion row.version cause))

/-- The files of one session of a source, in ascending order of versions. -/
def listReferences (s : Store) (source : Source) (session : String) :
    Except EngineError (List FileReference) :=
  let rows := (s.chain source).filter fun r => r.session = session
  let pairs := rows.flatMap fun r =>
    (s.files.filter fun f => f.versionId = r.id).map fun f => (r, f)
  pairs.mapM fun p => reference p.1 p.2

end Store

end RegistryFeed
