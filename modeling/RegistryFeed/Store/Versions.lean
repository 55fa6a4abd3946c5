import RegistryFeed.Store.Basic

/-! # The versions of the store

A row is inserted for the first version of a source or for the one after a given version. That no
two rows of a source have one version number is a constraint of the table; that serials do not go
back is checked against the given version only, which need not be the latest. -/
namespace RegistryFeed

def VersionRow.info (r : VersionRow) : Except EngineError VersionInfo :=
  match DocumentKind.ofText r.kind with
  | .ok kind => .ok ⟨r.id, r.source, r.version, kind, r.lastSerial, r.session, r.createdAt⟩
  | .error cause => .error (.internal (.corruptVersionRow r.id cause))

namespace Store

def versionsOf (s : Store) (source : Source) : List VersionRow :=
  s.versions.filter fun r => r.source = source

/-- Puts a row among rows in ascending order of versions. -/
def insertByVersion (row : VersionRow) : List VersionRow → List VersionRow
  | [] => [row]
  | r :: rest => if row.version < r.version then row :: r :: rest else r :: insertByVersion row rest

/-- The rows of a source in ascending order of versions. -/
def chain (s : Store) (source : Source) : List VersionRow :=
  (s.versionsOf source).foldr insertByVersion []

/-- The latest version of a source. -/
def findLast (s : Store) (source : Source) : Except EngineError (Option VersionInfo) :=
  match (s.chain source).getLast? with
  | some r => do return some (← r.info)
  | none => .ok none

/-- The versions of one session of a source, in ascending order. -/
def listVersions (s : Store) (source : Source) (session : String) :
    Except EngineError (List VersionInfo) :=
  ((s.chain source).filter fun r => r.session = session).mapM VersionRow.info

/-- Inserts a version under the next row number. -/
def insertVersion (s : Store) (source : Source) (version : Int) (kind : DocumentKind)
    (lastSerial : Int) (session : String) (now : Int) : Except EngineError (VersionInfo × Store) :=
  if (s.versionsOf source).any (·.version = version) then
    .error (.store (.violated .versionTaken))
  else
    let id := s.lastVersionId + 1
    .ok (⟨id, source, version, kind, lastSerial, session, now⟩,
      { s with
        versions := s.versions ++ [⟨id, source, version, kind.text, lastSerial, session, now⟩]
        lastVersionId := id })

/-- Begins a chain with its snapshot. -/
def insertFirst (s : Store) (source : Source) (session : String) (lastSerial now : Int) :
    Except EngineError (VersionInfo × Store) :=
  s.insertVersion source 1 .snapshot lastSerial session now

/-- Continues a chain after a version with a delta. -/
def insertNext (s : Store) (previous : VersionInfo) (lastSerial now : Int) :
    Except EngineError (VersionInfo × Store) :=
  if lastSerial < previous.lastSerial then
    .error (.internal
      (.serialBehind lastSerial previous.version previous.source previous.lastSerial))
  else
    s.insertVersion previous.source (previous.version + 1) .delta lastSerial previous.session now

end Store

end RegistryFeed
