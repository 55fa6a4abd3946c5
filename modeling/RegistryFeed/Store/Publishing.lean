import RegistryFeed.Publication.Document
import RegistryFeed.Store.ChangeLog
import RegistryFeed.Store.Files

/-! # Publishing a document

A version and its file are written in one transaction. The document is made from the version as it
was inserted, so it carries the row's own number and time. -/
namespace RegistryFeed.Store

/-- Saves the document of a version that was just inserted. -/
def saveDocument (inserted : VersionInfo × Store) (body : DocumentBody) :
    Except EngineError (Artifact × Store) := do
  let a := Artifact.new inserted.1 body
  let payload := a.text
  let name := a.info.fileName
  let hash := Sha256.hex payload
  let s ← inserted.2.saveFile ⟨a.info.id, name, hash, payload⟩
  return (a.stored name hash, s)

/-- Publishes the first version of a source. -/
def publishSnapshot (s : Store) (source : Source) (session : String) (lastSerial : Int)
    (objects : List SnapshotObject) (now : Int) : Except EngineError (Artifact × Store) := do
  saveDocument (← s.insertFirst source session lastSerial now) (.objects objects)

/-- Publishes the version after a given one. -/
def publishDelta (s : Store) (previous : VersionInfo) (lastSerial : Int)
    (changes : List DeltaChange) (now : Int) : Except EngineError (Artifact × Store) := do
  saveDocument (← s.insertNext previous lastSerial now) (.changes changes)

/-- The store as the log that a session reads. -/
def reply (s : Store) : Reading → Reply
  | .range source => .range (.ok (s.range source))
  | .page source after max => .page (s.page source after max)
  | .latest source => .latest (s.findLast source)

def source : LogSource Store := ⟨fun s q => (s.reply q, s), fun s => s.serials.length⟩

end RegistryFeed.Store
