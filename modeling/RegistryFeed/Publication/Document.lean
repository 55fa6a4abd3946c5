import RegistryFeed.Digest.Sha256
import RegistryFeed.Publication.Record
import RegistryFeed.Publication.Version

/-! # Published documents

A document states its version and lists what it publishes. Its file is the document as JSON text,
under the name of its version and with the digest of that very text. -/
namespace RegistryFeed

open Json

/-- The version of the publication format. -/
def nrtmVersion : Int := 4

/-- What a document lists. -/
inductive DocumentBody
  | changes (cs : List DeltaChange)
  | objects (os : List SnapshotObject)
deriving DecidableEq, Repr

def DocumentBody.toMember : DocumentBody → String × Value
  | .changes cs => ("changes", .list (cs.map (·.toValue)))
  | .objects os => ("objects", .list (os.map (·.toValue)))

structure Document where
  info : VersionInfo
  body : DocumentBody
deriving DecidableEq, Repr

namespace Document

def toValue (d : Document) : Value :=
  .object [("nrtm_version", .number nrtmVersion), ("type", .string d.info.kind.text),
    ("source", .string d.info.source.name), ("version", .number d.info.version),
    ("last_serial_id", .number d.info.lastSerial), ("session_id", .string d.info.session),
    ("created_at", .number d.info.createdAt), d.body.toMember]

def text (d : Document) : String := d.toValue.text

def fileName (d : Document) : String := d.info.fileName

def hash (d : Document) : String := Sha256.hex d.text

end Document

/-- A document as a generator hands it out. The name and the digest of its file are set once the
file is stored. -/
structure Artifact extends Document where
  savedName : Option String
  savedHash : Option String
deriving DecidableEq, Repr

namespace Artifact

def new (info : VersionInfo) (body : DocumentBody) : Artifact := ⟨⟨info, body⟩, none, none⟩

def stored (a : Artifact) (name hash : String) : Artifact :=
  { a with savedName := some name, savedHash := some hash }

end Artifact

end RegistryFeed
