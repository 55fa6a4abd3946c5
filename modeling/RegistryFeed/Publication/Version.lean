import RegistryFeed.Json.Record
import RegistryFeed.Json.Value
import RegistryFeed.Publication.Kind
import RegistryFeed.Source

/-! # Versions

A source publishes a chain of versions: the snapshot is version 1, and every delta is the version
after the one before it. All versions of a chain carry the identifier of the session that the
snapshot began. A version is never changed. -/
namespace RegistryFeed

/-- The last serial is the highest one folded into the chain up to this version; the time is in
milliseconds since the epoch. -/
structure VersionInfo where
  id : Int
  source : Source
  version : Int
  kind : DocumentKind
  lastSerial : Int
  session : String
  createdAt : Int
deriving DecidableEq, Repr

namespace VersionInfo

/-- The first eight ASCII letters and digits of a session identifier. -/
def sessionPrefix (session : String) : List Char :=
  (session.toList.filter fun c => Text.isAsciiLetter c || Text.isAsciiDigit c).take 8

/-- The name under which a version is published. -/
def fileName (v : VersionInfo) : String :=
  "nrtm-" ++ v.kind.text ++ "." ++ Text.decimal v.version ++ "." ++ v.source.name ++ "." ++
    String.ofList (sessionPrefix v.session) ++ ".json"

open Json in
def toValue (v : VersionInfo) : Value :=
  .object [("id", .number v.id), ("source", .string v.source.name), ("version", .number v.version),
    ("kind", .string v.kind.text), ("last_serial_id", .number v.lastSerial),
    ("session_id", .string v.session), ("created_at", .number v.createdAt)]

end VersionInfo

open Json

def readKind : Reader DocumentKind := readWord fun s => (DocumentKind.ofText s).toOption

def readSource : Reader Source := fun cs => do
  let (s, rest) ← readString cs
  return (⟨s⟩, rest)

def readInt64 : Reader Int := readInt Text.minInt64 Text.maxInt64

def VersionInfo.members : List (Member VersionInfo) :=
  [.ofReader "id" true readInt64 fun x v => { v with id := x },
    .ofReader "source" true readSource fun x v => { v with source := x },
    .ofReader "version" true readInt64 fun x v => { v with version := x },
    .ofReader "kind" true readKind fun x v => { v with kind := x },
    .ofReader "last_serial_id" true readInt64 fun x v => { v with lastSerial := x },
    .ofReader "session_id" true readString fun x v => { v with session := x },
    .ofReader "created_at" true readInt64 fun x v => { v with createdAt := x }]

/-- Every member is required, so nothing of the record it starts from is left. -/
def VersionInfo.read : Reader VersionInfo :=
  readRecord members ⟨0, ⟨""⟩, 0, .snapshot, 0, "", 0⟩

end RegistryFeed
