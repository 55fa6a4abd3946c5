import RegistryFeed.Publication.Document
import RegistryFeed.Store.Files

/-! # The update notification

What a follower fetches first: the latest version of the current session of a source, and names and
hashes of its snapshot and of all its deltas. It is made of two reads of the store, and other
generators may commit between them. -/
namespace RegistryFeed

structure NotificationEntry where
  version : Int
  fileName : String
  hash : String
deriving DecidableEq, Repr

structure Notification where
  source : Source
  session : String
  version : Int
  snapshot : NotificationEntry
  deltas : List NotificationEntry
deriving DecidableEq, Repr

namespace Notification

open Json

def entryOf (f : FileReference) : NotificationEntry := ⟨f.version, f.fileName, f.hash⟩

/-- The notification for a latest version and the files of its session; of several snapshots the
last one counts. -/
def ofFiles (source : Source) (latest : VersionInfo) (files : List FileReference) :
    Except EngineError Notification :=
  match (files.filter fun f => f.kind = .snapshot).getLast? with
  | some snapshot =>
    .ok ⟨source, latest.session, latest.version, entryOf snapshot,
      (files.filter fun f => f.kind = .delta).map entryOf⟩
  | none => .error (.internal (.noSnapshotFile latest.session source))

/-- The latest version is read from `before` and the files from `after`. -/
def buildBetween (before after : Store) (source : Source) :
    Except EngineError (Option Notification) := do
  match ← before.findLast source with
  | none => return none
  | some latest =>
    let files ← after.listReferences source latest.session
    return some (← ofFiles source latest files)

def build (s : Store) (source : Source) : Except EngineError (Option Notification) :=
  buildBetween s s source

def entryValue (e : NotificationEntry) : Value :=
  .object [("version", .number e.version), ("file_name", .string e.fileName),
    ("hash", .string e.hash)]

def toValue (n : Notification) : Value :=
  .object [("nrtm_version", .number nrtmVersion), ("source", .string n.source.name),
    ("session_id", .string n.session), ("version", .number n.version),
    ("snapshot", entryValue n.snapshot), ("deltas", .list (n.deltas.map entryValue))]

end Notification

end RegistryFeed
