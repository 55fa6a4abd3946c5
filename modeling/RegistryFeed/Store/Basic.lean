import RegistryFeed.Change.Reading

/-! # The store

Four tables: the serials of all sources, the versions of their chains, the published files, and the
leases of the generation locks. Rows hold operations and kinds as text, which only becomes a word of
this library when it is read, so a row can be corrupt. The store is a value; a transaction is a
function that gives the next store or fails, and a failure leaves nothing behind. -/
namespace RegistryFeed

structure SerialRow where
  source : Source
  serial : Int
  operation : String
  objectType : String
  primaryKey : String
  payload : Option String
  committedAt : Int
deriving DecidableEq, Repr

structure VersionRow where
  id : Int
  source : Source
  version : Int
  kind : String
  lastSerial : Int
  session : String
  createdAt : Int
deriving DecidableEq, Repr

structure FileRow where
  versionId : Int
  name : String
  hash : String
  payload : String
deriving DecidableEq, Repr

/-- A lock held under an owner's name until a time, in milliseconds since the epoch. -/
structure Lease where
  name : String
  owner : String
  expiresAt : Int
deriving DecidableEq, Repr

/-- The rows of each source are in ascending order of serials, versions in the order in which they
were inserted, and no name has two leases. The greatest row number given to a version is kept. -/
structure Store where
  serials : List SerialRow
  versions : List VersionRow
  files : List FileRow
  leases : List Lease
  lastVersionId : Int
deriving DecidableEq, Repr

def Store.empty : Store := ⟨[], [], [], [], 0⟩

end RegistryFeed
