import RegistryFeed.Change.Operation
import RegistryFeed.Publication.Kind
import RegistryFeed.Request.Fault
import RegistryFeed.Source

/-! # Errors

Failures of the engine, by where they arise. A failure carries its cause; the kind is the label it
is counted under, and a retryable failure is one that the next scheduled run may not meet again. -/
namespace RegistryFeed

/-- A constraint of the database, in the words in which the database reports it. -/
inductive Constraint
  | serialTaken
  | versionTaken
  | fileOfVersionTaken
  | fileNameTaken
  | versionMissing
deriving DecidableEq, Repr

def Constraint.text : Constraint → String
  | .serialTaken => "(code: 1555) UNIQUE constraint failed: serials.source, serials.serial_id"
  | .versionTaken =>
    "(code: 2067) UNIQUE constraint failed: version_info.source, version_info.version"
  | .fileOfVersionTaken => "(code: 1555) UNIQUE constraint failed: published_file.version_id"
  | .fileNameTaken => "(code: 2067) UNIQUE constraint failed: published_file.name"
  | .versionMissing => "(code: 787) FOREIGN KEY constraint failed"

/-- Why a database cannot be opened, or cannot be made once it is open. -/
inductive OpeningFault
  | noFileSystem (name : String)
  | noCacheMode (name : String)
  | noAccessMode (name : String)
  | accessNotAllowed (name : String)
  | foreignHost (name : String)
  | readOnly
  | noRoom
  | cannotOpen
  | notDatabase
  | unreadable
  | notFlushed
  | noModel
deriving DecidableEq, Repr

def OpeningFault.text : OpeningFault → String
  | .noFileSystem name => "(code: 1) no such vfs: " ++ name
  | .noCacheMode name => "(code: 1) no such cache mode: " ++ name
  | .noAccessMode name => "(code: 1) no such access mode: " ++ name
  | .accessNotAllowed name => "(code: 3) access mode not allowed: " ++ name
  | .foreignHost name => "(code: 1) invalid uri authority: " ++ name
  | .readOnly => "(code: 8) attempt to write a readonly database"
  | .noRoom => "(code: 13) database or disk is full"
  | .cannotOpen => "(code: 14) unable to open database file"
  | .notDatabase => "(code: 26) file is not a database"
  | .unreadable => "(code: 266) disk I/O error"
  | .notFlushed => "(code: 1034) disk I/O error"
  | .noModel => "(code: 1802) disk I/O error"

inductive StoreFault
  | noRow
  | violated (constraint : Constraint)
  | opening (cause : OpeningFault)
  | nulInName
deriving DecidableEq, Repr

def StoreFault.message : StoreFault → String
  | .noRow => "no rows returned by a query that expected to return at least one row"
  | .violated c => "error returned from database: " ++ c.text
  | .opening cause => "error returned from database: " ++ cause.text
  | .nulInName =>
    "error communicating with database: filename passed to SQLite must not contain nul bytes"

/-- Why the location of a store cannot be understood. -/
inductive LocationFault
  | badValue (parameter value : String)
  | unknownParameter (name : String)
  | notUtf8 (length : Option Nat) (index : Nat)
deriving DecidableEq, Repr

/-- The first ill-formed place of a byte text; without a length the text ends inside a character. -/
def notUtf8Message (length : Option Nat) (index : Nat) : String :=
  match length with
  | some n =>
    "invalid utf-8 sequence of " ++ Text.decimalNat n ++ " bytes from index " ++
      Text.decimalNat index
  | none => "incomplete utf-8 byte sequence from index " ++ Text.decimalNat index

def LocationFault.message : LocationFault → String
  | .badValue parameter value =>
    "error with configuration: unknown value " ++ Text.quoted value ++ " for `" ++ parameter ++ "`"
  | .unknownParameter name =>
    "error with configuration: unknown query parameter `" ++ name ++
      "` while parsing connection URL"
  | .notUtf8 length index => "error with configuration: " ++ notUtf8Message length index

inductive ConfigFault
  | emptySourceName
  | equalSourceNames
  | noSessions
  | emptyBatch
  | bindAddress
  | location (cause : LocationFault)
  | other (text : String)
deriving DecidableEq, Repr

def ConfigFault.message : ConfigFault → String
  | .emptySourceName => "sources.name must not be empty"
  | .equalSourceNames => "sources.non_auth_name must differ from sources.name"
  | .noSessions => "nrtm3.max_sessions must be at least 1"
  | .emptyBatch => "nrtm3.batch_size must be at least 1"
  | .bindAddress => "Invalid NRTM3 bind address: invalid socket address syntax"
  | .location cause => "Invalid SQLite path: " ++ cause.message
  | .other text => text

/-- Why a connection, or the wait for connections, fails. -/
inductive ConnectionFault
  | brokenPipe
  | noDevice
  | invalidArgument
  | addressNotAvailable
  | notUtf8 (length : Option Nat) (index : Nat)
  | other (text : String)
deriving DecidableEq, Repr

def ConnectionFault.message : ConnectionFault → String
  | .brokenPipe => "broken pipe"
  | .noDevice => "No such device (os error 19)"
  | .invalidArgument => "Invalid argument (os error 22)"
  | .addressNotAvailable => "Cannot assign requested address (os error 99)"
  | .notUtf8 length index => notUtf8Message length index
  | .other text => text

/-- A broken invariant of stored data. -/
inductive InternalFault
  | corruptOperation (serial : Int) (cause : UnknownOperation)
  | corruptVersionRow (id : Int) (cause : UnknownKind)
  | corruptVersion (version : Int) (cause : UnknownKind)
  | serialBehind (serial version : Int) (source : Source) (lastSerial : Int)
  | noSnapshotFile (session : String) (source : Source)
  | other (text : String)
deriving DecidableEq, Repr

def InternalFault.message : InternalFault → String
  | .corruptOperation serial cause =>
    "serial " ++ Text.decimal serial ++ " has corrupt operation: " ++ cause.message
  | .corruptVersionRow id cause =>
    "version row " ++ Text.decimal id ++ " is corrupt: " ++ cause.message
  | .corruptVersion version cause =>
    "version " ++ Text.decimal version ++ " is corrupt: " ++ cause.message
  | .serialBehind serial version source lastSerial =>
    "last serial " ++ Text.decimal serial ++ " is behind version " ++ Text.decimal version ++
      " of " ++ source.name ++ " (last serial " ++ Text.decimal lastSerial ++ ")"
  | .noSnapshotFile session source =>
    "session " ++ session ++ " of " ++ source.name ++ " has no snapshot file"
  | .other text => text

inductive EngineError
  | store (cause : StoreFault)
  | query (cause : Request.Fault)
  | noSnapshot (source : String)
  | snapshotExists (source : String) (version : Int)
  | lockContended (name : String)
  | serialization (text : String)
  | io (cause : ConnectionFault)
  | config (cause : ConfigFault)
  | invalidState (expected actual : String)
  | shutdown
  | internal (cause : InternalFault)
deriving DecidableEq, Repr

def EngineError.kind : EngineError → String
  | .store _ => "store"
  | .query _ => "query"
  | .noSnapshot _ => "no_snapshot"
  | .snapshotExists _ _ => "snapshot_exists"
  | .lockContended _ => "lock_contended"
  | .serialization _ => "serialization"
  | .io _ => "io"
  | .config _ => "config"
  | .invalidState _ _ => "invalid_state"
  | .shutdown => "shutdown"
  | .internal _ => "internal"

def EngineError.message : EngineError → String
  | .store cause => "Store error: " ++ cause.message
  | .query cause => "Query error: " ++ cause.message
  | .noSnapshot source => "Cannot create a delta for " ++ source ++ " without an initial snapshot"
  | .snapshotExists source version =>
    "Version chain for " ++ source ++ " already exists (version " ++ Text.decimal version ++ ")"
  | .lockContended name => "Lock " ++ name ++ " is held by another generator"
  | .serialization text => "Serialization error: " ++ text
  | .io cause => "I/O error: " ++ cause.message
  | .config cause => "Configuration error: " ++ cause.message
  | .invalidState expected actual =>
    "Invalid state: expected " ++ expected ++ ", got " ++ actual
  | .shutdown => "Shutdown in progress"
  | .internal cause => "Internal error: " ++ cause.message

/-- Only a lost connection and a held lock are worth another try. -/
def EngineError.isRetryable : EngineError → Bool
  | .lockContended _ | .io _ => true
  | _ => false

/-- A value that the engine cannot work with at all: it stops at once instead of answering. -/
inductive Fatal
  | negativeDelay
  | spanOverflow
  | tooManySlots
deriving DecidableEq, Repr

def Fatal.message : Fatal → String
  | .negativeDelay => "cannot convert float seconds to Duration: value is negative"
  | .spanOverflow => "overflow in Duration::new"
  | .tooManySlots => "a semaphore may not have more than MAX_PERMITS permits (2305843009213693951)"

/-- What is done in two parts succeeds if both do. -/
theorem bind_eq_ok_iff {ε α β : Type} {x : Except ε α} {f : α → Except ε β} {b : β} :
    x >>= f = .ok b ↔ ∃ a, x = .ok a ∧ f a = .ok b := by
  cases x with
  | error e => simp [bind, Except.bind]
  | ok a => simp [bind, Except.bind]

theorem bind_eq_error_iff {ε α β : Type} {x : Except ε α} {f : α → Except ε β} {e : ε} :
    x >>= f = .error e ↔ x = .error e ∨ ∃ a, x = .ok a ∧ f a = .error e := by
  cases x <;> simp [bind, Except.bind]

end RegistryFeed
