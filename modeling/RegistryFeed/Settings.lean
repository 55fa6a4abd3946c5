import RegistryFeed.Json.Record
import RegistryFeed.Json.Value
import RegistryFeed.Publication.Filter
import RegistryFeed.Retry
import RegistryFeed.Slots
import RegistryFeed.Source
import RegistryFeed.Text.Blank
import RegistryFeed.Time.SpanText

/-! # Settings

What an operator chooses: the sources, the store, the streaming server and the publication. Every
section has one record of defaults, and reading starts from it, so a member that is left out has
its default and changes no other. Settings are written in full. -/
namespace RegistryFeed

open Json

structure SourceSettings where
  name : String
  nonAuthName : Option String
deriving DecidableEq, Repr

structure StoreSettings where
  path : String
  writeAhead : Bool
  maxConnections : Nat
deriving DecidableEq, Repr

/-- Settings of the streaming server; its spans are texts. -/
structure StreamSettings where
  enabled : Bool
  bindAddress : String
  maxSessions : Nat
  idleTimeout : String
  pollInterval : String
  batchSize : Nat
deriving DecidableEq, Repr

structure LockSettings where
  leaseSeconds : Nat
  waitTimeout : String
deriving DecidableEq, Repr

structure PublicationSettings where
  enabled : Bool
  intervalSeconds : Nat
  excludedTypes : List String
  bootstrapSnapshot : Bool
  lock : LockSettings
deriving DecidableEq, Repr

structure Settings where
  sources : SourceSettings
  store : StoreSettings
  streaming : StreamSettings
  publication : PublicationSettings
deriving DecidableEq, Repr

/-! ## Defaults -/

def SourceSettings.default : SourceSettings := ⟨"TEST", none⟩

def StoreSettings.default : StoreSettings := ⟨"nrtm.db", true, 8⟩

/-- A store in memory lives in one connection. -/
def StoreSettings.inMemory : StoreSettings := ⟨":memory:", false, 1⟩

def StoreSettings.atPath (path : String) : StoreSettings :=
  { StoreSettings.default with path := path }

def StoreSettings.isInMemory (s : StoreSettings) : Bool := s.path == ":memory:"

def StreamSettings.default : StreamSettings :=
  ⟨true, "0.0.0.0:4444", Slots.sessionCapacity, "30s", "1s", 500⟩

def LockSettings.default : LockSettings := ⟨300, "30s"⟩

def PublicationSettings.default : PublicationSettings :=
  ⟨true, 60, PublicationFilter.defaultExcluded, false, .default⟩

def Settings.default : Settings := ⟨.default, .default, .default, .default⟩

/-- A store in memory, any free address of this host, and short intervals. -/
def Settings.small (source : String) : Settings :=
  ⟨⟨source, none⟩, .inMemory,
    { StreamSettings.default with bindAddress := "127.0.0.1:0", pollInterval := "50ms" },
    { PublicationSettings.default with intervalSeconds := 1 }⟩

/-! ## Writing -/

def SourceSettings.toValue (s : SourceSettings) : Value :=
  .object [("name", .string s.name), ("non_auth_name", .ofText? s.nonAuthName)]

def StoreSettings.toValue (s : StoreSettings) : Value :=
  .object [("sqlite_path", .string s.path), ("wal_mode", .bool s.writeAhead),
    ("max_connections", .number s.maxConnections)]

def StreamSettings.toValue (s : StreamSettings) : Value :=
  .object [("enabled", .bool s.enabled), ("bind_addr", .string s.bindAddress),
    ("max_sessions", .number s.maxSessions), ("idle_timeout", .string s.idleTimeout),
    ("keepalive_poll_interval", .string s.pollInterval), ("batch_size", .number s.batchSize)]

def LockSettings.toValue (s : LockSettings) : Value :=
  .object [("ttl_sec", .number s.leaseSeconds), ("wait_timeout", .string s.waitTimeout)]

def PublicationSettings.toValue (s : PublicationSettings) : Value :=
  .object [("enabled", .bool s.enabled), ("interval_sec", .number s.intervalSeconds),
    ("excluded_object_types", .list (s.excludedTypes.map .string)),
    ("bootstrap_snapshot", .bool s.bootstrapSnapshot), ("lock", s.lock.toValue)]

def Settings.toValue (s : Settings) : Value :=
  .object [("sources", s.sources.toValue), ("store", s.store.toValue),
    ("nrtm3", s.streaming.toValue), ("nrtm4", s.publication.toValue)]

/-! ## Reading

A record is read into what its members are if they are left out. Those that are required cannot be,
so nothing is left of what stands here for them. -/

def SourceSettings.unwritten : SourceSettings := ⟨"", none⟩

def StoreSettings.unwritten : StoreSettings := ⟨"", true, 8⟩

def StreamSettings.unwritten : StreamSettings := ⟨true, "0.0.0.0:4444", 64, "30s", "1s", 500⟩

def LockSettings.unwritten : LockSettings := ⟨300, "30s"⟩

def PublicationSettings.unwritten : PublicationSettings :=
  ⟨true, 60, PublicationFilter.defaultExcluded, false, .default⟩

def Settings.unwritten : Settings := ⟨.default, .default, .default, .default⟩

def SourceSettings.members : List (Member SourceSettings) :=
  [.ofReader "name" true readString fun x s => { s with name := x },
    .ofReader "non_auth_name" false readString? fun x s => { s with nonAuthName := x }]

def StoreSettings.members : List (Member StoreSettings) :=
  [.ofReader "sqlite_path" true readString fun x s => { s with path := x },
    .ofReader "wal_mode" false readBool fun x s => { s with writeAhead := x },
    .ofReader "max_connections" false (readNat Text.maxNat32) fun x s =>
      { s with maxConnections := x }]

def StreamSettings.members : List (Member StreamSettings) :=
  [.ofReader "enabled" false readBool fun x s => { s with enabled := x },
    .ofReader "bind_addr" false readString fun x s => { s with bindAddress := x },
    .ofReader "max_sessions" false (readNat Text.maxNat64) fun x s => { s with maxSessions := x },
    .ofReader "idle_timeout" false readString fun x s => { s with idleTimeout := x },
    .ofReader "keepalive_poll_interval" false readString fun x s => { s with pollInterval := x },
    .ofReader "batch_size" false (readNat Text.maxNat64) fun x s => { s with batchSize := x }]

def LockSettings.members : List (Member LockSettings) :=
  [.ofReader "ttl_sec" false (readNat Text.maxNat64) fun x s => { s with leaseSeconds := x },
    .ofReader "wait_timeout" false readString fun x s => { s with waitTimeout := x }]

def PublicationSettings.members : List (Member PublicationSettings) :=
  [.ofReader "enabled" false readBool fun x s => { s with enabled := x },
    .ofReader "interval_sec" false (readNat Text.maxNat64) fun x s =>
      { s with intervalSeconds := x },
    .ofReader "excluded_object_types" false (readList readString) fun x s =>
      { s with excludedTypes := x },
    .ofReader "bootstrap_snapshot" false readBool fun x s => { s with bootstrapSnapshot := x },
    .ofReader "lock" false (readRecord LockSettings.members .unwritten) fun x s =>
      { s with lock := x }]

def Settings.members : List (Member Settings) :=
  [.ofReader "sources" false (readRecord SourceSettings.members .unwritten) fun x s =>
      { s with sources := x },
    .ofReader "store" false (readRecord StoreSettings.members .unwritten) fun x s =>
      { s with store := x },
    .ofReader "nrtm3" false (readRecord StreamSettings.members .unwritten) fun x s =>
      { s with streaming := x },
    .ofReader "nrtm4" false (readRecord PublicationSettings.members .unwritten) fun x s =>
      { s with publication := x }]

def Settings.read : Reader Settings := readRecord members .unwritten

/-! ## Meaning -/

def SourceSettings.context (s : SourceSettings) : SourceContext :=
  ⟨⟨s.name⟩, s.nonAuthName.map Source.mk⟩

/-- Every source, the authoritative one first. -/
def SourceSettings.all (s : SourceSettings) : List Source := s.context.servable

/-- The first reason for which the engine cannot run with the settings. -/
def Settings.validate (s : Settings) : Except ConfigFault Unit :=
  if (Text.trim s.sources.name.toList).isEmpty then .error .emptySourceName
  else if (s.sources.nonAuthName.map (Text.sameWord · s.sources.name)).getD false then
    .error .equalSourceNames
  else if s.streaming.maxSessions = 0 then .error .noSessions
  else if s.streaming.batchSize = 0 then .error .emptyBatch
  else .ok ()

/-- Valid settings give the two sources different names. -/
theorem Settings.differ_of_valid {s : Settings} (valid : s.validate = .ok ()) {name : String}
    (other : s.sources.nonAuthName = some name) : ¬ Text.sameWord name s.sources.name := by
  intro equal
  simp only [validate, other, Option.map_some, Option.getD_some, equal, if_true] at valid
  split at valid <;> cases valid

def StreamSettings.idleSpan (s : StreamSettings) : Except Fatal Span :=
  SpanText.readOr (.ofSeconds 30) s.idleTimeout

def StreamSettings.pollSpan (s : StreamSettings) : Except Fatal Span :=
  SpanText.readOr (.ofSeconds 1) s.pollInterval

def LockSettings.lease (s : LockSettings) : Span := .ofSeconds s.leaseSeconds

def LockSettings.waitSpan (s : LockSettings) : Except Fatal Span :=
  SpanText.readOr (.ofSeconds 30) s.waitTimeout

/-- Publication runs at most once a second. -/
def PublicationSettings.interval (s : PublicationSettings) : Span :=
  .ofSeconds (max s.intervalSeconds 1)

def PublicationSettings.filter (s : PublicationSettings) : PublicationFilter :=
  .ofTypes s.excludedTypes

/-- How a session of the streaming server behaves. -/
structure SessionSettings where
  idle : Span
  poll : Span
  batch : Nat
deriving DecidableEq, Repr

def SessionSettings.default : SessionSettings := ⟨.ofSeconds 30, .ofSeconds 1, 500⟩

def StreamSettings.session (s : StreamSettings) : Except Fatal SessionSettings := do
  let idle ← s.idleSpan
  let poll ← s.pollSpan
  return ⟨idle, poll, max s.batchSize 1⟩

/-- How a generator waits for and holds the lock of its source. -/
structure GenerationSettings where
  lease : Span
  wait : Span
  retry : RetryPolicy
deriving DecidableEq, Repr

def GenerationSettings.default : GenerationSettings :=
  ⟨.ofSeconds 300, .ofSeconds 30, .lockWait⟩

def PublicationSettings.generation (s : PublicationSettings) :
    Except Fatal GenerationSettings := do
  let wait ← s.lock.waitSpan
  return ⟨s.lock.lease, wait, .lockWait⟩

end RegistryFeed
