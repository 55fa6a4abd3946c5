import RegistryFeed.Settings

/-! # Settings with omissions

What an operator writes: the same sections and members as in full settings, of which all but two may
be left out. A section that is there has its required member; what is left out is completed from
the defaults, each member by itself. -/
namespace RegistryFeed

open Json

/-- The sources section. The other name may be left out or written as none, which differ. -/
structure PartialSources where
  name : String
  nonAuthName : Option (Option String)
deriving DecidableEq, Repr

/-- The store section, which cannot do without its path. -/
structure PartialStore where
  path : String
  writeAhead : Option Bool
  maxConnections : Option Nat
deriving DecidableEq, Repr

structure PartialStream where
  enabled : Option Bool
  bindAddress : Option String
  maxSessions : Option Nat
  idleTimeout : Option String
  pollInterval : Option String
  batchSize : Option Nat
deriving DecidableEq, Repr

structure PartialLock where
  leaseSeconds : Option Nat
  waitTimeout : Option String
deriving DecidableEq, Repr

/-- The publication section, with a section of its own for the lock. -/
structure PartialPublication where
  enabled : Option Bool
  intervalSeconds : Option Nat
  excludedTypes : Option (List String)
  bootstrapSnapshot : Option Bool
  lock : Option PartialLock
deriving DecidableEq, Repr

/-- Settings of which any section may be left out. -/
structure PartialSettings where
  sources : Option PartialSources
  store : Option PartialStore
  streaming : Option PartialStream
  publication : Option PartialPublication
deriving DecidableEq, Repr

/-! ## Completing -/

/-- The name is not completed: it is there where the section is. -/
def PartialSources.complete (p : PartialSources) : SourceSettings :=
  ⟨p.name, p.nonAuthName.getD SourceSettings.default.nonAuthName⟩

def PartialStore.complete (p : PartialStore) : StoreSettings :=
  ⟨p.path, p.writeAhead.getD StoreSettings.default.writeAhead,
    p.maxConnections.getD StoreSettings.default.maxConnections⟩

def PartialStream.complete (p : PartialStream) : StreamSettings :=
  let d := StreamSettings.default
  ⟨p.enabled.getD d.enabled, p.bindAddress.getD d.bindAddress, p.maxSessions.getD d.maxSessions,
    p.idleTimeout.getD d.idleTimeout, p.pollInterval.getD d.pollInterval,
    p.batchSize.getD d.batchSize⟩

def PartialLock.complete (p : PartialLock) : LockSettings :=
  ⟨p.leaseSeconds.getD LockSettings.default.leaseSeconds,
    p.waitTimeout.getD LockSettings.default.waitTimeout⟩

/-- A lock section that is there is completed member by member, and one that is not as a whole. -/
def PartialPublication.complete (p : PartialPublication) : PublicationSettings :=
  let d := PublicationSettings.default
  ⟨p.enabled.getD d.enabled, p.intervalSeconds.getD d.intervalSeconds,
    p.excludedTypes.getD d.excludedTypes, p.bootstrapSnapshot.getD d.bootstrapSnapshot,
    (p.lock.map (·.complete)).getD d.lock⟩

/-- What the settings mean, once all that is left out has been completed. -/
def PartialSettings.complete (p : PartialSettings) : Settings :=
  ⟨(p.sources.map (·.complete)).getD .default, (p.store.map (·.complete)).getD .default,
    (p.streaming.map (·.complete)).getD .default,
    (p.publication.map (·.complete)).getD .default⟩

/-! ## Writing -/

/-- A member, if there is a value for it. -/
def memberOf? (name : String) (value : Option Value) : List (String × Value) :=
  (value.map fun v => (name, v)).toList

/-- A name that is written as none is there as a null. -/
def PartialSources.toValue (p : PartialSources) : Value :=
  .object (("name", .string p.name) :: memberOf? "non_auth_name" (p.nonAuthName.map .ofText?))

def PartialStore.toValue (p : PartialStore) : Value :=
  .object (("sqlite_path", .string p.path) :: memberOf? "wal_mode" (p.writeAhead.map .bool) ++
    memberOf? "max_connections" (p.maxConnections.map fun n : Nat => .number n))

def PartialStream.toValue (p : PartialStream) : Value :=
  .object (memberOf? "enabled" (p.enabled.map .bool) ++
    memberOf? "bind_addr" (p.bindAddress.map .string) ++
    memberOf? "max_sessions" (p.maxSessions.map fun n : Nat => .number n) ++
    memberOf? "idle_timeout" (p.idleTimeout.map .string) ++
    memberOf? "keepalive_poll_interval" (p.pollInterval.map .string) ++
    memberOf? "batch_size" (p.batchSize.map fun n : Nat => .number n))

def PartialLock.toValue (p : PartialLock) : Value :=
  .object (memberOf? "ttl_sec" (p.leaseSeconds.map fun n : Nat => .number n) ++
    memberOf? "wait_timeout" (p.waitTimeout.map .string))

def PartialPublication.toValue (p : PartialPublication) : Value :=
  .object (memberOf? "enabled" (p.enabled.map .bool) ++
    memberOf? "interval_sec" (p.intervalSeconds.map fun n : Nat => .number n) ++
    memberOf? "excluded_object_types" (p.excludedTypes.map fun ts => .list (ts.map .string)) ++
    memberOf? "bootstrap_snapshot" (p.bootstrapSnapshot.map .bool) ++
    memberOf? "lock" (p.lock.map (·.toValue)))

/-- The sections stand under the names that operators know. -/
def PartialSettings.toValue (p : PartialSettings) : Value :=
  .object (memberOf? "sources" (p.sources.map (·.toValue)) ++
    memberOf? "store" (p.store.map (·.toValue)) ++
    memberOf? "nrtm3" (p.streaming.map (·.toValue)) ++
    memberOf? "nrtm4" (p.publication.map (·.toValue)))

end RegistryFeed
