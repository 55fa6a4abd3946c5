import RegistryFeed.Settings.Partial

/-! # Members taken out of settings

Settings are written in full; an operator may take members out of the text again, at any level, and
with a section goes everything in it. What is then left is written in two ways, as a value without
these members and as settings with omissions, and what it means is said field by field. -/
namespace RegistryFeed

open Json

/-- Which members are taken out, each by the keys on the way to it. -/
abbrev Removal := List String → Bool

/-- What is taken out of the section under a key. -/
def Removal.within (r : Removal) (key : String) : Removal := fun path => r (key :: path)

def Removal.keep {α : Type} (r : Removal) (key : String) (x : α) : Option α :=
  if r [key] then none else some x

/-- The member at the end of the path is taken out, or a section around it. -/
def Removal.takes (r : Removal) : List String → Bool
  | [] => false
  | key :: path => r [key] || (r.within key).takes path

/-- The default stands for what is taken out. -/
def Removal.restore {α : Type} (r : Removal) (path : List String) (value default : α) : α :=
  if r.takes path then default else value

/-! ## What is left -/

mutual

/-- The value without the members that are taken out of it. -/
def Json.Value.without (r : Removal) : Value → Value
  | .object ms => .object (Json.withoutMembers r ms)
  | v => v

def Json.withoutMembers (r : Removal) : List (String × Value) → List (String × Value)
  | [] => []
  | (k, v) :: ms =>
    (if r [k] then [] else [(k, Json.Value.without (r.within k) v)]) ++ Json.withoutMembers r ms

end

def SourceSettings.without (s : SourceSettings) (r : Removal) : PartialSources :=
  ⟨s.name, r.keep "non_auth_name" s.nonAuthName⟩

def StoreSettings.without (s : StoreSettings) (r : Removal) : PartialStore :=
  ⟨s.path, r.keep "wal_mode" s.writeAhead, r.keep "max_connections" s.maxConnections⟩

def StreamSettings.without (s : StreamSettings) (r : Removal) : PartialStream :=
  ⟨r.keep "enabled" s.enabled, r.keep "bind_addr" s.bindAddress,
    r.keep "max_sessions" s.maxSessions, r.keep "idle_timeout" s.idleTimeout,
    r.keep "keepalive_poll_interval" s.pollInterval, r.keep "batch_size" s.batchSize⟩

def LockSettings.without (s : LockSettings) (r : Removal) : PartialLock :=
  ⟨r.keep "ttl_sec" s.leaseSeconds, r.keep "wait_timeout" s.waitTimeout⟩

def PublicationSettings.without (s : PublicationSettings) (r : Removal) : PartialPublication :=
  ⟨r.keep "enabled" s.enabled, r.keep "interval_sec" s.intervalSeconds,
    r.keep "excluded_object_types" s.excludedTypes,
    r.keep "bootstrap_snapshot" s.bootstrapSnapshot,
    r.keep "lock" (s.lock.without (r.within "lock"))⟩

def Settings.without (s : Settings) (r : Removal) : PartialSettings :=
  ⟨r.keep "sources" (s.sources.without (r.within "sources")),
    r.keep "store" (s.store.without (r.within "store")),
    r.keep "nrtm3" (s.streaming.without (r.within "nrtm3")),
    r.keep "nrtm4" (s.publication.without (r.within "nrtm4"))⟩

/-- A section that stays keeps the member that it has to have. -/
structure Removal.LeavesRequired (r : Removal) : Prop where
  name : r ["sources"] = false → r ["sources", "name"] = false
  path : r ["store"] = false → r ["store", "sqlite_path"] = false

/-! ## What it means -/

/-- The settings with the default for each field that is taken out, by itself or with a section
around it. -/
def Settings.restored (s : Settings) (r : Removal) : Settings :=
  let d := Settings.default
  ⟨⟨r.restore ["sources", "name"] s.sources.name d.sources.name,
      r.restore ["sources", "non_auth_name"] s.sources.nonAuthName d.sources.nonAuthName⟩,
    ⟨r.restore ["store", "sqlite_path"] s.store.path d.store.path,
      r.restore ["store", "wal_mode"] s.store.writeAhead d.store.writeAhead,
      r.restore ["store", "max_connections"] s.store.maxConnections d.store.maxConnections⟩,
    ⟨r.restore ["nrtm3", "enabled"] s.streaming.enabled d.streaming.enabled,
      r.restore ["nrtm3", "bind_addr"] s.streaming.bindAddress d.streaming.bindAddress,
      r.restore ["nrtm3", "max_sessions"] s.streaming.maxSessions d.streaming.maxSessions,
      r.restore ["nrtm3", "idle_timeout"] s.streaming.idleTimeout d.streaming.idleTimeout,
      r.restore ["nrtm3", "keepalive_poll_interval"] s.streaming.pollInterval
        d.streaming.pollInterval,
      r.restore ["nrtm3", "batch_size"] s.streaming.batchSize d.streaming.batchSize⟩,
    ⟨r.restore ["nrtm4", "enabled"] s.publication.enabled d.publication.enabled,
      r.restore ["nrtm4", "interval_sec"] s.publication.intervalSeconds
        d.publication.intervalSeconds,
      r.restore ["nrtm4", "excluded_object_types"] s.publication.excludedTypes
        d.publication.excludedTypes,
      r.restore ["nrtm4", "bootstrap_snapshot"] s.publication.bootstrapSnapshot
        d.publication.bootstrapSnapshot,
      ⟨r.restore ["nrtm4", "lock", "ttl_sec"] s.publication.lock.leaseSeconds
          d.publication.lock.leaseSeconds,
        r.restore ["nrtm4", "lock", "wait_timeout"] s.publication.lock.waitTimeout
          d.publication.lock.waitTimeout⟩⟩⟩

/-! ## The two ways of writing -/

variable {r : Removal}

theorem memberOf?_keep {α : Type} (f : α → Value) (key : String) (x : α) :
    memberOf? key ((r.keep key x).map f) = if r [key] then [] else [(key, f x)] := by
  rw [memberOf?, Removal.keep]
  split <;> rfl

theorem without_ofText? (text : Option String) :
    (Value.ofText? text).without r = .ofText? text := by
  cases text <;> rfl

theorem SourceSettings.toValue_without (s : SourceSettings) (kept : r ["name"] = false) :
    (s.without r).toValue = s.toValue.without r := by
  simp [without, PartialSources.toValue, toValue, Value.without, withoutMembers, without_ofText?,
    memberOf?_keep, kept]

theorem StoreSettings.toValue_without (s : StoreSettings) (kept : r ["sqlite_path"] = false) :
    (s.without r).toValue = s.toValue.without r := by
  simp [without, PartialStore.toValue, toValue, Value.without, withoutMembers, memberOf?_keep, kept]

theorem StreamSettings.toValue_without (s : StreamSettings) :
    (s.without r).toValue = s.toValue.without r := by
  simp [without, PartialStream.toValue, toValue, Value.without, withoutMembers, memberOf?_keep]

theorem LockSettings.toValue_without (s : LockSettings) :
    (s.without r).toValue = s.toValue.without r := by
  simp [without, PartialLock.toValue, toValue, Value.without, withoutMembers, memberOf?_keep]

theorem PublicationSettings.toValue_without (s : PublicationSettings) :
    (s.without r).toValue = s.toValue.without r := by
  simp [without, PartialPublication.toValue, toValue, Value.without, withoutMembers,
    memberOf?_keep, LockSettings.toValue_without]

/-- What is left is written as the value without what is taken out. -/
theorem Settings.toValue_without (s : Settings) (required : r.LeavesRequired) :
    (s.without r).toValue = s.toValue.without r := by
  have sources (kept : ¬ r ["sources"]) :
      (s.sources.without (r.within "sources")).toValue =
        s.sources.toValue.without (r.within "sources") :=
    s.sources.toValue_without (required.name (Bool.eq_false_iff.mpr kept))
  have store (kept : ¬ r ["store"]) :
      (s.store.without (r.within "store")).toValue =
        s.store.toValue.without (r.within "store") :=
    s.store.toValue_without (required.path (Bool.eq_false_iff.mpr kept))
  simp +contextual [without, PartialSettings.toValue, toValue, Value.without, withoutMembers,
    memberOf?_keep, StreamSettings.toValue_without, PublicationSettings.toValue_without, sources,
    store]

/-! ## The two ways of completing -/

theorem Removal.getD_keep {α : Type} (key : String) (value default : α) :
    (r.keep key value).getD default = if r [key] then default else value := by
  rw [keep]
  split <;> rfl

theorem Removal.getD_map_keep {α β : Type} (f : α → β) (key : String) (x : α) (default : β) :
    ((r.keep key x).map f).getD default = if r [key] then default else f x := by
  rw [keep]
  split <;> rfl

theorem Removal.restore_cons {α : Type} (key : String) (path : List String) (value default : α) :
    r.restore (key :: path) value default =
      if r [key] then default else (r.within key).restore path value default := by
  simp only [restore, takes, Bool.or_eq_true]
  by_cases cut : r [key] <;> simp [cut]

theorem Removal.restore_nil {α : Type} (value default : α) : r.restore [] value default = value :=
  rfl

/-- What is left is completed to the settings with the default for what is taken out. -/
theorem Settings.complete_without (s : Settings) (required : r.LeavesRequired) :
    (s.without r).complete = s.restored r := by
  have name (kept : ¬ r ["sources"]) : r.within "sources" ["name"] = false :=
    required.name (Bool.eq_false_iff.mpr kept)
  have path (kept : ¬ r ["store"]) : r.within "store" ["sqlite_path"] = false :=
    required.path (Bool.eq_false_iff.mpr kept)
  simp only [PartialSettings.complete, without, restored, Removal.getD_map_keep,
    Removal.restore_cons, Removal.restore_nil]
  -- each section is either taken out, and its fields are those of the default, or it stays
  congr 1
  · split
    · rfl
    · next kept =>
      simp only [PartialSources.complete, SourceSettings.without, Removal.getD_keep, name kept]
      rfl
  · split
    · rfl
    · next kept =>
      simp only [PartialStore.complete, StoreSettings.without, Removal.getD_keep, path kept]
      rfl
  · split
    · rfl
    · simp only [PartialStream.complete, StreamSettings.without, Removal.getD_keep]
      rfl
  · split
    · rfl
    · simp only [PartialPublication.complete, PublicationSettings.without, PartialLock.complete,
        LockSettings.without, Removal.getD_keep, Removal.getD_map_keep]
      congr 1
      split <;> rfl

end RegistryFeed
