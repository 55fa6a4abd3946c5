import RegistryFeed.Proofs.Json.Records
import RegistryFeed.Settings.Removal

/-!
# Settings that were written

Settings are read back from their text, and so is a text with omissions: the members
that are there are read one by one into what the members are if they are left out,
and what that is for a whole section agrees with the section's own default. Texts
are arbitrary; the numbers are those of the types that hold them.
-/

namespace RegistryFeed

open Json

/-! ## Bounds

The numbers that are there are those of their types. -/

/-- Connections are counted in 32 bits. -/
structure PartialStore.Bounded (p : PartialStore) : Prop where
  maxConnections : ∀ n ∈ p.maxConnections, n ≤ Text.maxNat32

/-- Sessions and entries of a batch are counted in 64 bits. -/
structure PartialStream.Bounded (p : PartialStream) : Prop where
  maxSessions : ∀ n ∈ p.maxSessions, n ≤ Text.maxNat64
  batchSize : ∀ n ∈ p.batchSize, n ≤ Text.maxNat64

structure PartialLock.Bounded (p : PartialLock) : Prop where
  leaseSeconds : ∀ n ∈ p.leaseSeconds, n ≤ Text.maxNat64

structure PartialPublication.Bounded (p : PartialPublication) : Prop where
  intervalSeconds : ∀ n ∈ p.intervalSeconds, n ≤ Text.maxNat64
  lock : ∀ l ∈ p.lock, l.Bounded

/-- Every section that is there is bounded; the sources have no numbers. -/
structure PartialSettings.Bounded (p : PartialSettings) : Prop where
  store : ∀ s ∈ p.store, s.Bounded
  streaming : ∀ s ∈ p.streaming, s.Bounded
  publication : ∀ s ∈ p.publication, s.Bounded

/-- Each number is one of its type: of 32 bits for the connections, and of 64 bits elsewhere. -/
structure Settings.Bounded (s : Settings) : Prop where
  maxConnections : s.store.maxConnections ≤ Text.maxNat32
  maxSessions : s.streaming.maxSessions ≤ Text.maxNat64
  batchSize : s.streaming.batchSize ≤ Text.maxNat64
  intervalSeconds : s.publication.intervalSeconds ≤ Text.maxNat64
  leaseSeconds : s.publication.lock.leaseSeconds ≤ Text.maxNat64

/-! ## Reading a section -/

/-- A slot without a value writes no member. -/
theorem toMembers_ofOption {σ α : Type} {name : String} {write : α → Value} {change : α → σ → σ}
    {x : Option α} :
    (Slot.ofOption name write change x).toMembers = memberOf? name (x.map write) := by
  cases x <;> rfl

namespace PartialSources

/-- The members of the section, each with its value, if it has one, and with what reading the value
changes. -/
def slots (p : PartialSources) : List (Slot SourceSettings) :=
  [.ofOption "name" .string (fun x s => { s with name := x }) (some p.name),
    .ofOption "non_auth_name" .ofText? (fun x s => { s with nonAuthName := x }) p.nonAuthName]

theorem toValue_eq (p : PartialSources) : p.toValue = .object (p.slots.flatMap (·.toMembers)) := by
  simp [toValue, slots, toMembers_ofOption, memberOf?]

/-- Every member that is written is one that the reader knows, and its value is read back. -/
theorem knownTo (p : PartialSources) : ∀ s ∈ p.slots, s.KnownTo SourceSettings.members := by
  simp only [slots, List.forall_mem_cons, List.not_mem_nil, false_implies, implies_true, and_true]
  constructor
  · exact Slot.knownTo_ofOption rfl fun x _ rest _ =>
      Member.read_ofReader (readString_writeString x rest)
  · exact Slot.knownTo_ofOption rfl fun x _ rest _ =>
      Member.read_ofReader (readString?_ofText? x rest)

/-- The values that are there, put into the record of a section without members, complete it. -/
theorem apply_slots (p : PartialSources) :
    p.slots.foldl (fun r s => s.apply r) .unwritten = p.complete := by
  obtain ⟨name, _ | nonAuthName⟩ := p <;> rfl

/-- A sources section is read as what completes it, whatever stands behind it. -/
theorem read (p : PartialSources) (rest : List Char) :
    readRecord SourceSettings.members .unwritten (p.toValue.write ++ rest) =
      .ok (p.complete, rest) := by
  have distinct : ["name", "non_auth_name"].Nodup := by decide
  rw [toValue_eq, readRecord_slots p.knownTo distinct _, apply_slots]
  simp [SourceSettings.members, slots, Slot.ofOption, Member.ofReader]

end PartialSources

namespace PartialStore

def slots (p : PartialStore) : List (Slot StoreSettings) :=
  [.ofOption "sqlite_path" .string (fun x s => { s with path := x }) (some p.path),
    .ofOption "wal_mode" .bool (fun x s => { s with writeAhead := x }) p.writeAhead,
    .ofOption "max_connections" (fun n : Nat => .number n)
      (fun x s => { s with maxConnections := x }) p.maxConnections]

theorem toValue_eq (p : PartialStore) : p.toValue = .object (p.slots.flatMap (·.toMembers)) := by
  simp [toValue, slots, toMembers_ofOption, memberOf?]

/-- The number of connections is read back if it fits into 32 bits. -/
theorem Bounded.knownTo {p : PartialStore} (h : p.Bounded) :
    ∀ s ∈ p.slots, s.KnownTo StoreSettings.members := by
  simp only [slots, List.forall_mem_cons, List.not_mem_nil, false_implies, implies_true, and_true]
  refine ⟨?_, ?_, ?_⟩
  · exact Slot.knownTo_ofOption rfl fun x _ rest _ =>
      Member.read_ofReader (readString_writeString x rest)
  · exact Slot.knownTo_ofOption rfl fun x _ rest _ => Member.read_ofReader (readBool_write x rest)
  · exact Slot.knownTo_ofOption rfl fun n hn _ closes =>
      Member.read_ofReader (readNat_write (h.maxConnections n hn) (by decide) closes)

theorem apply_slots (p : PartialStore) :
    p.slots.foldl (fun r s => s.apply r) .unwritten = p.complete := by
  obtain ⟨path, _ | writeAhead, _ | connections⟩ := p <;> rfl

/-- A store section is read as what completes it. -/
theorem Bounded.read {p : PartialStore} (h : p.Bounded) (rest : List Char) :
    readRecord StoreSettings.members .unwritten (p.toValue.write ++ rest) =
      .ok (p.complete, rest) := by
  have distinct : ["sqlite_path", "wal_mode", "max_connections"].Nodup := by decide
  rw [toValue_eq, readRecord_slots h.knownTo distinct _, apply_slots]
  simp [StoreSettings.members, slots, Slot.ofOption, Member.ofReader]

end PartialStore

namespace PartialStream

def slots (p : PartialStream) : List (Slot StreamSettings) :=
  [.ofOption "enabled" .bool (fun x s => { s with enabled := x }) p.enabled,
    .ofOption "bind_addr" .string (fun x s => { s with bindAddress := x }) p.bindAddress,
    .ofOption "max_sessions" (fun n : Nat => .number n) (fun x s => { s with maxSessions := x })
      p.maxSessions,
    .ofOption "idle_timeout" .string (fun x s => { s with idleTimeout := x }) p.idleTimeout,
    .ofOption "keepalive_poll_interval" .string (fun x s => { s with pollInterval := x })
      p.pollInterval,
    .ofOption "batch_size" (fun n : Nat => .number n) (fun x s => { s with batchSize := x })
      p.batchSize]

theorem toValue_eq (p : PartialStream) : p.toValue = .object (p.slots.flatMap (·.toMembers)) := by
  simp [toValue, slots, toMembers_ofOption]

theorem Bounded.knownTo {p : PartialStream} (h : p.Bounded) :
    ∀ s ∈ p.slots, s.KnownTo StreamSettings.members := by
  simp only [slots, List.forall_mem_cons, List.not_mem_nil, false_implies, implies_true, and_true]
  refine ⟨?_, ?_, ?_, ?_, ?_, ?_⟩
  · exact Slot.knownTo_ofOption rfl fun x _ rest _ => Member.read_ofReader (readBool_write x rest)
  · exact Slot.knownTo_ofOption rfl fun x _ rest _ =>
      Member.read_ofReader (readString_writeString x rest)
  · exact Slot.knownTo_ofOption rfl fun n hn _ closes =>
      Member.read_ofReader (readNat_write (h.maxSessions n hn) (Nat.le_refl _) closes)
  · exact Slot.knownTo_ofOption rfl fun x _ rest _ =>
      Member.read_ofReader (readString_writeString x rest)
  · exact Slot.knownTo_ofOption rfl fun x _ rest _ =>
      Member.read_ofReader (readString_writeString x rest)
  · exact Slot.knownTo_ofOption rfl fun n hn _ closes =>
      Member.read_ofReader (readNat_write (h.batchSize n hn) (Nat.le_refl _) closes)

theorem apply_slots (p : PartialStream) :
    p.slots.foldl (fun r s => s.apply r) .unwritten = p.complete := by
  -- each member is there or left out, and what is left out stays as it is in the record read into
  obtain ⟨_ | enabled, _ | address, _ | sessions, _ | idle, _ | poll, _ | batch⟩ := p <;> rfl

/-- A section on streaming is read as what completes it. -/
theorem Bounded.read {p : PartialStream} (h : p.Bounded) (rest : List Char) :
    readRecord StreamSettings.members .unwritten (p.toValue.write ++ rest) =
      .ok (p.complete, rest) := by
  have distinct : ["enabled", "bind_addr", "max_sessions", "idle_timeout",
      "keepalive_poll_interval", "batch_size"].Nodup := by decide
  rw [toValue_eq, readRecord_slots h.knownTo distinct _, apply_slots]
  simp [StreamSettings.members, Member.ofReader]

end PartialStream

namespace PartialLock

def slots (p : PartialLock) : List (Slot LockSettings) :=
  [.ofOption "ttl_sec" (fun n : Nat => .number n) (fun x s => { s with leaseSeconds := x })
      p.leaseSeconds,
    .ofOption "wait_timeout" .string (fun x s => { s with waitTimeout := x }) p.waitTimeout]

theorem toValue_eq (p : PartialLock) : p.toValue = .object (p.slots.flatMap (·.toMembers)) := by
  simp [toValue, slots, toMembers_ofOption]

theorem Bounded.knownTo {p : PartialLock} (h : p.Bounded) :
    ∀ s ∈ p.slots, s.KnownTo LockSettings.members := by
  simp only [slots, List.forall_mem_cons, List.not_mem_nil, false_implies, implies_true, and_true]
  constructor
  · exact Slot.knownTo_ofOption rfl fun n hn _ closes =>
      Member.read_ofReader (readNat_write (h.leaseSeconds n hn) (Nat.le_refl _) closes)
  · exact Slot.knownTo_ofOption rfl fun x _ rest _ =>
      Member.read_ofReader (readString_writeString x rest)

theorem apply_slots (p : PartialLock) :
    p.slots.foldl (fun r s => s.apply r) .unwritten = p.complete := by
  obtain ⟨_ | lease, _ | wait⟩ := p <;> rfl

/-- A lock section is read as what completes it, inside the section on publication. -/
theorem Bounded.read {p : PartialLock} (h : p.Bounded) (rest : List Char) :
    readRecord LockSettings.members .unwritten (p.toValue.write ++ rest) =
      .ok (p.complete, rest) := by
  have distinct : ["ttl_sec", "wait_timeout"].Nodup := by decide
  rw [toValue_eq, readRecord_slots h.knownTo distinct _, apply_slots]
  simp [LockSettings.members, Member.ofReader]

end PartialLock

namespace PartialPublication

/-- The lock is one member among others: reading it puts a complete lock section into the record. -/
def slots (p : PartialPublication) : List (Slot PublicationSettings) :=
  [.ofOption "enabled" .bool (fun x s => { s with enabled := x }) p.enabled,
    .ofOption "interval_sec" (fun n : Nat => .number n)
      (fun x s => { s with intervalSeconds := x }) p.intervalSeconds,
    .ofOption "excluded_object_types" (fun ts : List String => .list (ts.map .string))
      (fun x s => { s with excludedTypes := x }) p.excludedTypes,
    .ofOption "bootstrap_snapshot" .bool (fun x s => { s with bootstrapSnapshot := x })
      p.bootstrapSnapshot,
    .ofOption "lock" PartialLock.toValue (fun x s => { s with lock := x.complete }) p.lock]

theorem toValue_eq (p : PartialPublication) :
    p.toValue = .object (p.slots.flatMap (·.toMembers)) := by
  simp [toValue, slots, toMembers_ofOption]

theorem Bounded.knownTo {p : PartialPublication} (h : p.Bounded) :
    ∀ s ∈ p.slots, s.KnownTo PublicationSettings.members := by
  simp only [slots, List.forall_mem_cons, List.not_mem_nil, false_implies, implies_true, and_true]
  refine ⟨?_, ?_, ?_, ?_, ?_⟩
  · exact Slot.knownTo_ofOption rfl fun x _ rest _ => Member.read_ofReader (readBool_write x rest)
  · exact Slot.knownTo_ofOption rfl fun n hn _ closes =>
      Member.read_ofReader (readNat_write (h.intervalSeconds n hn) (Nat.le_refl _) closes)
  · refine Slot.knownTo_ofOption rfl fun ts _ rest _ => Member.read_ofReader ?_
    exact readList_write (fun t _ rest _ => readString_writeString t rest) rest
  · exact Slot.knownTo_ofOption rfl fun x _ rest _ => Member.read_ofReader (readBool_write x rest)
  · exact Slot.knownTo_ofOption rfl fun l hl rest _ =>
      Member.read_ofReader ((h.lock l hl).read rest)

theorem apply_slots (p : PartialPublication) :
    p.slots.foldl (fun r s => s.apply r) .unwritten = p.complete := by
  obtain ⟨_ | enabled, _ | interval, _ | excluded, _ | bootstrap, _ | lock⟩ := p <;> rfl

/-- A section on publication is read as what completes it. -/
theorem Bounded.read {p : PartialPublication} (h : p.Bounded) (rest : List Char) :
    readRecord PublicationSettings.members .unwritten (p.toValue.write ++ rest) =
      .ok (p.complete, rest) := by
  have distinct : ["enabled", "interval_sec", "excluded_object_types", "bootstrap_snapshot",
      "lock"].Nodup := by decide
  rw [toValue_eq, readRecord_slots h.knownTo distinct _, apply_slots]
  simp [PublicationSettings.members, Member.ofReader]

end PartialPublication

/-! ## Reading all sections -/

namespace PartialSettings

/-- The sections are the members of the whole. -/
def slots (p : PartialSettings) : List (Slot Settings) :=
  [.ofOption "sources" PartialSources.toValue (fun x s => { s with sources := x.complete })
      p.sources,
    .ofOption "store" PartialStore.toValue (fun x s => { s with store := x.complete }) p.store,
    .ofOption "nrtm3" PartialStream.toValue (fun x s => { s with streaming := x.complete })
      p.streaming,
    .ofOption "nrtm4" PartialPublication.toValue (fun x s => { s with publication := x.complete })
      p.publication]

theorem toValue_eq (p : PartialSettings) : p.toValue = .object (p.slots.flatMap (·.toMembers)) := by
  simp [toValue, slots, toMembers_ofOption]

theorem Bounded.knownTo {p : PartialSettings} (h : p.Bounded) :
    ∀ s ∈ p.slots, s.KnownTo Settings.members := by
  simp only [slots, List.forall_mem_cons, List.not_mem_nil, false_implies, implies_true, and_true]
  refine ⟨?_, ?_, ?_, ?_⟩
  · exact Slot.knownTo_ofOption rfl fun s _ rest _ => Member.read_ofReader (s.read rest)
  · exact Slot.knownTo_ofOption rfl fun s hs rest _ =>
      Member.read_ofReader ((h.store s hs).read rest)
  · exact Slot.knownTo_ofOption rfl fun s hs rest _ =>
      Member.read_ofReader ((h.streaming s hs).read rest)
  · exact Slot.knownTo_ofOption rfl fun s hs rest _ =>
      Member.read_ofReader ((h.publication s hs).read rest)

theorem apply_slots (p : PartialSettings) :
    p.slots.foldl (fun r s => s.apply r) .unwritten = p.complete := by
  obtain ⟨_ | sources, _ | store, _ | streaming, _ | publication⟩ := p <;> rfl

/-- Settings with omissions are read as what completes them. -/
theorem Bounded.readAll_text {p : PartialSettings} (h : p.Bounded) :
    readAll Settings.read p.toValue.text = .ok p.complete := by
  have distinct : ["sources", "store", "nrtm3", "nrtm4"].Nodup := by decide
  apply readAll_eq_ok
  rw [toValue_eq, Settings.read, readRecord_slots h.knownTo distinct _, apply_slots]
  simp [Settings.members, Member.ofReader]

end PartialSettings

/-! ## Settings without some of their members -/

/-- What is kept of a member is the member. -/
theorem Removal.mem_keep {α : Type} {r : Removal} {key : String} {x y : α}
    (h : y ∈ r.keep key x) : y = x := by
  rw [keep, Option.mem_def, Option.ite_none_left_eq_some] at h
  exact (Option.some.inj h.2).symm

/-- Taking members out leaves the others as they are, so their numbers still fit. -/
theorem Settings.Bounded.without {s : Settings} (h : s.Bounded) (r : Removal) :
    (s.without r).Bounded := by
  refine ⟨?_, ?_, ?_⟩
  · intro p hp
    obtain rfl := Removal.mem_keep hp
    exact ⟨fun n hn => Removal.mem_keep hn ▸ h.maxConnections⟩
  · intro p hp
    obtain rfl := Removal.mem_keep hp
    exact ⟨fun n hn => Removal.mem_keep hn ▸ h.maxSessions,
      fun n hn => Removal.mem_keep hn ▸ h.batchSize⟩
  · intro p hp
    obtain rfl := Removal.mem_keep hp
    refine ⟨fun n hn => Removal.mem_keep hn ▸ h.intervalSeconds, ?_⟩
    intro l hl
    obtain rfl := Removal.mem_keep hl
    exact ⟨fun n hn => Removal.mem_keep hn ▸ h.leaseSeconds⟩

/-- Settings are read back from their text. Without some of its members the text is read as the
settings with the default for each field that is taken out, by itself or with its section, and
with no other change. -/
theorem Settings.read_back {s : Settings} (bounded : s.Bounded) :
    readAll Settings.read s.toValue.text = .ok s ∧
    ∀ r : Removal, r.LeavesRequired →
      readAll Settings.read (s.toValue.without r).text = .ok (s.restored r) := by
  constructor
  · exact (bounded.without fun _ => false).readAll_text
  · intro r required
    rw [← s.toValue_without required, ← s.complete_without required]
    exact (bounded.without r).readAll_text

/-- A whole section is taken out, a member of a section that stays, and one of a section in it. -/
theorem Settings.read_back_small :
    let s := { Settings.small "RIPE" with
      publication := { PublicationSettings.default with lock := ⟨5, "1s"⟩ } }
    let r : Removal := fun path =>
      path ∈ [["store"], ["nrtm3", "keepalive_poll_interval"], ["nrtm4", "lock", "ttl_sec"]]
    s.Bounded ∧ r.LeavesRequired ∧ readAll Settings.read s.toValue.text = .ok s ∧
      readAll Settings.read (s.toValue.without r).text =
        .ok { s with
          store := .default
          streaming := { s.streaming with pollInterval := "1s" }
          publication := { s.publication with lock := ⟨300, "1s"⟩ } } := by
  intro s r
  have bounded : s.Bounded := ⟨by decide, by decide, by decide, by decide, by decide⟩
  have required : r.LeavesRequired := ⟨by decide, by decide⟩
  obtain ⟨whole, reduced⟩ := Settings.read_back bounded
  exact ⟨bounded, required, whole, reduced r required⟩

end RegistryFeed
