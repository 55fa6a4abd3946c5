import RegistryFeed.Proofs.Publication.Recording

/-!
# What a generator does to the locks

A generator takes at most one row of the table of leases and gives that row back,
whatever happened in between; it never touches a row that another owner holds.
An owner's name is used for one try only, so a row that is gone does not come
back. Its lease may have expired and been taken over at any moment. With a lock
manager under a script the table is not used at all.
-/

namespace RegistryFeed

/-- No two owners have one name. -/
theorem Site.ownerName_injective {m n : Nat} (h : ownerName m = ownerName n) : m = n := by
  unfold ownerName Text.decimalNat at h
  have same := congrArg String.toList h
  rw [String.toList_append, String.toList_append] at same
  have digits := List.append_cancel_left same
  rw [String.toList_ofList, String.toList_ofList] at digits
  rw [← Text.ofDigits_digits m, digits, Text.ofDigits_digits]

/-- The lease that a generator holds in a phase. -/
def Generation.Phase.lease? : Generation.Phase → Option Lease
  | .finding lease | .reading lease _ | .committing lease _ | .releasing lease _ => some lease
  | .locking _ | .ended _ | .fatal _ => none

namespace Generation

theorem waited_lease (g : Generation) (w : LockWait) :
    (g.waited w).phase.lease? =
      match w.phase with
      | .acquired lease => some lease
      | _ => none := by
  unfold waited
  simp only
  cases w.phase <;> rfl

theorem tried_lease {w : LockWait} (trying : w.phase = .trying) (elapsed : Span)
    (result : Except EngineError (Option Lease)) (g : Generation) :
    (g.waited (w.tried elapsed result)).phase.lease? = result.toOption.join := by
  rw [waited_lease]
  unfold LockWait.tried
  cases result with
  | error error => simp only [trying]; rfl
  | ok answer =>
    cases answer with
    | some lease => simp only [trying]; rfl
    | none =>
      simp only [trying]
      cases w.delay? (w.attempts + 1) elapsed with
      | error cause => rfl
      | ok delay => cases delay <;> rfl

theorem found_lease {g : Generation} {lease : Lease} (h : g.phase = .finding lease)
    (result : Except EngineError (Option VersionInfo)) :
    (g.found result).phase.lease? = some lease := by
  simp only [found, h]
  cases g.kind <;> cases result with
  | error error => rfl
  | ok version => cases version <;> rfl

theorem read_lease {g : Generation} {lease : Lease} {previous : Option VersionInfo}
    (h : g.phase = .reading lease previous) (result : Except EngineError (List Entry)) :
    (g.read result).phase.lease? = some lease := by
  cases result with
  | error error => simp only [read, h]; rfl
  | ok entries =>
    rw [read_phase h entries]
    cases Publishing.cut g.filter previous entries <;> rfl

theorem committed_lease {g : Generation} {lease : Lease} {p : Publishing}
    (h : g.phase = .committing lease p) (result : Except EngineError Artifact) :
    (g.committed result).phase.lease? = some lease := by
  cases result <;> simp only [committed, h] <;> rfl

end Generation

/-- Nothing is left of a lease in the table. -/
def Site.Cleared (site : Site) (l : Lease) : Prop :=
  ∀ x ∈ site.store.leases, ¬ (x.name = l.name ∧ x.owner = l.owner)

/-- A lease was put into the table under an owner's name that no one uses again. -/
def Site.Spent (site : Site) (l : Lease) : Prop :=
  site.script = none ∧ ∃ k < site.owners, l.owner = ownerName k

/-- The table of leases gets no new row but one for the next owner. -/
structure Site.Leasing (a b : Site) : Prop where
  rows : ∀ x ∈ b.store.leases,
    x ∈ a.store.leases ∨ x.owner = ownerName a.owners ∧ a.owners < b.owners
  owners : a.owners ≤ b.owners
  script : b.script.isSome = a.script.isSome

namespace Site.Leasing

variable {a b : Site} {l : Lease}

theorem of_eq (leases : b.store.leases = a.store.leases) (owners : a.owners ≤ b.owners)
    (script : b.script.isSome = a.script.isSome) : a.Leasing b := by
  refine ⟨?_, owners, script⟩
  intro x hx
  rw [leases] at hx
  exact .inl hx

theorem spent (h : a.Leasing b) (spent : a.Spent l) : b.Spent l := by
  obtain ⟨own, k, past, named⟩ := spent
  refine ⟨?_, k, Nat.lt_of_lt_of_le past h.owners, named⟩
  have same := h.script
  rw [own] at same
  simpa using same

/-- A row that is gone does not come back: its owner's name belongs to the past. -/
theorem cleared (h : a.Leasing b) (spent : a.Spent l) (cleared : a.Cleared l) : b.Cleared l := by
  obtain ⟨_, k, past, named⟩ := spent
  intro x hx
  rcases h.rows x hx with old | ⟨new, _⟩
  · exact cleared x old
  · rintro ⟨_, same⟩
    rw [new, named] at same
    have := Site.ownerName_injective same
    omega

end Site.Leasing

/-- What a step of a generator does to the lease that it holds, and to the table of leases. A lock
that a script grants is not in the table. -/
inductive LeaseMove (site : Site) (before : Option Lease) : Option Lease → Site → Prop
  | keeps {after : Option Lease} {t : Site} (held : before = none ∨ after = before)
      (leases : t.store.leases = site.store.leases)
      (script : t.script.isSome = site.script.isSome) (owners : site.owners ≤ t.owners) :
      LeaseMove site before after t
  | takes {name : String} {ttl : Span} {lease : Lease} {store : Store} (free : before = none)
      (own : site.script = none)
      (taken : site.store.tryAcquire name (Site.ownerName site.owners) ttl site.epochMillis =
        (some lease, store)) :
      LeaseMove site before (some lease) { site with store := store, owners := site.owners + 1 }
  | gives {lease : Lease} (held : before = some lease) :
      LeaseMove site before none (site.releaseLock lease)

namespace LeaseMove

variable {site t : Site} {before after : Option Lease} {l : Lease}

theorem leasing (m : LeaseMove site before after t) : site.Leasing t := by
  cases m with
  | keeps held leases script owners => exact .of_eq leases owners script
  | takes free own taken =>
    obtain ⟨_, owned, rfl⟩ := Store.tryAcquire_eq_some taken
    refine ⟨?_, Nat.le_succ _, rfl⟩
    intro x hx
    rcases List.mem_append.mp hx with old | new
    · exact .inl (List.mem_filter.mp old).1
    · rw [List.mem_singleton.mp new]
      exact .inr ⟨owned, Nat.lt_succ_self _⟩
  | @gives lease held =>
    unfold Site.releaseLock
    split
    · next script own => exact .of_eq rfl (Nat.le_refl _) (by rw [own]; rfl)
    · refine ⟨?_, Nat.le_refl _, rfl⟩
      intro x hx
      exact .inl (List.mem_filter.mp hx).1

/-- A row that a step puts into the table is the lease that the generator now holds. -/
theorem holds_new (m : LeaseMove site before after t) (new : l ∈ t.store.leases)
    (old : l ∉ site.store.leases) : after = some l ∧ t.Spent l := by
  have leasing := m.leasing
  cases m with
  | keeps held leases script owners =>
    rw [leases] at new
    exact absurd new old
  | @takes name ttl lease store free own taken =>
    obtain ⟨_, owned, rfl⟩ := Store.tryAcquire_eq_some taken
    rcases List.mem_append.mp new with kept | here
    · exact absurd (List.mem_filter.mp kept).1 old
    · obtain rfl := List.mem_singleton.mp here
      exact ⟨rfl, own, site.owners, Nat.lt_succ_self _, owned⟩
  | gives held =>
    unfold Site.releaseLock at new
    split at new
    · exact absurd new old
    · exact absurd (List.mem_filter.mp new).1 old

/-- A lease that was put into the table is held until nothing is left of it. -/
theorem held_or_cleared (m : LeaseMove site before after t) (spent : site.Spent l)
    (h : before = some l ∨ site.Cleared l) : after = some l ∨ t.Cleared l := by
  rcases h with held | cleared
  · cases m with
    | keeps kept leases script owners =>
      rcases kept with free | same
      · rw [free] at held
        cases held
      · exact .inl (same.trans held)
    | takes free own taken =>
      rw [free] at held
      cases held
    | @gives lease kept =>
      obtain rfl : lease = l := Option.some.inj (kept.symm.trans held)
      refine .inr ?_
      simp only [Site.releaseLock, spent.1]
      exact Store.not_mem_release
  · exact .inr (m.leasing.cleared spent cleared)

/-- A lock that is held under the lease of someone else is held on. -/
theorem holder_kept (m : LeaseMove site before after t) {name : String}
    (held : site.store.holder name site.epochMillis = some l)
    (other : ∀ k, before = some k → ¬ (l.name = k.name ∧ l.owner = k.owner)) :
    t.store.holder name site.epochMillis = some l := by
  rw [Store.holder_eq_some] at held ⊢
  refine ⟨?_, held.2⟩
  cases m with
  | keeps kept leases script owners =>
    rw [Store.leaseOf, leases]
    exact held.1
  | @takes locked ttl lease store free own taken =>
    refine (Store.leaseOf_of_tryAcquire taken name).trans ?_
    split
    · next same =>
      subst same
      have refused : (site.store.tryAcquire name (Site.ownerName site.owners) ttl
          site.epochMillis).1 = none :=
        Store.tryAcquire_eq_none_iff.mpr
          (Option.isSome_iff_exists.mpr ⟨l, Store.holder_eq_some.mpr held⟩)
      rw [taken] at refused
      cases refused
    · exact held.1
  | @gives lease kept =>
    unfold Site.releaseLock
    split
    · exact held.1
    · exact Store.leaseOf_release_of_held held.1 (other lease kept)

end LeaseMove

/-- Reading the log has nothing to do with locks. -/
theorem Site.entriesSince_lease (site : Site) (source : Source) (after : Int) :
    (site.entriesSince source after).2.store.leases = site.store.leases ∧
      (site.entriesSince source after).2.script = site.script ∧
      (site.entriesSince source after).2.owners = site.owners := by
  unfold entriesSince
  split
  · exact ⟨rfl, rfl, rfl⟩
  · exact ⟨rfl, rfl, rfl⟩

namespace SharedSite

theorem tryLock_lease {site : Site} {w : LockWait} (trying : w.phase = .trying) (elapsed : Span)
    (g : Generation) :
    LeaseMove site none
      (g.waited (w.tried elapsed (site.tryLock w.name w.ttl).1)).phase.lease?
      (site.tryLock w.name w.ttl).2 := by
  rw [Generation.tried_lease trying]
  cases own : site.script with
  | some script =>
    have scripted : (site.tryLock w.name w.ttl).2 =
        { site with script := some (script.tryAcquire w.name w.ttl site.clock).2 } := by
      simp only [Site.tryLock, own]
    rw [scripted]
    exact .keeps (.inl rfl) rfl (by simp [own]) (Nat.le_refl _)
  | none =>
    rcases tried : site.store.tryAcquire w.name (Site.ownerName site.owners) w.ttl
      site.epochMillis with ⟨answer, store⟩
    have stored : site.tryLock w.name w.ttl =
        (.ok answer, { site with store := store, owners := site.owners + 1 }) := by
      simp only [Site.tryLock, own, tried]
    rw [stored]
    cases answer with
    | some lease => exact .takes rfl own tried
    | none =>
      obtain rfl := Store.tryAcquire_eq_none tried
      exact .keeps (.inl rfl) rfl rfl (Nat.le_succ _)

end SharedSite

/-- A turn keeps the lease and the table, takes one row, or gives its own row back. -/
theorem Generation.Turn.lease {site t : Site} {g h : Generation} (turn : Turn site g h t) :
    LeaseMove site g.phase.lease? h.phase.lease? t := by
  cases turn with
  | tried locking trying elapsed =>
    simp only [lockTried, locking]
    exact SharedSite.tryLock_lease trying _ _
  | woken locking =>
    refine .keeps (.inl ?_) rfl rfl (Nat.le_refl _)
    rw [locking]
    rfl
  | found finding =>
    refine .keeps (.inr ?_) rfl rfl (Nat.le_refl _)
    rw [found_lease finding, finding]
    rfl
  | @read lease previous reading =>
    obtain ⟨leases, script, owners⟩ := site.entriesSince_lease g.source (position previous)
    refine .keeps (.inr ?_) leases (by rw [script]) (Nat.le_of_eq owners.symm)
    rw [read_lease reading, reading]
    rfl
  | committed committing commit =>
    refine .keeps (.inr ?_) (commit_eq_ok commit).1.leases rfl (Nat.le_refl _)
    rw [committed_lease committing, committing]
    rfl
  | refused committing error =>
    refine .keeps (.inr ?_) rfl rfl (Nat.le_refl _)
    rw [committed_lease committing, committing]
    rfl
  | released releasing =>
    simp only [Generation.released, releasing]
    exact .gives rfl
  | stays => exact .keeps (.inr rfl) rfl rfl (Nat.le_refl _)

namespace SharedSite

theorem takeTurn_lease (site : Site) (w : Worker) :
    LeaseMove site w.generation.phase.lease? (takeTurn site w).1.generation.phase.lease?
      (takeTurn site w).2 := (takeTurn_turn site w).lease

/-- A step that fails leaves the table as it is; only the lease that is being given back is lost. -/
theorem failTurn_lease (site : Site) (w : Worker) (error : EngineError)
    (kept : ∀ lease result, w.generation.phase ≠ .releasing lease result) :
    LeaseMove site w.generation.phase.lease?
      (failTurn site w error).generation.phase.lease? site := by
  unfold failTurn
  simp only
  split
  · next wait h =>
    refine .keeps (.inl ?_) rfl rfl (Nat.le_refl _)
    rw [h]
    rfl
  all_goals refine .keeps (.inr ?_) rfl rfl (Nat.le_refl _)
  · next lease h => rw [Generation.found_lease h, h]; rfl
  · next lease previous h => rw [Generation.read_lease h, h]; rfl
  · next lease p h => rw [Generation.committed_lease h, h]; rfl
  · next lease result h => exact absurd h (kept lease result)
  · rfl
  · rfl

end SharedSite

end RegistryFeed
