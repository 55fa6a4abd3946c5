import Mathlib.Algebra.Group.Nat.Defs
import Mathlib.Data.List.Induction
import Mathlib.Data.List.Nodup
import RegistryFeed.Source
import RegistryFeed.Store.LockTable

/-!
# Who holds a lock

A lock is refused, and has a holder, exactly while the lease that was taken last of
it is neither given back nor expired. This is read off the history of the requests
alone: the rows of the table are the leases that are current in it. So no two
leases of one lock are in force at once, and the history of one lock is the same
whatever is done with the others. Only for what a late giving back may touch is it
assumed that no owner asks twice; times to live and clocks are arbitrary.
-/

namespace RegistryFeed

namespace Store

/-- A lock that is not refused is given until its time to live has passed. -/
theorem tryAcquire_fst (s : Store) (name owner : String) (ttl : Span) (now : Int) :
    (s.tryAcquire name owner ttl now).1 =
      if (s.holder name now).isSome then none else some ⟨name, owner, expiry now ttl⟩ := by
  by_cases held : (s.holder name now).isSome
  · rw [if_pos held, tryAcquire_eq_none_iff]
    exact held
  · rw [if_neg held, tryAcquire]
    cases found : s.leaseOf name with
    | none => rfl
    | some l =>
      have expired : l.expiresAt ≤ now := by simpa [holder, found] using held
      simp only [if_pos expired]

/-- If each lock has one row, it is found by its name. -/
theorem leaseOf_eq_some_iff {s : Store} (distinct : (s.leases.map (·.name)).Nodup) {name : String}
    {l : Lease} : s.leaseOf name = some l ↔ l ∈ s.leases ∧ l.name = name := by
  constructor
  · intro found
    exact ⟨List.mem_of_find?_eq_some found, by simpa using List.find?_some found⟩
  · rintro ⟨mem, rfl⟩
    cases found : s.leaseOf l.name with
    | none => simpa using List.find?_eq_none.mp found l mem
    | some k =>
      have named : k.name = l.name := by simpa using List.find?_some found
      have same := List.inj_on_of_nodup_map distinct (List.mem_of_find?_eq_some found) mem named
      rw [same]

theorem mem_release {s : Store} {k l : Lease} :
    l ∈ (s.release k).leases ↔ l ∈ s.leases ∧ ¬ (k.name = l.name ∧ k.owner = l.owner) := by
  rw [eq_comm, @eq_comm _ k.owner]
  simp only [release, List.mem_filter, Bool.not_eq_true', Bool.and_eq_false_imp,
    decide_eq_true_eq, decide_eq_false_iff_not, not_and]

end Store

/-! ## What one record changes -/

section
variable {history : List LockRecord} {k l : Lease}

theorem current_append {r : LockRecord} : Current (history ++ [r]) l ↔
    r = .taken l ∨ Current history l ∧ ¬ r.Ends l ∧ ¬ r.Replaces l := takenThen_concat

theorem unreturned_append {r : LockRecord} : Unreturned (history ++ [r]) l ↔
    r = .taken l ∨ Unreturned history l ∧ ¬ r.Ends l := takenThen_concat

theorem current_taken : Current (history ++ [.taken k]) l ↔
    k = l ∨ Current history l ∧ k.name ≠ l.name := by
  simp [current_append]

theorem current_released : Current (history ++ [.released k]) l ↔
    Current history l ∧ ¬ (k.name = l.name ∧ k.owner = l.owner) := by
  simp [current_append]

theorem unreturned_taken : Unreturned (history ++ [.taken k]) l ↔
    k = l ∨ Unreturned history l := by
  simp [unreturned_append]

theorem unreturned_released : Unreturned (history ++ [.released k]) l ↔
    Unreturned history l ∧ ¬ (k.name = l.name ∧ k.owner = l.owner) := by
  simp [unreturned_append]

/-- The other records change nothing. -/
theorem current_told {r : LockRecord} (other : ∀ l, r ≠ .taken l ∧ ¬ r.Ends l ∧ ¬ r.Replaces l) :
    Current (history ++ [r]) l ↔ Current history l := by
  simp [current_append, other]

theorem unreturned_told {r : LockRecord}
    (other : ∀ l, r ≠ .taken l ∧ ¬ r.Ends l ∧ ¬ r.Replaces l) :
    Unreturned (history ++ [r]) l ↔ Unreturned history l := by
  simp [unreturned_append, other]

/-- What is said about a lease is said by the records of its lock. -/
theorem current_filter :
    Current (history.filter (·.name = l.name)) l ↔ Current history l := by
  induction history using List.reverseRecOn with
  | nil => rfl
  | append_singleton history r ih =>
    by_cases own : r.name = l.name
    · rw [List.filter_append, List.filter_cons_of_pos (by simpa using own), List.filter_nil]
      rw [current_append, ih, current_append]
    · have elsewhere : ¬ r.Ends l ∧ ¬ r.Replaces l :=
        ⟨fun h => own (LockRecord.name_eq_of_ends h),
          fun h => own (LockRecord.name_eq_of_replaces h)⟩
      have different : r ≠ .taken l := by
        rintro rfl
        exact own rfl
      rw [List.filter_append, List.filter_cons_of_neg (by simpa using own), List.filter_nil,
        List.append_nil, ih, current_append]
      simp [elsewhere, different]

end

/-! ## The rows are the current leases -/

namespace LockTable

structure Sound (t : LockTable) : Prop where
  rows : ∀ l, l ∈ t.store.leases ↔ Current t.history l
  distinct : (t.store.leases.map (·.name)).Nodup
  kept : ∀ l, Unreturned t.history l → t.now < l.expiresAt → Current t.history l

variable {t : LockTable} {l : Lease} {name : String}

theorem Sound.leaseOf_eq_some_iff (h : t.Sound) :
    t.store.leaseOf name = some l ↔ Current t.history l ∧ l.name = name := by
  rw [Store.leaseOf_eq_some_iff h.distinct, h.rows]

theorem Sound.holder_eq_some_iff (h : t.Sound) :
    t.store.holder name t.now = some l ↔
      Current t.history l ∧ l.name = name ∧ t.now < l.expiresAt := by
  rw [Store.holder_eq_some, h.leaseOf_eq_some_iff, and_assoc]

theorem sound_empty {store : Store} (empty : store.leases = []) (now : Int) :
    Sound ⟨store, now, []⟩ where
  rows := by
    intro l
    rw [empty]
    exact iff_of_false List.not_mem_nil not_takenThen_nil
  distinct := by
    rw [empty]
    exact List.nodup_nil
  kept := by
    intro l taken
    exact absurd taken not_takenThen_nil

/-- A lock that is given was free, so no lease in force is replaced. -/
theorem Sound.taken (h : t.Sound) {owner : String} {ttl : Span} {lease : Lease} {store : Store}
    (given : t.store.tryAcquire name owner ttl t.now = (some lease, store)) :
    Sound { t with store, history := t.history ++ [.taken lease] } := by
  obtain ⟨rfl, -, rfl⟩ := Store.tryAcquire_eq_some given
  constructor
  · intro l
    rw [current_taken, List.mem_append, List.mem_filter, h.rows, List.mem_singleton, or_comm,
      eq_comm, decide_eq_true_iff, ne_comm]
  · rw [List.map_append, List.map_singleton, List.nodup_append]
    refine ⟨h.distinct.sublist (List.filter_sublist.map _), List.nodup_singleton _, ?_⟩
    intro name kept last new
    obtain ⟨k, hk, rfl⟩ := List.mem_map.mp kept
    rw [List.mem_singleton.mp new]
    exact of_decide_eq_true (List.mem_filter.mp hk).2
  · intro l
    rw [unreturned_taken, current_taken]
    rintro (rfl | unreturned) valid
    · exact Or.inl rfl
    · have current := h.kept l unreturned valid
      refine Or.inr ⟨current, ?_⟩
      intro same
      have held := h.holder_eq_some_iff.mpr ⟨current, same.symm, valid⟩
      have free : ¬ (t.store.holder lease.name t.now).isSome := by
        rw [← Store.tryAcquire_eq_none_iff, given]
        simp
      exact free (by rw [held]; rfl)

theorem Sound.released (h : t.Sound) (lease : Lease) :
    Sound { t with store := t.store.release lease, history := t.history ++ [.released lease] } := by
  constructor
  · intro l
    rw [current_released, Store.mem_release, h.rows]
  · exact h.distinct.sublist (List.filter_sublist.map _)
  · intro l
    rw [unreturned_released, current_released]
    rintro ⟨unreturned, other⟩ valid
    exact ⟨h.kept l unreturned valid, other⟩

/-- An answer that gives and takes nothing. -/
theorem Sound.told (h : t.Sound) {r : LockRecord}
    (other : ∀ l, r ≠ .taken l ∧ ¬ r.Ends l ∧ ¬ r.Replaces l) :
    Sound { t with history := t.history ++ [r] } := by
  constructor
  · intro l
    rw [current_told other]
    exact h.rows l
  · exact h.distinct
  · intro l
    rw [unreturned_told other, current_told other]
    exact h.kept l

theorem Sound.passed (h : t.Sound) (millis : Nat) : Sound { t with now := t.now + millis } where
  rows := h.rows
  distinct := h.distinct
  kept := by
    intro l unreturned valid
    have earlier : t.now < l.expiresAt := by
      simp only at valid
      omega
    exact h.kept l unreturned earlier

theorem Sound.step (h : t.Sound) (request : LockRequest) : (t.step request).Sound := by
  cases request with
  | acquire name owner ttl =>
    cases given : t.store.tryAcquire name owner ttl t.now with
    | mk answer store =>
      simp only [LockTable.step, LockTable.answer, given]
      cases answer with
      | none =>
        obtain rfl := Store.tryAcquire_eq_none given
        exact h.told (by simp)
      | some lease => exact h.taken given
  | release lease => exact h.released lease
  | lookUp name => exact h.told (by simp)
  | pass millis =>
    simp only [LockTable.step, LockTable.answer, Option.toList, List.append_nil]
    exact h.passed millis

theorem Sound.run (h : t.Sound) (requests : List LockRequest) : (t.run requests).Sound := by
  induction requests generalizing t with
  | nil => exact h
  | cons request requests ih => exact ih (h.step request)

/-- Leases of one lock that are both in force are one lease. -/
theorem Sound.eq_of_name_eq (h : t.Sound) {k : Lease} (here : Current t.history l)
    (there : Current t.history k) (same : l.name = k.name) : l = k :=
  List.inj_on_of_nodup_map h.distinct ((h.rows l).mpr here) ((h.rows k).mpr there) same

/-- Only the owner of a current lease can take out a row. -/
theorem Sound.release_eq (h : t.Sound)
    (none : ∀ k, Current t.history k → ¬ (k.name = l.name ∧ k.owner = l.owner)) :
    t.store.release l = t.store := by
  have all : t.store.leases.filter (fun k => !(k.name = l.name && k.owner = l.owner)) =
      t.store.leases := by
    rw [List.filter_eq_self]
    intro k hk
    have other := none k ((h.rows k).mp hk)
    rw [← Bool.decide_and]
    simpa only [Bool.not_eq_true', decide_eq_false_iff_not] using other
  rw [Store.release, all]

/-! ## Fresh owners -/

/-- Locks are given to those that asked. -/
theorem owners_answer (t : LockTable) (request : LockRequest) :
    ((takings (t.answer request).toList).map (·.owner)).Sublist request.owner?.toList := by
  cases request with
  | acquire name owner ttl =>
    cases given : t.store.tryAcquire name owner ttl t.now with
    | mk taken store =>
      simp only [LockTable.answer, given]
      cases taken with
      | none => exact List.nil_sublist _
      | some lease =>
        obtain ⟨-, rfl, -⟩ := Store.tryAcquire_eq_some given
        exact List.Sublist.refl _
  | release _ | lookUp _ | pass _ => exact List.Sublist.refl _

theorem owners_run (t : LockTable) (requests : List LockRequest) :
    ((takings (t.run requests).history).map (·.owner)).Sublist
      ((takings t.history).map (·.owner) ++ requests.filterMap LockRequest.owner?) := by
  induction requests generalizing t with
  | nil =>
    rw [List.filterMap_nil, List.append_nil]
    exact List.Sublist.refl _
  | cons request requests ih =>
    have parts : (request :: requests).filterMap LockRequest.owner? =
        request.owner?.toList ++ requests.filterMap LockRequest.owner? := by
      cases asked : request.owner? <;> simp [asked]
    refine (ih (t.step request)).trans ?_
    rw [history_step, takings, List.filterMap_append, List.map_append, List.append_assoc, parts]
    exact ((owners_answer t request).append_right _).append_left _

/-- If no owner asks twice, a lease that is spent, or one under another name than its own, cannot be
taken for the one in force. -/
theorem Sound.release_eq_of_fresh (h : t.Sound)
    (fresh : ((takings t.history).map (·.owner)).Nodup) {k : Lease} (taken : .taken l ∈ t.history)
    (same : k.owner = l.owner) (spent : ¬ (Current t.history l ∧ k.name = l.name)) :
    t.store.release k = t.store := by
  apply h.release_eq
  rintro held current ⟨named, owned⟩
  have one : held = l := List.inj_on_of_nodup_map fresh (mem_takings.mpr current.mem)
    (mem_takings.mpr taken) (owned.trans same)
  subst one
  exact spent ⟨current, named.symm⟩

/-! ## One lock by itself -/

/-- The first table knows of one lock only, and of that lock all that the second one knows. -/
structure Mirrors (name : String) (alone t : LockTable) : Prop where
  sound : alone.Sound
  whole : t.Sound
  now : alone.now = t.now
  history : alone.history = t.history.filter (·.name = name)

variable {alone : LockTable}

theorem Mirrors.leaseOf_eq (h : Mirrors name alone t) :
    alone.store.leaseOf name = t.store.leaseOf name := by
  apply Option.ext
  intro l
  rw [h.sound.leaseOf_eq_some_iff, h.whole.leaseOf_eq_some_iff]
  apply and_congr_left
  rintro rfl
  rw [h.history, current_filter]

theorem answer_congr (leases : alone.store.leaseOf name = t.store.leaseOf name)
    (now : alone.now = t.now) {request : LockRequest} (own : request.concerns name) :
    alone.answer request = t.answer request := by
  have holder : alone.store.holder name alone.now = t.store.holder name t.now := by
    rw [Store.holder, Store.holder, leases, now]
  cases request with
  | acquire other owner ttl =>
    obtain rfl : other = name := of_decide_eq_true own
    rw [answer, answer, Store.tryAcquire_fst, Store.tryAcquire_fst, holder, now]
  | release lease => rfl
  | lookUp other =>
    obtain rfl : other = name := of_decide_eq_true own
    rw [answer, answer, holder]
  | pass millis => rfl

theorem name_answer {request : LockRequest} {r : LockRecord} (told : r ∈ t.answer request) :
    decide (r.name = name) = request.concerns name := by
  cases request with
  | acquire other owner ttl =>
    simp only [answer, Store.tryAcquire_fst] at told
    cases held : (t.store.holder other t.now).isSome with
    | true =>
      simp only [held, if_true] at told
      obtain rfl := Option.some.inj told
      rfl
    | false =>
      simp only [held] at told
      obtain rfl := Option.some.inj told
      rfl
  | release lease =>
    obtain rfl := Option.some.inj told
    rfl
  | lookUp other =>
    obtain rfl := Option.some.inj told
    rfl
  | pass millis => cases told

/-- Of an answer, what is about one lock is all of it or nothing. -/
theorem filter_answer (t : LockTable) (request : LockRequest) (name : String) :
    (t.answer request).toList.filter (·.name = name) =
      if request.concerns name then (t.answer request).toList else [] := by
  split
  · next own =>
    rw [List.filter_eq_self]
    intro r told
    rw [name_answer (Option.mem_toList.mp told), own]
  · next other =>
    rw [List.filter_eq_nil_iff]
    intro r told
    rw [name_answer (Option.mem_toList.mp told)]
    exact other

theorem Mirrors.own (h : Mirrors name alone t) {request : LockRequest}
    (own : request.concerns name) : Mirrors name (alone.step request) (t.step request) where
  sound := h.sound.step request
  whole := h.whole.step request
  now := by
    cases request with
    | pass millis => exact congrArg (· + (millis : Int)) h.now
    | acquire _ _ _ | release _ | lookUp _ => exact h.now
  history := by
    rw [history_step, history_step, List.filter_append, filter_answer, if_pos own, ← h.history,
      answer_congr h.leaseOf_eq h.now own]

theorem Mirrors.other (h : Mirrors name alone t) {request : LockRequest}
    (other : ¬ request.concerns name) : Mirrors name alone (t.step request) where
  sound := h.sound
  whole := h.whole.step request
  now := by
    cases request with
    | pass millis => exact absurd rfl other
    | acquire _ _ _ | release _ | lookUp _ => exact h.now
  history := by
    rw [history_step, List.filter_append, filter_answer, if_neg other, List.append_nil, h.history]

theorem Mirrors.run (h : Mirrors name alone t) (requests : List LockRequest) :
    Mirrors name (alone.run (requests.filter (·.concerns name))) (t.run requests) := by
  induction requests generalizing alone t with
  | nil => exact h
  | cons request requests ih =>
    by_cases own : request.concerns name
    · rw [List.filter_cons_of_pos own]
      exact ih (h.own own)
    · rw [List.filter_cons_of_neg own]
      exact ih (h.other own)

end LockTable

/-! ## Every run -/

/-- The locks of different sources have different names. -/
theorem Source.lockName_injective {a b : Source} (same : a.lockName = b.lockName) : a = b := by
  have texts : ("nrtm4-generation:" ++ a.name).toList = ("nrtm4-generation:" ++ b.name).toList :=
    congrArg String.toList same
  simp only [String.toList_append] at texts
  have names := String.toList_inj.mp (List.append_cancel_left texts)
  cases a
  cases b
  exact congrArg Source.mk names

/-- Whatever was asked of the locks so far, a lock is refused exactly while the lease that was taken
last of it has not been given back and has not expired, and that lease is its holder. So no two
leases of one lock are in force. Giving back changes nothing unless it is done under the owner of a
current lease; if owners are fresh, that leaves out every lease that was taken over or given back
before, and every other lock. What is done with the other locks makes no difference to a lock. -/
theorem locks_of_run {s : Store} (empty : s.leases = []) (start : Int)
    (requests : List LockRequest) :
    let t := LockTable.run ⟨s, start, []⟩ requests
    (∀ name owner ttl, (t.store.tryAcquire name owner ttl t.now).1 = none ↔
      ∃ l, Current t.history l ∧ l.name = name ∧ t.now < l.expiresAt) ∧
    (∀ name owner ttl l, (t.store.tryAcquire name owner ttl t.now).1 = some l →
      l = ⟨name, owner, Store.expiry t.now ttl⟩) ∧
    (∀ name l, t.store.holder name t.now = some l ↔
      Current t.history l ∧ l.name = name ∧ t.now < l.expiresAt) ∧
    (∀ l k, Unreturned t.history l → Unreturned t.history k → l.name = k.name →
      t.now < l.expiresAt → t.now < k.expiresAt → l = k) ∧
    (∀ k, (∀ l, Current t.history l → ¬ (l.name = k.name ∧ l.owner = k.owner)) →
      t.store.release k = t.store) ∧
    ((requests.filterMap LockRequest.owner?).Nodup → ∀ l k, .taken l ∈ t.history →
      k.owner = l.owner → ¬ (Current t.history l ∧ k.name = l.name) →
        t.store.release k = t.store) ∧
    (∀ name, let alone := LockTable.run ⟨s, start, []⟩ (requests.filter (·.concerns name))
      alone.now = t.now ∧ alone.history = t.history.filter (·.name = name) ∧
        alone.store.leaseOf name = t.store.leaseOf name) ∧
    ∀ a b : Source, a.lockName = b.lockName → a = b := by
  intro t
  have initial := LockTable.sound_empty empty start
  have sound : t.Sound := initial.run requests
  refine ⟨?_, ?_, ?_, ?_, ?_, ?_, ?_, ?_⟩
  · intro name owner ttl
    rw [Store.tryAcquire_eq_none_iff, Option.isSome_iff_exists]
    exact exists_congr fun l => sound.holder_eq_some_iff
  · intro name owner ttl l given
    rw [Store.tryAcquire_fst] at given
    split at given
    · cases given
    · exact (Option.some.inj given).symm
  · intro name l
    exact sound.holder_eq_some_iff
  · intro l k here there same validHere validThere
    exact sound.eq_of_name_eq (sound.kept l here validHere) (sound.kept k there validThere) same
  · intro k none
    exact sound.release_eq none
  · intro fresh l k taken same spent
    have owners : ((takings t.history).map (·.owner)).Sublist
        (requests.filterMap LockRequest.owner?) := LockTable.owners_run ⟨s, start, []⟩ requests
    exact sound.release_eq_of_fresh (owners.nodup fresh) taken same spent
  · intro name
    have same : LockTable.Mirrors name ⟨s, start, []⟩ ⟨s, start, []⟩ := ⟨initial, initial, rfl, rfl⟩
    have mirrors := same.run requests
    exact ⟨mirrors.now, mirrors.history, mirrors.leaseOf_eq⟩
  · intro a b
    exact Source.lockName_injective

/-- A lease that expired at once is taken over and given back late, while another lock is taken for
longer than the clock can show. -/
def lateReturn : List LockRequest :=
  [.acquire "a" "x" ⟨0⟩, .acquire "a" "y" (.ofMillis 60000), .release ⟨"a", "x", 5⟩,
    .acquire "b" "z" (.ofMillis (2 ^ 64)), .pass 59999, .acquire "a" "w" ⟨0⟩]

theorem lateReturn_history : (LockTable.run ⟨.empty, 5, []⟩ lateReturn).history =
    [.taken ⟨"a", "x", 5⟩, .taken ⟨"a", "y", 60005⟩, .released ⟨"a", "x", 5⟩,
      .taken ⟨"b", "z", Text.maxInt64⟩, .refused "a"] := by
  decide +kernel

/-- The late return leaves the new lease in force. -/
theorem locks_of_lateReturn :
    Store.empty.leases = [] ∧ (lateReturn.filterMap LockRequest.owner?).Nodup ∧
      let t := LockTable.run ⟨.empty, 5, []⟩ lateReturn
      t.store.holder "a" t.now = some ⟨"a", "y", 60005⟩ ∧
        t.store.release ⟨"a", "x", 5⟩ = t.store := by
  have fresh : (lateReturn.filterMap LockRequest.owner?).Nodup := by decide
  have current : Current (LockTable.run ⟨.empty, 5, []⟩ lateReturn).history
      ⟨"a", "y", 60005⟩ := by
    rw [lateReturn_history]
    exact ⟨[.taken ⟨"a", "x", 5⟩], _, rfl, by simp⟩
  obtain ⟨-, -, holder, -, -, late, -⟩ := locks_of_run (s := .empty) rfl 5 lateReturn
  refine ⟨rfl, fresh, (holder _ _).mpr ⟨current, rfl, by decide⟩, ?_⟩
  refine late fresh ⟨"a", "x", 5⟩ _ ?_ rfl ?_
  · rw [lateReturn_history]
    exact List.mem_cons_self
  · rintro ⟨stale, -⟩
    have initial : LockTable.Sound ⟨.empty, 5, []⟩ := LockTable.sound_empty rfl 5
    have sound := initial.run lateReturn
    exact absurd (sound.eq_of_name_eq stale current rfl) (by decide)

end RegistryFeed
