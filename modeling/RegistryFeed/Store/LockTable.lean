import Mathlib.Data.List.Basic
import RegistryFeed.Store.Leases

/-! # Locks in use

Any number of programs take, give back and look up the locks of one store while time passes. The
history of a table is all that they were told, and nothing else is known of who holds what: a
program may give back any lease at any time and as often as it likes, also one that has expired, one
that was taken over and one that it made up. -/
namespace RegistryFeed

/-- Time passes in milliseconds, and the clock is never set back. -/
inductive LockRequest
  | acquire (name owner : String) (ttl : Span)
  | release (lease : Lease)
  | lookUp (name : String)
  | pass (millis : Nat)
deriving Repr

/-- What came of a request. -/
inductive LockRecord
  | taken (lease : Lease)
  | refused (name : String)
  | released (lease : Lease)
  | shown (name : String) (holder : Option Lease)
deriving DecidableEq, Repr

namespace LockRequest

/-- The owner for whom a lock is asked. -/
def owner? : LockRequest → Option String
  | acquire _ owner _ => some owner
  | _ => none

/-- The request is one of the lock of this name, or of no lock. -/
def concerns (name : String) : LockRequest → Bool
  | acquire other _ _ => other = name
  | release lease => lease.name = name
  | lookUp other => other = name
  | pass _ => true

end LockRequest

namespace LockRecord

def name : LockRecord → String
  | taken lease => lease.name
  | refused name => name
  | released lease => lease.name
  | shown name _ => name

/-- The lease that was given. -/
def given? : LockRecord → Option Lease
  | taken lease => some lease
  | _ => none

/-- The lease is given back, under its own name and owner. -/
def Ends (lease : Lease) : LockRecord → Prop
  | released k => k.name = lease.name ∧ k.owner = lease.owner
  | _ => False

/-- The lock of the lease is taken again. -/
def Replaces (lease : Lease) : LockRecord → Prop
  | taken k => k.name = lease.name
  | _ => False

variable {k l : Lease} {name : String} {found : Option Lease}

@[simp] theorem ends_released : (released k).Ends l ↔ k.name = l.name ∧ k.owner = l.owner := Iff.rfl
@[simp] theorem not_ends_taken : ¬ (taken k).Ends l := id
@[simp] theorem not_ends_refused : ¬ (refused name).Ends l := id
@[simp] theorem not_ends_shown : ¬ (shown name found).Ends l := id
@[simp] theorem replaces_taken : (taken k).Replaces l ↔ k.name = l.name := Iff.rfl
@[simp] theorem not_replaces_released : ¬ (released k).Replaces l := id
@[simp] theorem not_replaces_refused : ¬ (refused name).Replaces l := id
@[simp] theorem not_replaces_shown : ¬ (shown name found).Replaces l := id

/-- A record can only touch a lease of its own lock. -/
theorem name_eq_of_ends {r : LockRecord} (h : r.Ends l) : r.name = l.name := by
  cases r with
  | released k => exact h.1
  | taken _ | refused _ | shown _ _ => exact h.elim

theorem name_eq_of_replaces {r : LockRecord} (h : r.Replaces l) : r.name = l.name := by
  cases r with
  | taken k => exact h
  | released _ | refused _ | shown _ _ => exact h.elim

end LockRecord

/-! ## Runs -/

/-- The clock shows milliseconds since the epoch; the newest record is the last one. -/
structure LockTable where
  store : Store
  now : Int
  history : List LockRecord
deriving Repr

namespace LockTable

/-- What is answered to a request. -/
def answer (t : LockTable) : LockRequest → Option LockRecord
  | .acquire name owner ttl =>
    match (t.store.tryAcquire name owner ttl t.now).1 with
    | some lease => some (.taken lease)
    | none => some (.refused name)
  | .release lease => some (.released lease)
  | .lookUp name => some (.shown name (t.store.holder name t.now))
  | .pass _ => none

def step (t : LockTable) (request : LockRequest) : LockTable :=
  let history := t.history ++ (t.answer request).toList
  match request with
  | .acquire name owner ttl =>
    { t with store := (t.store.tryAcquire name owner ttl t.now).2, history }
  | .release lease => { t with store := t.store.release lease, history }
  | .lookUp _ => { t with history }
  | .pass millis => { t with now := t.now + millis, history }

def run (t : LockTable) (requests : List LockRequest) : LockTable := requests.foldl step t

theorem history_step (t : LockTable) (request : LockRequest) :
    (t.step request).history = t.history ++ (t.answer request).toList := by
  cases request <;> rfl

end LockTable

/-! ## What a history says -/

/-- All leases that were given, in order. -/
def takings (history : List LockRecord) : List Lease := history.filterMap LockRecord.given?

theorem mem_takings {history : List LockRecord} {lease : Lease} :
    lease ∈ takings history ↔ .taken lease ∈ history := by
  rw [takings, List.mem_filterMap]
  constructor
  · rintro ⟨r, mem, given⟩
    cases r with
    | taken l =>
      obtain rfl := Option.some.inj given
      exact mem
    | refused _ | released _ | shown _ _ => cases given
  · intro mem
    exact ⟨_, mem, rfl⟩

/-- The lease was taken, and all that was recorded since is of the given kind. -/
def TakenThen (since : LockRecord → Prop) (history : List LockRecord) (lease : Lease) : Prop :=
  ∃ before after, history = before ++ .taken lease :: after ∧ ∀ r ∈ after, since r

/-- The lease was taken and has not been given back. -/
def Unreturned (history : List LockRecord) (lease : Lease) : Prop :=
  TakenThen (fun r => ¬ r.Ends lease) history lease

/-- The lease was the last one taken of its lock and has not been given back. -/
def Current (history : List LockRecord) (lease : Lease) : Prop :=
  TakenThen (fun r => ¬ r.Ends lease ∧ ¬ r.Replaces lease) history lease

theorem takenThen_concat {since : LockRecord → Prop} {history : List LockRecord} {r : LockRecord}
    {lease : Lease} :
    TakenThen since (history ++ [r]) lease ↔
      r = .taken lease ∨ TakenThen since history lease ∧ since r := by
  constructor
  · rintro ⟨before, after, parts, all⟩
    rcases List.eq_nil_or_concat after with rfl | ⟨init, x, rfl⟩
    · exact Or.inl (List.append_singleton_inj.mp parts).2
    · rw [List.concat_eq_append] at parts all
      rw [← List.cons_append, ← List.append_assoc] at parts
      obtain ⟨rfl, rfl⟩ := List.append_singleton_inj.mp parts
      obtain ⟨earlier, last⟩ := List.forall_mem_append.mp all
      exact Or.inr ⟨⟨before, init, rfl, earlier⟩, last r List.mem_cons_self⟩
  · rintro (rfl | ⟨⟨before, after, rfl, all⟩, last⟩)
    · exact ⟨history, [], rfl, by simp⟩
    · refine ⟨before, after ++ [r], by simp, ?_⟩
      rw [List.forall_mem_append]
      exact ⟨all, by simpa using last⟩

theorem not_takenThen_nil {since : LockRecord → Prop} {lease : Lease} :
    ¬ TakenThen since [] lease := by
  rintro ⟨before, after, parts, -⟩
  simp at parts

theorem TakenThen.mem {since : LockRecord → Prop} {history : List LockRecord} {lease : Lease}
    (h : TakenThen since history lease) : .taken lease ∈ history := by
  obtain ⟨before, after, rfl, -⟩ := h
  exact List.mem_append_right _ List.mem_cons_self

end RegistryFeed
