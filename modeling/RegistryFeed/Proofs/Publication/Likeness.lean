import Mathlib.Data.List.Forall2
import RegistryFeed.Proofs.Publication.Turn
import RegistryFeed.Proofs.Store.Latest
import RegistryFeed.Proofs.Store.Parts
import RegistryFeed.Publication.Hub

/-!
# Alike up to names

Two runs may give different row numbers to the same versions, different owners to
the same leases and different identifiers to the same chains. What is otherwise the
same is alike: the session of one is renamed into that of the other, and each owner
stands for one other owner. A generator does not look at any of these names, so alike
generators stay alike when they are told alike.
-/

namespace RegistryFeed

/-- Owners in one run, each with the one that stands for it in another. -/
abbrev OwnerPairs := List (String × String)

/-- No two owners stand for one, and none stands for two. -/
def OwnerPairs.OneToOne (os : OwnerPairs) : Prop :=
  ∀ p ∈ os, ∀ q ∈ os, p.1 = q.1 ↔ p.2 = q.2

structure Lease.Alike (os : OwnerPairs) (l m : Lease) : Prop where
  name : m.name = l.name
  owners : (l.owner, m.owner) ∈ os
  expiresAt : m.expiresAt = l.expiresAt

/-- Two versions that differ only in the number of the row and in the name of the session. -/
structure VersionInfo.Alike (rename : String → String) (v w : VersionInfo) : Prop where
  source : w.source = v.source
  version : w.version = v.version
  kind : w.kind = v.kind
  lastSerial : w.lastSerial = v.lastSerial
  session : w.session = rename v.session
  createdAt : w.createdAt = v.createdAt

structure Document.Alike (rename : String → String) (d e : Document) : Prop where
  info : d.info.Alike rename e.info
  body : e.body = d.body

inductive Publishing.Alike (rename : String → String) : Publishing → Publishing → Prop
  | snapshot (lastSerial : Int) (objects : List SnapshotObject) :
      Alike rename (.snapshot lastSerial objects) (.snapshot lastSerial objects)
  | delta {v w : VersionInfo} (previous : v.Alike rename w) (lastSerial : Int)
      (changes : List DeltaChange) :
      Alike rename (.delta v lastSerial changes) (.delta w lastSerial changes)

inductive GenerationResult.Alike (rename : String → String) :
    GenerationResult → GenerationResult → Prop
  | failed (error : EngineError) : Alike rename (.error error) (.error error)
  | nothing : Alike rename (.ok none) (.ok none)
  | made {d e : Document} (alike : d.Alike rename e) :
      Alike rename (.ok (some d.published)) (.ok (some e.published))

inductive Generation.Phase.Alike (rename : String → String) (os : OwnerPairs) :
    Generation.Phase → Generation.Phase → Prop
  | locking {w : LockWait} (waiting : ∀ l, w.phase ≠ .acquired l) :
      Alike rename os (.locking w) (.locking w)
  | finding {l m : Lease} (lease : l.Alike os m) : Alike rename os (.finding l) (.finding m)
  | reading {l m : Lease} (lease : l.Alike os m) {p q : Option VersionInfo}
      (previous : Option.Rel (VersionInfo.Alike rename) p q) :
      Alike rename os (.reading l p) (.reading m q)
  | committing {l m : Lease} (lease : l.Alike os m) {p q : Publishing}
      (publishing : p.Alike rename q) : Alike rename os (.committing l p) (.committing m q)
  | releasing {l m : Lease} (lease : l.Alike os m) {r s : GenerationResult}
      (result : GenerationResult.Alike rename r s) :
      Alike rename os (.releasing l r) (.releasing m s)
  | ended {r s : GenerationResult} (result : GenerationResult.Alike rename r s) :
      Alike rename os (.ended r) (.ended s)
  | fatal (cause : Fatal) : Alike rename os (.fatal cause) (.fatal cause)

/-- Two generators at the same work, in phases that are alike. -/
inductive Generation.Alike (rename : String → String) (os : OwnerPairs) :
    Generation → Generation → Prop
  | intro (kind : DocumentKind) (source : Source) (filter : PublicationFilter) (session : String)
      {p q : Generation.Phase} (phase : p.Alike rename os q) (observed : List Observation) :
      Alike rename os ⟨kind, source, filter, session, p, observed⟩
        ⟨kind, source, filter, rename session, q, observed⟩

inductive Worker.Alike (rename : String → String) (os : OwnerPairs) : Worker → Worker → Prop
  | intro (startedAt : Span) {g h : Generation} (generation : g.Alike rename os h) :
      Alike rename os ⟨startedAt, g⟩ ⟨startedAt, h⟩

/-- What came of trying a lock. -/
inductive TryAlike (os : OwnerPairs) :
    Except EngineError (Option Lease) → Except EngineError (Option Lease) → Prop
  | failed (error : EngineError) : TryAlike os (.error error) (.error error)
  | refused : TryAlike os (.ok none) (.ok none)
  | taken {l m : Lease} (lease : l.Alike os m) : TryAlike os (.ok (some l)) (.ok (some m))

inductive SourceAnswer.Alike (os : OwnerPairs) : SourceAnswer → SourceAnswer → Prop
  | appended (entry : Entry) : Alike os (.appended entry) (.appended entry)
  | tried {r s : Except EngineError (Option Lease)} (result : TryAlike os r s) :
      Alike os (.tried r) (.tried s)
  | returned : Alike os .returned .returned
  | shown {l m : Option Lease} (holder : Option.Rel (Lease.Alike os) l m) :
      Alike os (.shown l) (.shown m)

structure Desk.Alike (rename : String → String) (os : OwnerPairs) (d e : Desk) : Prop where
  workers : List.Forall₂ (Worker.Alike rename os) d.workers e.workers
  answers : List.Forall₂ (SourceAnswer.Alike os) d.answers e.answers

variable {rename : String → String} {os more : OwnerPairs}

/-! ## More owners -/

section Mono

variable (sub : os ⊆ more)

include sub

theorem Lease.Alike.mono {l m : Lease} (h : l.Alike os m) : l.Alike more m :=
  ⟨h.name, sub h.owners, h.expiresAt⟩

theorem Lease.rel_mono {l m : Option Lease} (h : Option.Rel (Lease.Alike os) l m) :
    Option.Rel (Lease.Alike more) l m := by
  cases h with
  | some h => exact .some (h.mono sub)
  | none => exact .none

theorem TryAlike.mono {r s : Except EngineError (Option Lease)} (h : TryAlike os r s) :
    TryAlike more r s := by
  cases h with
  | failed error => exact .failed error
  | refused => exact .refused
  | taken lease => exact .taken (lease.mono sub)

theorem Generation.Phase.Alike.mono {p q : Phase} (h : p.Alike rename os q) :
    p.Alike rename more q := by
  cases h with
  | locking waiting => exact .locking waiting
  | finding lease => exact .finding (lease.mono sub)
  | reading lease previous => exact .reading (lease.mono sub) previous
  | committing lease publishing => exact .committing (lease.mono sub) publishing
  | releasing lease result => exact .releasing (lease.mono sub) result
  | ended result => exact .ended result
  | fatal cause => exact .fatal cause

theorem Generation.Alike.mono {g h : Generation} (alike : g.Alike rename os h) :
    g.Alike rename more h := by
  cases alike with
  | intro kind source filter session phase observed =>
    exact .intro kind source filter session (phase.mono sub) observed

theorem Worker.Alike.mono {w x : Worker} (h : w.Alike rename os x) : w.Alike rename more x := by
  cases h with
  | intro startedAt generation => exact .intro startedAt (generation.mono sub)

theorem SourceAnswer.Alike.mono {a b : SourceAnswer} (h : a.Alike os b) : a.Alike more b := by
  cases h with
  | appended entry => exact .appended entry
  | tried result => exact .tried (result.mono sub)
  | returned => exact .returned
  | shown holder => exact .shown (Lease.rel_mono sub holder)

theorem Desk.Alike.mono {d e : Desk} (h : d.Alike rename os e) : d.Alike rename more e :=
  ⟨h.workers.imp fun _ _ w => w.mono sub, h.answers.imp fun _ _ a => a.mono sub⟩

end Mono

/-! ## Alike generators -/

namespace Generation.Alike

variable {g h : Generation}

theorem phase (alike : g.Alike rename os h) : g.phase.Alike rename os h.phase := by
  cases alike with
  | intro _ _ _ _ phase => exact phase

theorem waited (alike : g.Alike rename os h) {w : LockWait}
    (unlocked : ∀ l, w.phase ≠ .acquired l) : (g.waited w).Alike rename os (h.waited w) := by
  obtain ⟨name, ttl, timeout, retry, attempts, phase, seen⟩ := w
  cases alike with
  | intro kind source filter session _ observed =>
    cases phase with
    | acquired l => exact absurd rfl (unlocked l)
    | failed error => exact .intro _ _ _ _ (.ended (.failed error)) _
    | fatal cause => exact .intro _ _ _ _ (.fatal cause) _
    | trying => exact .intro _ _ _ _ (.locking (by simp)) _
    | sleeping delay => exact .intro _ _ _ _ (.locking (by simp)) _

/-- A lock that is not given is not held. -/
theorem unlocked_tried {w : LockWait} (waiting : ∀ l, w.phase ≠ .acquired l) (elapsed : Span)
    {result : Except EngineError (Option Lease)} (refused : ∀ l, result ≠ .ok (some l)) :
    ∀ l, (w.tried elapsed result).phase ≠ .acquired l := by
  intro l
  unfold LockWait.tried
  split
  · simp
  · next given => exact absurd rfl (refused _)
  · dsimp only
    split <;> simp
  · exact waiting l

theorem lockTried_error (alike : g.Alike rename os h) (elapsed : Span) (error : EngineError) :
    (g.lockTried elapsed (.error error)).Alike rename os (h.lockTried elapsed (.error error)) := by
  cases alike with
  | intro kind source filter session phase observed =>
    have same := Alike.intro kind source filter session phase observed
    cases phase with
    | locking waiting => exact same.waited (unlocked_tried waiting elapsed (by simp))
    | finding | reading | committing | releasing | ended | fatal => exact same

theorem lockTried (alike : g.Alike rename os h) (elapsed : Span)
    {r s : Except EngineError (Option Lease)} (result : TryAlike os r s) {w : LockWait}
    (locking : g.phase = .locking w) (trying : w.phase = .trying) :
    (g.lockTried elapsed r).Alike rename os (h.lockTried elapsed s) := by
  cases alike with
  | intro kind source filter session phase observed =>
    have same := Alike.intro kind source filter session phase observed
    obtain rfl := locking
    cases phase with
    | locking waiting =>
      cases result with
      | failed error => exact same.lockTried_error elapsed error
      | refused => exact same.waited (unlocked_tried waiting elapsed (by simp))
      | taken lease =>
        simp only [Generation.lockTried, LockWait.tried, trying]
        exact .intro _ _ _ _ (.finding lease) _

theorem woken (alike : g.Alike rename os h) : g.woken.Alike rename os h.woken := by
  cases alike with
  | intro kind source filter session phase observed =>
    have same := Alike.intro kind source filter session phase observed
    cases phase with
    | @locking w waiting =>
      refine same.waited fun l => ?_
      unfold LockWait.woken
      split
      · simp
      · exact waiting l
    | finding | reading | committing | releasing | ended | fatal => exact same

theorem found_error (alike : g.Alike rename os h) (error : EngineError) :
    (g.found (.error error)).Alike rename os (h.found (.error error)) := by
  cases alike with
  | intro kind source filter session phase observed =>
    have same := Alike.intro kind source filter session phase observed
    cases phase with
    | finding lease => cases kind <;> exact .intro _ _ _ _ (.releasing lease (.failed error)) _
    | locking | reading | committing | releasing | ended | fatal => exact same

theorem found (alike : g.Alike rename os h) {v w : Option VersionInfo}
    (version : Option.Rel (VersionInfo.Alike rename) v w) :
    (g.found (.ok v)).Alike rename os (h.found (.ok w)) := by
  cases alike with
  | intro kind source filter session phase observed =>
    have same := Alike.intro kind source filter session phase observed
    cases phase with
    | finding lease =>
      cases version with
      | none =>
        cases kind with
        | snapshot => exact .intro _ _ _ _ (.reading lease .none) _
        | delta => exact .intro _ _ _ _ (.releasing lease (.failed _)) _
      | @some v w version =>
        cases kind with
        | snapshot =>
          simp only [Generation.found, version.version]
          exact .intro _ _ _ _ (.releasing lease (.failed _)) _
        | delta => exact .intro _ _ _ _ (.reading lease (.some version)) _
    | locking | reading | committing | releasing | ended | fatal => exact same

theorem read (alike : g.Alike rename os h) (result : Except EngineError (List Entry)) :
    (g.read result).Alike rename os (h.read result) := by
  cases alike with
  | intro kind source filter session phase observed =>
    have same := Alike.intro kind source filter session phase observed
    cases phase with
    | reading lease previous =>
      cases result with
      | error error => exact .intro _ _ _ _ (.releasing lease (.failed error)) _
      | ok entries =>
        cases previous with
        | none => exact .intro _ _ _ _ (.committing lease (.snapshot _ _)) _
        | @some v w version =>
          simp only [Generation.read]
          cases entries.getLast? with
          | none => exact .intro _ _ _ _ (.releasing lease .nothing) _
          | some last =>
            dsimp only
            split
            · exact .intro _ _ _ _ (.releasing lease .nothing) _
            · exact .intro _ _ _ _ (.committing lease (.delta version _ _)) _
    | locking | finding | committing | releasing | ended | fatal => exact same

theorem committed_error (alike : g.Alike rename os h) (error : EngineError) :
    (g.committed (.error error)).Alike rename os (h.committed (.error error)) := by
  cases alike with
  | intro kind source filter session phase observed =>
    have same := Alike.intro kind source filter session phase observed
    cases phase with
    | committing lease => exact .intro _ _ _ _ (.releasing lease (.failed error)) _
    | locking | finding | reading | releasing | ended | fatal => exact same

theorem committed (alike : g.Alike rename os h) {d e : Document} (made : d.Alike rename e) :
    (g.committed (.ok d.published)).Alike rename os (h.committed (.ok e.published)) := by
  have seen : generatedObservation e = generatedObservation d := by
    unfold generatedObservation
    rw [made.body, made.info.source, made.info.version]
  cases alike with
  | intro kind source filter session phase observed =>
    have same := Alike.intro kind source filter session phase observed
    cases phase with
    | committing lease =>
      simp only [Generation.committed, Document.published, seen]
      exact .intro _ _ _ _ (.releasing lease (.made made)) _
    | locking | finding | reading | releasing | ended | fatal => exact same

theorem released (alike : g.Alike rename os h) : g.released.Alike rename os h.released := by
  cases alike with
  | intro kind source filter session phase observed =>
    have same := Alike.intro kind source filter session phase observed
    cases phase with
    | releasing lease result => exact .intro _ _ _ _ (.ended result) _
    | locking | finding | reading | committing | ended | fatal => exact same

theorem create (kind : DocumentKind) (source : Source) (filter : PublicationFilter)
    (settings : GenerationSettings) (session : String) :
    (Generation.create kind source filter settings session).Alike rename os
      (.create kind source filter settings (rename session)) :=
  .intro _ _ _ _ (.locking (by simp [LockWait.create])) _

end Generation.Alike

/-- Alike generators fail alike at the same time. -/
theorem Worker.Alike.failTurn {w x : Worker} (alike : w.Alike rename os x) {a b : Site}
    (clock : b.clock = a.clock) (error : EngineError) :
    (SharedSite.failTurn a w error).Alike rename os (SharedSite.failTurn b x error) := by
  cases alike with
  | @intro startedAt g h generation =>
    unfold SharedSite.failTurn
    rw [clock]
    refine .intro startedAt ?_
    cases generation with
    | intro kind source filter session phase observed =>
      have same := Generation.Alike.intro kind source filter session phase observed
      cases phase with
      | locking => exact same.lockTried_error _ error
      | finding => exact same.found_error error
      | reading => exact same.read (.error error)
      | committing => exact same.committed_error error
      | releasing => exact same.released
      | ended | fatal => exact same

end RegistryFeed
