import RegistryFeed.Proofs.Publication.Likeness
import RegistryFeed.Proofs.Store.Exclusion

/-!
# What belongs to a source

A generator for a source tries and gives back no lock but that of the source, and it
carries no version of another one. So a turn of it leaves what another source has as
it was: its log, its versions with their files, and its lock. The sources may have
any names; only the log and the locks have to be those of the store.
-/

namespace RegistryFeed

/-- What a generator carries in a phase belongs to a source. -/
def Generation.Phase.Of (source : Source) : Generation.Phase → Prop
  | .locking w => w.name = source.lockName ∧ ∀ l, w.phase ≠ .acquired l
  | .finding lease | .releasing lease _ => lease.name = source.lockName
  | .reading lease previous =>
    lease.name = source.lockName ∧ ∀ v, previous = some v → v.source = source
  | .committing lease p =>
    lease.name = source.lockName ∧ ∀ v, p.previous = some v → v.source = source
  | .ended _ | .fatal _ => True

structure Generation.Of (source : Source) (g : Generation) : Prop where
  ofSource : g.source = source
  phase : g.phase.Of source

/-- The log and the locks are those of the store, and the store is tidy. -/
structure Site.Plain (site : Site) : Prop where
  memory : site.memory = none
  script : site.script = none
  tidy : site.store.Tidy

/-- Two sites between which nothing of a source is changed. -/
structure Site.SamePart (source : Source) (a b : Site) : Prop where
  clock : b.clock = a.clock
  stamp : b.stamp = a.stamp
  rows : b.store.rowsOf source = a.store.rowsOf source
  versions : b.store.versionsOf source = a.store.versionsOf source
  files : b.store.filesOf source = a.store.filesOf source
  lease : b.store.leaseOf source.lockName = a.store.leaseOf source.lockName

variable {site t : Site} {source other : Source} {g h : Generation}

/-! ## Generators -/

namespace LockWait

theorem name_tried (w : LockWait) (elapsed : Span) (result : Except EngineError (Option Lease)) :
    (w.tried elapsed result).name = w.name := by
  unfold tried
  split
  · rfl
  · rfl
  · dsimp only
    split <;> rfl
  · rfl

theorem name_woken (w : LockWait) : w.woken.name = w.name := by
  unfold woken
  split <;> rfl

end LockWait

namespace Generation.Of

theorem waited (own : g.source = source) {w : LockWait} (name : w.name = source.lockName)
    (lease : ∀ l, w.phase = .acquired l → l.name = source.lockName) :
    (g.waited w).Of source := by
  refine ⟨(waited_sameTask g w).source.trans own, ?_⟩
  obtain ⟨n, ttl, timeout, retry, attempts, phase, seen⟩ := w
  cases phase with
  | acquired l => exact lease l rfl
  | trying => exact ⟨name, by simp⟩
  | sleeping delay => exact ⟨name, by simp⟩
  | failed error => trivial
  | fatal cause => trivial

theorem lockTried (own : g.Of source) (elapsed : Span)
    {result : Except EngineError (Option Lease)}
    (lease : ∀ l, result = .ok (some l) → l.name = source.lockName) :
    (g.lockTried elapsed result).Of source := by
  have phase := own.phase
  unfold Generation.lockTried
  split
  · next w locking =>
    rw [locking] at phase
    obtain ⟨name, waiting⟩ := phase
    refine waited own.ofSource ((w.name_tried elapsed result).trans name) ?_
    intro l acquired
    by_cases given : ∃ k, result = .ok (some k)
    · obtain ⟨k, rfl⟩ := given
      have same : k = l := by
        cases trying : w.phase with
        | acquired k => exact absurd trying (waiting k)
        | trying => simpa [LockWait.tried, trying] using acquired
        | sleeping | failed | fatal => simp [LockWait.tried, trying] at acquired
      exact same ▸ lease k rfl
    · exact absurd acquired
        (Alike.unlocked_tried waiting elapsed (fun k same => given ⟨k, same⟩) l)
  · exact own

theorem woken (own : g.Of source) : g.woken.Of source := by
  have phase := own.phase
  unfold Generation.woken
  split
  · next w locking =>
    rw [locking] at phase
    refine waited own.ofSource (w.name_woken.trans phase.1) ?_
    intro l acquired
    unfold LockWait.woken at acquired
    split at acquired
    · cases acquired
    · exact absurd acquired (phase.2 l)
  · exact own

theorem found (own : g.Of source) {result : Except EngineError (Option VersionInfo)}
    (version : ∀ v, result = .ok (some v) → v.source = source) :
    (g.found result).Of source := by
  refine ⟨(found_sameTask g result).source.trans own.ofSource, ?_⟩
  have phase := own.phase
  unfold Generation.found
  split
  · next lease finding =>
    rw [finding] at phase
    dsimp only
    split
    · exact phase
    · exact phase
    · exact ⟨phase, fun v none => by cases none⟩
    · next v _ => exact ⟨phase, fun w same => Option.some.inj same ▸ version v rfl⟩
    · exact phase
  · exact phase

theorem read (own : g.Of source) (result : Except EngineError (List Entry)) :
    (g.read result).Of source := by
  refine ⟨(read_sameTask g result).source.trans own.ofSource, ?_⟩
  have phase := own.phase
  cases reading : g.phase with
  | reading lease previous =>
    rw [reading] at phase
    cases result with
    | error error =>
      simp only [Generation.read, reading]
      exact phase.1
    | ok entries =>
      rw [read_phase reading]
      split
      · next p cut =>
        refine ⟨phase.1, ?_⟩
        rw [Publishing.previous_of_cut cut]
        exact phase.2
      · exact phase.1
  | locking | finding | committing | releasing | ended | fatal =>
    simp only [Generation.read, reading]
    rw [reading] at phase
    exact phase

theorem committed (own : g.Of source) (result : Except EngineError Artifact) :
    (g.committed result).Of source := by
  refine ⟨(committed_sameTask g result).source.trans own.ofSource, ?_⟩
  have phase := own.phase
  unfold Generation.committed
  split
  · next committing =>
    rw [committing] at phase
    exact phase.1
  · next committing =>
    rw [committing] at phase
    exact phase.1
  · exact phase

theorem released (own : g.Of source) : g.released.Of source := by
  refine ⟨(released_sameTask g).source.trans own.ofSource, ?_⟩
  have phase := own.phase
  unfold Generation.released
  split
  · trivial
  · exact phase

theorem create (kind : DocumentKind) (source : Source) (filter : PublicationFilter)
    (settings : GenerationSettings) (session : String) :
    (Generation.create kind source filter settings session).Of source :=
  ⟨rfl, rfl, by simp [LockWait.create]⟩

end Generation.Of

/-- A lease is for the lock that was tried. -/
theorem Site.name_of_tryLock {name : String} {ttl : Span} {l : Lease}
    (given : (site.tryLock name ttl).1 = .ok (some l)) : l.name = name := by
  cases own : site.script with
  | some script =>
    simp only [tryLock, own, LockScript.tryAcquire] at given
    split at given <;> cases given <;> rfl
  | none =>
    simp only [tryLock, own] at given
    rcases tried : site.store.tryAcquire name (ownerName site.owners) ttl site.epochMillis with
      ⟨answer, store⟩
    rw [tried] at given
    obtain rfl : answer = some l := Except.ok.inj given
    exact (Store.tryAcquire_eq_some tried).1

theorem Generation.Of.turn (own : g.Of source) (turn : Turn site g h t) : h.Of source := by
  cases turn with
  | @tried w locking trying elapsed =>
    have phase := own.phase
    rw [locking] at phase
    exact own.lockTried _ fun l given => (Site.name_of_tryLock given).trans phase.1
  | woken locking => exact own.woken
  | found finding =>
    exact own.found fun v last => (Store.mem_of_findLast last).2.trans own.ofSource
  | read reading => exact own.read _
  | committed committing commit => exact own.committed _
  | refused committing error => exact own.committed _
  | released releasing => exact own.released
  | stays => exact own

theorem Generation.Of.failTurn {w : Worker} (own : w.generation.Of source) (site : Site)
    (error : EngineError) : (SharedSite.failTurn site w error).generation.Of source := by
  unfold SharedSite.failTurn
  dsimp only
  split
  · exact own.lockTried _ fun l given => by cases given
  · exact own.found fun v last => by cases last
  · exact own.read _
  · exact own.committed _
  · exact own.released
  · exact own
  · exact own

/-! ## The site -/

namespace Site.SamePart

theorem refl (source : Source) (a : Site) : SamePart source a a := ⟨rfl, rfl, rfl, rfl, rfl, rfl⟩

theorem of_sameRecords {a b : Site} (same : a.SameRecords b) (clock : b.clock = a.clock)
    (stamp : b.stamp = a.stamp)
    (lease : b.store.leaseOf source.lockName = a.store.leaseOf source.lockName) :
    SamePart source a b := by
  have versions : b.store.versionsOf source = a.store.versionsOf source := by
    rw [Store.versionsOf, Store.versionsOf, same.versions]
  refine ⟨clock, stamp, ?_, versions, ?_, lease⟩
  · rw [Store.rowsOf, Store.rowsOf, same.serials]
  · rw [Store.filesOf, Store.filesOf, versions, same.files]

end Site.SamePart

namespace Site.Plain

variable (plain : site.Plain)

include plain

theorem tryLock_eq (name : String) (ttl : Span) :
    site.tryLock name ttl =
      (.ok (site.store.tryAcquire name (ownerName site.owners) ttl site.epochMillis).1,
        { site with
          store := (site.store.tryAcquire name (ownerName site.owners) ttl site.epochMillis).2
          owners := site.owners + 1 }) := by
  rw [tryLock, plain.script]

/-- The lock is refused while it has a holder, and is given otherwise. -/
theorem tryLock_cases (name : String) (ttl : Span) :
    ((site.store.holder name site.epochMillis).isSome ∧
      site.tryLock name ttl = (.ok none, { site with owners := site.owners + 1 })) ∨
    (site.store.holder name site.epochMillis).isSome = false ∧ ∃ t l,
      l = ⟨name, ownerName site.owners, Store.expiry site.epochMillis ttl⟩ ∧
        t.leaseOf name = some l ∧
        site.tryLock name ttl =
          (.ok (some l), { site with store := t, owners := site.owners + 1 }) := by
  have answer :=
    site.store.tryAcquire_fst name (ownerName site.owners) ttl site.epochMillis
  rw [plain.tryLock_eq]
  rcases tried : site.store.tryAcquire name (ownerName site.owners) ttl site.epochMillis with
    ⟨given, t⟩
  rw [tried] at answer
  cases held : (site.store.holder name site.epochMillis).isSome with
  | true =>
    rw [held] at answer
    obtain rfl : given = none := answer
    obtain rfl := Store.tryAcquire_eq_none tried
    exact .inl ⟨rfl, rfl⟩
  | false =>
    rw [held] at answer
    obtain rfl : given = some ⟨_, _, _⟩ := answer
    exact .inr ⟨rfl, t, _, rfl, (Store.leaseOf_of_tryAcquire tried name).trans (if_pos rfl), rfl⟩

theorem releaseLock_eq (lease : Lease) :
    site.releaseLock lease = { site with store := site.store.release lease } := by
  rw [releaseLock, plain.script]

theorem entriesSince_eq (source : Source) (after : Int) :
    site.entriesSince source after = (site.store.entriesSince source after, site) := by
  rw [entriesSince, plain.memory]

theorem tryLock (name : String) (ttl : Span) : (site.tryLock name ttl).2.Plain := by
  rw [plain.tryLock_eq]
  exact ⟨plain.memory, plain.script, plain.tidy.tryAcquire _ _ _ _⟩

theorem releaseLock (lease : Lease) : (site.releaseLock lease).Plain := by
  rw [plain.releaseLock_eq]
  exact ⟨plain.memory, plain.script, plain.tidy.release lease⟩

theorem append (source : Source) (operation : Operation) (objectType primaryKey : String)
    (payload : Option String) (now : Int) :
    Plain { site with
      store := (site.store.append source operation objectType primaryKey payload now).2 } :=
  ⟨plain.memory, plain.script, plain.tidy.rows, plain.tidy.filed, plain.tidy.names,
    plain.tidy.locks⟩

theorem turn (turn : Generation.Turn site g h t) : t.Plain := by
  cases turn with
  | tried => exact plain.tryLock _ _
  | woken => exact plain
  | found => exact plain
  | read =>
    rw [plain.entriesSince_eq]
    exact plain
  | committed _ commit =>
    exact ⟨plain.memory, plain.script, plain.tidy.adds (Generation.commit_eq_ok commit).1⟩
  | refused => exact plain
  | released => exact plain.releaseLock _
  | stays => exact plain

/-! ## What is left alone -/

theorem samePart_tryLock {name : String} (other : source.lockName ≠ name) (ttl : Span) :
    SamePart source site (site.tryLock name ttl).2 := by
  refine .of_sameRecords (site.tryLock_sameRecords name ttl) ?_ ?_ ?_
  · rw [plain.tryLock_eq]
  · rw [plain.tryLock_eq]
  · rw [plain.tryLock_eq]
    rcases tried : site.store.tryAcquire name (ownerName site.owners) ttl site.epochMillis with
      ⟨answer, store⟩
    cases answer with
    | none => rw [Store.tryAcquire_eq_none tried]
    | some l => exact (Store.leaseOf_of_tryAcquire tried _).trans (if_neg other)

theorem samePart_releaseLock {lease : Lease} (other : source.lockName ≠ lease.name) :
    SamePart source site (site.releaseLock lease) := by
  refine .of_sameRecords (site.releaseLock_sameRecords lease) ?_ ?_ ?_
  · rw [plain.releaseLock_eq]
  · rw [plain.releaseLock_eq]
  · rw [plain.releaseLock_eq]
    exact Store.leaseOf_release_of_ne other

theorem samePart_adds {d : Document} {store : Store} (adds : site.store.Adds d store)
    (other : d.info.source ≠ source) : SamePart source site { site with store := store } := by
  refine ⟨rfl, rfl, ?_, ?_, ?_, ?_⟩
  · exact congrArg (List.filter _) adds.serials
  · rw [Store.versionsOf_adds adds, if_neg other, List.append_nil]
  · rw [Store.filesOf_adds plain.tidy adds, if_neg other, List.append_nil]
  · exact congrArg (List.find? _) adds.leases

/-- A turn of a generator leaves what another source has as it was. -/
theorem samePart_turn (own : g.Of other) (different : source ≠ other)
    (turn : Generation.Turn site g h t) : SamePart source site t := by
  have locks : source.lockName ≠ other.lockName :=
    fun same => different (Source.lockName_injective same)
  have phase := own.phase
  cases turn with
  | tried locking =>
    rw [locking] at phase
    exact plain.samePart_tryLock (phase.1.symm ▸ locks) _
  | woken => exact .refl source site
  | found => exact .refl source site
  | read =>
    rw [plain.entriesSince_eq]
    exact .refl source site
  | @committed lease p a store committing commit =>
    rw [committing] at phase
    obtain ⟨adds, -, -, ofSource, -⟩ := Generation.commit_eq_ok commit
    refine plain.samePart_adds adds ?_
    rw [ofSource, Publishing.source_eq own.ofSource phase.2]
    exact different.symm
  | refused => exact .refl source site
  | released releasing =>
    rw [releasing] at phase
    exact plain.samePart_releaseLock (Eq.symm phase ▸ locks)
  | stays => exact .refl source site

end Site.Plain

end RegistryFeed
