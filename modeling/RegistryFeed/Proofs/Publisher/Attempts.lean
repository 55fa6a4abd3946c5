import RegistryFeed.Proofs.Publication.NoTrace
import RegistryFeed.Publisher.Live

/-!
# What the generator of an attempt does

That there is no snapshot is said by a generator that has looked for one, and by
nothing else: neither by the store nor by the log or the lock, however they fail.
A generator puts one version of its source into the store, or none, and says so.
Versions are never taken out, and each is numbered above the one it follows.
-/

namespace RegistryFeed

/-- A failure other than the lack of a snapshot. -/
def EngineError.Outside (error : EngineError) : Prop := ∀ name, error ≠ .noSnapshot name

/-! ## What the store, the log and the lock fail with -/

theorem error_of_mapM {α β ε : Type} {f : α → Except ε β} {xs : List α} {e : ε}
    (h : xs.mapM f = .error e) : ∃ x ∈ xs, f x = .error e := by
  induction xs with
  | nil => cases h
  | cons x xs ih =>
    rw [List.mapM_cons] at h
    rcases bind_eq_error_iff.mp h with first | ⟨y, -, h⟩
    · exact ⟨x, List.mem_cons_self, first⟩
    · rcases bind_eq_error_iff.mp h with later | ⟨ys, -, h⟩
      · obtain ⟨z, hz, failed⟩ := ih later
        exact ⟨z, List.mem_cons_of_mem x hz, failed⟩
      · cases h

theorem Store.outside_of_findLast {s : Store} {source : Source} {error : EngineError}
    (h : s.findLast source = .error error) : error.Outside := by
  rintro name rfl
  rw [findLast] at h
  split at h
  · rcases bind_eq_error_iff.mp h with unread | ⟨v, -, h⟩
    · rw [VersionRow.info] at unread
      split at unread
      · cases unread
      · cases unread
    · cases h
  · cases h

theorem Site.outside_of_tryLock {site : Site} {name : String} {ttl : Span} {error : EngineError}
    (h : (site.tryLock name ttl).1 = .error error) : error.Outside := by
  rintro source rfl
  rw [tryLock] at h
  split at h
  · simp only [LockScript.tryAcquire] at h
    split at h
    all_goals cases h
  · cases h

theorem Site.outside_of_entriesSince {site : Site} {source : Source} {after : Int}
    {error : EngineError} (h : (site.entriesSince source after).1 = .error error) :
    error.Outside := by
  rintro name rfl
  rw [entriesSince] at h
  split at h
  · simp only [MemoryLog.entriesSince] at h
    split at h
    · cases h
    · cases h
  · obtain ⟨row, -, corrupt⟩ := error_of_mapM h
    rw [SerialRow.entry] at corrupt
    split at corrupt
    · cases corrupt
    · cases corrupt

theorem Store.outside_of_insertVersion {s : Store} {source : Source} {version : Int}
    {kind : DocumentKind} {lastSerial : Int} {session : String} {now : Int} {error : EngineError}
    (h : s.insertVersion source version kind lastSerial session now = .error error) :
    error.Outside := by
  rintro name rfl
  rw [insertVersion] at h
  split at h
  · cases h
  · cases h

theorem Store.outside_of_saveDocument {inserted : VersionInfo × Store} {body : DocumentBody}
    {error : EngineError} (h : saveDocument inserted body = .error error) : error.Outside := by
  rintro name rfl
  rcases bind_eq_error_iff.mp h with refused | ⟨s, -, h⟩
  · rw [saveFile] at refused
    split at refused
    · cases refused
    · split at refused
      · cases refused
      · split at refused
        · cases refused
        · cases refused
  · cases h

theorem Generation.outside_of_commit {g : Generation} {p : Publishing} {s : Store} {now : Int}
    {error : EngineError} (h : g.commit p s now = .error error) : error.Outside := by
  cases p with
  | snapshot n os =>
    rcases bind_eq_error_iff.mp h with refused | ⟨inserted, -, h⟩
    · exact Store.outside_of_insertVersion refused
    · exact Store.outside_of_saveDocument h
  | delta v n cs =>
    rcases bind_eq_error_iff.mp h with refused | ⟨inserted, -, h⟩
    · rw [Store.insertNext] at refused
      split at refused
      · rintro name rfl
        cases refused
      · exact Store.outside_of_insertVersion refused
    · exact Store.outside_of_saveDocument h

/-! ## What a generator has come to -/

theorem VersionInfo.Follows.positive {v : VersionInfo} {before : Option VersionInfo}
    (h : v.Follows before) (counts : ∀ u, before = some u → 0 < u.version) : 0 < v.version := by
  cases before with
  | none => exact h.1 ▸ Int.one_pos
  | some u => exact h.1 ▸ Int.add_pos (counts u rfl) Int.one_pos

/-- How an answer fits what was seen of the chain and what was put into the store. -/
inductive Generation.Told (source : Source) (seen : Option (List VersionRow)) :
    List VersionRow → GenerationResult → Prop
  | document {a : Artifact} (own : a.info.source = source) (counts : 0 < a.info.version) :
      Told source seen [a.info.row] (.ok (some a))
  | nothing : Told source seen [] (.ok none)
  | error {e : EngineError} (vacant : ∀ name, e = .noSnapshot name → seen = some []) :
      Told source seen [] (.error e)

/-- What a generator that works for a source has done by a phase. -/
inductive Generation.Reached (source : Source) (seen : Option (List VersionRow)) :
    List VersionRow → Generation.Phase → Prop
  | locking {w : LockWait} (waits : ∀ e, w.phase ≠ .failed e) : Reached source seen [] (.locking w)
  | fatal {cause : Fatal} : Reached source seen [] (.fatal cause)
  | finding {lease : Lease} : Reached source seen [] (.finding lease)
  | reading {lease : Lease} {previous : Option VersionInfo}
      (own : ∀ v, previous = some v → v.source = source) :
      Reached source seen [] (.reading lease previous)
  | committing {lease : Lease} {p : Publishing}
      (own : ∀ v, p.previous = some v → v.source = source) :
      Reached source seen [] (.committing lease p)
  | releasing {lease : Lease} {result : GenerationResult} {added : List VersionRow}
      (told : Told source seen added result) : Reached source seen added (.releasing lease result)
  | ended {result : GenerationResult} {added : List VersionRow}
      (told : Told source seen added result) : Reached source seen added (.ended result)

namespace Generation

/-- The version after which a generator publishes. -/
def Phase.previous? : Phase → Option VersionInfo
  | .reading _ previous => previous
  | .committing _ p => p.previous
  | .locking _ | .finding _ | .releasing _ _ | .ended _ | .fatal _ => none

theorem Phase.previous?_of_unbound {phase : Phase} (h : phase.Unbound) :
    phase.previous? = none := by
  cases phase with
  | reading | committing => exact h.elim
  | locking | finding | releasing | ended | fatal => rfl

variable {source : Source} {seen : Option (List VersionRow)} {added : List VersionRow}
  {g : Generation}

theorem Told.of_outside {e : EngineError} (outside : e.Outside) :
    Told source seen [] (.error e) := .error fun name same => absurd same (outside name)

theorem reached_waited (g : Generation) {w : LockWait}
    (outside : ∀ e, w.phase = .failed e → e.Outside) :
    Reached source seen [] (g.waited w).phase := by
  unfold waited
  simp only
  split
  · exact .finding
  · next e failed => exact .ended (.of_outside (outside e failed))
  · exact .fatal
  · next other _ => exact .locking fun e failed => other e failed

/-- A wait fails with the failure of a try, or because the lock is held. -/
theorem outside_of_tried {w : LockWait} (waits : ∀ e, w.phase ≠ .failed e) {elapsed : Span}
    {result : Except EngineError (Option Lease)} (honest : ∀ e, result = .error e → e.Outside) :
    ∀ e, (w.tried elapsed result).phase = .failed e → e.Outside := by
  intro e failed
  rw [LockWait.tried.eq_def] at failed
  split at failed
  · obtain rfl := LockWait.Phase.failed.inj failed
    exact honest _ rfl
  · cases failed
  · simp only at failed
    split at failed
    · cases failed
    · obtain rfl := LockWait.Phase.failed.inj failed
      intro name same
      cases same
    · cases failed
  · exact absurd failed (waits e)

theorem reached_lockTried {w : LockWait} (locking : g.phase = .locking w)
    (reached : Reached source seen added g.phase) (elapsed : Span)
    {result : Except EngineError (Option Lease)} (honest : ∀ e, result = .error e → e.Outside) :
    Reached source seen added (g.lockTried elapsed result).phase := by
  rw [locking] at reached
  cases reached with
  | locking waits =>
    simp only [lockTried, locking]
    exact reached_waited _ (outside_of_tried waits honest)

theorem reached_woken {w : LockWait} (locking : g.phase = .locking w)
    (reached : Reached source seen added g.phase) : Reached source seen added g.woken.phase := by
  rw [locking] at reached
  cases reached with
  | locking waits =>
    simp only [woken, locking]
    refine reached_waited _ fun e failed => ?_
    rw [LockWait.woken] at failed
    split at failed
    · cases failed
    · exact absurd failed (waits e)

/-- What was seen before the latest version is looked for does not matter. -/
theorem Reached.look {lease : Lease} (h : Reached source seen added (.finding lease))
    (now : Option (List VersionRow)) : Reached source now added (.finding lease) := by
  cases h
  exact .finding

theorem reached_found {lease : Lease} (finding : g.phase = .finding lease)
    (reached : Reached source seen added g.phase) {result : Except EngineError (Option VersionInfo)}
    (honest : ∀ e, result = .error e → e.Outside)
    (known : ∀ v, result = .ok (some v) → v.source = source)
    (vacant : result = .ok none → seen = some []) :
    Reached source seen added (g.found result).phase := by
  rw [finding] at reached
  cases reached
  simp only [found, finding]
  cases result with
  | error e =>
    have told : Reached source seen [] (.releasing lease (.error e)) :=
      .releasing (.of_outside (honest e rfl))
    cases g.kind with
    | snapshot => exact told
    | delta => exact told
  | ok latest =>
    cases g.kind with
    | snapshot =>
      cases latest with
      | none => exact .reading (by simp)
      | some v => exact .releasing (.error (by simp))
    | delta =>
      cases latest with
      | none => exact .releasing (.error fun _ _ => vacant rfl)
      | some v =>
        refine .reading ?_
        intro w same
        rw [← Option.some.inj same]
        exact known v rfl

theorem reached_read {lease : Lease} {previous : Option VersionInfo}
    (reading : g.phase = .reading lease previous) (reached : Reached source seen added g.phase)
    {result : Except EngineError (List Entry)} (honest : ∀ e, result = .error e → e.Outside) :
    Reached source seen added (g.read result).phase := by
  rw [reading] at reached
  cases reached with
  | reading own =>
    cases result with
    | error e =>
      simp only [read, reading]
      exact .releasing (.of_outside (honest e rfl))
    | ok es =>
      rw [read_phase reading es]
      cases cut : Publishing.cut g.filter previous es with
      | none => exact .releasing .nothing
      | some p =>
        refine .committing ?_
        rw [Publishing.previous_of_cut cut]
        exact own

theorem reached_committed {lease : Lease} {p : Publishing}
    (committing : g.phase = .committing lease p) (reached : Reached source seen added g.phase)
    (own : g.source = source)
    (counts : ∀ v, g.phase.previous? = some v → v.source = source → 0 < v.version)
    {a : Artifact} {s t : Store} {now : Int} (commit : g.commit p s now = .ok (a, t)) :
    Reached source seen (added ++ [a.info.row]) (g.committed (.ok a)).phase := by
  rw [committing] at reached counts
  cases reached with
  | committing known =>
    obtain ⟨-, -, -, ofSource, follows⟩ := commit_eq_ok commit
    simp only [committed, committing]
    refine .releasing (.document (ofSource.trans (Publishing.source_eq own known)) ?_)
    exact follows.positive fun v before => counts v before (known v before)

theorem reached_refused {lease : Lease} {p : Publishing}
    (committing : g.phase = .committing lease p) (reached : Reached source seen added g.phase)
    {e : EngineError} (outside : e.Outside) :
    Reached source seen added (g.committed (.error e)).phase := by
  rw [committing] at reached
  cases reached
  simp only [committed, committing]
  exact .releasing (.of_outside outside)

theorem reached_released {lease : Lease} {result : GenerationResult}
    (releasing : g.phase = .releasing lease result) (reached : Reached source seen added g.phase) :
    Reached source seen added g.released.phase := by
  rw [releasing] at reached
  cases reached with
  | releasing told =>
    simp only [released, releasing]
    exact .ended told

end Generation

namespace Publisher

/-- Where nothing was looked for and nothing was added, nothing is noted. -/
theorem Ongoing.turned_of_same (c : Ongoing) {g : Generation} {a b : Store}
    (same : b.versions = a.versions) (other : ∀ lease, g.phase ≠ .finding lease) :
    c.turned g a b = c := by
  rw [Ongoing.turned, same, List.drop_length, List.append_nil]
  split
  next lease finding => exact absurd finding (other lease)
  next => rfl

theorem Ongoing.turned_of_finding (c : Ongoing) {g : Generation} {lease : Lease}
    (finding : g.phase = .finding lease) (s : Store) :
    c.turned g s s = { c with seen := some (s.versionsOf g.source) } := by
  simp only [Ongoing.turned, finding, List.drop_length, List.append_nil]

theorem Ongoing.turned_of_adds (c : Ongoing) {g : Generation} {lease : Lease} {p : Publishing}
    (committing : g.phase = .committing lease p) {a b : Store} {d : Document} (adds : a.Adds d b) :
    c.turned g a b = { c with added := c.added ++ [d.info.row] } := by
  simp only [Ongoing.turned, committing, adds.versions, List.drop_left]

open Generation in
/-- A generator that stays where it is has come to the same. -/
theorem Ongoing.turned_reached (c : Ongoing) {g : Generation} {source : Source} (s : Store)
    (reached : Reached source c.seen c.added g.phase) :
    Reached source (c.turned g s s).seen (c.turned g s s).added g.phase := by
  by_cases finding : ∃ lease, g.phase = .finding lease
  · obtain ⟨lease, finding⟩ := finding
    rw [c.turned_of_finding finding, finding]
    rw [finding] at reached
    exact reached.look _
  · rw [c.turned_of_same rfl (not_exists.mp finding)]
    exact reached

end Publisher

theorem Store.versionsOf_eq_nil {s : Store} {source : Source} (h : s.findLast source = .ok none) :
    s.versionsOf source = [] := by
  rw [List.eq_nil_iff_forall_not_mem]
  intro r hr
  obtain ⟨mem, own⟩ := List.mem_filter.mp hr
  have listed : r ∈ s.chain source := mem_chain.mpr ⟨mem, of_decide_eq_true own⟩
  rw [chain_of_findLast_none h] at listed
  cases listed

namespace SharedSite

open Generation Publisher

variable {site : Site} {w : Worker} {source : Source}

/-- A generator whose transaction is refused ends with what it was refused for. -/
theorem takeTurn_refused (site : Site) (w : Worker) {lease : Lease} {p : Publishing}
    (committing : w.generation.phase = .committing lease p) (error : EngineError)
    (refused : (takeTurn site w).1.generation.phase = .releasing lease (.error error)) :
    w.generation.commit p site.store site.stamp = .error error := by
  simp only [takeTurn, committing, Site.step] at refused
  cases commit : w.generation.commit p site.store site.stamp with
  | ok made => simp [commit, committed, committing] at refused
  | error cause =>
    simp only [commit, committed, committing] at refused
    simpa using refused

/-- A turn of the generator of an attempt, noted in the attempt. -/
theorem takeTurn_reached {c : Ongoing} (own : w.generation.source = source)
    (counts : ∀ v, w.generation.phase.previous? = some v → v.source = source → 0 < v.version)
    (reached : Reached source c.seen c.added w.generation.phase) :
    let after := takeTurn site w
    let noted := c.turned w.generation site.store after.2.store
    Reached source noted.seen noted.added after.1.generation.phase := by
  have turn := takeTurn_turn site w
  have refusal := @takeTurn_refused site w
  generalize takeTurn site w = after at turn refusal ⊢
  obtain ⟨⟨startedAt, h⟩, t⟩ := after
  simp only at turn refusal ⊢
  -- only two turns are noted: the one that looks for the latest version and the one that commits
  cases turn with
  | tried locking _ elapsed =>
    rw [c.turned_of_same (site.tryLock_sameRecords _ _).versions (by simp [locking])]
    exact reached_lockTried locking reached elapsed fun e failed => Site.outside_of_tryLock failed
  | woken locking =>
    rw [c.turned_of_same rfl (by simp [locking])]
    exact reached_woken locking reached
  | found finding =>
    rw [c.turned_of_finding finding, own]
    rw [finding] at reached
    refine reached_found finding (finding ▸ reached.look _)
      (fun e failed => Store.outside_of_findLast failed) ?_ ?_
    · intro v found
      exact (Store.mem_of_findLast found).2
    · intro none
      exact congrArg some (Store.versionsOf_eq_nil none)
  | read reading =>
    rw [c.turned_of_same (site.entriesSince_sameRecords _ _).versions (by simp [reading])]
    exact reached_read reading reached fun e failed => Site.outside_of_entriesSince failed
  | committed committing commit =>
    rw [c.turned_of_adds committing (commit_eq_ok commit).1]
    exact reached_committed committing reached own counts commit
  | refused committing error =>
    rw [c.turned_of_same rfl (by simp [committing])]
    have cause := refusal committing error
    simp only [Generation.committed, committing] at cause
    exact reached_refused committing reached (outside_of_commit (cause trivial))
  | released releasing =>
    rw [c.turned_of_same (site.releaseLock_sameRecords _).versions (by simp [releasing])]
    exact reached_released releasing reached
  | stays => exact c.turned_reached _ reached

theorem failTurn_reached {seen : Option (List VersionRow)} {added : List VersionRow}
    {error : EngineError} (outside : error.Outside)
    (reached : Reached source seen added w.generation.phase) :
    Reached source seen added (failTurn site w error).generation.phase := by
  have honest {α : Type} :
      ∀ e, (Except.error error : Except EngineError α) = .error e → e.Outside := by
    intro e same
    rw [← Except.error.inj same]
    exact outside
  unfold failTurn
  dsimp only
  split
  · next lock locking => exact reached_lockTried locking reached _ honest
  · next lease finding => exact reached_found finding reached honest (by simp) (by simp)
  · next lease previous reading => exact reached_read reading reached honest
  · next lease p committing => exact reached_refused committing reached outside
  · next lease result releasing => exact reached_released releasing reached
  · exact reached
  · exact reached

end SharedSite

/-! ## The versions of the site -/

namespace Generation

/-- Versions are put into the store and never taken out. -/
theorem Move.versions_grow {site t : Site} {g : Generation} {phase : Phase}
    (m : Move site g phase t) : site.store.versions <+: t.store.versions := by
  cases m with
  | quiet _ same | cut _ _ same | released _ same => exact same.versions ▸ List.prefix_rfl
  | found => exact List.prefix_rfl
  | committed _ commit =>
    rw [(commit_eq_ok commit).1.versions]
    exact List.prefix_append _ _

theorem Move.counts {site t : Site} {g : Generation} {phase : Phase} {source : Source}
    (m : Move site g phase t) (rows : ∀ r ∈ site.store.versionsOf source, 0 < r.version)
    (previous : ∀ v, g.phase.previous? = some v → v.source = source → 0 < v.version) :
    (∀ r ∈ t.store.versionsOf source, 0 < r.version) ∧
      ∀ v, phase.previous? = some v → v.source = source → 0 < v.version := by
  have kept {u : Site} (same : u.store.versions = site.store.versions) :
      ∀ r ∈ u.store.versionsOf source, 0 < r.version := by
    rw [Store.versionsOf, same]
    exact rows
  cases m with
  | quiet free same =>
    refine ⟨kept same.versions, ?_⟩
    rcases free with stays | unbound
    · rw [stays]
      exact previous
    · rw [Phase.previous?_of_unbound unbound]
      simp
  | found finding last =>
    refine ⟨rows, ?_⟩
    rintro v latest ofSource
    obtain rfl : _ = some v := latest
    exact rows v.row (List.mem_filter.mpr
      ⟨(Store.mem_of_findLast last).1, decide_eq_true ofSource⟩)
  | cut reading cut same =>
    refine ⟨kept same.versions, ?_⟩
    intro v before
    rw [Phase.previous?, Publishing.previous_of_cut cut] at before
    rw [reading] at previous
    exact previous v before
  | @committed lease p a store committing commit =>
    refine ⟨?_, by simp [Phase.previous?]⟩
    obtain ⟨adds, -, -, ofSource, follows⟩ := commit_eq_ok commit
    rw [committing] at previous
    intro r hr
    rw [Store.versionsOf, adds.versions] at hr
    obtain ⟨mem, own⟩ := List.mem_filter.mp hr
    rcases List.mem_append.mp mem with old | new
    · exact rows r (List.mem_filter.mpr ⟨old, own⟩)
    · rw [List.mem_singleton.mp new] at own ⊢
      refine follows.positive fun v before => previous v before ?_
      rw [Publishing.source, before] at ofSource
      exact ofSource.symm.trans (of_decide_eq_true own)
  | released _ same => exact ⟨kept same.versions, by simp [Phase.previous?]⟩

end Generation

theorem SharedSite.versions_grow (s : SharedSite) (e : SharedSite.Event) :
    s.site.store.versions <+: (s.step e).site.store.versions := by
  have effect := step_effect s e
  generalize s.step e = t at effect ⊢
  cases effect with
  | begun => exact List.prefix_rfl
  | moved _ _ move => exact move.versions_grow
  | grown _ grows => exact grows.versions ▸ List.prefix_rfl
  | passed same => exact same.versions ▸ List.prefix_rfl

namespace SharedSite

open Generation

/-- The versions of a source are numbered from one, those in the store as well as those after which
some generator publishes. -/
structure Numbered (source : Source) (s : SharedSite) : Prop where
  rows : ∀ r ∈ s.site.store.versionsOf source, 0 < r.version
  previous : ∀ w ∈ s.workers, ∀ v, w.generation.phase.previous? = some v → v.source = source →
    0 < v.version

variable {s : SharedSite} {source : Source}

theorem Numbered.step (h : s.Numbered source) (e : Event) : (s.step e).Numbered source := by
  have effect := step_effect s e
  generalize s.step e = t at effect ⊢
  cases effect with
  | begun kind =>
    refine ⟨h.rows, ?_⟩
    intro w hw
    rcases List.mem_append.mp hw with old | new
    · exact h.previous w old
    · rw [List.mem_singleton.mp new]
      intro v none
      cases none
  | moved here same move =>
    obtain ⟨rows, next⟩ := move.counts h.rows (h.previous _ (List.mem_of_getElem? here))
    refine ⟨rows, fun v hv => ?_⟩
    rcases List.mem_or_eq_of_mem_set hv with old | rfl
    · exact h.previous v old
    · exact next
  | grown _ grows => exact ⟨by rw [Store.versionsOf, grows.versions]; exact h.rows, h.previous⟩
  | passed same => exact ⟨by rw [Store.versionsOf, same.versions]; exact h.rows, h.previous⟩

end SharedSite

end RegistryFeed
