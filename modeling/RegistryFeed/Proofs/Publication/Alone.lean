import RegistryFeed.Proofs.Publication.Turn
import RegistryFeed.Proofs.Store.Latest

/-!
# A generator that is alone

A generator that is alone on a site, gets its lock, finds the version that it
expects and can read the log comes to commit what it has cut from the log. It
succeeds unless the place or the name of its file is taken: its serial is beyond
the latest one, and no row has the number after the latest.
-/

namespace RegistryFeed

namespace Site

theorem run_succ {site : Site} {startedAt : Span} {g : Generation}
    (active : ∀ result, g.phase ≠ .ended result) (alive : ∀ cause, g.phase ≠ .fatal cause)
    (fuel : Nat) :
    run startedAt (fuel + 1) g site =
      run startedAt fuel (site.step startedAt g).1 (site.step startedAt g).2 := by
  rw [run]
  split
  · next result h => exact absurd h (active result)
  · next cause h => exact absurd h (alive cause)
  · rfl

theorem run_ended {site : Site} {startedAt : Span} {g : Generation} {result : GenerationResult}
    (h : g.phase = .ended result) (fuel : Nat) : run startedAt fuel g site = (g, site) := by
  cases fuel with
  | zero => rfl
  | succ fuel => simp only [run, h]

/-- The last step of a run gives the lock back. -/
theorem run_releasing {site : Site} {startedAt : Span} {g : Generation} {lease : Lease}
    {result : GenerationResult} (h : g.phase = .releasing lease result) (fuel : Nat) :
    run startedAt (fuel + 1) g site = (g.released, site.releaseLock lease) := by
  have ended : g.released.phase = .ended result := by simp only [Generation.released, h]
  rw [run_succ (by simp [h]) (by simp [h]), step, h]
  exact run_ended ended fuel

theorem step_committing {site : Site} {startedAt : Span} {g : Generation} {lease : Lease}
    {p : Publishing} {a : Artifact} {store : Store} (h : g.phase = .committing lease p)
    (commit : g.commit p site.store site.stamp = .ok (a, store)) :
    site.step startedAt g = (g.committed (.ok a), { site with store := store }) := by
  simp only [step, h, commit]

variable {site : Site} {kind : DocumentKind} {source : Source} {settings : GenerationSettings}
  {previous : Option VersionInfo} {lease : Lease} {es : List Entry}

/-- The lock, the version and the log are one step each. -/
theorem generate_read
    (granted : (site.tryLock source.lockName settings.lease).1 = .ok (some lease))
    (last : site.store.findLast source = .ok previous) (begins : kind = .snapshot ↔ previous = none)
    (readable : ((site.tryLock source.lockName settings.lease).2.entriesSince source
      (Generation.position previous)).1 = .ok es) (f : PublicationFilter) (session : String) :
    ∃ g n, Generation.SameTask (.create kind source f settings session) g ∧
      g.phase = (match Publishing.cut f previous es with
        | some p => .committing lease p
        | none => .releasing lease (.ok none)) ∧
      site.generate kind source f settings session =
        run site.clock (n + 2) g ((site.tryLock source.lockName settings.lease).2.entriesSince
          source (Generation.position previous)).2 := by
  obtain ⟨n, fuel⟩ : ∃ n, stepsFor settings = n + 2 + 1 + 1 + 1 :=
    ⟨2 * settings.wait.ceilMillis + 11, by unfold stepsFor; omega⟩
  have same := site.tryLock_sameRecords source.lockName settings.lease
  generalize locked : site.tryLock source.lockName settings.lease = answer at *
  obtain ⟨result, u⟩ := answer
  obtain rfl : result = .ok (some lease) := granted
  have latest : u.store.findLast source = .ok previous := (same.findLast_eq source).trans last
  let created : Generation := .create kind source f settings session
  let acquired := created.lockTried (u.clock.sub site.clock) (.ok (some lease))
  let looked := acquired.found (.ok previous)
  have finding : acquired.phase = .finding lease := rfl
  have reading : looked.phase = .reading lease previous := by
    show (acquired.found (.ok previous)).phase = _
    simp only [Generation.found, finding]
    cases previous with
    | none =>
      obtain rfl : kind = .snapshot := begins.mpr rfl
      rfl
    | some v =>
      cases kind with
      | snapshot => cases begins.mp rfl
      | delta => rfl
  have task : Generation.SameTask created looked :=
    (Generation.lockTried_sameTask created _ _).trans (Generation.found_sameTask acquired _)
  have first : site.step site.clock created = (acquired, u) := by
    simp only [created, step, Generation.create, LockWait.create, locked]
    rfl
  have second : u.step site.clock acquired = (looked, u) := by
    have ofSource := (Generation.lockTried_sameTask created (u.clock.sub site.clock)
      (.ok (some lease))).source
    simp only [step, finding]
    rw [ofSource]
    exact congrArg (fun found => (acquired.found found, u)) latest
  have third : u.step site.clock looked =
      (looked.read (.ok es), (u.entriesSince source (Generation.position previous)).2) := by
    simp only [step, reading, task.source]
    exact congrArg (fun read => (looked.read read, _)) readable
  refine ⟨looked.read (.ok es), n, task.trans (Generation.read_sameTask looked _), ?_, ?_⟩
  · rw [Generation.read_phase reading, task.filter]
    rfl
  · rw [generate, fuel, run_succ (by simp [Generation.create]) (by simp [Generation.create]),
      first, run_succ (by simp [finding]) (by simp [finding]), second,
      run_succ (by simp [reading]) (by simp [reading]), third]

/-- Without anything to publish the generator ends without a document. -/
theorem generate_of_uncut
    (granted : (site.tryLock source.lockName settings.lease).1 = .ok (some lease))
    (last : site.store.findLast source = .ok previous) (begins : kind = .snapshot ↔ previous = none)
    (readable : ((site.tryLock source.lockName settings.lease).2.entriesSince source
      (Generation.position previous)).1 = .ok es) {f : PublicationFilter}
    (uncut : Publishing.cut f previous es = none) (session : String) :
    (site.generate kind source f settings session).1.phase = .ended (.ok none) := by
  obtain ⟨g, n, _, phase, run⟩ := generate_read granted last begins readable f session
  rw [uncut] at phase
  rw [run, run_releasing phase]
  simp only [Generation.released, phase]

/-- A publication is due for a source: a generator that finds the latest version cuts it from the
log. -/
structure Due (site : Site) (kind : DocumentKind) (source : Source) (f : PublicationFilter)
    (previous : Option VersionInfo) (p : Publishing) : Prop where
  latest : site.store.findLast source = .ok previous
  begins : kind = .snapshot ↔ previous = none
  cut : Publishing.cut f previous
    (entriesAfter (site.entriesOf source) (Generation.position previous)) = some p

/-- Nothing stands in the way of the version after a given one: the lock is granted, the log can be
read, and no file has the row number or the name of the version. -/
structure Clear (site : Site) (source : Source) (settings : GenerationSettings)
    (session : String) (previous : Option VersionInfo) : Prop where
  granted : ∃ lease, (site.tryLock source.lockName settings.lease).1 = .ok (some lease)
  readable : ∃ es, ((site.tryLock source.lockName settings.lease).2.entriesSince source
    (Generation.position previous)).1 = .ok es
  free : ∀ file ∈ site.store.files, file.versionId ≠ site.store.lastVersionId + 1 ∧
    ∀ v : VersionInfo, v.source = source → v.Follows previous →
      (previous = none → v.session = session) → file.name ≠ v.fileName

theorem Due.of_sameRecords {t : Site} {f : PublicationFilter} {p : Publishing}
    (h : site.Due kind source f previous p) (same : site.SameRecords t) :
    t.Due kind source f previous p := by
  refine ⟨(same.findLast_eq source).trans h.latest, h.begins, ?_⟩
  rw [same.entriesOf_eq]
  exact h.cut

/-- A site has got one version and one file more: the next version of a source, with what was to be
published. -/
structure Publishes (site t : Site) (source : Source) (previous : Option VersionInfo)
    (p : Publishing) (d : Document) : Prop where
  body : d.body = p.body
  lastSerial : d.info.lastSerial = p.lastSerial
  source : d.info.source = source
  follows : d.info.Follows previous
  versions : t.store.versions = site.store.versions ++ [d.info.row]
  files : t.store.files = site.store.files ++ [Store.fileOf d]

/-- A generator that nothing stands in the way of publishes what is due. -/
theorem Due.generate {f : PublicationFilter} {session : String} {p : Publishing}
    (h : site.Due kind source f previous p) (clear : site.Clear source settings session previous) :
    ∃ d : Document,
      (site.generate kind source f settings session).1.phase = .ended (.ok (some d.published)) ∧
      site.Publishes (site.generate kind source f settings session).2 source previous p d := by
  obtain ⟨last, begins, cut⟩ := h
  obtain ⟨⟨lease, granted⟩, ⟨es, readable⟩, free⟩ := clear
  obtain ⟨g, n, task, phase, run⟩ := generate_read granted last begins readable f session
  have same := (site.tryLock_sameRecords source.lockName settings.lease).trans
    (entriesSince_sameRecords _ source (Generation.position previous))
  have read := entriesSince_eq_ok readable
  rw [(site.tryLock_sameRecords source.lockName settings.lease).entriesOf_eq] at read
  rw [read, cut] at phase
  -- the site from which the generator commits
  generalize ((site.tryLock source.lockName settings.lease).2.entriesSince source
    (Generation.position previous)).2 = t at run same
  obtain rfl := Publishing.previous_of_cut cut
  obtain ⟨next, inserts⟩ : ∃ next, p.next g (t.store.lastVersionId + 1) t.stamp = next := ⟨_, rfl⟩
  have follows : next.Follows p.previous := inserts ▸ p.next_follows g _ _
  have ofSource : next.source = source := by
    rw [← inserts, p.next_source g, Publishing.source]
    split
    · exact task.source
    · next v previous =>
      rw [previous] at last
      exact (Store.mem_of_findLast last).2
  have forward : ∀ v, p.previous = some v → v.lastSerial ≤ p.lastSerial := by
    intro v previous
    rw [previous] at cut
    obtain ⟨e, _, beyond, ends⟩ := Publishing.beyond_of_cut cut
    omega
  have unused : ∀ r ∈ t.store.versions, r.source = next.source → r.version ≠ next.version := by
    intro r hr here
    rw [same.versions] at hr
    obtain ⟨v, previous, below⟩ := Store.le_of_findLast last hr (here.trans ofSource)
    rw [previous] at follows
    have := follows.1
    omega
  have unoccupied : ∀ file ∈ t.store.files,
      file.versionId ≠ next.id ∧ file.name ≠ next.fileName := by
    intro file hf
    rw [same.files] at hf
    obtain ⟨place, name⟩ := free file hf
    refine ⟨?_, name next ofSource follows ?_⟩
    · rw [← inserts, p.next_id g, same.lastVersionId]
      exact place
    · intro first
      rw [← inserts, p.next_session g _ _ first]
      exact task.session
  have commit := Generation.commit_of_free inserts forward unused unoccupied
  refine ⟨⟨next, p.body⟩, ?_⟩
  have committed : (g.committed (.ok (Document.mk next p.body).published)).phase =
      .releasing lease (.ok (some (Document.mk next p.body).published)) := by
    simp only [Generation.committed, phase]
  rw [run, run_succ (by simp [phase]) (by simp [phase]), step_committing phase commit,
    run_releasing committed]
  refine ⟨?_, rfl, ?_, ofSource, follows, ?_, ?_⟩
  · simp only [Generation.released, committed]
  · rw [← inserts]
    exact p.next_lastSerial g _ _
  · rw [(releaseLock_sameRecords _ lease).versions, ← same.versions]
  · rw [(releaseLock_sameRecords _ lease).files, ← same.files]

end Site

end RegistryFeed
