import RegistryFeed.Proofs.Store.Commit
import RegistryFeed.Publication.SharedSite

/-!
# What a turn of a generator does

A turn either commits one document or leaves the records of the site as they
are: versions, files and the log. Between its steps a generator carries what it
saw: the latest version, then what it has cut from the log. Neither the lock nor
the clock matters here, so nothing is assumed about leases.
-/

namespace RegistryFeed

/-! ## Reading the log -/

theorem filterMap_of_mapM_eq_ok {α β ε : Type} {f : α → Except ε β} {xs : List α}
    {ys : List β} (h : xs.mapM f = .ok ys) : xs.filterMap (fun x => (f x).toOption) = ys := by
  induction xs generalizing ys with
  | nil => cases h; rfl
  | cons x xs ih =>
    rw [List.mapM_cons] at h
    obtain ⟨y, hx, h⟩ := bind_eq_ok_iff.mp h
    obtain ⟨zs, hxs, h⟩ := bind_eq_ok_iff.mp h
    rw [← Except.ok.inj h, ← ih hxs]
    simp [hx, Except.toOption]

theorem mapM_eq_ok {α β ε : Type} {f : α → Except ε β} {g : α → β} {xs : List α}
    (h : ∀ x ∈ xs, f x = .ok (g x)) : xs.mapM f = .ok (xs.map g) := by
  induction xs with
  | nil => rfl
  | cons x xs ih =>
    rw [List.mapM_cons, h x List.mem_cons_self, ih fun y hy => h y (List.mem_cons_of_mem _ hy)]
    rfl

theorem SerialRow.serial_of_entry {r : SerialRow} {e : Entry} (h : r.entry = .ok e) :
    e.serial = r.serial := by
  unfold SerialRow.entry at h
  split at h
  · cases h; rfl
  · cases h

/-- Cutting off rows and cutting off the entries that they hold is the same. -/
theorem entriesAfter_filterMap (rows : List SerialRow) (after : Int) :
    entriesAfter (rows.filterMap fun r => r.entry.toOption) after =
      (rows.filter fun r => after < r.serial).filterMap fun r => r.entry.toOption := by
  induction rows with
  | nil => rfl
  | cons r rows ih =>
    unfold entriesAfter at ih ⊢
    cases he : r.entry with
    | error _ =>
      by_cases hr : after < r.serial
      · simpa [he, hr, Except.toOption] using ih
      · simpa [he, hr, Except.toOption] using ih
    | ok e =>
      have same := SerialRow.serial_of_entry he
      by_cases hr : after < r.serial
      · simpa [he, hr, same, Except.toOption] using ih
      · simpa [he, hr, same, Except.toOption] using ih

namespace Site

/-- Two sites with the same versions, files and log. -/
structure SameRecords (a b : Site) : Prop where
  versions : b.store.versions = a.store.versions
  files : b.store.files = a.store.files
  lastVersionId : b.store.lastVersionId = a.store.lastVersionId
  serials : b.store.serials = a.store.serials
  memory : b.memory.map (·.entries) = a.memory.map (·.entries)

theorem SameRecords.refl (a : Site) : SameRecords a a := ⟨rfl, rfl, rfl, rfl, rfl⟩

theorem SameRecords.trans {a b c : Site} (h : SameRecords a b) (k : SameRecords b c) :
    SameRecords a c :=
  ⟨k.versions.trans h.versions, k.files.trans h.files, k.lastVersionId.trans h.lastVersionId,
    k.serials.trans h.serials, k.memory.trans h.memory⟩

/-- The log is what the memory log holds, or else the rows of the store. -/
theorem logs_of_tables {a b : Site} (rows : b.store.serials = a.store.serials)
    (memory : b.memory.map (·.entries) = a.memory.map (·.entries)) (source : Source) :
    b.entriesOf source = a.entriesOf source ∧ b.serials source = a.serials source := by
  unfold entriesOf Site.serials
  cases ha : a.memory with
  | none =>
    cases hb : b.memory with
    | none => simp [Store.rowsOf, rows]
    | some l => simp [ha, hb] at memory
  | some k =>
    cases hb : b.memory with
    | none => simp [ha, hb] at memory
    | some l =>
      have entries : l.entries = k.entries := by simpa [ha, hb] using memory
      simp [MemoryLog.entriesOf, entries]

theorem SameRecords.entriesOf_eq {a b : Site} (h : SameRecords a b) (source : Source) :
    b.entriesOf source = a.entriesOf source := (logs_of_tables h.serials h.memory source).1

theorem SameRecords.entries_grow {a b : Site} (h : SameRecords a b) (source : Source) :
    a.entriesOf source <+: b.entriesOf source :=
  ⟨[], by rw [List.append_nil, h.entriesOf_eq source]⟩

theorem SameRecords.serials_eq {a b : Site} (h : SameRecords a b) (source : Source) :
    b.serials source = a.serials source := (logs_of_tables h.serials h.memory source).2

theorem SameRecords.findLast_eq {a b : Site} (h : SameRecords a b) (source : Source) :
    b.store.findLast source = a.store.findLast source := by
  simp only [Store.findLast, Store.chain, Store.versionsOf, h.versions]

theorem tryLock_sameRecords (site : Site) (name : String) (ttl : Span) :
    site.SameRecords (site.tryLock name ttl).2 := by
  unfold tryLock
  split
  · exact ⟨rfl, rfl, rfl, rfl, rfl⟩
  · simp only [Store.tryAcquire]
    split
    · split <;> exact ⟨rfl, rfl, rfl, rfl, rfl⟩
    · exact ⟨rfl, rfl, rfl, rfl, rfl⟩

theorem releaseLock_sameRecords (site : Site) (lease : Lease) :
    site.SameRecords (site.releaseLock lease) := by
  unfold releaseLock
  split <;> exact ⟨rfl, rfl, rfl, rfl, rfl⟩

theorem entriesSince_sameRecords (site : Site) (source : Source) (after : Int) :
    site.SameRecords (site.entriesSince source after).2 := by
  unfold entriesSince
  split
  · next log hm =>
    refine ⟨rfl, rfl, rfl, rfl, ?_⟩
    simp only [MemoryLog.entriesSince, MemoryLog.beginRead, hm, Option.map_some]
    split <;> rfl
  · exact .refl site

/-- What is read is all that the log has after the position. -/
theorem entriesSince_eq_ok {site : Site} {source : Source} {after : Int} {es : List Entry}
    (h : (site.entriesSince source after).1 = .ok es) :
    es = entriesAfter (site.entriesOf source) after := by
  cases hm : site.memory with
  | some log =>
    have entries : site.entriesOf source = log.entriesOf source := by
      simp only [entriesOf, hm]
    rw [entries]
    simp only [entriesSince, hm, MemoryLog.entriesSince] at h
    split at h
    · cases h
      simp only [MemoryLog.beginRead, MemoryLog.entriesOf]
      split <;> rfl
    · cases h
  | none =>
    have entries : site.entriesOf source =
        (site.store.rowsOf source).filterMap fun r => r.entry.toOption := by
      simp only [entriesOf, hm]
    simp only [entriesSince, hm, Store.entriesSince, Store.rowsAfter] at h
    rw [entries, entriesAfter_filterMap]
    exact (filterMap_of_mapM_eq_ok h).symm

end Site

/-! ## Cutting a publication -/

/-- What is published of the entries read after a version: all their objects if
there is no version, else their changes if there are any. -/
def Publishing.cut (f : PublicationFilter) (previous : Option VersionInfo)
    (entries : List Entry) : Option Publishing :=
  match previous with
  | none => some (.snapshot (((entries.getLast?).map (·.serial)).getD beforeFirstSerial)
      (f.objects entries))
  | some v =>
    match entries.getLast? with
    | none => none
    | some last =>
      if (f.changes entries).isEmpty then none
      else some (.delta v last.serial (f.changes entries))

theorem Publishing.previous_of_cut {f : PublicationFilter} {previous : Option VersionInfo}
    {entries : List Entry} {p : Publishing} (h : Publishing.cut f previous entries = some p) :
    p.previous = previous := by
  unfold Publishing.cut at h
  split at h
  · cases h; rfl
  · split at h
    · cases h
    · split at h
      · cases h
      · cases h; rfl

theorem Publishing.cut_some_eq_some {f : PublicationFilter} {v : VersionInfo}
    {entries : List Entry} {p : Publishing} (h : Publishing.cut f (some v) entries = some p) :
    ∃ last, entries.getLast? = some last ∧ f.changes entries ≠ [] ∧
      p = .delta v last.serial (f.changes entries) := by
  simp only [Publishing.cut] at h
  split at h
  · cases h
  · next last hl =>
    split at h
    · cases h
    · next some =>
      cases h
      exact ⟨last, hl, fun none => some (by rw [none]; rfl), rfl⟩

/-- A delta needs an entry beyond the version it follows, and ends with that entry. -/
theorem Publishing.beyond_of_cut {f : PublicationFilter} {v : VersionInfo} {log : List Entry}
    {p : Publishing} (h : Publishing.cut f (some v)
      (entriesAfter log (Generation.position (some v))) = some p) :
    ∃ last ∈ log, v.lastSerial < last.serial ∧ p.lastSerial = last.serial := by
  obtain ⟨last, hl, _, rfl⟩ := Publishing.cut_some_eq_some h
  obtain ⟨mem, beyond⟩ := List.mem_filter.mp (List.mem_of_getLast? hl)
  exact ⟨last, mem, of_decide_eq_true beyond, rfl⟩

namespace Generation

/-- A phase in which a generator carries nothing from the records of the site. -/
def Phase.Unbound : Phase → Prop
  | .locking _ | .finding _ | .fatal _ => True
  | .reading _ _ | .committing _ _ => False
  | .releasing _ result | .ended result => ∀ a, result ≠ .ok (some a)

/-- The moves of a generator between its phases, with the site after each. It is quiet if it stays,
waits on, fails, or finds nothing to publish. -/
inductive Move (site : Site) (g : Generation) : Phase → Site → Prop
  | quiet {phase : Phase} {t : Site} (free : phase = g.phase ∨ phase.Unbound)
      (same : site.SameRecords t) : Move site g phase t
  | found {lease : Lease} {previous : Option VersionInfo} (finding : g.phase = .finding lease)
      (last : site.store.findLast g.source = .ok previous) :
      Move site g (.reading lease previous) site
  | cut {lease : Lease} {previous : Option VersionInfo} {p : Publishing} {t : Site}
      (reading : g.phase = .reading lease previous)
      (cut : Publishing.cut g.filter previous
        (entriesAfter (site.entriesOf g.source) (position previous)) = some p)
      (same : site.SameRecords t) : Move site g (.committing lease p) t
  | committed {lease : Lease} {p : Publishing} {a : Artifact} {store : Store}
      (committing : g.phase = .committing lease p)
      (commit : g.commit p site.store site.stamp = .ok (a, store)) :
      Move site g (.releasing lease (.ok (some a))) { site with store := store }
  | released {lease : Lease} {result : GenerationResult} {t : Site}
      (releasing : g.phase = .releasing lease result) (same : site.SameRecords t) :
      Move site g (.ended result) t

/-- Two generators for the same publication of the same source. -/
structure SameTask (g h : Generation) : Prop where
  kind : h.kind = g.kind
  source : h.source = g.source
  filter : h.filter = g.filter
  session : h.session = g.session

theorem SameTask.refl (g : Generation) : SameTask g g := ⟨rfl, rfl, rfl, rfl⟩

theorem SameTask.trans {f g h : Generation} (a : SameTask f g) (b : SameTask g h) :
    SameTask f h :=
  ⟨b.kind.trans a.kind, b.source.trans a.source, b.filter.trans a.filter,
    b.session.trans a.session⟩

theorem waited_unbound (g : Generation) (w : LockWait) : (g.waited w).phase.Unbound := by
  unfold waited
  simp only
  split
  · trivial
  · intro a h; cases h
  · trivial
  · trivial

theorem waited_sameTask (g : Generation) (w : LockWait) : SameTask g (g.waited w) := by
  unfold waited
  simp only
  split <;> exact ⟨rfl, rfl, rfl, rfl⟩

theorem lockTried_unbound {g : Generation} {w : LockWait} (h : g.phase = .locking w)
    (elapsed : Span) (result : Except EngineError (Option Lease)) :
    (g.lockTried elapsed result).phase.Unbound := by
  simp only [lockTried, h]
  exact waited_unbound g _

theorem lockTried_sameTask (g : Generation) (elapsed : Span)
    (result : Except EngineError (Option Lease)) : SameTask g (g.lockTried elapsed result) := by
  unfold lockTried
  split
  · exact waited_sameTask g _
  · exact .refl g

theorem woken_sameTask (g : Generation) : SameTask g g.woken := by
  unfold woken
  split
  · exact waited_sameTask g _
  · exact .refl g

theorem found_sameTask (g : Generation) (result : Except EngineError (Option VersionInfo)) :
    SameTask g (g.found result) := by
  unfold found
  split
  · exact ⟨rfl, rfl, rfl, rfl⟩
  · exact .refl g

theorem read_sameTask (g : Generation) (result : Except EngineError (List Entry)) :
    SameTask g (g.read result) := by
  unfold read
  split
  · split
    · exact ⟨rfl, rfl, rfl, rfl⟩
    · exact ⟨rfl, rfl, rfl, rfl⟩
    · split
      · exact ⟨rfl, rfl, rfl, rfl⟩
      · simp only
        split <;> exact ⟨rfl, rfl, rfl, rfl⟩
  · exact .refl g

theorem committed_sameTask (g : Generation) (result : Except EngineError Artifact) :
    SameTask g (g.committed result) := by
  unfold committed
  split <;> exact ⟨rfl, rfl, rfl, rfl⟩

theorem released_sameTask (g : Generation) : SameTask g g.released := by
  unfold released
  split <;> exact ⟨rfl, rfl, rfl, rfl⟩

theorem found_move {site : Site} {g : Generation} {lease : Lease} (h : g.phase = .finding lease)
    {result : Except EngineError (Option VersionInfo)}
    (honest : ∀ v, result = .ok v → site.store.findLast g.source = .ok v) :
    Move site g (g.found result).phase site := by
  simp only [found, h]
  cases result with
  | error e => cases g.kind <;> exact .quiet (.inr (by intro a ha; cases ha)) (.refl site)
  | ok previous =>
    have hp := honest previous rfl
    cases g.kind with
    | snapshot =>
      cases previous with
      | none => exact .found h hp
      | some v => exact .quiet (.inr (by intro a ha; cases ha)) (.refl site)
    | delta =>
      cases previous with
      | none => exact .quiet (.inr (by intro a ha; cases ha)) (.refl site)
      | some v => exact .found h hp

/-- A generator goes on with what it can cut from the entries it reads. -/
theorem read_phase {g : Generation} {lease : Lease} {previous : Option VersionInfo}
    (h : g.phase = .reading lease previous) (es : List Entry) :
    (g.read (.ok es)).phase =
      match Publishing.cut g.filter previous es with
      | some p => .committing lease p
      | none => .releasing lease (.ok none) := by
  simp only [read, h]
  cases previous with
  | none => rfl
  | some v =>
    simp only [Publishing.cut]
    cases es.getLast? with
    | none => rfl
    | some last =>
      simp only
      split <;> rfl

theorem read_move {site t : Site} {g : Generation} {lease : Lease}
    {previous : Option VersionInfo} (h : g.phase = .reading lease previous)
    {result : Except EngineError (List Entry)} (same : site.SameRecords t)
    (honest : ∀ es, result = .ok es →
      es = entriesAfter (site.entriesOf g.source) (position previous)) :
    Move site g (g.read result).phase t := by
  cases result with
  | error e =>
    simp only [read, h]
    exact .quiet (.inr (by intro a ha; cases ha)) same
  | ok es =>
    rw [read_phase h es]
    have hes := honest es rfl
    cases hc : Publishing.cut g.filter previous es with
    | none => exact .quiet (.inr (by intro a ha; cases ha)) same
    | some p => exact .cut h (by rw [← hes]; exact hc) same

theorem released_move {site t : Site} {g : Generation} {lease : Lease} {result : GenerationResult}
    (h : g.phase = .releasing lease result) (same : site.SameRecords t) :
    Move site g g.released.phase t := by
  simp only [released, h]
  exact .released h same

/-- No move of a generator touches the log. -/
theorem Move.logs_eq {site t : Site} {g : Generation} {phase : Phase} (m : Move site g phase t)
    (source : Source) :
    t.entriesOf source = site.entriesOf source ∧ t.serials source = site.serials source := by
  cases m with
  | quiet _ same => exact ⟨same.entriesOf_eq source, same.serials_eq source⟩
  | found _ _ => exact ⟨rfl, rfl⟩
  | cut _ _ same => exact ⟨same.entriesOf_eq source, same.serials_eq source⟩
  | @committed lease p a store _ commit =>
    have serials := (commit_eq_ok commit).1.serials
    exact Site.logs_of_tables (b := { site with store := store }) serials rfl source
  | released _ same => exact ⟨same.entriesOf_eq source, same.serials_eq source⟩

/-- The steps of a generator, with the generator and the site after each. It stays if it has ended,
or nothing more can come of its wait. -/
inductive Turn (site : Site) (g : Generation) : Generation → Site → Prop
  | tried {w : LockWait} (locking : g.phase = .locking w) (trying : w.phase = .trying)
      (elapsed : Span) :
      Turn site g (g.lockTried elapsed (site.tryLock w.name w.ttl).1)
        (site.tryLock w.name w.ttl).2
  | woken {w : LockWait} (locking : g.phase = .locking w) : Turn site g g.woken site
  | found {lease : Lease} (finding : g.phase = .finding lease) :
      Turn site g (g.found (site.store.findLast g.source)) site
  | read {lease : Lease} {previous : Option VersionInfo}
      (reading : g.phase = .reading lease previous) :
      Turn site g (g.read (site.entriesSince g.source (position previous)).1)
        (site.entriesSince g.source (position previous)).2
  | committed {lease : Lease} {p : Publishing} {a : Artifact} {store : Store}
      (committing : g.phase = .committing lease p)
      (commit : g.commit p site.store site.stamp = .ok (a, store)) :
      Turn site g (g.committed (.ok a)) { site with store := store }
  | refused {lease : Lease} {p : Publishing} (committing : g.phase = .committing lease p)
      (error : EngineError) : Turn site g (g.committed (.error error)) site
  | released {lease : Lease} {result : GenerationResult}
      (releasing : g.phase = .releasing lease result) :
      Turn site g g.released (site.releaseLock lease)
  | stays : Turn site g g site

namespace Turn

variable {site t : Site} {g h : Generation}

theorem sameTask (turn : Turn site g h t) : SameTask g h := by
  cases turn with
  | tried => exact lockTried_sameTask g _ _
  | woken => exact woken_sameTask g
  | found => exact found_sameTask g _
  | read => exact read_sameTask g _
  | committed => exact committed_sameTask g _
  | refused => exact committed_sameTask g _
  | released => exact released_sameTask g
  | stays => exact .refl g

theorem move (turn : Turn site g h t) : Move site g h.phase t := by
  cases turn with
  | tried locking =>
    exact .quiet (.inr (lockTried_unbound locking _ _)) (site.tryLock_sameRecords _ _)
  | woken locking =>
    simp only [Generation.woken, locking]
    exact .quiet (.inr (waited_unbound _ _)) (.refl site)
  | found finding => exact found_move finding fun v hv => hv
  | read reading =>
    exact read_move reading (site.entriesSince_sameRecords _ _) fun es hes =>
      Site.entriesSince_eq_ok hes
  | committed committing commit =>
    simp only [Generation.committed, committing]
    exact .committed committing commit
  | refused committing error =>
    simp only [Generation.committed, committing]
    exact .quiet (.inr (by intro a ha; cases ha)) (.refl site)
  | released releasing => exact released_move releasing (site.releaseLock_sameRecords _)
  | stays => exact .quiet (.inl rfl) (.refl site)

end Turn

end Generation

namespace SharedSite

open Generation

theorem takeTurn_turn (site : Site) (w : Worker) :
    Turn site w.generation (takeTurn site w).1.generation (takeTurn site w).2 := by
  unfold takeTurn
  split
  · next h => exact .woken h
  · next awake =>
    simp only [Site.step]
    split
    · next wait h =>
      split
      · next trying => exact .tried h trying _
      · next delay sleeping =>
        obtain ⟨name, ttl, timeout, retry, attempts, phase, observed⟩ := wait
        obtain rfl : phase = .sleeping delay := sleeping
        exact absurd h (awake _ _ _ _ _ _ _)
      · exact .stays
    · next lease h => exact .found h
    · next lease previous h => exact .read h
    · next lease p h =>
      cases hc : w.generation.commit p site.store site.stamp with
      | error e => exact .refused h e
      | ok r => exact .committed h hc
    · next lease result h => exact .released h
    · exact .stays
    · exact .stays

theorem takeTurn_sameTask (site : Site) (w : Worker) :
    SameTask w.generation (takeTurn site w).1.generation := (takeTurn_turn site w).sameTask

theorem takeTurn_move (site : Site) (w : Worker) :
    Move site w.generation (takeTurn site w).1.generation.phase (takeTurn site w).2 :=
  (takeTurn_turn site w).move

theorem failTurn_sameTask (site : Site) (w : Worker) (error : EngineError) :
    SameTask w.generation (failTurn site w error).generation := by
  unfold failTurn
  simp only
  split
  · exact lockTried_sameTask w.generation _ _
  · exact found_sameTask w.generation _
  · exact read_sameTask w.generation _
  · exact committed_sameTask w.generation _
  · exact released_sameTask w.generation
  · exact .refl w.generation
  · exact .refl w.generation

theorem failTurn_move (site : Site) (w : Worker) (error : EngineError) :
    Move site w.generation (failTurn site w error).generation.phase site := by
  unfold failTurn
  simp only
  split
  · next wait h => exact .quiet (.inr (lockTried_unbound h _ _)) (.refl site)
  · next lease h => exact found_move h (fun v hv => by cases hv)
  · next lease previous h => exact read_move h (.refl site) (fun es hes => by cases hes)
  · next lease p h =>
    simp only [committed, h]
    exact .quiet (.inr (by intro a ha; cases ha)) (.refl site)
  · next lease result h => exact released_move h (.refl site)
  · exact .quiet (.inl rfl) (.refl site)
  · exact .quiet (.inl rfl) (.refl site)

end SharedSite

end RegistryFeed
