import RegistryFeed.Proofs.Publication.Interleaving
import RegistryFeed.Proofs.Store.Parts

/-!
# Files under names of their own

A file name says of which version the file is, so generators of different versions
cannot want one name: what a transaction saves is never refused for its name, and
what has been saved stays under its own. The store is tidy when the run begins, and
then at every moment of it; sources may be called anything, and generators may fail,
lose their leases and overtake one another.
-/

namespace RegistryFeed

/-! ## Stores that stay tidy -/

theorem Store.Tidy.of_eq {s t : Store} (h : s.Tidy) (versions : t.versions = s.versions)
    (files : t.files = s.files) (last : t.lastVersionId = s.lastVersionId)
    (leases : t.leases = s.leases) : t.Tidy := by
  refine ⟨?_, ?_, ?_, ?_⟩
  · rw [versions, last]
    exact h.rows
  · rw [versions, files]
    exact h.filed
  · rw [files]
    exact h.names
  · rw [leases]
    exact h.locks

theorem Store.tidy_empty : Store.empty.Tidy := by
  constructor <;> simp [empty]

namespace Site

variable {site t : Site}

theorem tidy_tryLock (h : site.store.Tidy) (name : String) (ttl : Span) :
    (site.tryLock name ttl).2.store.Tidy := by
  unfold tryLock
  split
  · exact h
  · exact h.tryAcquire _ _ _ _

theorem tidy_releaseLock (h : site.store.Tidy) (lease : Lease) :
    (site.releaseLock lease).store.Tidy := by
  unfold releaseLock
  split
  · exact h
  · exact h.release lease

theorem entriesSince_store (source : Source) (after : Int) :
    (site.entriesSince source after).2.store = site.store := by
  unfold entriesSince
  split <;> rfl

end Site

namespace SharedSite

theorem tidy_turn {site t : Site} {g h : Generation} (tidy : site.store.Tidy)
    (turn : Generation.Turn site g h t) : t.store.Tidy := by
  cases turn with
  | tried => exact Site.tidy_tryLock tidy _ _
  | woken | found | refused | stays => exact tidy
  | read =>
    rw [Site.entriesSince_store]
    exact tidy
  | committed _ commit => exact tidy.adds (Generation.commit_eq_ok commit).1
  | released => exact Site.tidy_releaseLock tidy _

theorem tidy_step {s : SharedSite} (h : s.site.store.Tidy) (e : Event) :
    (s.step e).site.store.Tidy := by
  cases e with
  | begin | pass => exact h
  | turn worker =>
    simp only [step]
    split
    · next w here => exact tidy_turn h (takeTurn_turn s.site w)
    · exact h
  | fail worker error =>
    simp only [step]
    split <;> exact h
  | append source serial operation objectType primaryKey payload =>
    have same := record_sameOutsideLog s.site source serial operation objectType primaryKey payload
    exact h.of_eq same.versions same.files same.lastVersionId same.leases

theorem tidy_run {s : SharedSite} (h : s.site.store.Tidy) (es : List Event) :
    (s.run es).site.store.Tidy := by
  induction es generalizing s with
  | nil => exact h
  | cons e es ih => exact ih (tidy_step h e)

/-! ## Files that stay -/

theorem files_grow_of_move {site t : Site} {g : Generation} {phase : Generation.Phase}
    (m : Generation.Move site g phase t) : site.store.files <+: t.store.files := by
  cases m with
  | quiet _ same | cut _ _ same | released _ same => exact same.files ▸ List.prefix_rfl
  | found => exact List.prefix_rfl
  | committed _ commit =>
    rw [(Generation.commit_eq_ok commit).1.files]
    exact List.prefix_append _ _

theorem files_grow (s : SharedSite) (e : Event) :
    s.site.store.files <+: (s.step e).site.store.files := by
  have effect := step_effect s e
  generalize s.step e = t at effect ⊢
  cases effect with
  | begun => exact List.prefix_rfl
  | moved _ _ move => exact files_grow_of_move move
  | grown _ grows => exact grows.files ▸ List.prefix_rfl
  | passed same => exact same.files ▸ List.prefix_rfl

theorem files_grow_of_run (s : SharedSite) (es : List Event) :
    s.site.store.files <+: (s.run es).site.store.files := by
  induction es generalizing s with
  | nil => exact List.prefix_rfl
  | cons e es ih => exact (s.files_grow e).trans (ih (s.step e))

end SharedSite

/-- On a tidy store a transaction is refused for serials or for a number, and never for a name. -/
theorem Store.Tidy.commit_named {s : Store} (h : s.Tidy) (g : Generation) (p : Publishing)
    (now : Int) : g.commit p s now ≠ .error (.store (.violated .fileNameTaken)) := by
  intro taken
  rcases h.commit_eq g p now with ⟨error, refused, failed⟩ | ⟨-, t, made⟩
  · rw [taken] at failed
    obtain rfl := Except.error.inj failed
    cases p with
    | snapshot =>
      simp only [Publishing.refusal?] at refused
      split at refused <;> cases refused
    | delta =>
      simp only [Publishing.refusal?] at refused
      split at refused
      · cases refused
      · split at refused <;> cases refused
  · rw [taken] at made
    cases made

/-- Two versions have one file name exactly if they agree in kind, number, source and the beginning
of the session. So whatever generators do in whatever order on a store that began tidy, no
transaction is refused for the name of its file, no two files have one name, and a file that is
there stays as it is. -/
theorem names_apart :
    (∀ v w : VersionInfo, v.fileName = w.fileName ↔
      v.kind = w.kind ∧ v.version = w.version ∧ v.source = w.source ∧
        VersionInfo.sessionPrefix v.session = VersionInfo.sessionPrefix w.session) ∧
    ∀ s : SharedSite, s.site.store.Tidy → ∀ es : List SharedSite.Event,
      (∀ g p now, Generation.commit g p (s.run es).site.store now ≠
        .error (.store (.violated .fileNameTaken))) ∧
      ((s.run es).site.store.files.map (·.name)).Nodup ∧
      s.site.store.files <+: (s.run es).site.store.files := by
  refine ⟨?_, ?_⟩
  · intro v w
    constructor
    · exact VersionInfo.same_of_fileName
    · rintro ⟨kind, version, source, session⟩
      simp only [VersionInfo.fileName, kind, version, source, session]
  · intro s tidy es
    have later := SharedSite.tidy_run tidy es
    exact ⟨later.commit_named, later.names, s.files_grow_of_run es⟩

/-- A source that is called like the end of another name, and the files of a run with a takeover. -/
theorem names_apart_dotted :
    let a : VersionInfo := ⟨1, ⟨"R"⟩, 2, .delta, 5, "s", 0⟩
    let b : VersionInfo := ⟨2, ⟨"2.R"⟩, 2, .delta, 5, "s", 0⟩
    (a.fileName = "nrtm-delta.2.R.s.json" ∧ b.fileName = "nrtm-delta.2.2.R.s.json" ∧
      a.fileName ≠ b.fileName) ∧
    Site.blank.store.Tidy ∧
      ((SharedSite.run ⟨.blank, []⟩ takeover).site.store.files.map (·.name)).Nodup := by
  intro a b
  obtain ⟨apart, kept⟩ := names_apart
  refine ⟨⟨by decide +kernel, by decide +kernel, ?_⟩, Store.tidy_empty,
    (kept ⟨.blank, []⟩ Store.tidy_empty takeover).2.1⟩
  intro same
  exact absurd ((apart a b).mp same).2.2.1 (by decide)

end RegistryFeed
