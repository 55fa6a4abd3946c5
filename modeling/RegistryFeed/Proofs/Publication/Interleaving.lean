import RegistryFeed.Proofs.Store.Latest
import RegistryFeed.Proofs.Publication.Chain

/-!
# Generators in any order

An invariant of a shared site: the tables hold a list of documents in which
every document of a source continues the one before it, and every generator
carries either nothing or what was true at some moment of the past. One event
adds at most one document to the list. The past is the list of sites that events
have acted on, so the log as it was at each of them is a prefix of the present
one.
-/

namespace RegistryFeed

section Documents

variable (allowed : Source → PublicationFilter → Prop)

/-- A publication was cut from the log of a source, as it was at some moment of the past, after a
version. -/
def CutFrom (past : List Site) (source : Source) (before : Option VersionInfo)
    (p : Publishing) : Prop :=
  ∃ f t, allowed source f ∧ t ∈ past ∧
    Publishing.cut f before
      (entriesAfter (t.entriesOf source) (Generation.position before)) = some p

/-- A document is the next one after a version. -/
structure Continues (past : List Site) (source : Source) (before : Option VersionInfo)
    (d : Document) : Prop where
  follows : d.info.Follows before
  cut : ∃ p, CutFrom allowed past source before p ∧ d.body = p.body ∧
    d.info.lastSerial = p.lastSerial

/-- A version that was published for a source, if there is one at all. -/
def Known (docs : List Document) (source : Source) (before : Option VersionInfo) : Prop :=
  ∀ v, before = some v → ∃ d ∈ documentsOf docs source, d.info = v

/-- What a generator for a source hands out was published. -/
def Handed (docs : List Document) (source : Source) (result : GenerationResult) : Prop :=
  ∀ a, result = .ok (some a) → ∃ d ∈ documentsOf docs source, a = d.published

/-- What a generator for a source carries in a phase is true. -/
def Informed (past : List Site) (docs : List Document) (source : Source) :
    Generation.Phase → Prop
  | .reading _ before => Known docs source before
  | .committing _ p =>
    Known docs source p.previous ∧ CutFrom allowed past source p.previous p
  | .releasing _ result | .ended result => Handed docs source result
  | .locking _ | .finding _ | .fatal _ => True

/-- The tables of a site hold these documents, and the log has only grown. -/
structure Recorded (past : List Site) (docs : List Document) (site : Site) : Prop where
  versions : site.store.versions = docs.map (·.info.row)
  files : site.store.files = docs.map Store.fileOf
  grown : ∀ t ∈ past, ∀ source, t.entriesOf source <+: site.entriesOf source
  chains : ∀ source, Linked (Continues allowed past source) none (documentsOf docs source)

/-- The invariant of a shared site. -/
structure SharedSite.Sound (past : List Site) (docs : List Document) (s : SharedSite) :
    Prop where
  recorded : Recorded allowed past docs s.site
  fits : ∀ w ∈ s.workers, allowed w.generation.source w.generation.filter
  informed : ∀ w ∈ s.workers, Informed allowed past docs w.generation.source w.generation.phase

end Documents

variable {allowed : Source → PublicationFilter → Prop}

theorem CutFrom.mono {past more : List Site} {source : Source} {before : Option VersionInfo}
    {p : Publishing} (h : CutFrom allowed past source before p) :
    CutFrom allowed (past ++ more) source before p := by
  obtain ⟨f, t, hf, ht, hp⟩ := h
  exact ⟨f, t, hf, List.mem_append_left _ ht, hp⟩

theorem Continues.mono {past more : List Site} {source : Source} {before : Option VersionInfo}
    {d : Document} (h : Continues allowed past source before d) :
    Continues allowed (past ++ more) source before d := by
  obtain ⟨p, hp, hb, hl⟩ := h.cut
  exact ⟨h.follows, p, hp.mono, hb, hl⟩

theorem Continues.chainLink {past : List Site} {source : Source} {before : Option VersionInfo}
    {d : Document} (h : Continues allowed past source before d) : ChainLink before d := by
  refine ⟨h.follows, ?_⟩
  rintro v rfl
  obtain ⟨p, ⟨f, t, _, _, hp⟩, _, hl⟩ := h.cut
  obtain ⟨last, _, beyond, ends⟩ := Publishing.beyond_of_cut hp
  omega

theorem mem_documentsOf {docs : List Document} {source : Source} {d : Document} :
    d ∈ documentsOf docs source ↔ d ∈ docs ∧ d.info.source = source := by
  simp [documentsOf]

theorem mem_documentsOf_append {docs : List Document} (more : List Document) {source : Source}
    {d : Document} (h : d ∈ documentsOf docs source) : d ∈ documentsOf (docs ++ more) source := by
  obtain ⟨old, same⟩ := mem_documentsOf.mp h
  exact mem_documentsOf.mpr ⟨List.mem_append_left _ old, same⟩

theorem Known.mono {docs more : List Document} {source : Source} {before : Option VersionInfo}
    (h : Known docs source before) : Known (docs ++ more) source before := by
  intro v hv
  obtain ⟨d, hd, same⟩ := h v hv
  exact ⟨d, mem_documentsOf_append more hd, same⟩

theorem Handed.mono {docs more : List Document} {source : Source} {result : GenerationResult}
    (h : Handed docs source result) : Handed (docs ++ more) source result := by
  intro a ha
  obtain ⟨d, hd, same⟩ := h a ha
  exact ⟨d, mem_documentsOf_append more hd, same⟩

theorem Informed.mono {past morePast : List Site} {docs more : List Document} {source : Source}
    {phase : Generation.Phase} (h : Informed allowed past docs source phase) :
    Informed allowed (past ++ morePast) (docs ++ more) source phase := by
  cases phase with
  | locking w => trivial
  | finding l => trivial
  | fatal c => trivial
  | reading l before => exact Known.mono h
  | committing l p => exact ⟨h.1.mono, h.2.mono⟩
  | releasing l result => exact Handed.mono h
  | ended result => exact Handed.mono h

theorem Informed.of_unbound {past : List Site} {docs : List Document} {source : Source}
    {phase : Generation.Phase} (h : phase.Unbound) :
    Informed allowed past docs source phase := by
  cases phase with
  | locking w => trivial
  | finding l => trivial
  | fatal c => trivial
  | reading l before => exact h.elim
  | committing l p => exact h.elim
  | releasing l result => exact fun a ha => absurd ha (h a)
  | ended result => exact fun a ha => absurd ha (h a)

/-! ## What one event adds -/

namespace Recorded

variable {past : List Site} {docs : List Document} {site t : Site}

/-- What is added to the past is the site as it is. -/
theorem of_grown (h : Recorded allowed past docs site)
    (versions : t.store.versions = site.store.versions)
    (files : t.store.files = site.store.files)
    (grown : ∀ source, site.entriesOf source <+: t.entriesOf source) :
    Recorded allowed (past ++ [site]) docs t := by
  refine ⟨versions.trans h.versions, files.trans h.files, ?_, ?_⟩
  · intro u hu source
    rcases List.mem_append.mp hu with earlier | here
    · exact (h.grown u earlier source).trans (grown source)
    · rw [List.mem_singleton.mp here]
      exact grown source
  · intro source
    exact (h.chains source).mono fun b d => Continues.mono

theorem of_sameRecords (h : Recorded allowed past docs site) (same : site.SameRecords t) :
    Recorded allowed (past ++ [site]) docs t :=
  h.of_grown same.versions same.files same.entries_grow

/-- The latest version that is found was published. -/
theorem known_of_findLast (h : Recorded allowed past docs site) {source : Source}
    {before : Option VersionInfo} (found : site.store.findLast source = .ok before) :
    Known docs source before := by
  rintro v rfl
  obtain ⟨mem, ofSource⟩ := Store.mem_of_findLast found
  rw [h.versions] at mem
  obtain ⟨d, hd, same⟩ := List.mem_map.mp mem
  have info := VersionInfo.row_injective same
  refine ⟨d, mem_documentsOf.mpr ⟨hd, ?_⟩, info⟩
  rw [info]
  exact ofSource

theorem versionsOf_eq (h : Recorded allowed past docs site) (source : Source) :
    site.store.versionsOf source = (documentsOf docs source).map (·.info.row) := by
  rw [Store.versionsOf, h.versions, documentsOf, List.filter_map]
  rfl

theorem chainLinks (h : Recorded allowed past docs site) (source : Source) :
    Linked ChainLink none (documentsOf docs source) :=
  (h.chains source).mono fun _ _ => Continues.chainLink

/-- Only after the latest version of the source is the next row unused. -/
theorem newest_of_adds (h : Recorded allowed past docs site) {source : Source}
    {before : Option VersionInfo} {d : Document} {store : Store}
    (known : Known docs source before) (follows : d.info.Follows before)
    (ofSource : d.info.source = source) (adds : site.store.Adds d store) :
    before = newest none (documentsOf docs source) := by
  refine newest_of_unused (h.chainLinks source) ?_ ?_
  · cases before with
    | none => exact .inl rfl
    | some v =>
      obtain ⟨e, he, same⟩ := known v rfl
      exact .inr ⟨e, he, congrArg some same⟩
  · intro e he
    obtain ⟨mem, same⟩ := mem_documentsOf.mp he
    rw [← follows.version_eq]
    refine adds.unused e.info.row ?_ (same.trans ofSource.symm)
    rw [h.versions]
    exact List.mem_map_of_mem mem

theorem committed (h : Recorded allowed past docs site) {g : Generation} {p : Publishing}
    {a : Artifact} {store : Store} (known : Known docs g.source p.previous)
    (cut : CutFrom allowed past g.source p.previous p)
    (commit : g.commit p site.store site.stamp = .ok (a, store)) :
    a.info.source = g.source ∧
      Recorded allowed (past ++ [site]) (docs ++ [a.toDocument]) { site with store := store } := by
  obtain ⟨adds, body, lastSerial, source, follows⟩ := Generation.commit_eq_ok commit
  have ofSource : a.info.source = g.source := by
    refine source.trans (Publishing.source_eq rfl ?_)
    intro v hv
    obtain ⟨e, he, same⟩ := known v hv
    rw [← same]
    exact (mem_documentsOf.mp he).2
  have latest := h.newest_of_adds known follows ofSource adds
  have logs : ∀ other, { site with store := store }.entriesOf other = site.entriesOf other := by
    intro other
    exact (Site.logs_of_tables (b := { site with store := store }) adds.serials rfl other).1
  refine ⟨ofSource, ?_, ?_, ?_, ?_⟩
  · simp [adds.versions, h.versions]
  · simp [adds.files, h.files]
  · intro u hu other
    rw [logs other]
    rcases List.mem_append.mp hu with earlier | here
    · exact h.grown u earlier other
    · have now : u = site := List.mem_singleton.mp here
      subst now
      exact List.prefix_rfl
  · intro other
    have old : Linked (Continues allowed (past ++ [site]) other) none (documentsOf docs other) :=
      (h.chains other).mono fun _ _ => Continues.mono
    rw [documentsOf_concat]
    split
    · next same =>
      have same' : other = g.source := same.symm.trans ofSource
      subst same'
      refine old.concat ?_
      rw [← latest]
      exact ⟨follows, p, cut.mono, body, lastSerial⟩
    · rw [List.append_nil]
      exact old

/-- A move of a generator adds the document that it commits, if it commits one. -/
theorem move (h : Recorded allowed past docs site) {g : Generation} {phase : Generation.Phase}
    (informed : Informed allowed past docs g.source g.phase)
    (fits : allowed g.source g.filter) (m : Generation.Move site g phase t) :
    ∃ added, Recorded allowed (past ++ [site]) (docs ++ added) t ∧
      Informed allowed (past ++ [site]) (docs ++ added) g.source phase := by
  cases m with
  | quiet free same =>
    refine ⟨[], by simpa using h.of_sameRecords same, ?_⟩
    rcases free with stays | unbound
    · rw [stays]
      exact informed.mono
    · exact .of_unbound unbound
  | found finding last =>
    exact ⟨[], by simpa using h.of_sameRecords (.refl site), (h.known_of_findLast last).mono⟩
  | cut reading cut same =>
    rw [reading] at informed
    have previous := Publishing.previous_of_cut cut
    refine ⟨[], by simpa using h.of_sameRecords same, ?_⟩
    rw [Informed, previous]
    exact ⟨Known.mono informed, g.filter, site, fits, by simp, cut⟩
  | @committed lease p a store committing commit =>
    rw [committing] at informed
    obtain ⟨ofSource, recorded⟩ := h.committed informed.1 informed.2 commit
    refine ⟨[a.toDocument], recorded, ?_⟩
    intro b hb
    obtain rfl : a = b := by simpa using hb
    exact ⟨a.toDocument, mem_documentsOf.mpr ⟨by simp, ofSource⟩,
      Generation.published_of_commit commit⟩
  | released releasing same =>
    rw [releasing] at informed
    have ended : Informed allowed past docs g.source (.ended _) := informed
    exact ⟨[], by simpa using h.of_sameRecords same, ended.mono⟩

end Recorded

namespace SharedSite

variable {past : List Site} {docs : List Document} {s : SharedSite}

/-- The generators stay where they are while the log grows or time passes. -/
theorem Sound.of_grown (h : Sound allowed past docs s) {t : Site}
    (versions : t.store.versions = s.site.store.versions)
    (files : t.store.files = s.site.store.files)
    (grown : ∀ source, s.site.entriesOf source <+: t.entriesOf source) :
    Sound allowed (past ++ [s.site]) docs { s with site := t } := by
  refine ⟨h.recorded.of_grown versions files grown, h.fits, ?_⟩
  intro w hw
  have kept : Informed allowed (past ++ [s.site]) (docs ++ []) _ _ := (h.informed w hw).mono
  rw [List.append_nil] at kept
  exact kept

/-- A generator that begins uses a filter that is allowed for its source. -/
def Event.Fits (allowed : Source → PublicationFilter → Prop) : Event → Prop
  | .begin _ source filter _ _ => allowed source filter
  | _ => True

theorem Event.fits_all (e : Event) : e.Fits fun _ _ => True := by
  cases e <;> trivial

theorem Sound.effect (h : Sound allowed past docs s) {e : Event} {u : SharedSite}
    (fits : e.Fits allowed) (effect : Effect s e u) :
    ∃ added, Sound allowed (past ++ [s.site]) (docs ++ added) u := by
  cases effect with
  | begun kind source filter settings session =>
    have same := h.of_grown (t := s.site) rfl rfl (fun _ => List.prefix_rfl)
    refine ⟨[], ?_⟩
    rw [List.append_nil]
    refine ⟨same.recorded, ?_, ?_⟩
    · intro w hw
      rcases List.mem_append.mp hw with old | new
      · exact h.fits w old
      · rw [List.mem_singleton.mp new]
        exact fits
    · intro w hw
      rcases List.mem_append.mp hw with old | new
      · exact same.informed w old
      · rw [List.mem_singleton.mp new]
        trivial
  | @moved _ i w next t here same move =>
    have mem := List.mem_of_getElem? here
    obtain ⟨added, recorded, informed⟩ := h.recorded.move (h.informed w mem) (h.fits w mem) move
    refine ⟨added, recorded, ?_, ?_⟩
    · intro v hv
      rcases List.mem_or_eq_of_mem_set hv with other | rfl
      · exact h.fits v other
      · rw [same.source, same.filter]
        exact h.fits w mem
    · intro v hv
      rcases List.mem_or_eq_of_mem_set hv with other | rfl
      · exact (h.informed v other).mono
      · rw [same.source]
        exact informed
  | grown _ grows =>
    refine ⟨[], ?_⟩
    rw [List.append_nil]
    exact h.of_grown grows.versions grows.files grows.entries
  | passed same =>
    refine ⟨[], ?_⟩
    rw [List.append_nil]
    exact h.of_grown same.versions same.files same.entries_grow

/-- The sites that the events of a run act on. -/
def visited (s : SharedSite) : List Event → List Site
  | [] => []
  | e :: es => s.site :: visited (s.step e) es

theorem run_cons (s : SharedSite) (e : Event) (es : List Event) :
    s.run (e :: es) = (s.step e).run es := rfl

theorem run_append (s : SharedSite) (es more : List Event) :
    s.run (es ++ more) = (s.run es).run more := List.foldl_append

theorem Sound.run (h : Sound allowed past docs s) {es : List Event}
    (fits : ∀ e ∈ es, e.Fits allowed) :
    ∃ added, Sound allowed (past ++ visited s es) (docs ++ added) (s.run es) := by
  induction es generalizing past docs s with
  | nil => exact ⟨[], by simpa [visited, SharedSite.run] using h⟩
  | cons e es ih =>
    obtain ⟨first, stepped⟩ := h.effect (fits e List.mem_cons_self) (step_effect s e)
    obtain ⟨rest, sound⟩ := ih stepped fun x hx => fits x (List.mem_cons_of_mem _ hx)
    refine ⟨first ++ rest, ?_⟩
    rw [run_cons]
    simpa [visited] using sound

end SharedSite

/-- A site on which nothing has been published yet. -/
structure Site.Unpublished (site : Site) : Prop where
  versions : site.store.versions = []
  files : site.store.files = []

theorem Site.Unpublished.sound {site : Site} (h : site.Unpublished) :
    SharedSite.Sound allowed [] [] ⟨site, []⟩ := by
  refine ⟨⟨h.versions, h.files, ?_, fun _ => trivial⟩, ?_, ?_⟩
  · intro t ht
    cases ht
  · intro w hw
    cases hw
  · intro w hw
    cases hw

theorem Site.Unpublished.sound_run {site : Site} (h : site.Unpublished)
    {es : List SharedSite.Event} (fits : ∀ e ∈ es, e.Fits allowed) :
    ∃ docs, SharedSite.Sound allowed (SharedSite.visited ⟨site, []⟩ es) docs
      (SharedSite.run ⟨site, []⟩ es) := by
  obtain ⟨docs, sound⟩ := h.sound.run fits
  rw [List.nil_append, List.nil_append] at sound
  exact ⟨docs, sound⟩

theorem Recorded.versionChain {past : List Site} {docs : List Document} {site : Site}
    (h : Recorded allowed past docs site) (source : Source) :
    VersionChain (site.store.versionsOf source) := by
  rw [h.versionsOf_eq]
  exact (h.chainLinks source).versionChain

/-- Whatever the generators do in whatever order, the versions of every source are a chain at every
moment, and a row that is there at one moment stays as it is. -/
theorem versionChain_of_run {site : Site} (unpublished : site.Unpublished)
    (es more : List SharedSite.Event) (source : Source) :
    VersionChain ((SharedSite.run ⟨site, []⟩ es).site.store.versionsOf source) ∧
      (SharedSite.run ⟨site, []⟩ es).site.store.versions <+:
        (SharedSite.run ⟨site, []⟩ (es ++ more)).site.store.versions := by
  obtain ⟨docs, sound⟩ := unpublished.sound_run fun e (_ : e ∈ es) => e.fits_all
  obtain ⟨added, later⟩ := sound.run fun e (_ : e ∈ more) => e.fits_all
  refine ⟨sound.recorded.versionChain source, ?_⟩
  rw [SharedSite.run_append, later.recorded.versions, sound.recorded.versions]
  exact (List.prefix_append _ _).map _

/-! ## A lease that is taken over -/

/-- A site with nothing on it. -/
def Site.blank : Site := ⟨.empty, none, none, .zero, 0, 0⟩

def registry : Source := ⟨"TEST"⟩

/-- A generator loses its lease between reading and committing; the one that takes it over commits
first, and covers one more entry, which is not published. -/
def takeover : List SharedSite.Event :=
  let begin (kind : DocumentKind) : SharedSite.Event :=
    .begin kind registry .default .default "s"
  let record (objectType payload : String) : SharedSite.Event :=
    .append registry none .update objectType "k" (some payload)
  [record "route" "p", begin .snapshot, .turn 0, .turn 0, .turn 0, .turn 0, .turn 0,
    record "route" "q", begin .delta, .turn 1, .turn 1, .turn 1,
    .pass (.ofSeconds 300) 300000, record "person" "r",
    begin .delta, .turn 2, .turn 2, .turn 2, .turn 2, .turn 1]

theorem takeover_rows :
    (SharedSite.run ⟨.blank, []⟩ takeover).site.store.versions =
      [⟨1, registry, 1, "snapshot", 1, "s", 0⟩, ⟨2, registry, 2, "delta", 3, "s", 300000⟩] := by
  decide +kernel

theorem versionChain_of_takeover :
    Site.blank.Unpublished ∧
      VersionChain ((SharedSite.run ⟨.blank, []⟩ takeover).site.store.versionsOf registry) ∧
      [⟨1, registry, 1, "snapshot", 1, "s", 0⟩, ⟨2, registry, 2, "delta", 3, "s", 300000⟩] <+:
        (SharedSite.run ⟨.blank, []⟩ (takeover ++ [.turn 1, .turn 2])).site.store.versions := by
  have unpublished : Site.blank.Unpublished := ⟨rfl, rfl⟩
  obtain ⟨chain, kept⟩ := versionChain_of_run unpublished takeover [.turn 1, .turn 2] registry
  rw [takeover_rows] at kept
  exact ⟨unpublished, chain, kept⟩

end RegistryFeed
