import RegistryFeed.Proofs.Publication.Interleaving

/-!
# Versions and their files

A version and its file are written together, so on a site on which only
generators publish each version has one file, each file belongs to one version,
and the file says what the row says. The numbers of the rows only go up, which
is what keeps one version from being taken for another. Generators may fail, lose
their leases and overtake one another; nothing is assumed about their order.
-/

namespace RegistryFeed

/-- The kind of document that has such a list. -/
def DocumentBody.kind : DocumentBody → DocumentKind
  | .changes _ => .delta
  | .objects _ => .snapshot

/-- A file is the published form of a version row: it has the name of the version and the digest of
its own payload, and its payload is the JSON document that says what the row says. -/
structure FileRow.Publishes (f : FileRow) (r : VersionRow) : Prop where
  version : f.versionId = r.id
  name : ∃ v, r.info = .ok v ∧ f.name = v.fileName
  hash : f.hash = Sha256.hex f.payload
  payload : ∃ body : DocumentBody, body.kind.text = r.kind ∧
    f.payload = (Json.Value.object
      [("nrtm_version", .number 4), ("type", .string r.kind), ("source", .string r.source.name),
        ("version", .number r.version), ("last_serial_id", .number r.lastSerial),
        ("session_id", .string r.session), ("created_at", .number r.createdAt),
        body.toMember]).text

theorem Store.fileOf_publishes {d : Document} (fits : d.body.kind = d.info.kind) :
    (fileOf d).Publishes d.info.row := by
  refine ⟨rfl, ⟨d.info, d.info.info_row, rfl⟩, rfl, d.body, ?_, rfl⟩
  rw [fits]
  rfl

/-! ## The numbers of the rows -/

/-- The rows of a site are numbered upwards, and the last number given is above none of them. -/
structure Site.Numbered (site : Site) : Prop where
  ascending : site.store.versions.Pairwise fun a b => a.id < b.id
  bounded : ∀ r ∈ site.store.versions, r.id ≤ site.store.lastVersionId

namespace Site.Numbered

variable {site t : Site}

theorem of_eq (h : site.Numbered) (versions : t.store.versions = site.store.versions)
    (last : t.store.lastVersionId = site.store.lastVersionId) : t.Numbered := by
  refine ⟨?_, ?_⟩
  · rw [versions]
    exact h.ascending
  · rw [versions, last]
    exact h.bounded

theorem adds (h : site.Numbered) {d : Document} {store : Store} (adds : site.store.Adds d store) :
    Site.Numbered { site with store := store } := by
  have above : ∀ r ∈ site.store.versions, r.id < d.info.id := by
    intro r hr
    have := h.bounded r hr
    have := adds.id
    omega
  refine ⟨?_, ?_⟩
  · rw [adds.versions, List.pairwise_append]
    refine ⟨h.ascending, List.pairwise_singleton _ _, ?_⟩
    intro r hr n hn
    rw [List.mem_singleton.mp hn]
    exact above r hr
  · intro r hr
    rw [adds.versions] at hr
    rw [adds.lastVersionId]
    rcases List.mem_append.mp hr with old | new
    · exact Int.le_of_lt (above r old)
    · rw [List.mem_singleton.mp new]
      exact Int.le_refl _

theorem move (h : site.Numbered) {g : Generation} {phase : Generation.Phase}
    (m : Generation.Move site g phase t) : t.Numbered := by
  cases m with
  | quiet _ same => exact h.of_eq same.versions same.lastVersionId
  | found _ _ => exact h
  | cut _ _ same => exact h.of_eq same.versions same.lastVersionId
  | committed _ commit => exact h.adds (Generation.commit_eq_ok commit).1
  | released _ same => exact h.of_eq same.versions same.lastVersionId

end Site.Numbered

namespace SharedSite

theorem numbered_step {s : SharedSite} (h : s.site.Numbered) (e : Event) :
    (s.step e).site.Numbered := by
  cases e with
  | begin => exact h
  | turn worker =>
    simp only [step]
    split
    · next w here => exact h.move (takeTurn_move s.site w)
    · exact h
  | fail worker error =>
    simp only [step]
    split
    · exact h
    · exact h
  | append source serial operation objectType primaryKey payload =>
    have same := record_sameOutsideLog s.site source serial operation objectType primaryKey payload
    exact h.of_eq same.versions same.lastVersionId
  | pass span stamp => exact h.of_eq rfl rfl

theorem numbered_run {s : SharedSite} (h : s.site.Numbered) (es : List Event) :
    (s.run es).site.Numbered := by
  induction es generalizing s with
  | nil => exact h
  | cons e es ih => exact ih (numbered_step h e)

end SharedSite

theorem Site.Unpublished.numbered_run {site : Site} (h : site.Unpublished)
    (es : List SharedSite.Event) : (SharedSite.run ⟨site, []⟩ es).site.Numbered := by
  have start : site.Numbered := by
    constructor <;> simp [h.versions]
  exact SharedSite.numbered_run (s := ⟨site, []⟩) start es

/-! ## One file for each version -/

/-- Where keys go up, a key finds one element. -/
theorem filter_of_ascending {α : Type} {key : α → Int} {xs : List α} {x : α}
    (ascending : xs.Pairwise fun a b => key a < key b) (mem : x ∈ xs) :
    xs.filter (fun y => key y = key x) = [x] := by
  induction xs with
  | nil => cases mem
  | cons y ys ih =>
    obtain ⟨first, rest⟩ := List.pairwise_cons.mp ascending
    rcases List.mem_cons.mp mem with rfl | later
    · rw [List.filter_cons_of_pos (by simp), List.filter_eq_nil_iff.mpr]
      intro z hz
      have := first z hz
      simp only [decide_eq_true_eq]
      omega
    · have := first x later
      rw [List.filter_cons_of_neg (by simp only [decide_eq_true_eq]; omega), ih rest later]

variable {allowed : Source → PublicationFilter → Prop} {past : List Site} {docs : List Document}
  {site : Site}

theorem Continues.kind_eq {source : Source} {before : Option VersionInfo} {d : Document}
    (h : Continues allowed past source before d) : d.body.kind = d.info.kind := by
  obtain ⟨p, ⟨f, t, _, _, cut⟩, body, _⟩ := h.cut
  have previous := Publishing.previous_of_cut cut
  have follows := h.follows
  rw [body]
  cases p with
  | snapshot n objects =>
    obtain rfl : none = before := previous
    exact follows.2.symm
  | delta v n changes =>
    obtain rfl : some v = before := previous
    exact follows.2.1.symm

namespace Recorded

theorem kind_eq (h : Recorded allowed past docs site) {d : Document} (hd : d ∈ docs) :
    d.body.kind = d.info.kind := by
  have own : d ∈ documentsOf docs d.info.source := mem_documentsOf.mpr ⟨hd, rfl⟩
  obtain ⟨before, after, parts⟩ := List.append_of_mem own
  have linked := h.chains d.info.source
  rw [parts] at linked
  exact linked.next.kind_eq

/-- What the rows and the files of a document are found by. -/
theorem found_of_mem (h : Recorded allowed past docs site) (numbered : site.Numbered)
    {d : Document} (hd : d ∈ docs) :
    site.store.versions.filter (fun r => r.id = d.info.id) = [d.info.row] ∧
      site.store.files.filter (fun f => f.versionId = d.info.id) = [Store.fileOf d] := by
  have ascending : docs.Pairwise fun a b => a.info.id < b.info.id := by
    have rows := numbered.ascending
    rw [h.versions, List.pairwise_map] at rows
    exact rows
  have own := filter_of_ascending ascending hd
  constructor
  · rw [h.versions, List.filter_map]
    exact congrArg (List.map _) own
  · rw [h.files, List.filter_map]
    exact congrArg (List.map _) own

end Recorded

theorem SharedSite.Sound.published_of_result {s : SharedSite} (h : s.Sound allowed past docs)
    {a : Artifact} (answered : .ok (some a) ∈ s.results) : ∃ d ∈ docs, a = d.published := by
  obtain ⟨w, hw, ended⟩ := List.mem_filterMap.mp answered
  have informed := h.informed w hw
  split at ended
  · next result phase =>
    rw [phase] at informed
    obtain ⟨d, hd, same⟩ := informed a (Option.some.inj ended)
    exact ⟨d, (mem_documentsOf.mp hd).1, same⟩
  · cases ended

/-- Whatever the generators do in whatever order, every version has exactly one file, which says
what the version says, every file is that of exactly one version, and what a generator hands out
names the file that is in the store, with its digest and its payload. -/
theorem files_agree_of_run {site : Site} (unpublished : site.Unpublished)
    (es : List SharedSite.Event) :
    let s := SharedSite.run ⟨site, []⟩ es
    (∀ r ∈ s.site.store.versions, ∃ f,
      s.site.store.files.filter (fun x => x.versionId = r.id) = [f] ∧ f.Publishes r) ∧
    (∀ f ∈ s.site.store.files, ∃ r,
      s.site.store.versions.filter (fun x => x.id = f.versionId) = [r] ∧ f.Publishes r) ∧
    ∀ a, .ok (some a) ∈ s.results → a.info.row ∈ s.site.store.versions ∧
      ∃ f ∈ s.site.store.files, f.versionId = a.info.id ∧ a.savedName = some f.name ∧
        a.savedHash = some f.hash ∧ f.payload = a.text := by
  intro s
  obtain ⟨docs, sound⟩ := unpublished.sound_run fun e (_ : e ∈ es) => e.fits_all
  have recorded := sound.recorded
  have numbered : s.site.Numbered := unpublished.numbered_run es
  refine ⟨?_, ?_, ?_⟩
  · intro r hr
    rw [recorded.versions] at hr
    obtain ⟨d, hd, rfl⟩ := List.mem_map.mp hr
    exact ⟨Store.fileOf d, (recorded.found_of_mem numbered hd).2,
      Store.fileOf_publishes (recorded.kind_eq hd)⟩
  · intro f hf
    rw [recorded.files] at hf
    obtain ⟨d, hd, rfl⟩ := List.mem_map.mp hf
    exact ⟨d.info.row, (recorded.found_of_mem numbered hd).1,
      Store.fileOf_publishes (recorded.kind_eq hd)⟩
  · intro a answered
    obtain ⟨d, hd, rfl⟩ := sound.published_of_result answered
    rw [recorded.versions, recorded.files]
    exact ⟨List.mem_map_of_mem hd, Store.fileOf d, List.mem_map_of_mem hd, rfl, rfl, rfl, rfl⟩

/-- The delta that overtakes another one has its file. -/
theorem files_agree_of_takeover :
    Site.blank.Unpublished ∧ ∃ f,
      (SharedSite.run ⟨.blank, []⟩ takeover).site.store.files.filter (fun x => x.versionId = 2) =
        [f] ∧ f.Publishes ⟨2, registry, 2, "delta", 3, "s", 300000⟩ := by
  have unpublished : Site.blank.Unpublished := ⟨rfl, rfl⟩
  refine ⟨unpublished, ?_⟩
  refine (files_agree_of_run unpublished takeover).1 ⟨2, registry, 2, "delta", 3, "s", 300000⟩ ?_
  rw [takeover_rows]
  exact List.mem_cons_of_mem _ List.mem_cons_self

end RegistryFeed
