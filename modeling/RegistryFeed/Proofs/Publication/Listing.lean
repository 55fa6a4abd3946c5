import Mathlib.Data.List.Basic
import RegistryFeed.Proofs.Publication.Agreement
import RegistryFeed.Proofs.Publication.Quiet
import RegistryFeed.Publication.Notification

/-!
# What a notification lists

A notification is made of two reads. The files that it lists are those of the
chain at the second read, the version that it names is that of the chain at the
first one. So it shows one state of the chain exactly when nothing was committed
for its source between the two. Generators may be at any of their steps then;
nothing is assumed about what they do before, between or after the reads.
-/

namespace RegistryFeed

/-- The reference to the file of a document. -/
def Document.reference (d : Document) : FileReference :=
  ⟨d.info.version, d.info.kind, d.fileName, d.hash⟩

namespace Notification

/-- All files that are listed. -/
def entries (n : Notification) : List NotificationEntry := n.snapshot :: n.deltas

/-- The version is the highest one among the files that are listed. -/
def ShowsOneState (n : Notification) : Prop :=
  (∃ e ∈ n.entries, e.version = n.version) ∧ ∀ e ∈ n.entries, e.version ≤ n.version

end Notification

/-- The files of all versions of a source, as a notification lists them. -/
def Store.listing (s : Store) (source : Source) : List NotificationEntry :=
  (s.versionsOf source).flatMap fun r =>
    (s.files.filter fun f => f.versionId = r.id).map fun f => ⟨r.version, f.name, f.hash⟩

/-! ## The references of a chain -/

namespace Store

variable {s : Store} {docs : List Document} {bare : List VersionRow}

theorem reference_row (d : Document) : reference d.info.row (fileOf d) = .ok d.reference := by
  simp only [reference, VersionInfo.row, DocumentKind.ofText_text]
  rfl

/-- What is found through rows of which some have the files of documents and the others none. -/
theorem flatMap_files {α : Type} (g : VersionRow → FileRow → α)
    (filed : ∀ d ∈ docs, s.files.filter (fun f => f.versionId = d.info.id) = [fileOf d])
    (unfiled : ∀ r ∈ bare, s.files.filter (fun f => f.versionId = r.id) = []) :
    (docs.map (·.info.row) ++ bare).flatMap
        (fun r => (s.files.filter fun f => f.versionId = r.id).map (g r)) =
      docs.map fun d => g d.info.row (fileOf d) := by
  have nothing : bare.flatMap
      (fun r => (s.files.filter fun f => f.versionId = r.id).map (g r)) = [] := by
    rw [List.flatMap_eq_nil_iff]
    intro r hr
    rw [unfiled r hr, List.map_nil]
  have each : ∀ d ∈ docs,
      (s.files.filter fun f => f.versionId = d.info.row.id).map (g d.info.row) =
        [g d.info.row (fileOf d)] := by
    intro d hd
    exact congrArg (List.map (g d.info.row)) (filed d hd)
  rw [List.flatMap_append, nothing, List.append_nil, List.flatMap_map, List.flatMap_congr each,
    ← List.map_eq_flatMap]

theorem listReferences_eq {source : Source} {session : String}
    (chain : s.chain source = docs.map (·.info.row) ++ bare)
    (own : ∀ r ∈ s.chain source, r.session = session)
    (filed : ∀ d ∈ docs, s.files.filter (fun f => f.versionId = d.info.id) = [fileOf d])
    (unfiled : ∀ r ∈ bare, s.files.filter (fun f => f.versionId = r.id) = []) :
    s.listReferences source session = .ok (docs.map Document.reference) := by
  have rows : (s.chain source).filter (fun r => r.session = session) = s.chain source := by
    refine List.filter_eq_self.mpr ?_
    intro r hr
    exact decide_eq_true (own r hr)
  have pairs := Store.flatMap_files Prod.mk filed unfiled
  rw [listReferences, rows, chain, pairs, List.mapM_map]
  exact mapM_eq_ok fun d _ => reference_row d

end Store

/-! ## The notification of a chain -/

theorem Notification.ofFiles_eq {d : Document} {ds : List Document}
    (linked : Linked ChainLink none (d :: ds)) (source : Source) (latest : VersionInfo) :
    Notification.ofFiles source latest ((d :: ds).map Document.reference) =
      .ok ⟨source, latest.session, latest.version, entryOf d.reference,
        ds.map fun x => entryOf x.reference⟩ := by
  have first : d.reference.kind = .snapshot := linked.1.follows.2
  have others : ∀ r ∈ ds.map Document.reference, r.kind = .delta := by
    intro r hr
    obtain ⟨x, hx, rfl⟩ := List.mem_map.mp hr
    exact (linked.2.after x hx).2.1
  have snapshots : (ds.map Document.reference).filter (fun f => f.kind = .snapshot) = [] := by
    rw [List.filter_eq_nil_iff]
    intro r hr
    simp [others r hr]
  have deltas : (ds.map Document.reference).filter (fun f => f.kind = .delta) =
      ds.map Document.reference := by
    rw [List.filter_eq_self]
    intro r hr
    simp [others r hr]
  simp only [ofFiles, List.map_cons]
  rw [List.filter_cons_of_pos (by simp [first]), List.filter_cons_of_neg (by simp [first]),
    snapshots, deltas, List.map_map]
  rfl

theorem Notification.buildBetween_of_reads {before after : Store} {source : Source}
    {latest : VersionInfo} {ds : List Document} (linked : Linked ChainLink none ds)
    (present : ds ≠ []) (found : before.findLast source = .ok (some latest))
    (references : after.listReferences source latest.session =
      .ok (ds.map Document.reference)) :
    ∃ n, Notification.buildBetween before after source = .ok (some n) ∧
      n.version = latest.version ∧ n.session = latest.session ∧
      n.entries = ds.map fun d => entryOf d.reference := by
  cases ds with
  | nil => exact absurd rfl present
  | cons d ds =>
    have listed := ofFiles_eq linked source latest
    have built : buildBetween before after source =
        .ok (some ⟨source, latest.session, latest.version, entryOf d.reference,
          ds.map fun x => entryOf x.reference⟩) := by
      simp only [buildBetween, found, references, listed, bind, Except.bind, pure, Except.pure]
    exact ⟨_, built, rfl, rfl, rfl⟩

variable {allowed : Source → PublicationFilter → Prop} {past : List Site} {docs : List Document}
  {site : Site} {source : Source}

theorem newest_eq_some {ds : List Document} {latest : VersionInfo}
    (last : newest none ds = some latest) : ∃ init d, ds = init ++ [d] ∧ d.info = latest := by
  rw [newest_none, Option.map_eq_some_iff] at last
  obtain ⟨d, ends, same⟩ := last
  obtain ⟨init, parts⟩ := List.getLast?_eq_some_iff.mp ends
  exact ⟨init, d, parts, same⟩

theorem Linked.le_newest {ds : List Document} (linked : Linked ChainLink none ds)
    {latest : VersionInfo} (last : newest none ds = some latest) :
    ∀ d ∈ ds, d.info.version ≤ latest.version := by
  obtain ⟨init, e, rfl, rfl⟩ := newest_eq_some last
  intro d hd
  rcases List.mem_append.mp hd with earlier | here
  · have := (List.pairwise_append.mp linked.ascending).2.2 d earlier e List.mem_cons_self
    omega
  · obtain rfl := List.mem_singleton.mp here
    exact Int.le_refl _

theorem Linked.newest_lt {first more : List Document}
    (linked : Linked ChainLink none (first ++ more)) {latest : VersionInfo}
    (last : newest none first = some latest) : ∀ d ∈ more, latest.version < d.info.version := by
  obtain ⟨init, e, rfl, rfl⟩ := newest_eq_some last
  intro d hd
  have mem : e ∈ init ++ [e] := List.mem_append_right _ List.mem_cons_self
  exact ((List.pairwise_append.mp linked.ascending).2.2 e mem d hd).1

/-- A notification that names a version of a chain and lists the files of the chain shows one state
if nothing comes after that version. -/
theorem Notification.showsOneState_iff {n : Notification} {first more : List Document}
    (linked : Linked ChainLink none (first ++ more)) {latest : VersionInfo}
    (last : newest none first = some latest) (version : n.version = latest.version)
    (entries : n.entries = (first ++ more).map fun d => entryOf d.reference) :
    n.ShowsOneState ↔ more = [] := by
  rw [ShowsOneState, entries, version]
  constructor
  · rintro ⟨_, bound⟩
    rw [List.eq_nil_iff_forall_not_mem]
    intro d hd
    have above := linked.newest_lt last d hd
    have := bound _ (List.mem_map_of_mem (List.mem_append_right first hd))
    exact absurd above (Int.not_lt.mpr this)
  · rintro rfl
    rw [List.append_nil] at linked ⊢
    constructor
    · obtain ⟨init, e, rfl, rfl⟩ := newest_eq_some last
      exact ⟨_, List.mem_map_of_mem (List.mem_append_right _ List.mem_cons_self), rfl⟩
    · exact List.forall_mem_map.mpr (linked.le_newest last)

namespace Recorded

/-- All versions of a chain have the session of one of them. -/
theorem session_eq (h : Recorded allowed past docs site) {d : Document}
    (mem : d ∈ documentsOf docs source) :
    ∀ r ∈ site.store.chain source, r.session = d.info.session := by
  have row := List.mem_map_of_mem (f := fun x : Document => x.info.row) mem
  rw [h.chain_eq, ← h.versionsOf_eq] at *
  intro r hr
  exact (h.versionChain source).session r hr d.info.row row

theorem filed (h : Recorded allowed past docs site) (numbered : site.Numbered) {d : Document}
    (mem : d ∈ documentsOf docs source) :
    site.store.files.filter (fun f => f.versionId = d.info.id) = [Store.fileOf d] :=
  (h.found_of_mem numbered (mem_documentsOf.mp mem).1).2

theorem listing_eq (h : Recorded allowed past docs site) (numbered : site.Numbered)
    (source : Source) :
    site.store.listing source =
      (documentsOf docs source).map fun d => Notification.entryOf d.reference := by
  have none : ∀ r ∈ ([] : List VersionRow),
      site.store.files.filter (fun f => f.versionId = r.id) = [] := by
    intro r hr
    cases hr
  have found := Store.flatMap_files
    (fun r f => (⟨r.version, f.name, f.hash⟩ : NotificationEntry))
    (fun d (mem : d ∈ documentsOf docs source) => h.filed numbered mem) none
  rw [List.append_nil] at found
  rw [Store.listing, h.versionsOf_eq, found]
  rfl

/-- A notification names the latest version of the first of two states and lists the files of the
second one. -/
theorem buildBetween_eq {pastThen : List Site} {t : Site} {first more : List Document}
    (h : Recorded allowed past first site)
    (later : Recorded allowed pastThen (first ++ more) t) (numbered : t.Numbered)
    {latest : VersionInfo} (last : newest none (documentsOf first source) = some latest) :
    ∃ n, Notification.buildBetween site.store t.store source = .ok (some n) ∧
      n.version = latest.version ∧ n.session = latest.session ∧
      n.entries =
        (documentsOf (first ++ more) source).map fun d => Notification.entryOf d.reference := by
  have found := h.findLast_eq source
  rw [last] at found
  obtain ⟨init, e, ends, rfl⟩ := newest_eq_some last
  have mem : e ∈ documentsOf (first ++ more) source := by
    rw [documentsOf, List.filter_append, ← documentsOf, ends]
    exact List.mem_append_left _ (List.mem_append_right _ List.mem_cons_self)
  have chain : t.store.chain source =
      (documentsOf (first ++ more) source).map (·.info.row) ++ [] := by
    rw [List.append_nil]
    exact later.chain_eq source
  have references := Store.listReferences_eq chain (later.session_eq mem)
    (fun d hd => later.filed numbered hd) (by simp)
  exact Notification.buildBetween_of_reads (later.chainLinks source) (List.ne_nil_of_mem mem) found
    references

end Recorded

/-- Whenever the two reads of a notification take place among the steps of generators, it lists one
file for each version of the second state, and the version that it names is the latest one of the
first state. These are one state exactly when no version of the source was committed between. -/
theorem notification_of_run {site : Site} (unpublished : site.Unpublished)
    (es more : List SharedSite.Event) (source : Source) :
    let first := (SharedSite.run ⟨site, []⟩ es).site.store
    let second := (SharedSite.run ⟨site, []⟩ (es ++ more)).site.store
    match (first.versionsOf source).getLast? with
    | none => Notification.buildBetween first second source = .ok none
    | some r => ∃ n, Notification.buildBetween first second source = .ok (some n) ∧
        n.version = r.version ∧ n.session = r.session ∧ n.entries = second.listing source ∧
        n.entries.map (·.version) = (second.versionsOf source).map (·.version) ∧
        (n.ShowsOneState ↔ second.versionsOf source = first.versionsOf source) := by
  intro first second
  obtain ⟨docs, sound⟩ := unpublished.sound_run fun e (_ : e ∈ es) => SharedSite.Event.fits_all e
  obtain ⟨added, later⟩ := sound.run fun e (_ : e ∈ more) => SharedSite.Event.fits_all e
  rw [← SharedSite.run_append] at later
  have numbered := unpublished.numbered_run (es ++ more)
  have parts : documentsOf (docs ++ added) source =
      documentsOf docs source ++ documentsOf added source := by
    rw [documentsOf, List.filter_append]
    rfl
  have newest_eq := newest_none (documentsOf docs source)
  rw [sound.recorded.versionsOf_eq, List.getLast?_map]
  cases ends : (documentsOf docs source).getLast? with
  | none =>
    have found := sound.recorded.findLast_eq source
    rw [newest_eq, ends] at found
    simp only [Option.map_none, Notification.buildBetween] at found ⊢
    rw [found]
    rfl
  | some d =>
    rw [ends, Option.map_some] at newest_eq
    obtain ⟨n, built, version, session, entries⟩ :=
      sound.recorded.buildBetween_eq later.recorded numbered newest_eq
    have linked := later.recorded.chainLinks source
    refine ⟨n, built, version, session, ?_, ?_, ?_⟩
    · rw [entries, later.recorded.listing_eq numbered]
    · rw [entries, later.recorded.versionsOf_eq, List.map_map, List.map_map]
      rfl
    · rw [parts] at linked entries
      rw [Notification.showsOneState_iff linked newest_eq version entries,
        later.recorded.versionsOf_eq, parts, List.map_append, List.append_right_eq_self,
        List.map_eq_nil_iff]

theorem takeover_begins :
    (SharedSite.run ⟨.blank, []⟩ (takeover.take 7)).site.store.versions =
      [⟨1, registry, 1, "snapshot", 1, "s", 0⟩] := by
  decide +kernel

/-- A delta that is committed between the two reads is listed under the version before it. -/
theorem notification_of_takeover :
    Site.blank.Unpublished ∧ ∃ n, Notification.buildBetween
        (SharedSite.run ⟨.blank, []⟩ (takeover.take 7)).site.store
        (SharedSite.run ⟨.blank, []⟩ (takeover.take 7 ++ takeover.drop 7)).site.store registry =
          .ok (some n) ∧
      n.version = 1 ∧ n.entries.map (·.version) = [1, 2] ∧ ¬ n.ShowsOneState := by
  have unpublished : Site.blank.Unpublished := ⟨rfl, rfl⟩
  refine ⟨unpublished, ?_⟩
  have reads := notification_of_run unpublished (takeover.take 7) (takeover.drop 7) registry
  simp only [Store.versionsOf, takeover_begins, List.take_append_drop, takeover_rows] at reads ⊢
  obtain ⟨n, built, version, _, _, listed, oneState⟩ := reads
  refine ⟨n, built, version, listed, ?_⟩
  rw [oneState]
  decide

theorem eq_ok_of_join {ε α : Type} {x : Except ε (Option α)} {a : α}
    (h : x.toOption.join = some a) : x = .ok (some a) := by
  cases x with
  | error e => cases h
  | ok b => exact congrArg Except.ok h

/-- A notification that is made while a delta is committed shows no state of the chain. -/
theorem not_showsOneState_during_commit :
    ¬ ∀ (site : Site) (es more : List SharedSite.Event) (source : Source) (n : Notification),
      site.Unpublished →
      Notification.buildBetween (SharedSite.run ⟨site, []⟩ es).site.store
        (SharedSite.run ⟨site, []⟩ (es ++ more)).site.store source = .ok (some n) →
      n.ShowsOneState := by
  intro claim
  have shown : ((Notification.buildBetween
      (SharedSite.run ⟨.blank, []⟩ (takeover.take 7)).site.store
      (SharedSite.run ⟨.blank, []⟩ (takeover.take 7 ++ takeover.drop 7)).site.store
      registry).toOption.join.map fun n => (n.version, n.entries.map (·.version))) =
        some (1, [1, 2]) := by
    decide +kernel
  obtain ⟨n, built, shows⟩ := Option.map_eq_some_iff.mp shown
  obtain ⟨version, listed⟩ := Prod.mk.inj shows
  have oneState := claim .blank _ _ registry n ⟨rfl, rfl⟩ (eq_ok_of_join built)
  have bounded : ∀ v ∈ n.entries.map (·.version), v ≤ n.version :=
    List.forall_mem_map.mpr oneState.2
  rw [listed, version] at bounded
  exact absurd (bounded 2 (by decide)) (by decide)

/-! ## A version without a file -/

theorem Store.insertNext_eq_ok {s t : Store} {v w : VersionInfo} {lastSerial now : Int}
    (h : s.insertNext v lastSerial now = .ok (w, t)) :
    w = ⟨s.lastVersionId + 1, v.source, v.version + 1, .delta, lastSerial, v.session, now⟩ ∧
      t = { s with versions := s.versions ++ [w.row], lastVersionId := w.id } := by
  unfold insertNext at h
  split at h
  · cases h
  · exact (insertVersion_eq_ok h).2

/-- A row that is inserted past the last version given has no file. -/
theorem Recorded.unfiled (h : Recorded allowed past docs site) (numbered : site.Numbered)
    {id : Int} (fresh : site.store.lastVersionId < id) :
    site.store.files.filter (fun f => f.versionId = id) = [] := by
  rw [List.filter_eq_nil_iff, h.files]
  intro f hf
  obtain ⟨d, hd, rfl⟩ := List.mem_map.mp hf
  have row : d.info.row ∈ site.store.versions := by
    rw [h.versions]
    exact List.mem_map_of_mem hd
  have bound : d.info.id ≤ site.store.lastVersionId := numbered.bounded d.info.row row
  have other : (Store.fileOf d).versionId ≠ id := by
    show d.info.id ≠ id
    omega
  simpa using other

/-- The chain of a source after its next version was inserted by itself. -/
theorem Recorded.chain_of_unfiled (h : Recorded allowed past docs site) {v w : VersionInfo}
    (last : newest none (documentsOf docs source) = some v) (ofSource : w.source = source)
    (next : v.version < w.version) {t : Store}
    (stored : t = { site.store with
      versions := site.store.versions ++ [w.row], lastVersionId := w.id }) :
    t.chain source = (documentsOf docs source).map (·.info.row) ++ [w.row] := by
  have linked := h.chainLinks source
  have rows : t.versionsOf source = (documentsOf docs source).map (·.info.row) ++ [w.row] := by
    have own : [w.row].filter (fun r => r.source = source) = [w.row] :=
      List.filter_eq_self.mpr (by simpa [VersionInfo.row] using ofSource)
    rw [← h.versionsOf_eq, stored, Store.versionsOf, List.filter_append, own]
    rfl
  rw [Store.chain_of_ascending, rows]
  rw [rows, List.pairwise_append]
  refine ⟨List.pairwise_map.mpr (linked.ascending.imp And.left), List.pairwise_singleton _ _, ?_⟩
  intro r hr x hx
  obtain ⟨d, hd, rfl⟩ := List.mem_map.mp hr
  rw [List.mem_singleton.mp hx]
  exact Int.lt_of_le_of_lt (linked.le_newest last d hd) next

/-- The next version of a source that a program inserts by itself is named, and no file is listed
for it, so that also two reads of one state can disagree. -/
theorem build_of_unfiled (unpublished : site.Unpublished) (es : List SharedSite.Event)
    {v w : VersionInfo} {lastSerial now : Int} {t : Store}
    (last : (SharedSite.run ⟨site, []⟩ es).site.store.findLast source = .ok (some v))
    (inserted : (SharedSite.run ⟨site, []⟩ es).site.store.insertNext v lastSerial now =
      .ok (w, t)) :
    ∃ n, Notification.build t source = .ok (some n) ∧ n.version = v.version + 1 ∧
      n.entries = (SharedSite.run ⟨site, []⟩ es).site.store.listing source ∧
      ¬ n.ShowsOneState := by
  obtain ⟨docs, sound⟩ := unpublished.sound_run fun e (_ : e ∈ es) => SharedSite.Event.fits_all e
  have h := sound.recorded
  have numbered := unpublished.numbered_run es
  generalize (SharedSite.run ⟨site, []⟩ es).site = here at *
  obtain ⟨made, stored⟩ := Store.insertNext_eq_ok inserted
  have ofSource : w.source = source := by
    rw [made]
    exact (Store.mem_of_findLast last).2
  have next : w.version = v.version + 1 := by rw [made]
  have files : t.files = here.store.files := by rw [stored]
  have newest_eq := Except.ok.inj ((h.findLast_eq source).symm.trans last)
  have chain := h.chain_of_unfiled newest_eq ofSource (by omega) stored
  have bounded := (h.chainLinks source).le_newest newest_eq
  obtain ⟨init, e, ends, rfl⟩ := newest_eq_some newest_eq
  have mem : e ∈ documentsOf docs source := by
    rw [ends]
    exact List.mem_append_right _ List.mem_cons_self
  have found : t.findLast source = .ok (some w) := by
    rw [Store.findLast, chain, List.getLast?_concat]
    simp only [VersionInfo.info_row]
    rfl
  have references : t.listReferences source w.session =
      .ok ((documentsOf docs source).map Document.reference) := by
    refine Store.listReferences_eq chain ?_ ?_ ?_
    · rw [chain]
      intro r hr
      rcases List.mem_append.mp hr with old | new
      · rw [made]
        rw [← h.chain_eq] at old
        exact h.session_eq mem r old
      · rw [List.mem_singleton.mp new]
        rfl
    · rw [files]
      exact fun d hd => h.filed numbered hd
    · rw [files]
      intro r hr
      rw [List.mem_singleton.mp hr]
      refine h.unfiled numbered ?_
      rw [made]
      exact Int.lt_succ _
  obtain ⟨n, built, version, _, entries⟩ := Notification.buildBetween_of_reads
    (h.chainLinks source) (List.ne_nil_of_mem mem) found references
  refine ⟨n, built, version.trans next, entries.trans (h.listing_eq numbered source).symm, ?_⟩
  rintro ⟨⟨x, hx, same⟩, _⟩
  rw [entries] at hx
  obtain ⟨d, hd, rfl⟩ := List.mem_map.mp hx
  have below := bounded d hd
  have named : d.info.version = n.version := same
  omega

end RegistryFeed
