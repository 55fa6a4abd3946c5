import RegistryFeed.Proofs.Change.Window
import RegistryFeed.Proofs.Publication.Quiet

/-!
# What the deltas of a source cover

All generators of the source use one filter, and its log is in ascending order.
Then each delta lists the changes of a window on the log that begins where the
version before it ended; so the deltas together list those of one window, each
once. It does not matter which generators failed, lost a race, or found all
entries dropped: their entries are still beyond the end of the latest version.
-/

namespace RegistryFeed

/-- The changes that a document lists. -/
def Document.changes (d : Document) : List DeltaChange :=
  match d.body with
  | .changes cs => cs
  | .objects _ => []

/-- The documents of a source cover its log. The snapshot is the state up to its end; each delta
goes on where the version before it ended, is not empty, and ends where the log did when it was
read. -/
structure Coverage (past : List Site) (source : Source) (f : PublicationFilter) (log : List Entry)
    (snapshot : Document) (deltas : List Document) : Prop where
  opens : beforeFirstSerial ≤ snapshot.info.lastSerial ∧ snapshot.body =
    .objects (f.objects (window log beforeFirstSerial snapshot.info.lastSerial))
  each : ∀ before p d after, snapshot :: deltas = before ++ p :: d :: after →
    d.body = .changes (f.changes (window log p.info.lastSerial d.info.lastSerial)) ∧
      f.changes (window log p.info.lastSerial d.info.lastSerial) ≠ []
  ends : ∀ d ∈ deltas, ∃ t ∈ past,
    (t.entriesOf source).getLast?.map (·.serial) = some d.info.lastSerial
  whole : ∀ d, (snapshot :: deltas).getLast? = some d →
    snapshot.info.lastSerial ≤ d.info.lastSerial ∧
      deltas.flatMap Document.changes =
        f.changes (window log snapshot.info.lastSerial d.info.lastSerial)

theorem PublicationFilter.changes_append (f : PublicationFilter) (a b : List Entry) :
    f.changes (a ++ b) = f.changes a ++ f.changes b := List.filterMap_append

section

variable {allowed : Source → PublicationFilter → Prop} {past : List Site} {source : Source}
  {f : PublicationFilter} {log : List Entry}

/-- The first version is cut from the beginning of the log. -/
theorem Continues.objects_eq {d : Document} (h : Continues allowed past source none d)
    (only : ∀ g, allowed source g → g = f)
    (sorted : Ordered log)
    (grown : ∀ t ∈ past, t.entriesOf source <+: log) :
    beforeFirstSerial ≤ d.info.lastSerial ∧
      d.body = .objects (f.objects (window log beforeFirstSerial d.info.lastSerial)) := by
  obtain ⟨p, ⟨g, t, hg, ht, hp⟩, body, lastSerial⟩ := h.cut
  have same := only g hg
  subst same
  simp only [Publishing.cut, Generation.position] at hp
  cases hp
  simp only [Publishing.body] at body
  simp only [Publishing.lastSerial] at lastSerial
  rw [body, lastSerial]
  cases hl : (entriesAfter (t.entriesOf source) beforeFirstSerial).getLast? with
  | none =>
    rw [List.getLast?_eq_none_iff.mp hl, Option.map_none, Option.getD_none, window_self]
    exact ⟨Int.le_refl _, rfl⟩
  | some last =>
    have beyond := (mem_entriesAfter.mp (List.mem_of_getLast? hl)).2
    rw [entriesAfter_eq_window sorted (grown t ht) hl, Option.map_some, Option.getD_some]
    exact ⟨Int.le_of_lt beyond, rfl⟩

/-- A later version is cut from where the one before it ended. -/
theorem Continues.changes_eq {v : VersionInfo} {d : Document}
    (h : Continues allowed past source (some v) d) (only : ∀ g, allowed source g → g = f)
    (sorted : Ordered log)
    (grown : ∀ t ∈ past, t.entriesOf source <+: log) :
    d.body = .changes (f.changes (window log v.lastSerial d.info.lastSerial)) ∧
      f.changes (window log v.lastSerial d.info.lastSerial) ≠ [] ∧
      ∃ t ∈ past, (t.entriesOf source).getLast?.map (·.serial) = some d.info.lastSerial := by
  obtain ⟨p, ⟨g, t, hg, ht, hp⟩, body, lastSerial⟩ := h.cut
  have same := only g hg
  subst same
  obtain ⟨last, hl, some, rfl⟩ := Publishing.cut_some_eq_some hp
  have cut := entriesAfter_eq_window sorted (grown t ht) hl
  simp only [Generation.position] at cut hl some body
  simp only [Publishing.lastSerial] at lastSerial
  rw [cut] at some body
  rw [lastSerial]
  refine ⟨body, some, t, ht, ?_⟩
  rw [getLast?_of_entriesAfter (sorted.sublist (grown t ht).sublist) hl, Option.map_some]

/-- All the changes after a version, up to the end of the chain. -/
theorem Linked.flatMap_changes {v last : VersionInfo} {ds : List Document}
    (h : Linked (Continues allowed past source) (some v) ds)
    (only : ∀ g, allowed source g → g = f)
    (sorted : Ordered log)
    (grown : ∀ t ∈ past, t.entriesOf source <+: log) (ends : newest (some v) ds = some last) :
    v.lastSerial ≤ last.lastSerial ∧
      ds.flatMap Document.changes = f.changes (window log v.lastSerial last.lastSerial) := by
  induction ds generalizing v with
  | nil =>
    have same : v = last := Option.some.inj ends
    subst same
    exact ⟨Int.le_refl _, by rw [window_self]; rfl⟩
  | cons d ds ih =>
    have further := h.1.chainLink.further v rfl
    obtain ⟨body, _, _⟩ := h.1.changes_eq only sorted grown
    obtain ⟨rest, changes⟩ := ih h.2 ends
    refine ⟨by omega, ?_⟩
    rw [List.flatMap_cons, changes, Document.changes, body]
    simp only
    rw [← f.changes_append, window_append sorted (by omega) rest]

theorem Recorded.coverage {docs : List Document} {site : Site} {snapshot : Document}
    {deltas : List Document} (h : Recorded allowed past docs site)
    (only : ∀ g, allowed source g → g = f) (ascending : site.Ascending source)
    (split : documentsOf docs source = snapshot :: deltas) :
    Coverage past source f (site.entriesOf source) snapshot deltas := by
  have linked := h.chains source
  rw [split] at linked
  have sorted := ascending.entriesOf
  have grown : ∀ t ∈ past, t.entriesOf source <+: site.entriesOf source :=
    fun t ht => h.grown t ht source
  refine ⟨linked.1.objects_eq only sorted grown, ?_, ?_, ?_⟩
  · intro before p d after parts
    have next : Continues allowed past source (some p.info) d := by
      rw [parts, List.append_cons] at linked
      have here := linked.next
      rw [newest_concat] at here
      exact here
    obtain ⟨body, some, _⟩ := next.changes_eq only sorted grown
    exact ⟨body, some⟩
  · intro d hd
    obtain ⟨before, after, rfl⟩ := List.append_of_mem hd
    have next := linked.2.next
    obtain ⟨p, hp⟩ := newest_some snapshot.info before
    rw [hp] at next
    exact (next.changes_eq only sorted grown).2.2
  · intro d hd
    refine linked.2.flatMap_changes only sorted grown ?_
    have last := newest_none (snapshot :: deltas)
    rw [hd] at last
    exact last

end

/-- The generators of a source use one filter; those of other sources use any. -/
def OneFilter (source : Source) (f : PublicationFilter) : Source → PublicationFilter → Prop :=
  fun other g => other = source → g = f

/-- However generators and appends are interleaved, the tables hold documents of which those of the
source cover its log; and once the latest of them reaches to the end of the log, there is nothing
to publish until the log grows. -/
theorem coverage_of_run {site : Site} (unpublished : site.Unpublished) {source : Source}
    (ascending : site.Ascending source) {f : PublicationFilter} {es : List SharedSite.Event}
    (fits : ∀ e ∈ es, e.Fits (OneFilter source f)) :
    let s := SharedSite.run ⟨site, []⟩ es
    ∃ docs, s.site.store.versions = docs.map (·.info.row) ∧
      s.site.store.files = docs.map Store.fileOf ∧
      (∀ w ∈ s.workers, ∀ a, w.generation.phase = .ended (.ok (some a)) →
        a.toDocument ∈ documentsOf docs w.generation.source) ∧
      ∀ snapshot deltas, documentsOf docs source = snapshot :: deltas →
        Coverage (SharedSite.visited ⟨site, []⟩ es) source f (s.site.entriesOf source)
          snapshot deltas ∧
        ∀ d, (snapshot :: deltas).getLast? = some d →
          (∀ e ∈ s.site.entriesOf source, e.serial ≤ d.info.lastSerial) →
          SharedSite.NothingNew (OneFilter source f) source d.info s := by
  intro s
  obtain ⟨docs, sound⟩ := unpublished.sound_run fits
  refine ⟨docs, sound.recorded.versions, sound.recorded.files, ?_, ?_⟩
  · intro w hw a ended
    have informed := sound.informed w hw
    rw [ended] at informed
    obtain ⟨d, hd, rfl⟩ := informed a rfl
    exact hd
  · intro snapshot deltas split
    have sorted : s.site.Ascending source := SharedSite.ascending_run ascending es
    refine ⟨sound.recorded.coverage (fun g hg => hg rfl) sorted split, ?_⟩
    intro d last covered
    refine sound.nothingNew ?_ covered
    rw [split, newest_none, last, Option.map_some]

theorem takeover_documents {docs : List Document}
    (h : (SharedSite.run ⟨.blank, []⟩ takeover).site.store.versions = docs.map (·.info.row)) :
    ∃ snapshot delta, documentsOf docs registry = [snapshot, delta] ∧
      snapshot.info.lastSerial = 1 ∧ delta.info.lastSerial = 3 := by
  rw [takeover_rows] at h
  match docs with
  | [] => simp at h
  | [_] => simp at h
  | [snapshot, delta] =>
    simp only [List.map_cons, List.map_nil, VersionInfo.row, List.cons.injEq,
      VersionRow.mk.injEq] at h
    obtain ⟨⟨_, source, _, _, first, _⟩, ⟨_, source', _, _, last, _⟩, _⟩ := h
    exact ⟨snapshot, delta, by simp [documentsOf, ← source, ← source'], first.symm, last.symm⟩
  | _ :: _ :: _ :: _ => simp at h

theorem takeover_fits : ∀ e ∈ takeover, e.Fits (OneFilter registry .default) := by
  simp [takeover, SharedSite.Event.Fits, OneFilter]

theorem takeover_log :
    (SharedSite.run ⟨.blank, []⟩ takeover).site.entriesOf registry =
      [⟨1, .update, "route", "k", some "p", 0⟩, ⟨2, .update, "route", "k", some "q", 0⟩,
        ⟨3, .update, "person", "k", some "r", 300000⟩] := by
  decide +kernel

/-- The entry that is not published lies within the delta that was cut after it. -/
theorem coverage_of_takeover :
    Site.blank.Unpublished ∧ Site.blank.Ascending registry ∧
      (∀ e ∈ takeover, e.Fits (OneFilter registry .default)) ∧
      ∃ docs snapshot delta, documentsOf docs registry = [snapshot, delta] ∧
        delta.info.lastSerial = 3 ∧ delta.changes = [⟨.update, "route", "k", some "q"⟩] := by
  have unpublished : Site.blank.Unpublished := ⟨rfl, rfl⟩
  have ascending : Site.blank.Ascending registry := .nil
  obtain ⟨docs, rows, _, _, covers⟩ := coverage_of_run unpublished ascending takeover_fits
  obtain ⟨snapshot, delta, split, first, last⟩ := takeover_documents rows
  have whole := ((covers snapshot [delta] split).1.whole delta rfl).2
  refine ⟨unpublished, ascending, takeover_fits, docs, snapshot, delta, split, last, ?_⟩
  rw [takeover_log, first, last, List.flatMap_singleton] at whole
  rw [whole]
  decide +kernel

end RegistryFeed
