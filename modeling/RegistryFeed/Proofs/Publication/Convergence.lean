import RegistryFeed.Proofs.Publication.Coverage
import RegistryFeed.Proofs.Publication.ObjectMap
import RegistryFeed.Publication.Follower

/-!
# What a follower holds

Snapshots and deltas are filtered by separate functions. They agree on every
entry: what an entry does to the objects of a snapshot, its published change
does to a copy, and an entry without a change does nothing to either. Hence a
copy that loads a snapshot and makes all changes since is the snapshot of the
whole log. Serials play no part until the published windows are put together.
-/

namespace RegistryFeed

namespace Holdings

/-- A copy holds exactly these objects. -/
def Mirrors (h : Holdings) (m : ObjectMap) : Prop := ∀ t k, h t k = m.get? (t, k)

theorem make_apply (h : Holdings) (c : DeltaChange) (t k : String) :
    h.make c t k = if (t, k) = (c.objectType, c.primaryKey) then c.result else h t k := by
  simp only [make, set, Prod.mk.injEq, DeltaChange.result]

theorem Mirrors.makeAll_changes {h : Holdings} {m : ObjectMap} (mirrors : h.Mirrors m)
    (f : PublicationFilter) (es : List Entry) :
    (h.makeAll (f.changes es)).Mirrors (es.foldl f.fold m) := by
  induction es generalizing h m with
  | nil => exact mirrors
  | cons e es ih =>
    rw [PublicationFilter.changes, List.filterMap_cons, List.foldl_cons]
    cases change : f.change? e with
    | none =>
      refine ih ?_
      intro t k
      rw [f.get?_fold, change, mirrors t k]
    | some c =>
      refine ih ?_
      intro t k
      rw [f.get?_fold, change, make_apply, mirrors t k]

/-- Loading objects of distinct keys makes a copy hold them over what it held. -/
theorem foldl_load {m : ObjectMap} (ascending : m.Ascending) (h : Holdings) (t k : String) :
    m.objects.foldl load h t k = (m.get? (t, k)).or (h t k) := by
  induction m generalizing h with
  | nil => rfl
  | cons e rest ih =>
    obtain ⟨⟨t', k'⟩, p⟩ := e
    obtain ⟨first, others⟩ := List.pairwise_cons.mp ascending
    rw [ObjectMap.objects, List.map_cons, List.foldl_cons, ← ObjectMap.objects, ih others,
      ObjectMap.get?_cons]
    by_cases here : (t, k) = (t', k')
    · cases here
      have absent : ObjectMap.get? rest (t, k) = none := by
        cases found : ObjectMap.get? rest (t, k) with
        | none => rfl
        | some q =>
          have later := (ObjectMap.Ascending.get?_eq_some_iff others).mp found
          exact absurd (first _ later) (lt_irrefl _)
      simp [absent, load, set]
    · have other : ¬ (t = t' ∧ k = k') := fun h => here (Prod.ext h.1 h.2)
      simp [load, set, other]

theorem mirrors_ofSnapshot {m : ObjectMap} (ascending : m.Ascending) :
    (ofSnapshot m.objects).Mirrors m := by
  intro t k
  rw [ofSnapshot, foldl_load ascending, empty, Option.or_none]

theorem makeAll_ofSnapshot (f : PublicationFilter) (a b : List Entry) :
    (ofSnapshot (f.objects a)).makeAll (f.changes b) = ofSnapshot (f.objects (a ++ b)) := by
  have start := mirrors_ofSnapshot (f.foldl_ascending a .nil)
  have whole := mirrors_ofSnapshot (f.foldl_ascending (a ++ b) .nil)
  have followed := start.makeAll_changes f b
  rw [← List.foldl_append] at followed
  funext t k
  rw [PublicationFilter.objects, PublicationFilter.objects, followed t k, whole t k]

/-- A copy made from a snapshot holds the objects of the snapshot and no others. -/
theorem ofSnapshot_eq_some_iff (f : PublicationFilter) (es : List Entry) (t k p : String) :
    ofSnapshot (f.objects es) t k = some p ↔ ⟨t, k, p⟩ ∈ f.objects es := by
  have ascending := f.foldl_ascending es .nil
  rw [PublicationFilter.objects, mirrors_ofSnapshot ascending, ascending.mem_objects_iff]

theorem follow_eq_makeAll (snapshot : List SnapshotObject) (deltas : List (List DeltaChange)) :
    follow snapshot deltas = (ofSnapshot snapshot).makeAll deltas.flatten := by
  unfold follow
  generalize ofSnapshot snapshot = h
  induction deltas generalizing h with
  | nil => rfl
  | cons cs deltas ih =>
    rw [List.foldl_cons, ih, List.flatten_cons]
    unfold makeAll
    rw [List.foldl_append]

/-- What a follower of published documents holds at the end of the newest one. -/
theorem follow_of_coverage {past : List Site} {source : Source} {f : PublicationFilter}
    {log : List Entry} {snapshot d : Document} {deltas : List Document}
    (covers : Coverage past source f log snapshot deltas)
    (sorted : Ordered log)
    (last : (snapshot :: deltas).getLast? = some d) :
    follow (f.objects (window log beforeFirstSerial snapshot.info.lastSerial))
        (deltas.map Document.changes) =
      ofSnapshot (f.objects (window log beforeFirstSerial d.info.lastSerial)) := by
  obtain ⟨further, changes⟩ := covers.whole d last
  rw [follow_eq_makeAll, ← List.flatMap_def, changes, makeAll_ofSnapshot,
    window_append sorted covers.opens.1 further]

end Holdings

/-- A follower that loads the published snapshot and makes the changes of all published deltas
holds exactly the objects of the log up to the end of the newest version; and at any point, making
the changes that follow is the same as loading a later snapshot. -/
theorem follower_converges :
    (∀ (f : PublicationFilter) (a b : List Entry),
      (Holdings.ofSnapshot (f.objects a)).makeAll (f.changes b) =
        Holdings.ofSnapshot (f.objects (a ++ b))) ∧
    ∀ (site : Site) (source : Source) (f : PublicationFilter) (es : List SharedSite.Event),
      site.Unpublished → site.Ascending source → (∀ e ∈ es, e.Fits (OneFilter source f)) →
      let s := SharedSite.run ⟨site, []⟩ es
      ∃ docs, s.site.store.versions = docs.map (·.info.row) ∧
        s.site.store.files = docs.map Store.fileOf ∧
        ∀ snapshot deltas, documentsOf docs source = snapshot :: deltas →
          ∃ objects, snapshot.body = .objects objects ∧
            ∀ d, (snapshot :: deltas).getLast? = some d → ∀ t k p,
              Holdings.follow objects (deltas.map Document.changes) t k = some p ↔
                ⟨t, k, p⟩ ∈ f.objects ((s.site.entriesOf source).filter fun e =>
                  0 ≤ e.serial ∧ e.serial ≤ d.info.lastSerial) := by
  refine ⟨Holdings.makeAll_ofSnapshot, ?_⟩
  intro site source f es unpublished ascending fits s
  obtain ⟨docs, sound⟩ := unpublished.sound_run fits
  refine ⟨docs, sound.recorded.versions, sound.recorded.files, ?_⟩
  intro snapshot deltas split
  have sorted : s.site.Ascending source := SharedSite.ascending_run ascending es
  have covers := sound.recorded.coverage (fun g hg => hg rfl) sorted split
  refine ⟨_, covers.opens.2, ?_⟩
  intro d last t k p
  rw [Holdings.follow_of_coverage covers sorted.entriesOf last, Holdings.ofSnapshot_eq_some_iff]
  exact Iff.rfl

theorem follower_of_takeover :
    Site.blank.Unpublished ∧ Site.blank.Ascending registry ∧
      (∀ e ∈ takeover, e.Fits (OneFilter registry .default)) ∧
      ∃ docs snapshot delta objects, documentsOf docs registry = [snapshot, delta] ∧
        snapshot.body = .objects objects ∧
        Holdings.follow objects [delta.changes] "route" "k" = some "q" := by
  have unpublished : Site.blank.Unpublished := ⟨rfl, rfl⟩
  have ascending : Site.blank.Ascending registry := .nil
  obtain ⟨docs, rows, _, follows⟩ :=
    follower_converges.2 .blank registry .default takeover unpublished ascending takeover_fits
  obtain ⟨snapshot, delta, split, _, last⟩ := takeover_documents rows
  obtain ⟨objects, body, holds⟩ := follows snapshot [delta] split
  refine ⟨unpublished, ascending, takeover_fits, docs, snapshot, delta, objects, split, body, ?_⟩
  refine (holds delta rfl "route" "k" "q").mpr ?_
  rw [takeover_log, last]
  decide +kernel

end RegistryFeed
