import Mathlib.Data.List.Forall2
import Mathlib.Data.List.Nodup
import RegistryFeed.Proofs.Publication.Listing
import RegistryFeed.Proofs.Store.Parts

/-!
# A notification of a source at rest

While no version of a source is committed, a notification of it lists the whole
chain: the snapshot, then every delta, each with the one file of its version. No
two files of a site have one name, so a follower that fetches a file under the
name that is listed gets the file with the hash that is listed. Other sources may
commit, and generators may be at any of their steps.
-/

namespace RegistryFeed

/-- An entry lists the file of a version, and that file is what is found under its name. -/
structure NotificationEntry.Lists (e : NotificationEntry) (s : Store) (r : VersionRow) : Prop where
  version : e.version = r.version
  file : ∃ f, s.files.filter (fun x => x.versionId = r.id) = [f] ∧
    s.findFile e.fileName = some f ∧ f.hash = e.hash

/-! ## The names of the files -/

/-- No two files of a site have one name. -/
def Site.Named (site : Site) : Prop := (site.store.files.map (·.name)).Nodup

namespace Site.Named

variable {site t : Site}

theorem of_eq (h : site.Named) (files : t.store.files = site.store.files) : t.Named := by
  rw [Named, files]
  exact h

theorem move (h : site.Named) {g : Generation} {phase : Generation.Phase}
    (m : Generation.Move site g phase t) : t.Named := by
  cases m with
  | quiet _ same => exact h.of_eq same.files
  | found _ _ => exact h
  | cut _ _ same => exact h.of_eq same.files
  | committed _ commit =>
    have unnamed := Generation.unnamed_of_commit commit
    rw [Named, (Generation.commit_eq_ok commit).1.files, List.map_append, List.nodup_append]
    refine ⟨h, List.nodup_singleton _, ?_⟩
    intro name old last new
    obtain ⟨f, hf, rfl⟩ := List.mem_map.mp old
    rw [List.mem_singleton.mp new]
    exact unnamed f hf
  | released _ same => exact h.of_eq same.files

/-- A file is found under its name. -/
theorem findFile (h : site.Named) {f : FileRow} (mem : f ∈ site.store.files) :
    site.store.findFile f.name = some f := Store.findFile_of_nodup h mem

end Site.Named

theorem SharedSite.named_run {s : SharedSite} (h : s.site.Named) (es : List Event) :
    (s.run es).site.Named := by
  induction es generalizing s with
  | nil => exact h
  | cons e es ih =>
    refine ih ?_
    have effect := step_effect s e
    generalize s.step e = next at effect
    cases effect with
    | begun => exact h
    | moved _ _ move => exact h.move move
    | grown _ grows => exact h.of_eq grows.files
    | passed same => exact h.of_eq same.files

theorem Site.Unpublished.named_run {site : Site} (h : site.Unpublished)
    (es : List SharedSite.Event) : (SharedSite.run ⟨site, []⟩ es).site.Named := by
  refine SharedSite.named_run (s := ⟨site, []⟩) ?_ es
  rw [Site.Named, h.files]
  exact List.nodup_nil

/-! ## The whole chain -/

theorem Notification.source_of_build {before after : Store} {source : Source} {n : Notification}
    (built : buildBetween before after source = .ok (some n)) : n.source = source := by
  unfold buildBetween at built
  obtain ⟨found, -, built⟩ := bind_eq_ok_iff.mp built
  cases found with
  | none => cases built
  | some v =>
    obtain ⟨references, -, built⟩ := bind_eq_ok_iff.mp built
    obtain ⟨listed, made, built⟩ := bind_eq_ok_iff.mp built
    unfold ofFiles at made
    split at made
    · cases made
      cases built
      rfl
    · cases made

variable {allowed : Source → PublicationFilter → Prop} {past : List Site} {docs : List Document}
  {site : Site} {source : Source}

/-- The entry of a document lists the file of its row. -/
theorem Recorded.lists (h : Recorded allowed past docs site) (numbered : site.Numbered)
    (named : site.Named) {d : Document} (mem : d ∈ documentsOf docs source) :
    (Notification.entryOf d.reference).Lists site.store d.info.row := by
  have stored : Store.fileOf d ∈ site.store.files := by
    rw [h.files]
    exact List.mem_map_of_mem (mem_documentsOf.mp mem).1
  exact ⟨rfl, Store.fileOf d, h.filed numbered mem, named.findFile stored, rfl⟩

/-- The latest version of a chain is the number of its rows. -/
theorem VersionChain.version_of_last {rows : List VersionRow} (h : VersionChain rows)
    {r : VersionRow} (last : rows.getLast? = some r) : r.version = rows.length := by
  obtain ⟨init, rfl⟩ := List.getLast?_eq_some_iff.mp last
  have numbered := h.numbered
  rw [List.map_append, List.length_append, List.length_singleton, List.range_succ,
    List.map_append] at numbered
  have ends := List.append_inj_right' numbered rfl
  rw [List.map_singleton, List.map_singleton, List.singleton_inj] at ends
  rw [ends, List.length_append, List.length_singleton, Int.natCast_succ]

/-- Whenever no version of a source is committed between the two reads of a notification, there is
one exactly if the source has a version. It names the latest version and its session, and it lists
the snapshot and then every delta in the order of versions, each with the one file of its version,
which is found under the name and has the hash that are listed. -/
theorem complete_of_run {site : Site} (unpublished : site.Unpublished)
    (es more : List SharedSite.Event) (source : Source)
    (still : (SharedSite.run ⟨site, []⟩ (es ++ more)).site.store.versionsOf source =
      (SharedSite.run ⟨site, []⟩ es).site.store.versionsOf source) :
    let first := (SharedSite.run ⟨site, []⟩ es).site.store
    let second := (SharedSite.run ⟨site, []⟩ (es ++ more)).site.store
    (Notification.buildBetween first second source = .ok none ↔ first.versionsOf source = []) ∧
    (first.versionsOf source ≠ [] → ∃ n,
      Notification.buildBetween first second source = .ok (some n) ∧ n.source = source ∧
      (∃ r ∈ first.versionsOf source, n.version = r.version ∧ n.session = r.session ∧
        ∀ x ∈ first.versionsOf source, x.version ≤ r.version) ∧
      List.Forall₂ (fun e r => e.Lists second r) (n.snapshot :: n.deltas)
        (first.versionsOf source) ∧
      (n.snapshot :: n.deltas).map (·.version) =
        (List.range n.version.toNat).map fun i : Nat => (i : Int) + 1) := by
  intro first second
  obtain ⟨docs, sound⟩ := unpublished.sound_run fun e (_ : e ∈ es) => SharedSite.Event.fits_all e
  obtain ⟨added, later⟩ := sound.run fun e (_ : e ∈ more) => SharedSite.Event.fits_all e
  rw [← SharedSite.run_append] at later
  have numbered := unpublished.numbered_run (es ++ more)
  have named := unpublished.named_run (es ++ more)
  have rows := sound.recorded.versionsOf_eq source
  have newest_eq := newest_none (documentsOf docs source)
  cases ends : (documentsOf docs source).getLast? with
  | none =>
    have none : first.versionsOf source = [] := by
      rw [rows, List.getLast?_eq_none_iff.mp ends, List.map_nil]
    have found := sound.recorded.findLast_eq source
    rw [newest_eq, ends, Option.map_none] at found
    refine ⟨iff_of_true ?_ none, fun some => absurd none some⟩
    simp only [Notification.buildBetween, first, found]
    rfl
  | some d =>
    rw [ends, Option.map_some] at newest_eq
    obtain ⟨n, built, version, session, entries⟩ :=
      sound.recorded.buildBetween_eq later.recorded numbered newest_eq
    have mem : d ∈ documentsOf docs source := List.mem_of_getLast? ends
    have present : first.versionsOf source ≠ [] := by
      rw [rows]
      exact List.ne_nil_of_mem (List.mem_map_of_mem mem)
    have chain := later.recorded.versionChain source
    rw [still] at chain
    have listed : n.snapshot :: n.deltas =
        (documentsOf (docs ++ added) source).map fun d => Notification.entryOf d.reference :=
      entries
    have stored : first.versionsOf source =
        (documentsOf (docs ++ added) source).map (·.info.row) := by
      rw [← later.recorded.versionsOf_eq]
      exact still.symm
    refine ⟨iff_of_false ?_ present, fun _ => ⟨n, built, Notification.source_of_build built,
      ⟨d.info.row, ?_, version, session, ?_⟩, ?_, ?_⟩⟩
    · rw [built]
      exact fun absent => Option.some_ne_none n (Except.ok.inj absent)
    · rw [rows]
      exact List.mem_map_of_mem mem
    · rw [rows]
      exact List.forall_mem_map.mpr ((sound.recorded.chainLinks source).le_newest newest_eq)
    · rw [listed, stored, List.forall₂_map_left_iff, List.forall₂_map_right_iff, List.forall₂_same]
      exact fun x hx => later.recorded.lists numbered named hx
    · have last : (first.versionsOf source).getLast? = some d.info.row := by
        rw [rows, List.getLast?_map, ends]
        rfl
      have number : n.version.toNat = (first.versionsOf source).length := by
        rw [version]
        exact congrArg Int.toNat (chain.version_of_last last)
      rw [number, ← chain.numbered, listed, stored, List.map_map, List.map_map]
      rfl

theorem takeover_quiet :
    (SharedSite.run ⟨.blank, []⟩ (takeover ++ [.turn 2])).site.store.versions =
      (SharedSite.run ⟨.blank, []⟩ takeover).site.store.versions := by
  decide +kernel

/-- A lock that is given back between the two reads does not disturb them. -/
theorem complete_of_takeover :
    Site.blank.Unpublished ∧
      (SharedSite.run ⟨.blank, []⟩ (takeover ++ [.turn 2])).site.store.versionsOf registry =
        (SharedSite.run ⟨.blank, []⟩ takeover).site.store.versionsOf registry ∧
      ∃ n, Notification.buildBetween (SharedSite.run ⟨.blank, []⟩ takeover).site.store
          (SharedSite.run ⟨.blank, []⟩ (takeover ++ [.turn 2])).site.store registry =
            .ok (some n) ∧
        n.version = 2 ∧ n.session = "s" ∧
        (n.snapshot :: n.deltas).map (·.version) = [1, 2] := by
  have unpublished : Site.blank.Unpublished := ⟨rfl, rfl⟩
  have still :
      (SharedSite.run ⟨.blank, []⟩ (takeover ++ [.turn 2])).site.store.versionsOf registry =
        (SharedSite.run ⟨.blank, []⟩ takeover).site.store.versionsOf registry := by
    rw [Store.versionsOf, Store.versionsOf, takeover_quiet]
  refine ⟨unpublished, still, ?_⟩
  have complete := (complete_of_run unpublished takeover [.turn 2] registry still).2
  simp only [Store.versionsOf, takeover_rows] at complete
  obtain ⟨n, built, -, ⟨r, mem, version, session, highest⟩, -, listed⟩ := complete (by decide)
  obtain rfl : r = ⟨2, registry, 2, "delta", 3, "s", 300000⟩ := by
    rcases List.mem_cons.mp mem with rfl | later
    · exact absurd (highest ⟨2, registry, 2, "delta", 3, "s", 300000⟩ (by decide)) (by decide)
    · exact List.mem_singleton.mp later
  rw [version] at listed
  exact ⟨n, built, version, session, listed⟩

end RegistryFeed
