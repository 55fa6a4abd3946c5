import RegistryFeed.Proofs.Publication.Recording

/-!
# The chain of versions

A generator may act on a version that is no longer the latest, since its lease
can expire between any two of its steps. What keeps the chain whole is the row
that a commit needs: only after the latest version is the next number unused.
So leases, waits and the clock play no part in what follows.
-/

namespace RegistryFeed

/-- The rows of one source, as they were inserted, are versions 1, 2, 3 and so on. The first is a
snapshot and the others are deltas, under one session; each goes further in the log than the one
before it. -/
structure VersionChain (rows : List VersionRow) : Prop where
  numbered : rows.map (·.version) = (List.range rows.length).map fun i : Nat => (i : Int) + 1
  kinds : ∀ r ∈ rows, r.kind =
    if r.version = 1 then DocumentKind.snapshot.text else DocumentKind.delta.text
  session : ∀ a ∈ rows, ∀ b ∈ rows, a.session = b.session
  ascending : rows.Pairwise fun a b => a.lastSerial < b.lastSerial

/-! ## Linked documents -/

def documentsOf (docs : List Document) (source : Source) : List Document :=
  docs.filter fun d => d.info.source = source

theorem documentsOf_concat (docs : List Document) (d : Document) (source : Source) :
    documentsOf (docs ++ [d]) source =
      documentsOf docs source ++ if d.info.source = source then [d] else [] := by
  unfold documentsOf
  rw [List.filter_append]
  by_cases same : d.info.source = source
  · simp [same]
  · simp [same]

/-- Every document stands in a relation to the version before it, the first one to the given
version, if any. -/
def Linked (R : Option VersionInfo → Document → Prop) :
    Option VersionInfo → List Document → Prop
  | _, [] => True
  | before, d :: ds => R before d ∧ Linked R (some d.info) ds

/-- The version after which a list of documents ends. -/
def newest : Option VersionInfo → List Document → Option VersionInfo
  | before, [] => before
  | _, d :: ds => newest (some d.info) ds

theorem newest_none (ds : List Document) : newest none ds = ds.getLast?.map (·.info) := by
  have general : ∀ before, newest before ds = (ds.getLast?.map (·.info)).or before := by
    induction ds with
    | nil => intro before; rfl
    | cons d ds ih =>
      intro before
      rw [newest, ih, List.getLast?_cons]
      cases ds.getLast? <;> rfl
  rw [general, Option.or_none]

theorem Linked.concat {R : Option VersionInfo → Document → Prop} {before : Option VersionInfo}
    {ds : List Document} {d : Document} (linked : Linked R before ds)
    (last : R (newest before ds) d) : Linked R before (ds ++ [d]) := by
  induction ds generalizing before with
  | nil => exact ⟨last, trivial⟩
  | cons e ds ih => exact ⟨linked.1, ih linked.2 last⟩

theorem newest_concat (before : Option VersionInfo) (ds : List Document) (d : Document) :
    newest before (ds ++ [d]) = some d.info := by
  induction ds generalizing before with
  | nil => rfl
  | cons e ds ih => exact ih (some e.info)

/-- A list of documents after a version ends with some version. -/
theorem newest_some (v : VersionInfo) (ds : List Document) :
    ∃ last, newest (some v) ds = some last := by
  induction ds generalizing v with
  | nil => exact ⟨v, rfl⟩
  | cons d ds ih => exact ih d.info

theorem Linked.next {R : Option VersionInfo → Document → Prop} {start : Option VersionInfo}
    {before after : List Document} {d : Document}
    (linked : Linked R start (before ++ d :: after)) : R (newest start before) d := by
  induction before generalizing start with
  | nil => exact linked.1
  | cons e before ih => exact ih linked.2

theorem Linked.mono {R T : Option VersionInfo → Document → Prop} {before : Option VersionInfo}
    {ds : List Document} (weaker : ∀ b d, R b d → T b d) (linked : Linked R before ds) :
    Linked T before ds := by
  induction ds generalizing before with
  | nil => trivial
  | cons e ds ih => exact ⟨weaker _ _ linked.1, ih linked.2⟩

/-- The number of a version; zero where there is none. -/
def numberOf : Option VersionInfo → Int
  | none => 0
  | some v => v.version

theorem VersionInfo.Follows.version_eq {v : VersionInfo} {before : Option VersionInfo}
    (h : v.Follows before) : v.version = numberOf before + 1 := by
  cases before with
  | none => exact h.1
  | some p => exact h.1

/-- A link of a chain: the next version, further in the log. -/
structure ChainLink (before : Option VersionInfo) (d : Document) : Prop where
  follows : d.info.Follows before
  further : ∀ v, before = some v → v.lastSerial < d.info.lastSerial

/-- A version after which the next number is unused is the latest one. -/
theorem newest_of_unused {before p : Option VersionInfo} {ds : List Document}
    (linked : Linked ChainLink before ds) (known : p = before ∨ ∃ d ∈ ds, some d.info = p)
    (unused : ∀ d ∈ ds, d.info.version ≠ numberOf p + 1) : p = newest before ds := by
  induction ds generalizing before with
  | nil =>
    rcases known with rfl | ⟨d, hd, _⟩
    · rfl
    · cases hd
  | cons e ds ih =>
    have rest : ∀ d ∈ ds, d.info.version ≠ numberOf p + 1 :=
      fun d hd => unused d (List.mem_cons_of_mem _ hd)
    rcases known with rfl | ⟨d, hd, same⟩
    · exact absurd linked.1.follows.version_eq (unused e List.mem_cons_self)
    · rcases List.mem_cons.mp hd with rfl | later
      · exact ih linked.2 (.inl same.symm) rest
      · exact ih linked.2 (.inr ⟨d, later, same⟩) rest

theorem Linked.numbered {before : Option VersionInfo} {ds : List Document}
    (linked : Linked ChainLink before ds) :
    ds.map (·.info.version) =
      (List.range ds.length).map fun i : Nat => numberOf before + (i : Int) + 1 := by
  induction ds generalizing before with
  | nil => rfl
  | cons d ds ih =>
    have first := linked.1.follows.version_eq
    rw [List.map_cons, ih linked.2, List.length_cons, List.range_succ_eq_map, List.map_cons,
      List.map_map]
    simp only [numberOf, first, Function.comp_def]
    congr 1
    · omega
    · refine List.map_congr_left fun i _ => ?_
      push_cast
      omega

/-- All that comes after a version of a chain is a later delta of its session. -/
theorem Linked.after {v : VersionInfo} {ds : List Document}
    (linked : Linked ChainLink (some v) ds) : ∀ d ∈ ds,
      v.version < d.info.version ∧ d.info.kind = .delta ∧ d.info.session = v.session ∧
        v.lastSerial < d.info.lastSerial := by
  induction ds generalizing v with
  | nil => intro d hd; cases hd
  | cons e ds ih =>
    obtain ⟨number, kind, session⟩ := linked.1.follows
    have further := linked.1.further v rfl
    intro d hd
    rcases List.mem_cons.mp hd with rfl | later
    · exact ⟨by omega, kind, session, further⟩
    · obtain ⟨above, kind', session', further'⟩ := ih linked.2 d later
      exact ⟨by omega, kind', session'.trans session, by omega⟩

theorem Linked.ascending {before : Option VersionInfo} {ds : List Document}
    (linked : Linked ChainLink before ds) : ds.Pairwise fun a b =>
      a.info.version < b.info.version ∧ a.info.lastSerial < b.info.lastSerial := by
  induction ds generalizing before with
  | nil => exact .nil
  | cons d ds ih =>
    refine .cons ?_ (ih linked.2)
    intro e he
    obtain ⟨above, _, _, further⟩ := linked.2.after e he
    exact ⟨above, further⟩

theorem Linked.versionChain {ds : List Document} (linked : Linked ChainLink none ds) :
    VersionChain (ds.map (·.info.row)) := by
  have sessions : ∀ a ∈ ds, ∀ b ∈ ds, a.info.session = b.info.session := by
    cases ds with
    | nil => intro a ha; cases ha
    | cons d ds =>
      have first : ∀ a ∈ d :: ds, a.info.session = d.info.session := by
        intro a ha
        rcases List.mem_cons.mp ha with rfl | later
        · rfl
        · exact (linked.2.after a later).2.2.1
      intro a ha b hb
      rw [first a ha, first b hb]
  have kinds : ∀ d ∈ ds, d.info.kind = if d.info.version = 1 then .snapshot else .delta := by
    cases ds with
    | nil => intro a ha; cases ha
    | cons d ds =>
      obtain ⟨number, kind⟩ := linked.1.follows
      intro a ha
      rcases List.mem_cons.mp ha with rfl | later
      · rw [if_pos number, kind]
      · obtain ⟨above, delta, _⟩ := linked.2.after a later
        rw [if_neg (by omega), delta]
  refine ⟨?_, ?_, ?_, ?_⟩
  · rw [List.map_map, List.length_map]
    simpa [numberOf, Function.comp_def, VersionInfo.row] using linked.numbered
  · intro r hr
    obtain ⟨d, hd, rfl⟩ := List.mem_map.mp hr
    simp only [VersionInfo.row, kinds d hd]
    split
    · rfl
    · rfl
  · intro a ha b hb
    obtain ⟨c, hc, rfl⟩ := List.mem_map.mp ha
    obtain ⟨d, hd, rfl⟩ := List.mem_map.mp hb
    exact sessions c hc d hd
  · exact List.pairwise_map.mpr (linked.ascending.imp And.right)

end RegistryFeed
