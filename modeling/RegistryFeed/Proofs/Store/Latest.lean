import RegistryFeed.Proofs.Store.Commit

/-!
# The latest version of a source

Rows come back in ascending order of versions, whatever the order in which they
were inserted, so no row of the source is above the one that is found. Where they
were inserted in ascending order, the last row that was inserted is the one that
is found.
-/

namespace RegistryFeed.Store

theorem mem_insertByVersion {row r : VersionRow} {rows : List VersionRow} :
    r ∈ insertByVersion row rows ↔ r = row ∨ r ∈ rows := by
  induction rows with
  | nil => simp [insertByVersion]
  | cons x rest ih =>
    rw [insertByVersion]
    split
    · simp
    · simp only [List.mem_cons, ih]
      constructor
      · rintro (here | new | later)
        · exact .inr (.inl here)
        · exact .inl new
        · exact .inr (.inr later)
      · rintro (new | here | later)
        · exact .inr (.inl new)
        · exact .inl here
        · exact .inr (.inr later)

/-- Sorting the rows of a source neither adds nor loses one. -/
theorem mem_chain {s : Store} {source : Source} {r : VersionRow} :
    r ∈ s.chain source ↔ r ∈ s.versions ∧ r.source = source := by
  have sorted : ∀ rows : List VersionRow, r ∈ rows.foldr insertByVersion [] ↔ r ∈ rows := by
    intro rows
    induction rows with
    | nil => rfl
    | cons x rest ih => rw [List.foldr_cons, mem_insertByVersion, ih, List.mem_cons]
  rw [chain, sorted, versionsOf, List.mem_filter, decide_eq_true_eq]

theorem insertByVersion_sorted {row : VersionRow} {rows : List VersionRow}
    (h : rows.Pairwise fun a b => a.version ≤ b.version) :
    (insertByVersion row rows).Pairwise fun a b => a.version ≤ b.version := by
  induction rows with
  | nil => exact List.pairwise_singleton _ _
  | cons r rest ih =>
    obtain ⟨first, others⟩ := List.pairwise_cons.mp h
    rw [insertByVersion]
    split
    · next below =>
      refine List.pairwise_cons.mpr ⟨?_, h⟩
      intro x hx
      rcases List.mem_cons.mp hx with rfl | later
      · omega
      · have := first x later
        omega
    · refine List.pairwise_cons.mpr ⟨?_, ih others⟩
      intro x hx
      rcases mem_insertByVersion.mp hx with rfl | later
      · omega
      · exact first x later

theorem chain_sorted (s : Store) (source : Source) :
    (s.chain source).Pairwise fun a b => a.version ≤ b.version := by
  rw [chain]
  induction s.versionsOf source with
  | nil => exact List.Pairwise.nil
  | cons r rest ih => exact insertByVersion_sorted ih

/-- The version that is found is a row of the source, the last one of the chain. -/
theorem getLast?_of_findLast {s : Store} {source : Source} {v : VersionInfo}
    (h : s.findLast source = .ok (some v)) : (s.chain source).getLast? = some v.row := by
  unfold findLast at h
  split at h
  · next r hr =>
    obtain ⟨w, hi, same⟩ := bind_eq_ok_iff.mp h
    obtain rfl : w = v := Option.some.inj (Except.ok.inj same)
    rw [hr, VersionRow.row_of_info hi]
  · cases h

theorem mem_of_findLast {s : Store} {source : Source} {v : VersionInfo}
    (h : s.findLast source = .ok (some v)) : v.row ∈ s.versions ∧ v.source = source :=
  mem_chain.mp (List.mem_of_getLast? (getLast?_of_findLast h))

/-- Where no version is found there is no row of the source. -/
theorem chain_of_findLast_none {s : Store} {source : Source} (h : s.findLast source = .ok none) :
    s.chain source = [] := by
  unfold findLast at h
  split at h
  · next r hr =>
    obtain ⟨w, -, same⟩ := bind_eq_ok_iff.mp h
    exact absurd (Except.ok.inj same) (Option.some_ne_none w)
  · next none => exact List.getLast?_eq_none_iff.mp none

/-- No row of the source is above the version that is found. -/
theorem le_of_findLast {s : Store} {source : Source} {previous : Option VersionInfo}
    (h : s.findLast source = .ok previous) {r : VersionRow} (hr : r ∈ s.versions)
    (same : r.source = source) : ∃ v, previous = some v ∧ r.version ≤ v.version := by
  have mem := mem_chain.mpr ⟨hr, same⟩
  cases previous with
  | none =>
    rw [chain_of_findLast_none h] at mem
    cases mem
  | some v =>
    obtain ⟨init, parts⟩ := List.getLast?_eq_some_iff.mp (getLast?_of_findLast h)
    have sorted := s.chain_sorted source
    rw [parts] at sorted mem
    refine ⟨v, rfl, ?_⟩
    rcases List.mem_append.mp mem with earlier | last
    · exact (List.pairwise_append.mp sorted).2.2 r earlier v.row List.mem_cons_self
    · rw [List.mem_singleton.mp last]
      exact Int.le_refl _

theorem chain_of_ascending {s : Store} {source : Source}
    (h : (s.versionsOf source).Pairwise fun a b => a.version < b.version) :
    s.chain source = s.versionsOf source := by
  rw [chain]
  generalize s.versionsOf source = rows at h
  induction rows with
  | nil => rfl
  | cons x rest ih =>
    obtain ⟨first, others⟩ := List.pairwise_cons.mp h
    rw [List.foldr_cons, ih others]
    cases rest with
    | nil => rfl
    | cons y rest => rw [insertByVersion, if_pos (first y List.mem_cons_self)]

end RegistryFeed.Store
