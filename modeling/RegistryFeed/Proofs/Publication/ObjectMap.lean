import Mathlib.Data.Prod.Lex
import Mathlib.Data.String.Basic
import RegistryFeed.Publication.Filter

/-!
# Objects in order

The objects of a snapshot are in strictly ascending order of type and key, so no
type and key occurs twice, and looking one up finds the only text there is. The
order is that of pairs: by type, then by key.
-/

namespace RegistryFeed

namespace ObjectMap

theorem before_iff {a b : String × String} : before a b = true ↔ toLex a < toLex b := by
  rw [Prod.Lex.toLex_lt_toLex]
  simp [before]

/-- Types and keys ascend strictly. -/
def Ascending (m : ObjectMap) : Prop := m.Pairwise fun a b => toLex a.1 < toLex b.1

theorem mem_of_mem_insert {key : String × String} {payload : String} {m : ObjectMap}
    {e : (String × String) × String} (h : e ∈ m.insert key payload) :
    e = (key, payload) ∨ e ∈ m := by
  induction m with
  | nil => exact .inl (List.mem_singleton.mp h)
  | cons x rest ih =>
    simp only [insert] at h
    split at h
    · rcases List.mem_cons.mp h with new | later
      · exact .inl new
      · exact .inr (List.mem_cons_of_mem _ later)
    · split at h
      · rcases List.mem_cons.mp h with new | old
        · exact .inl new
        · exact .inr old
      · rcases List.mem_cons.mp h with first | later
        · exact .inr (first ▸ List.mem_cons_self)
        · rcases ih later with new | old
          · exact .inl new
          · exact .inr (List.mem_cons_of_mem _ old)

theorem Ascending.insert {m : ObjectMap} (h : m.Ascending) (key : String × String)
    (payload : String) : (m.insert key payload).Ascending := by
  induction m with
  | nil => exact List.pairwise_singleton _ _
  | cons x rest ih =>
    obtain ⟨first, others⟩ := List.pairwise_cons.mp h
    simp only [ObjectMap.insert]
    split
    · next same =>
      refine List.pairwise_cons.mpr ⟨?_, others⟩
      rw [← same]
      exact first
    · next different =>
      split
      · next early =>
        have below := before_iff.mp early
        refine List.pairwise_cons.mpr ⟨?_, h⟩
        intro y hy
        rcases List.mem_cons.mp hy with rfl | later
        · exact below
        · exact below.trans (first y later)
      · next late =>
        have above : toLex x.1 < toLex key := by
          rcases lt_trichotomy (toLex x.1) (toLex key) with lt | eq | gt
          · exact lt
          · exact absurd (toLex.injective eq) different
          · exact absurd (before_iff.mpr gt) late
        refine List.pairwise_cons.mpr ⟨?_, ih others⟩
        intro y hy
        rcases mem_of_mem_insert hy with rfl | old
        · exact above
        · exact first y old

theorem Ascending.erase {m : ObjectMap} (h : m.Ascending) (key : String × String) :
    (m.erase key).Ascending := h.filter _

/-- What is looked up in ascending objects is what they hold. -/
theorem Ascending.get?_eq_some_iff {m : ObjectMap} (h : m.Ascending) {key : String × String}
    {payload : String} : m.get? key = some payload ↔ (key, payload) ∈ m := by
  induction m with
  | nil => simp [get?]
  | cons x rest ih =>
    obtain ⟨first, others⟩ := List.pairwise_cons.mp h
    rw [get?_cons, List.mem_cons]
    split
    · next same =>
      constructor
      · intro here
        cases same
        cases here
        exact .inl rfl
      · rintro (here | later)
        · rw [← here]
        · exact absurd (first _ later) (by rw [same]; exact lt_irrefl _)
    · next different =>
      rw [ih others]
      constructor
      · intro later
        exact .inr later
      · rintro (here | later)
        · exact absurd (congrArg Prod.fst here) different
        · exact later

theorem Ascending.mem_objects_iff {m : ObjectMap} (h : m.Ascending) {objectType primaryKey : String}
    {payload : String} :
    ⟨objectType, primaryKey, payload⟩ ∈ m.objects ↔
      m.get? (objectType, primaryKey) = some payload := by
  rw [h.get?_eq_some_iff, objects, List.mem_map]
  constructor
  · rintro ⟨⟨⟨t, k⟩, p⟩, mem, same⟩
    cases same
    exact mem
  · intro mem
    exact ⟨_, mem, rfl⟩

end ObjectMap

/-- What a change makes of the text that is held for a type and a key. -/
def DeltaChange.result (c : DeltaChange) : Option String :=
  if c.operation = .delete then none else c.payload

/-- The filter of snapshots does what the filter of deltas publishes. -/
theorem PublicationFilter.get?_fold (f : PublicationFilter) (m : ObjectMap) (e : Entry)
    (key : String × String) :
    (f.fold m e).get? key =
      match f.change? e with
      | some c => if key = (c.objectType, c.primaryKey) then c.result else m.get? key
      | none => m.get? key := by
  unfold fold change?
  by_cases published : f.publishes e.objectType
  · simp only [published, Bool.not_true, Bool.false_eq_true, if_false]
    cases op : e.operation with
    | delete => simp [Operation.isDelete, ObjectMap.get?_erase, DeltaChange.result]
    | add =>
      cases e.payload with
      | none => simp [Operation.isDelete]
      | some p => simp [Operation.isDelete, ObjectMap.get?_insert, DeltaChange.result]
    | update =>
      cases e.payload with
      | none => simp [Operation.isDelete]
      | some p => simp [Operation.isDelete, ObjectMap.get?_insert, DeltaChange.result]
  · simp [published]

namespace PublicationFilter

theorem fold_ascending (f : PublicationFilter) {m : ObjectMap} (h : m.Ascending) (e : Entry) :
    (f.fold m e).Ascending := by
  unfold fold
  split
  · exact h
  · split
    · exact h.erase _
    · split
      · exact h.insert _ _
      · exact h

/-- The state after all entries is in order, whatever the entries are. -/
theorem foldl_ascending (f : PublicationFilter) (es : List Entry) {m : ObjectMap}
    (h : m.Ascending) : (es.foldl f.fold m).Ascending := by
  induction es generalizing m with
  | nil => exact h
  | cons e es ih => exact ih (f.fold_ascending h e)

end PublicationFilter

end RegistryFeed
