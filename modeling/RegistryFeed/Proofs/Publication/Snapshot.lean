import Mathlib.Data.List.Induction
import RegistryFeed.Proofs.Publication.ObjectMap
import RegistryFeed.Proofs.Text.ByteOrder

/-!
# What a snapshot holds

A snapshot is folded entry by entry, and holds of every object what the last entry says
that says anything about it. An entry that neither deletes its object nor has a text for
it says nothing. The objects stand in the order of the bytes of their types and keys.
The entries are any list: serials play no part.
-/

namespace RegistryFeed

/-- The entry says what becomes of its object: it deletes the object, or has a text for it. -/
def Entry.Settles (e : Entry) : Prop := e.operation = .delete ∨ e.payload.isSome

instance (e : Entry) : Decidable e.Settles := inferInstanceAs (Decidable (_ ∨ _))

/-- The entries that say what becomes of the object with a type and a key. -/
def entriesOn (es : List Entry) (objectType primaryKey : String) : List Entry :=
  es.filter fun e => e.objectType = objectType ∧ e.primaryKey = primaryKey ∧ e.Settles

/-- The text that an entry leaves for its object. -/
def Entry.left (e : Entry) : Option String :=
  if e.operation = .delete then none else e.payload

theorem Entry.left_eq_some_iff {e : Entry} {p : String} :
    e.left = some p ↔ (e.operation = .add ∨ e.operation = .update) ∧ e.payload = some p := by
  unfold left
  cases e.operation <;> simp

namespace PublicationFilter

/-- What an entry with a published change leaves for its object, and that it settles it. -/
theorem change?_cases (f : PublicationFilter) (e : Entry) :
    (f.publishes e.objectType = true ∧ e.Settles ∧ ∃ c, f.change? e = some c ∧
      c.objectType = e.objectType ∧ c.primaryKey = e.primaryKey ∧ c.result = e.left) ∨
    (¬ (f.publishes e.objectType = true ∧ e.Settles) ∧ f.change? e = none) := by
  unfold change? Entry.Settles Entry.left
  cases f.publishes e.objectType with
  | false => exact .inr (by simp)
  | true =>
    cases e.operation <;> cases e.payload <;>
      simp [Operation.isDelete, DeltaChange.result]

/-- A published entry that settles its object leaves its text there, and any other entry changes
nothing. -/
theorem get?_fold_left (f : PublicationFilter) (m : ObjectMap) (e : Entry) (t k : String) :
    (f.fold m e).get? (t, k) =
      if f.publishes t ∧ e.objectType = t ∧ e.primaryKey = k ∧ e.Settles then e.left
      else m.get? (t, k) := by
  rw [f.get?_fold]
  rcases f.change?_cases e with ⟨published, settles, c, change, ofType, ofKey, left⟩ |
    ⟨silent, change⟩
  · simp only [change, Prod.mk.injEq, ofType, ofKey, left]
    by_cases here : t = e.objectType ∧ k = e.primaryKey
    · obtain ⟨rfl, rfl⟩ := here
      simp [published, settles]
    · rw [if_neg here, if_neg]
      rintro ⟨-, sameType, sameKey, -⟩
      exact here ⟨sameType.symm, sameKey.symm⟩
  · simp only [change]
    rw [if_neg]
    rintro ⟨published, rfl, -, settles⟩
    exact silent ⟨published, settles⟩

/-- What the state after some entries holds for a type and a key. -/
theorem get?_foldl (f : PublicationFilter) (es : List Entry) (t k : String) :
    ObjectMap.get? (es.foldl f.fold []) (t, k) =
      if f.publishes t then (entriesOn es t k).getLast?.bind Entry.left else none := by
  induction es using List.reverseRecOn with
  | nil => simp [ObjectMap.get?, entriesOn]
  | append_singleton es e ih =>
    rw [List.foldl_append, List.foldl_cons, List.foldl_nil, get?_fold_left, ih]
    by_cases here : e.objectType = t ∧ e.primaryKey = k ∧ e.Settles
    · have last : entriesOn (es ++ [e]) t k = entriesOn es t k ++ [e] := by
        simp [entriesOn, here]
      rw [last, List.getLast?_concat, Option.bind_some]
      by_cases published : f.publishes t = true
      · rw [if_pos ⟨published, here⟩, if_pos published]
      · rw [if_neg fun h => published h.1, if_neg published, if_neg published]
    · have same : entriesOn (es ++ [e]) t k = entriesOn es t k := by
        simp [entriesOn, here]
      rw [same, if_neg fun h => here h.2]

/-- Entries that settle nothing do not matter. -/
theorem foldl_filter_settles (f : PublicationFilter) (es : List Entry) (m : ObjectMap) :
    (es.filter fun e => e.Settles).foldl f.fold m = es.foldl f.fold m := by
  induction es generalizing m with
  | nil => rfl
  | cons e es ih =>
    by_cases settles : e.Settles
    · rw [List.filter_cons_of_pos (by simpa using settles), List.foldl_cons, List.foldl_cons, ih]
    · have stays : f.fold m e = m := by
        unfold fold
        unfold Entry.Settles at settles
        cases op : e.operation <;> cases payload : e.payload <;>
          simp_all [Operation.isDelete]
      rw [List.filter_cons_of_neg (by simpa using settles), List.foldl_cons, stays, ih]

theorem publishes_ofTypes (types : List String) (t : String) :
    (ofTypes types).publishes t = true ↔ Text.lowercase t ∉ types.map Text.lowercase := by
  simp [publishes, ofTypes]

end PublicationFilter

/-- The objects of a snapshot are in strictly ascending order of the bytes of type and key. An
object is among them exactly if its type is not excluded and, of the entries of its type and key
that delete it or have a text, there is a last one, which adds or updates it with this text.
Entries that do neither change nothing. -/
theorem objects_of_log (types : List String) (es : List Entry) :
    let f := PublicationFilter.ofTypes types
    (f.objects es).Pairwise (fun a b =>
      toLex (Utf8.bytesOf a.objectType, Utf8.bytesOf a.primaryKey) <
        toLex (Utf8.bytesOf b.objectType, Utf8.bytesOf b.primaryKey)) ∧
    (∀ t k p, ⟨t, k, p⟩ ∈ f.objects es ↔
      Text.lowercase t ∉ types.map Text.lowercase ∧
        ∃ e, (entriesOn es t k).getLast? = some e ∧
          (e.operation = .add ∨ e.operation = .update) ∧ e.payload = some p) ∧
    f.objects (es.filter fun e => e.Settles) = f.objects es := by
  intro f
  have ascending := f.foldl_ascending es .nil
  refine ⟨?_, ?_, ?_⟩
  · refine List.pairwise_map.mpr (ascending.imp ?_)
    intro a b less
    rw [Prod.Lex.toLex_lt_toLex] at less ⊢
    rcases less with ofType | ⟨sameType, ofKey⟩
    · exact .inl (Utf8.bytesOf_lt_iff.mpr ofType)
    · exact .inr ⟨congrArg Utf8.bytesOf sameType, Utf8.bytesOf_lt_iff.mpr ofKey⟩
  · intro t k p
    have allowed := PublicationFilter.publishes_ofTypes types t
    rw [PublicationFilter.objects, ascending.mem_objects_iff, f.get?_foldl]
    split
    · next published =>
      simp only [Option.bind_eq_some_iff, Entry.left_eq_some_iff, allowed.mp published,
        not_false_eq_true, true_and]
    · next hidden =>
      refine iff_of_false (by simp) ?_
      rintro ⟨free, -⟩
      exact hidden (allowed.mpr free)
  · exact congrArg ObjectMap.objects (f.foldl_filter_settles es [])

end RegistryFeed
