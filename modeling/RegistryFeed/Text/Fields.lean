/-! # Fields

Text cut at every, or at the first, occurrence of a separator. Cutting keeps empty fields, so
joining the fields again gives the text back. -/
namespace RegistryFeed.Text

/-- The fields between separators; one more than there are separators. -/
def fields (sep : Char) : List Char → List (List Char)
  | [] => [[]]
  | c :: rest =>
    if c = sep then [] :: fields sep rest
    else match fields sep rest with
      | [] => [[c]]
      | f :: fs => (c :: f) :: fs

theorem fields_ne_nil (sep : Char) (cs : List Char) : fields sep cs ≠ [] := by
  cases cs with
  | nil => simp [fields]
  | cons c rest =>
    simp only [fields]
    split
    · simp
    · split <;> simp

theorem intercalate_fields (sep : Char) (cs : List Char) :
    [sep].intercalate (fields sep cs) = cs := by
  induction cs with
  | nil => rfl
  | cons c rest ih =>
    simp only [fields]
    cases h : fields sep rest with
    | nil => exact absurd h (fields_ne_nil sep rest)
    | cons f fs =>
      rw [h] at ih
      split
      · next same => rw [← ih, same]; rfl
      · cases fs <;> simp_all [List.intercalate, List.intersperse]

/-- No field holds the separator. -/
theorem not_mem_of_mem_fields {sep : Char} {cs f : List Char} (h : f ∈ fields sep cs) :
    sep ∉ f := by
  induction cs generalizing f with
  | nil => simp_all [fields]
  | cons c rest ih =>
    simp only [fields] at h
    split at h
    · rcases List.mem_cons.1 h with rfl | h
      · simp
      · exact ih h
    · next other =>
      split at h
      · next none => exact absurd none (fields_ne_nil sep rest)
      · next g gs some =>
        rcases List.mem_cons.1 h with rfl | h
        · have := ih (some ▸ List.mem_cons_self)
          simp [this, Ne.symm other]
        · exact ih (some ▸ List.mem_cons_of_mem g h)

theorem fields_of_not_mem {sep : Char} {f : List Char} (whole : sep ∉ f) : fields sep f = [f] := by
  induction f with
  | nil => rfl
  | cons c f ih =>
    have other : sep ≠ c := List.ne_of_not_mem_cons whole
    have rest : sep ∉ f := List.not_mem_of_not_mem_cons whole
    rw [fields, if_neg (Ne.symm other), ih rest]

/-- What stands before and behind a separator is cut by itself. -/
theorem fields_append_sep (sep : Char) (a b : List Char) :
    fields sep (a ++ sep :: b) = fields sep a ++ fields sep b := by
  induction a with
  | nil => simp only [List.nil_append, fields, if_true, List.cons_append]
  | cons c a ih =>
    rw [List.cons_append, fields, fields, ih]
    split
    · rfl
    · cases h : fields sep a with
      | nil => exact absurd h (fields_ne_nil sep a)
      | cons f fs => rfl

/-- The first field ends at the first separator. -/
theorem fields_append {sep : Char} {f cs : List Char} (whole : sep ∉ f) :
    fields sep (f ++ sep :: cs) = f :: fields sep cs := by
  rw [fields_append_sep, fields_of_not_mem whole, List.cons_append, List.nil_append]

/-- The fields are the only texts without a separator that give the text back. -/
theorem fields_eq_iff {sep : Char} {cs : List Char} {fs : List (List Char)} :
    fields sep cs = fs ↔ fs ≠ [] ∧ (∀ f ∈ fs, sep ∉ f) ∧ [sep].intercalate fs = cs := by
  constructor
  · rintro rfl
    exact ⟨fields_ne_nil sep cs, fun f hf => not_mem_of_mem_fields hf, intercalate_fields sep cs⟩
  · rintro ⟨present, whole, rfl⟩
    induction fs with
    | nil => exact absurd rfl present
    | cons f fs ih =>
      have first := whole f List.mem_cons_self
      cases fs with
      | nil => simpa [List.intercalate] using fields_of_not_mem first
      | cons g fs =>
        have later := ih (List.cons_ne_nil g fs) fun x hx => whole x (List.mem_cons_of_mem f hx)
        have parts : [sep].intercalate (f :: g :: fs) =
            f ++ sep :: [sep].intercalate (g :: fs) := by
          simp [List.intercalate]
        rw [parts, fields_append first, later]

/-- The text before and after the first separator, if there is one. -/
def cut? (sep : Char) : List Char → Option (List Char × List Char)
  | [] => none
  | c :: rest =>
    if c = sep then some ([], rest)
    else (cut? sep rest).map fun parts => (c :: parts.1, parts.2)

/-- Cutting finds the first separator and nothing else. -/
theorem cut?_eq_some_iff {sep : Char} {cs a b : List Char} :
    cut? sep cs = some (a, b) ↔ cs = a ++ sep :: b ∧ sep ∉ a := by
  induction cs generalizing a with
  | nil => simp [cut?]
  | cons c rest ih =>
    simp only [cut?]
    split
    · next same =>
      subst same
      cases a with
      | nil => simp
      | cons d a =>
        simp only [Option.some.injEq, Prod.mk.injEq, reduceCtorEq, false_and, List.cons_append,
          List.cons.injEq, List.mem_cons, not_or, false_iff, not_and]
        intro first other
        exact absurd first.1 other
    · next other =>
      cases a with
      | nil => simp [other]
      | cons d a =>
        simp only [Option.map_eq_some_iff, Prod.mk.injEq, List.cons.injEq, Prod.exists,
          List.cons_append, List.mem_cons, not_or]
        constructor
        · rintro ⟨x, y, found, ⟨rfl, rfl⟩, rfl⟩
          obtain ⟨rfl, absent⟩ := ih.1 found
          exact ⟨⟨rfl, rfl⟩, Ne.symm other, absent⟩
        · rintro ⟨⟨rfl, rfl⟩, _, absent⟩
          exact ⟨a, b, ih.2 ⟨rfl, absent⟩, ⟨rfl, rfl⟩, rfl⟩

/-- Two texts that agree agree before and behind their first separators. -/
theorem eq_of_append_sep {sep : Char} {a b c d : List Char} (left : sep ∉ a) (right : sep ∉ c)
    (same : a ++ sep :: b = c ++ sep :: d) : a = c ∧ b = d := by
  have first : cut? sep (a ++ sep :: b) = some (a, b) := cut?_eq_some_iff.mpr ⟨rfl, left⟩
  have second : cut? sep (a ++ sep :: b) = some (c, d) := cut?_eq_some_iff.mpr ⟨same, right⟩
  exact Prod.mk.inj (Option.some.inj (first.symm.trans second))

theorem cut?_eq_none_iff {sep : Char} {cs : List Char} : cut? sep cs = none ↔ sep ∉ cs := by
  induction cs with
  | nil => simp [cut?]
  | cons c rest ih =>
    simp only [cut?]
    split
    · next same => simp [same]
    · next other => simp [ih, Ne.symm other]

end RegistryFeed.Text
