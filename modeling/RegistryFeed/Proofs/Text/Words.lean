import RegistryFeed.Text.Blank

/-!
# The words of a text

A text is cut at its blanks in one way only: each word is a longest run of other
characters. The relation says so without a way to find the words, and cutting
gives the one list of words for which it holds.
-/

namespace RegistryFeed.Text

/-- Blanks, and between them words that have no blank. -/
inductive Separated : List Char → List (List Char) → Prop
  | blanks {g : List Char} (blank : ∀ c ∈ g, isBlank c) : Separated g []
  | word {g w r : List Char} {ws : List (List Char)} (blank : ∀ c ∈ g, isBlank c)
      (present : w ≠ []) (visible : ∀ c ∈ w, ¬ isBlank c)
      (whole : ∀ c, r.head? = some c → isBlank c) (more : Separated r ws) :
      Separated (g ++ w ++ r) (w :: ws)

variable {c : Char} {cs gap w rest : List Char} {ws : List (List Char)}

theorem words_append_of_blank (blank : ∀ c ∈ gap, isBlank c) : words (gap ++ cs) = words cs := by
  induction gap with
  | nil => rfl
  | cons c gap ih =>
    have first : isBlank c = true := blank c List.mem_cons_self
    rw [List.cons_append, words.eq_def]
    simp only [if_pos first]
    exact ih fun d hd => blank d (List.mem_cons_of_mem c hd)

theorem words_append_of_visible (present : w ≠ []) (visible : ∀ c ∈ w, ¬ isBlank c)
    (whole : ∀ c, rest.head? = some c → isBlank c) : words (w ++ rest) = w :: words rest := by
  induction w with
  | nil => exact absurd rfl present
  | cons c w ih =>
    have first : ¬ isBlank c := visible c List.mem_cons_self
    cases w with
    | nil =>
      cases rest with
      | nil =>
        rw [words.eq_def]
        simp [first, words.eq_def []]
      | cons d rest =>
        have ends : isBlank d = true := whole d rfl
        rw [List.cons_append, List.nil_append, words.eq_def]
        simp only [if_neg first, if_pos ends]
    | cons d w =>
      have later := ih (List.cons_ne_nil d w) fun x hx => visible x (List.mem_cons_of_mem c hx)
      have next : ¬ isBlank d := visible d (List.mem_cons_of_mem c List.mem_cons_self)
      rw [List.cons_append] at later
      rw [List.cons_append, List.cons_append, words.eq_def]
      simp only [if_neg first, if_neg next, later]

theorem Separated.all_blank (h : Separated cs []) : ∀ c ∈ cs, isBlank c := by
  generalize none : [] = ws at h
  cases h with
  | blanks blank => exact blank
  | word => cases none

theorem Separated.cons_blank (blank : isBlank c) (h : Separated cs ws) :
    Separated (c :: cs) ws := by
  cases h with
  | blanks all =>
    refine .blanks ?_
    intro x hx
    rcases List.mem_cons.mp hx with rfl | hx
    · exact blank
    · exact all x hx
  | @word gap w rest ws all present visible whole more =>
    refine .word (g := c :: gap) ?_ present visible whole more
    intro x hx
    rcases List.mem_cons.mp hx with rfl | hx
    · exact blank
    · exact all x hx

/-- Words with one blank between them. -/
theorem separated_intercalate (word : ∀ w ∈ ws, w ≠ [] ∧ ∀ c ∈ w, ¬ isBlank c) :
    Separated ([' '].intercalate ws) ws := by
  induction ws with
  | nil => exact .blanks (by simp [List.intercalate])
  | cons w ws ih =>
    obtain ⟨present, visible⟩ := word w List.mem_cons_self
    have more := ih fun v hv => word v (List.mem_cons_of_mem w hv)
    cases ws with
    | nil =>
      have last := Separated.word (g := []) (by simp) present visible (by simp) more
      simpa [List.intercalate] using last
    | cons v ws =>
      have blank : isBlank ' ' := rfl
      have first := Separated.word (g := []) (by simp) present visible (by simpa using blank)
        (more.cons_blank blank)
      simpa [List.intercalate] using first

/-- A word grows at its front. -/
theorem Separated.cons_visible {d : Char} (visible : ¬ isBlank c) (next : ¬ isBlank d)
    (h : Separated (d :: cs) (w :: ws)) : Separated (c :: d :: cs) ((c :: w) :: ws) := by
  generalize text : d :: cs = all at h
  cases h with
  | @word gap w rest ws blank present clean whole more =>
    cases gap with
    | cons x gap =>
      obtain ⟨rfl, -⟩ := List.cons.inj text
      exact absurd (blank d List.mem_cons_self) next
    | nil =>
      refine .word (g := []) (w := c :: w) blank (List.cons_ne_nil c w) ?_ whole more
      intro x hx
      rcases List.mem_cons.mp hx with rfl | hx
      · exact visible
      · exact clean x hx

theorem separated_words (cs : List Char) : Separated cs (words cs) := by
  fun_induction words cs with
  | case1 => exact .blanks (by simp)
  | case2 c rest blank ih => exact ih.cons_blank blank
  | case3 c visible =>
    exact .word (g := []) (w := [c]) (r := []) (by simp) (by simp) (by simpa using visible)
      (by simp) (.blanks (by simp))
  | case4 c visible d rest blank ih =>
    exact .word (g := []) (w := [c]) (by simp) (by simp) (by simpa using visible)
      (by simpa using blank) ih
  | case5 c visible d rest next none ih =>
    rw [none] at ih
    exact absurd (ih.all_blank d List.mem_cons_self) next
  | case6 c visible d rest next v vs found ih =>
    rw [found] at ih ⊢
    exact ih.cons_visible visible next

/-- Cutting gives the words of the text. -/
theorem words_eq_iff : words cs = ws ↔ Separated cs ws := by
  constructor
  · rintro rfl
    exact separated_words cs
  · intro h
    induction h with
    | @blanks g blank =>
      have all : words (g ++ []) = words [] := words_append_of_blank blank
      rw [List.append_nil] at all
      rw [all, words.eq_def]
    | word blank present visible whole _ ih =>
      rw [List.append_assoc, words_append_of_blank blank,
        words_append_of_visible present visible whole, ih]

end RegistryFeed.Text
