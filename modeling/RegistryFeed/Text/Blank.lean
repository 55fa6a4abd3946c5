/-! # Blanks

The twenty-five characters of the Unicode property `White_Space`, and cutting text at them. A word
is a longest run of other characters, so words are never empty and never hold a blank. -/
namespace RegistryFeed.Text

def isBlank (c : Char) : Bool :=
  let n := c.toNat
  (0x09 ≤ n && n ≤ 0x0d) || n == 0x20 || n == 0x85 || n == 0xa0 || n == 0x1680 ||
    (0x2000 ≤ n && n ≤ 0x200a) || n == 0x2028 || n == 0x2029 || n == 0x202f || n == 0x205f ||
    n == 0x3000

/-- The words of a text, in order. -/
def words : List Char → List (List Char)
  | [] => []
  | c :: rest =>
    if isBlank c then words rest
    else match rest with
      | [] => [[c]]
      | d :: _ =>
        if isBlank d then [c] :: words rest
        else match words rest with
          | [] => [[c]]
          | w :: ws => (c :: w) :: ws

/-- Every word has a character, and none of its characters is blank. -/
theorem word_of_mem_words {cs w : List Char} (h : w ∈ words cs) :
    w ≠ [] ∧ ∀ c ∈ w, isBlank c = false := by
  fun_induction words cs generalizing w with
  | case1 => simp at h
  | case2 _ _ _ ih => exact ih h
  | case3 c visible => simp_all
  | case4 c visible d rest _ ih =>
    rcases List.mem_cons.1 h with rfl | h
    · simp_all
    · exact ih h
  | case5 c visible d rest _ none => simp_all
  | case6 c visible d rest _ v vs found ih =>
    simp only [found, List.mem_cons] at h ih
    rcases h with rfl | h
    · obtain ⟨_, clean⟩ := ih (.inl rfl)
      refine ⟨by simp, ?_⟩
      intro x hx
      rcases List.mem_cons.1 hx with rfl | hx
      · simpa using visible
      · exact clean x hx
    · exact ih (.inr h)

/-- The text without blanks at either end. -/
def trim (cs : List Char) : List Char :=
  ((cs.dropWhile isBlank).reverse.dropWhile isBlank).reverse

end RegistryFeed.Text
