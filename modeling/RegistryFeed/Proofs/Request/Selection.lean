import RegistryFeed.Proofs.Request.Acceptance

/-!
# Accepted selections

What is known of an accepted request for changes, whatever the line and whatever
the log: an explicit end does not lie before the first serial, and the name of
the source has neither a blank, as a line end is one, nor a colon, because the
first field of a word of the line spells it.
-/

namespace RegistryFeed.Request

/-- A range whose explicit end, if it has one, is not before its first serial. -/
def RangeEnd.NotBefore (first : Int) : RangeEnd → Prop
  | .last => True
  | .serial n => first ≤ n

theorem IsRange.notBefore {cs : List Char} {first : Int} {final : RangeEnd}
    (h : IsRange cs first final) : final.NotBefore first := by
  cases h with
  | toLast _ _ => trivial
  | upTo _ _ ordered => exact ordered

theorem Selects.notBefore {ctx : SourceContext} {value : String} {source : Source} {first : Int}
    {final : RangeEnd} (h : Selects ctx value source first final) : final.NotBefore first := by
  cases h with
  | fields _ _ _ selected => exact selected.notBefore

/-- The value of an accepted request is a word of the line. -/
theorem parse_selects {ctx : SourceContext} {line : String} {source : Source} {first : Int}
    {final : RangeEnd} {keepalive : Bool}
    (h : parse ctx line = .ok (.changes source first final keepalive)) :
    ∃ value ∈ tokens line, Selects ctx value source first final := by
  rw [parse_iff_denotes] at h
  generalize tokens line = ts at h ⊢
  cases h with
  | changes selects | keepaliveFirst selects | keepaliveLast selects =>
    exact ⟨_, by simp, selects⟩

theorem parse_notBefore {ctx : SourceContext} {line : String} {source : Source} {first : Int}
    {final : RangeEnd} {keepalive : Bool}
    (h : parse ctx line = .ok (.changes source first final keepalive)) :
    final.NotBefore first := by
  obtain ⟨value, -, selects⟩ := parse_selects h
  exact selects.notBefore

/-! ## The name of the source -/

/-- Only a letter becomes another character in lower case, and it becomes a letter. -/
theorem eq_of_toLower {c d : Char} (lower : c.toLower = d) (other : ¬ Text.isAsciiLetter d) :
    c = d := by
  by_cases letter : c.val ≥ 'A'.val ∧ c.val ≤ 'Z'.val
  · have low : 65 ≤ c.toNat := letter.1
    have high : c.toNat ≤ 90 := letter.2
    have moved : c.toLower.val = c.val + ('a'.val - 'A'.val) :=
      congrArg Char.val (dif_pos letter)
    rw [lower] at moved
    have sum : d.toNat = (c.toNat + 32) % 2 ^ 32 := by
      simpa [UInt32.toNat_add] using congrArg UInt32.toNat moved
    refine absurd ?_ other
    have above : 97 ≤ d.toNat := by omega
    have below : d.toNat ≤ 122 := by omega
    rw [Text.isAsciiLetter, Bool.or_eq_true]
    exact .inl (Bool.and_eq_true_iff.mpr ⟨decide_eq_true above, decide_eq_true below⟩)
  · rwa [show c.toLower = c from dif_neg letter] at lower

theorem toLower_of_not_letter {c : Char} (other : ¬ Text.isAsciiLetter c) : c.toLower = c := by
  refine dif_neg ?_
  rintro ⟨low, high⟩
  refine other ?_
  rw [Text.isAsciiLetter, Bool.or_eq_true]
  exact .inr (Bool.and_eq_true_iff.mpr ⟨decide_eq_true low, decide_eq_true high⟩)

/-- What is no letter stands in a text if it stands in the word that the text spells. -/
theorem Spells.mem_iff {text : List Char} {word : String} (h : Spells text word) {c : Char}
    (other : ¬ Text.isAsciiLetter c) : c ∈ text ↔ c ∈ word.toList := by
  have lowered (cs : List Char) : c ∈ cs ↔ c ∈ cs.map Char.toLower := by
    constructor
    · intro mem
      exact List.mem_map.mpr ⟨c, mem, toLower_of_not_letter other⟩
    · intro mem
      obtain ⟨d, hd, lower⟩ := List.mem_map.mp mem
      exact eq_of_toLower lower other ▸ hd
  rw [lowered text, lowered word.toList, h]

/-- A name that can stand in a word of a line, as the first of its fields. -/
def Nameable (name : List Char) : Prop := ∀ c ∈ name, ¬ Text.isBlank c ∧ c ≠ ':'

instance (name : List Char) : Decidable (Nameable name) :=
  List.decidableBAll (fun c => ¬ Text.isBlank c ∧ c ≠ ':') name

theorem not_letter_of_blank {c : Char} (blank : Text.isBlank c) : ¬ Text.isAsciiLetter c := by
  intro letter
  simp only [Text.isAsciiLetter, Bool.or_eq_true, Bool.and_eq_true, decide_eq_true_eq] at letter
  have range : 97 ≤ c.toNat ∧ c.toNat ≤ 122 ∨ 65 ≤ c.toNat ∧ c.toNat ≤ 90 := letter
  simp only [Text.isBlank, Bool.or_eq_true, Bool.and_eq_true, decide_eq_true_eq, beq_iff_eq]
    at blank
  omega

/-- Whether a name can stand in a line does not depend on the case of its letters. -/
theorem Spells.nameable_iff {text : List Char} {word : String} (h : Spells text word) :
    Nameable text ↔ Nameable word.toList := by
  have same {c : Char} (bad : ¬ (¬ Text.isBlank c ∧ c ≠ ':')) : c ∈ text ↔ c ∈ word.toList := by
    apply h.mem_iff
    by_cases blank : Text.isBlank c
    · exact not_letter_of_blank blank
    · obtain rfl := not_not.mp fun other => bad ⟨blank, other⟩
      decide
  constructor
  · intro nameable c mem
    by_contra bad
    exact bad (nameable c ((same bad).mpr mem))
  · intro nameable c mem
    by_contra bad
    exact bad (nameable c ((same bad).mp mem))

theorem Names.spells {ctx : SourceContext} {name : List Char} {source : Source}
    (h : Names ctx name source) : Spells name source.name := by
  cases h with
  | authoritative spelled | nonAuthoritative _ _ spelled => exact spelled

theorem parse_nameable {ctx : SourceContext} {line : String} {source : Source} {first : Int}
    {final : RangeEnd} {keepalive : Bool}
    (h : parse ctx line = .ok (.changes source first final keepalive)) :
    Nameable source.name.toList := by
  obtain ⟨value, mem, selects⟩ := parse_selects h
  obtain ⟨w, word, rfl⟩ := List.mem_map.mp mem
  obtain ⟨-, visible⟩ := Text.word_of_mem_words word
  generalize text : String.ofList w = value at selects
  cases selects with
  | @fields name version range _ _ _ oneName named _ _ =>
    obtain rfl := String.ofList_injective text
    refine named.spells.nameable_iff.mp fun c part => ⟨?_, ?_⟩
    · rw [visible c (by simp [part])]
      exact Bool.false_ne_true
    · rintro rfl
      exact oneName part

/-- A source that a request is about has one line for its name. -/
theorem parse_oneLine {ctx : SourceContext} {line : String} {source : Source} {first : Int}
    {final : RangeEnd} {keepalive : Bool}
    (h : parse ctx line = .ok (.changes source first final keepalive)) :
    '\n' ∉ source.name.toList :=
  fun mem => (parse_nameable h _ mem).1 (by decide)

end RegistryFeed.Request
