import RegistryFeed.Proofs.Request.Selection
import RegistryFeed.Settings

/-!
# Requests for configured sources

Valid settings may call a source anything that is not blank, but a line can name it
only if its name has neither a blank nor a colon in it. Every request for such a
source is accepted, in any case of its letters and for any range, and as one for
this source and not for the other one. No line at all selects a source with
another name. Nothing is assumed of the settings but that they are valid.
-/

namespace RegistryFeed.Request

/-- The value of a request for the changes from a serial on, with the end of the range. -/
def selection (name : String) (first : Int) (final : String) : String :=
  name ++ ":3:" ++ Text.decimal first ++ "-" ++ final

/-- Asks for the changes from one serial up to another. -/
def rangeLine (name : String) (first last : Int) : String :=
  "-g " ++ selection name first (Text.decimal last)

/-- Asks for the changes from a serial on, and for those that come later. -/
def keepaliveLine (name : String) (first : Int) : String :=
  "-k -g " ++ selection name first "LAST"

/-! ## The source that is meant -/

/-- Valid settings spell their sources differently, so each is meant by its own name. -/
theorem names_of_valid {c : Settings} (valid : c.validate = .ok ()) {s : Source}
    (mem : s ∈ c.sources.all) {name : List Char} (spelled : Spells name s.name) :
    Names c.sources.context name s := by
  rcases List.mem_cons.mp mem with rfl | mem
  · exact .authoritative spelled
  · have present := Option.mem_toList.mp mem
    obtain ⟨other, configured, rfl⟩ := Option.map_eq_some_iff.mp present
    refine .nonAuthoritative present ?_ spelled
    intro both
    apply Settings.differ_of_valid valid configured
    exact sameWord_iff.mpr (spelled.symm.trans both)

/-! ## The words of the lines -/

theorem isSerial_decimal {n : Int} (low : 0 ≤ n) (high : n ≤ Text.maxInt64) :
    IsSerial (Text.decimal n).toList n := by
  obtain ⟨k, rfl⟩ := Int.eq_ofNat_of_zero_le low
  have text : (Text.decimal k).toList = Text.digits k := String.toList_ofList
  obtain ⟨nonempty, digits⟩ := isNumeral_iff.mp (Text.isNumeral_digits k)
  rw [text]
  exact ⟨nonempty, digits, by rw [Text.ofDigits_digits], high⟩

theorem IsSerial.nameable {cs : List Char} {n : Int} (h : IsSerial cs n) : Nameable cs := by
  intro c mem
  obtain ⟨low, high⟩ := h.digits c mem
  have range : 48 ≤ c.toNat ∧ c.toNat ≤ 57 := ⟨low, high⟩
  constructor
  · simp only [Text.isBlank, Bool.or_eq_true, Bool.and_eq_true, decide_eq_true_eq, beq_iff_eq]
    omega
  · rintro rfl
    exact absurd range (by decide)

theorem toList_selection (name : String) (first : Int) (final : String) :
    (selection name first final).toList = name.toList ++ ':' :: ['3'] ++ ':' ::
      ((Text.decimal first).toList ++ '-' :: final.toList) := by
  simp [selection]

/-- The value is a word, as long as what it is made of could be names. -/
theorem visible_selection {name final : String} {first : Int} (named : Nameable name.toList)
    (start : IsSerial (Text.decimal first).toList first) (stop : Nameable final.toList) :
    (selection name first final).toList ≠ [] ∧
      ∀ c ∈ (selection name first final).toList, ¬ Text.isBlank c := by
  rw [toList_selection]
  constructor
  · simp
  · intro c mem
    simp only [List.mem_append, List.mem_cons, List.not_mem_nil, or_false] at mem
    rcases mem with (mem | rfl | rfl) | rfl | mem | rfl | mem
    · exact (named c mem).1
    · decide
    · decide
    · decide
    · exact (start.nameable c mem).1
    · decide
    · exact (stop c mem).1

theorem selects_selection {ctx : SourceContext} {name final : String} {source : Source}
    {first : Int} {stop : RangeEnd} (named : Nameable name.toList)
    (means : Names ctx name.toList source)
    (range : IsRange ((Text.decimal first).toList ++ '-' :: final.toList) first stop) :
    Selects ctx (selection name first final) source first stop := by
  have colon : ':' ∉ name.toList := fun mem => (named _ mem).2 rfl
  have three : IsVersion ([] ++ ['3']) := .bare (by simp)
  have selects := Selects.fields colon means three range
  rwa [List.nil_append, ← toList_selection, String.ofList_toList] at selects

/-- A flag is a word, for there is no character in it that a name cannot have. -/
theorem Flag.visible_token (f : Flag) :
    f.token.toList ≠ [] ∧ ∀ c ∈ f.token.toList, ¬ Text.isBlank c := by
  have nameable : Nameable f.token.toList := by cases f <;> decide
  exact ⟨by cases f <;> decide, fun c mem => (nameable c mem).1⟩

/-- The words of a line that is written with one blank between them. -/
theorem tokens_of_spaced {line : String} {ts : List String}
    (text : line.toList = [' '].intercalate (ts.map String.toList))
    (word : ∀ t ∈ ts, t.toList ≠ [] ∧ ∀ c ∈ t.toList, ¬ Text.isBlank c) :
    tokens line = ts := by
  rw [tokens_eq_iff, text]
  apply Text.separated_intercalate
  intro w mem
  obtain ⟨t, ht, rfl⟩ := List.mem_map.mp mem
  exact word t ht

theorem parse_rangeLine {ctx : SourceContext} {name : String} {source : Source} {first last : Int}
    (named : Nameable name.toList) (means : Names ctx name.toList source) (low : 0 ≤ first)
    (ordered : first ≤ last) (high : last ≤ Text.maxInt64) :
    parse ctx (rangeLine name first last) = .ok (.changes source first (.serial last) false) := by
  have start := isSerial_decimal low (Int.le_trans ordered high)
  have stop := isSerial_decimal (Int.le_trans low ordered) high
  have words : tokens (rangeLine name first last) =
      ["-g", selection name first (Text.decimal last)] := by
    apply tokens_of_spaced
    · simp [rangeLine, List.intercalate]
    · rw [List.forall_mem_cons, List.forall_mem_singleton]
      exact ⟨Flag.changes.visible_token, visible_selection named start stop.nameable⟩
  rw [parse_iff_denotes, words]
  exact .changes (selects_selection named means (.upTo start stop ordered))

theorem parse_keepaliveLine {ctx : SourceContext} {name : String} {source : Source} {first : Int}
    (named : Nameable name.toList) (means : Names ctx name.toList source) (low : 0 ≤ first)
    (high : first ≤ Text.maxInt64) :
    parse ctx (keepaliveLine name first) = .ok (.changes source first .last true) := by
  have start := isSerial_decimal low high
  have words : tokens (keepaliveLine name first) = ["-k", "-g", selection name first "LAST"] := by
    apply tokens_of_spaced
    · simp [keepaliveLine, List.intercalate]
    · rw [List.forall_mem_cons, List.forall_mem_cons, List.forall_mem_singleton]
      exact ⟨Flag.keepalive.visible_token, Flag.changes.visible_token,
        visible_selection named start (by decide)⟩
  rw [parse_iff_denotes, words]
  exact .keepaliveFirst (selects_selection named means (.toLast start rfl))

/-! ## Requestable sources -/

/-- Every request for the source is accepted as one for it, in any case of the letters of its name
and for any range of serials. -/
def Requestable (ctx : SourceContext) (s : Source) : Prop :=
  ∀ (name : String) (first last : Int), Text.sameWord name s.name →
    0 ≤ first → first ≤ last → last ≤ Text.maxInt64 →
      parse ctx (rangeLine name first last) = .ok (.changes s first (.serial last) false) ∧
      parse ctx (keepaliveLine name first) = .ok (.changes s first .last true)

theorem requestable_of_nameable {c : Settings} (valid : c.validate = .ok ()) {s : Source}
    (mem : s ∈ c.sources.all) (nameable : Nameable s.name.toList) :
    Requestable c.sources.context s := by
  intro name first last same low ordered high
  have spelled := sameWord_iff.mp same
  have word := spelled.nameable_iff.mpr nameable
  have means := names_of_valid valid mem spelled
  exact ⟨parse_rangeLine word means low ordered high,
    parse_keepaliveLine word means low (Int.le_trans ordered high)⟩

theorem Requestable.selected {ctx : SourceContext} {s : Source} (h : Requestable ctx s) :
    parse ctx (rangeLine s.name 0 0) = .ok (.changes s 0 (.serial 0) false) :=
  (h s.name 0 0 (sameWord_iff.mpr rfl) (Int.le_refl 0) (Int.le_refl 0) (by decide)).1

theorem Requestable.nameable {ctx : SourceContext} {s : Source} (h : Requestable ctx s) :
    Nameable s.name.toList :=
  parse_nameable h.selected

/-- A source of valid settings can be requested if its name has neither a blank nor a colon; if it
has one, no line selects the source. -/
theorem requestable_iff {c : Settings} (valid : c.validate = .ok ()) {s : Source}
    (mem : s ∈ c.sources.all) :
    (Requestable c.sources.context s ↔ Nameable s.name.toList) ∧
    ((∃ (line : String) (first : Int) (final : RangeEnd) (keepalive : Bool),
      parse c.sources.context line = .ok (.changes s first final keepalive)) ↔
        Nameable s.name.toList) := by
  refine ⟨⟨Requestable.nameable, requestable_of_nameable valid mem⟩, ?_, ?_⟩
  · rintro ⟨line, first, final, keepalive, accepted⟩
    exact parse_nameable accepted
  · intro nameable
    exact ⟨_, _, _, _, (requestable_of_nameable valid mem nameable).selected⟩

/-- A name with a dot and one with a letter beyond ASCII. -/
theorem requestable_dotted :
    let c : Settings := { Settings.default with sources := ⟨"ripe.nεt", some "RIPE"⟩ }
    c.validate = .ok () ∧ (⟨"RIPE"⟩ : Source) ∈ c.sources.all ∧
      Requestable c.sources.context ⟨"ripe.nεt"⟩ ∧ Requestable c.sources.context ⟨"RIPE"⟩ := by
  have valid : { Settings.default with sources := ⟨"ripe.nεt", some "RIPE"⟩ }.validate =
      .ok () := by
    rfl
  have first := (requestable_iff valid (s := ⟨"ripe.nεt"⟩) (by decide)).1
  have second := (requestable_iff valid (s := ⟨"RIPE"⟩) (by decide)).1
  exact ⟨valid, by decide, first.mpr (by decide), second.mpr (by decide)⟩

/-- Valid settings with a blank before the name. A request for the source is refused if the other
one has another name, and is one for the other source if that has the name without the blank. -/
theorem blank_before_name :
    let alone : Settings := { Settings.default with sources := ⟨" RIPE", none⟩ }
    let beside : Settings := { Settings.default with sources := ⟨" RIPE", some "RIPE"⟩ }
    alone.validate = .ok () ∧
      parse alone.sources.context "-g  RIPE:3:1-2" = .error (.unknownSource "RIPE") ∧
      beside.validate = .ok () ∧
      parse beside.sources.context "-g  RIPE:3:1-2" =
        .ok (.changes ⟨"RIPE"⟩ 1 (.serial 2) false) ∧
      ¬ Requestable alone.sources.context ⟨" RIPE"⟩ ∧
      ¬ Requestable beside.sources.context ⟨" RIPE"⟩ := by
  have blank : ¬ Nameable (Source.mk " RIPE").name.toList := by decide
  refine ⟨rfl, rfl, rfl, rfl, ?_, ?_⟩
  · intro requestable
    exact blank requestable.nameable
  · intro requestable
    exact blank requestable.nameable

end RegistryFeed.Request
