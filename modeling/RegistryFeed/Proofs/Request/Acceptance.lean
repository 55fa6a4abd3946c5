import Mathlib.Data.List.Induction
import RegistryFeed.Error
import RegistryFeed.Proofs.Text.Words
import RegistryFeed.Request.Grammar
import RegistryFeed.Request.Parser

/-!
# What is accepted

A line is accepted exactly if its words make a request, and then as the request
that they make. Each reader is matched with the relation of the grammar that it
decides, from the digits of a serial up to the words of a line; that no flag may
stand twice and that the flags exclude each other leaves four orders of words.
-/

namespace RegistryFeed.Request

/-! ## Words and numbers -/

theorem sameWord_iff {a b : String} : Text.sameWord a b ↔ Spells a.toList b := by
  rw [Text.sameWord, beq_iff_eq]
  rfl

theorem Spells.not_mem {text : List Char} {word : String} (h : Spells text word) {c : Char}
    (other : c.toLower ∉ word.toList.map Char.toLower) : c ∉ text := by
  intro mem
  rw [← h] at other
  exact other (List.mem_map_of_mem mem)

theorem ofText?_eq_some_iff {text : String} {option : InfoOption} :
    InfoOption.ofText? text = some option ↔ Spells text.toList option.text := by
  constructor
  · intro h
    rw [InfoOption.ofText?] at h
    split at h
    · next word =>
      obtain rfl := Option.some.inj h
      exact sameWord_iff.mp word
    · split at h
      · next word =>
        obtain rfl := Option.some.inj h
        exact sameWord_iff.mp word
      · cases h
  · intro spelled
    have same (word : String) : Text.sameWord text word = Text.sameWord option.text word :=
      congrArg (· == word.toList.map Char.toLower) spelled
    rw [InfoOption.ofText?, same, same]
    exact InfoOption.ofText?_text option

theorem readInfoOption_eq_ok_iff {text : String} {option : InfoOption} :
    readInfoOption text = .ok option ↔ Spells text.toList option.text := by
  rw [← ofText?_eq_some_iff, readInfoOption]
  cases InfoOption.ofText? text <;> simp

theorem isNumeral_iff {cs : List Char} :
    Text.isNumeral cs ↔ cs ≠ [] ∧ ∀ c ∈ cs, '0' ≤ c ∧ c ≤ '9' := by
  simp [Text.isNumeral, Text.isAsciiDigit]

theorem readSerial_eq_ok_iff {cs : List Char} {n : Int} :
    readSerial cs = .ok n ↔ IsSerial cs n := by
  rw [readSerial]
  constructor
  · intro h
    split at h
    · next numeral =>
      obtain ⟨nonempty, digits⟩ := isNumeral_iff.mp numeral
      simp only at h
      split at h
      · next bounded =>
        obtain rfl := Except.ok.inj h
        exact ⟨nonempty, digits, rfl, bounded⟩
      · cases h
    · cases h
  · rintro ⟨nonempty, digits, rfl, bounded⟩
    rw [if_pos (isNumeral_iff.mpr ⟨nonempty, digits⟩)]
    exact if_pos bounded

theorem eq_of_digitValue {c : Char} {d : Nat} (digit : '0' ≤ c) (value : Text.digitValue c = d) :
    c = Text.digitChar d := by
  have low : 48 ≤ c.toNat := digit
  have code : 48 + d = c.toNat := by
    rw [Text.digitValue] at value
    omega
  rw [Text.digitChar, code, Char.ofNat_toNat]

theorem ofDigits_concat (cs : List Char) (c : Char) :
    Text.ofDigits 0 (cs ++ [c]) = Text.ofDigits 0 cs * 10 + Text.digitValue c := by
  rw [Text.ofDigits_append]
  rfl

/-- Only zeros have no value. -/
theorem ofDigits_eq_zero_iff {cs : List Char} (digits : ∀ c ∈ cs, '0' ≤ c) :
    Text.ofDigits 0 cs = 0 ↔ ∀ c ∈ cs, c = '0' := by
  induction cs using List.reverseRecOn with
  | nil => simp [Text.ofDigits]
  | append_singleton cs c ih =>
    obtain ⟨front, last⟩ := List.forall_mem_append.mp digits
    have digit := last c List.mem_cons_self
    have zero : Text.digitValue c = 0 ↔ c = '0' := by
      constructor
      · exact eq_of_digitValue digit
      · rintro rfl
        rfl
    rw [ofDigits_concat, List.forall_mem_append, ← ih front, List.forall_mem_singleton, ← zero]
    omega

/-- A numeral of value three ends in the only digit that is not a zero. -/
theorem ofDigits_eq_three_iff {cs : List Char} :
    Text.isNumeral cs ∧ Text.ofDigits 0 cs = 3 ↔
      ∃ zeros : List Char, (∀ c ∈ zeros, c = '0') ∧ cs = zeros ++ ['3'] := by
  constructor
  · rintro ⟨numeral, value⟩
    obtain ⟨nonempty, digits⟩ := isNumeral_iff.mp numeral
    obtain ⟨zeros, c, rfl⟩ := (List.eq_nil_or_concat cs).resolve_left nonempty
    rw [List.concat_eq_append] at *
    obtain ⟨front, last⟩ := List.forall_mem_append.mp digits
    rw [ofDigits_concat] at value
    have three : c = '3' :=
      eq_of_digitValue (d := 3) (last c List.mem_cons_self).1 (by omega)
    have none : Text.ofDigits 0 zeros = 0 := by omega
    refine ⟨zeros, (ofDigits_eq_zero_iff fun x hx => (front x hx).1).mp none, ?_⟩
    rw [three]
  · rintro ⟨zeros, all, rfl⟩
    have digits : ∀ c ∈ zeros, '0' ≤ c ∧ c ≤ '9' := by
      intro c hc
      rw [all c hc]
      decide
    have none := (ofDigits_eq_zero_iff fun c hc => (digits c hc).1).mpr all
    constructor
    · rw [isNumeral_iff, List.forall_mem_append]
      exact ⟨by simp, digits, List.forall_mem_singleton.mpr (by decide)⟩
    · rw [ofDigits_concat, none]
      rfl

/-- A plus sign is not part of the numeral. -/
theorem readUpTo?_eq_some_iff {bound n : Nat} {cs : List Char} :
    Text.readUpTo? bound cs = some n ↔ ∃ body, (cs = body ∨ cs = '+' :: body) ∧
      (Text.isNumeral body ∧ Text.ofDigits 0 body = n) ∧ n ≤ bound := by
  have read (body : List Char) : (if Text.isNumeral body && Text.ofDigits 0 body ≤ bound then
      some (Text.ofDigits 0 body) else none) = some n ↔
        (Text.isNumeral body ∧ Text.ofDigits 0 body = n) ∧ n ≤ bound := by
    simp only [Option.ite_none_right_eq_some, Bool.and_eq_true, decide_eq_true_eq,
      Option.some.injEq]
    constructor
    · rintro ⟨⟨numeral, bounded⟩, rfl⟩
      exact ⟨⟨numeral, rfl⟩, bounded⟩
    · rintro ⟨⟨numeral, rfl⟩, bounded⟩
      exact ⟨⟨numeral, bounded⟩, rfl⟩
  simp only [Text.readUpTo?, read]
  split
  · next rest =>
    constructor
    · intro h
      exact ⟨rest, Or.inr rfl, h⟩
    · rintro ⟨body, rfl | same, h⟩
      · exact absurd (isNumeral_iff.mp h.1.1).2 (by simp)
      · obtain rfl := (List.cons.inj same).2
        exact h
  · next unsigned =>
    constructor
    · intro h
      exact ⟨cs, Or.inl rfl, h⟩
    · rintro ⟨body, rfl | same, h⟩
      · exact h
      · exact absurd same (unsigned body)

theorem isVersion_iff {cs : List Char} :
    Text.readUpTo? Text.maxNat32 cs = some protocolVersion ↔ IsVersion cs := by
  rw [readUpTo?_eq_some_iff]
  simp only [protocolVersion, ofDigits_eq_three_iff]
  constructor
  · rintro ⟨body, rfl | rfl, ⟨zeros, all, rfl⟩, -⟩
    · exact .bare all
    · exact .signed all
  · rintro (⟨all⟩ | ⟨all⟩)
    · exact ⟨_, Or.inl rfl, ⟨_, all, rfl⟩, by decide⟩
    · exact ⟨_, Or.inr rfl, ⟨_, all, rfl⟩, by decide⟩

/-! ## Ranges -/

/-- A digit is no letter, no hyphen and no colon. -/
theorem IsSerial.not_mem {cs : List Char} {n : Int} (h : IsSerial cs n) {c : Char}
    (other : ¬ ('0' ≤ c ∧ c ≤ '9')) : c ∉ cs :=
  fun mem => other (h.digits c mem)

theorem toLower_digit {c : Char} (high : c ≤ '9') : c.toLower = c := by
  have small : c.toNat ≤ 57 := high
  have noLetter : ¬ (c.val ≥ 'A'.val ∧ c.val ≤ 'Z'.val) := by
    rintro ⟨letter, -⟩
    have large : 65 ≤ c.toNat := letter
    omega
  exact dif_neg noLetter

theorem IsSerial.not_spells_last {cs : List Char} {n : Int} (h : IsSerial cs n) :
    ¬ Spells cs "LAST" := by
  intro spelled
  have letter : 'l' ∈ cs.map Char.toLower := by
    rw [spelled]
    decide
  obtain ⟨c, mem, lower⟩ := List.mem_map.mp letter
  obtain ⟨low, high⟩ := h.digits c mem
  rw [toLower_digit high] at lower
  subst lower
  exact absurd high (by decide)

theorem readRange_eq_ok_iff {cs : List Char} {first : Int} {final : RangeEnd} :
    readRange cs = .ok (first, final) ↔ IsRange cs first final := by
  constructor
  · intro h
    rw [readRange] at h
    split at h
    · cases h
    · next a b found =>
      obtain ⟨rfl, -⟩ := Text.cut?_eq_some_iff.mp found
      obtain ⟨n, start, h⟩ := bind_eq_ok_iff.mp h
      split at h
      · next word =>
        cases h
        rw [sameWord_iff, String.toList_ofList] at word
        exact .toLast (readSerial_eq_ok_iff.mp start) word
      · obtain ⟨m, stop, h⟩ := bind_eq_ok_iff.mp h
        split at h
        · cases h
        · next ordered =>
          cases h
          exact .upTo (readSerial_eq_ok_iff.mp start) (readSerial_eq_ok_iff.mp stop)
            (Int.not_lt.mp ordered)
  · intro h
    rw [readRange]
    cases h with
    | @toLast a b first start word =>
      have found : Text.cut? '-' (a ++ '-' :: b) = some (a, b) :=
        Text.cut?_eq_some_iff.mpr ⟨rfl, start.not_mem (by decide)⟩
      have last : Text.sameWord (String.ofList b) "LAST" := by
        rwa [sameWord_iff, String.toList_ofList]
      simp only [found, readSerial_eq_ok_iff.mpr start, bind, Except.bind, if_pos last, pure,
        Except.pure]
    | @upTo a b first last start stop ordered =>
      have found : Text.cut? '-' (a ++ '-' :: b) = some (a, b) :=
        Text.cut?_eq_some_iff.mpr ⟨rfl, start.not_mem (by decide)⟩
      have number : ¬ Text.sameWord (String.ofList b) "LAST" := by
        rw [sameWord_iff, String.toList_ofList]
        exact stop.not_spells_last
      simp only [found, readSerial_eq_ok_iff.mpr start, readSerial_eq_ok_iff.mpr stop, bind,
        Except.bind, if_neg number, if_neg (Int.not_lt.mpr ordered), pure, Except.pure]

/-! ## Selections -/

theorem answersTo_iff {source : Source} {name : List Char} :
    source.answersTo (String.ofList name) ↔ Spells name source.name := by
  rw [Source.answersTo, sameWord_iff, Spells, Spells, String.toList_ofList, eq_comm]

theorem resolve_eq_some_iff {ctx : SourceContext} {name : List Char} {source : Source} :
    ctx.resolve (String.ofList name) = some source ↔ Names ctx name source := by
  rw [SourceContext.resolve, SourceContext.servable, List.find?_cons]
  by_cases first : Spells name ctx.authoritative.name
  · rw [answersTo_iff.mpr first]
    constructor
    · intro h
      obtain rfl := Option.some.inj h
      exact .authoritative first
    · intro h
      cases h with
      | authoritative _ => rfl
      | nonAuthoritative _ other _ => exact absurd first other
  · rw [Bool.eq_false_iff.mpr fun h => first (answersTo_iff.mp h)]
    constructor
    · intro h
      have mem := List.mem_of_find?_eq_some h
      have found := List.find?_some h
      exact .nonAuthoritative (Option.mem_toList.mp mem) first (answersTo_iff.mp found)
    · intro h
      cases h with
      | authoritative h => exact absurd h first
      | nonAuthoritative present _ h =>
        rw [present, Option.toList, List.find?_singleton, if_pos (answersTo_iff.mpr h)]

theorem IsVersion.colon_not_mem {cs : List Char} (h : IsVersion cs) : ':' ∉ cs := by
  have plain {zeros : List Char} (all : ∀ c ∈ zeros, c = '0') : ':' ∉ zeros ++ ['3'] := by
    intro mem
    rcases List.mem_append.mp mem with mem | mem
    · exact absurd (all _ mem) (by decide)
    · exact absurd mem (by decide)
  cases h with
  | bare all => exact plain all
  | signed all =>
    rw [List.cons_append, List.mem_cons, not_or]
    exact ⟨by decide, plain all⟩

theorem IsRange.colon_not_mem {cs : List Char} {first : Int} {final : RangeEnd}
    (h : IsRange cs first final) : ':' ∉ cs := by
  have digit : ¬ ('0' ≤ ':' ∧ ':' ≤ '9') := by decide
  cases h with
  | toLast start word => simp [start.not_mem digit, word.not_mem (c := ':') (by decide)]
  | upTo start stop _ => simp [start.not_mem digit, stop.not_mem digit]

/-- A value of three fields is the fields with colons between them. -/
theorem fields_eq_three_iff {cs name version range : List Char} :
    Text.fields ':' cs = [name, version, range] ↔
      (':' ∉ name ∧ ':' ∉ version ∧ ':' ∉ range) ∧ cs = name ++ ':' :: version ++ ':' :: range := by
  rw [Text.fields_eq_iff]
  have joined : [':'].intercalate [name, version, range] =
      name ++ ':' :: version ++ ':' :: range := by
    simp [List.intercalate]
  rw [joined, @eq_comm _ cs]
  simp

theorem readSelection_eq_ok_iff {ctx : SourceContext} {value : String} {source : Source}
    {first : Int} {final : RangeEnd} :
    readSelection ctx value = .ok (source, first, final) ↔
      Selects ctx value source first final := by
  constructor
  · intro h
    rw [readSelection] at h
    split at h
    · cases h
    · next name more cut =>
      split at h
      · cases h
      · next s resolved =>
        split at h
        · cases h
        · next version more' =>
          split at h
          · cases h
          · next three =>
            split at h
            · next range =>
              split at h
              · next n e read =>
                cases h
                obtain ⟨⟨oneName, -, -⟩, text⟩ := fields_eq_three_iff.mp cut
                have selects := Selects.fields oneName (resolve_eq_some_iff.mp resolved)
                  (isVersion_iff.mp (not_not.mp three)) (readRange_eq_ok_iff.mp read)
                rwa [← text, String.ofList_toList] at selects
              · cases h
            · cases h
  · rintro ⟨oneName, named, three, selected⟩
    have cut := fields_eq_three_iff.mpr
      ⟨⟨oneName, three.colon_not_mem, selected.colon_not_mem⟩, rfl⟩
    rw [readSelection, String.toList_ofList, cut]
    simp only [resolve_eq_some_iff.mpr named, isVersion_iff.mpr three,
      readRange_eq_ok_iff.mpr selected, ne_eq, not_true_eq_false, if_false]

/-! ## Flags -/

theorem ofToken?_eq_some {token : String} {flag : Flag} (h : Flag.ofToken? token = some flag) :
    token = flag.token := by
  rw [Flag.ofToken?] at h
  split at h
  · next same => cases h; exact same
  · split at h
    · next same => cases h; exact same
    · split at h
      · next same => cases h; exact same
      · cases h

/-- What is read first: a flag that was not set, with its value if it takes one. A value is no
flag. -/
inductive Options.Reads (o : Options) : List String → Options → List String → Prop
  | keepalive {rest : List String} (unset : o.keepalive = false) :
      Reads o ("-k" :: rest) { o with keepalive := true } rest
  | info {value : String} {rest : List String} (plain : Flag.ofToken? value = .none)
      (unset : o.info = .none) :
      Reads o ("-q" :: value :: rest) { o with info := some value } rest
  | changes {value : String} {rest : List String} (plain : Flag.ofToken? value = .none)
      (unset : o.changes = .none) :
      Reads o ("-g" :: value :: rest) { o with changes := some value } rest

/-- Only a flag that was not set can be set. -/
theorem put?_eq_some {o next : Options} {flag : Flag} {value : String}
    (h : o.put? flag value = some next) :
    match flag with
    | .info => o.info = .none ∧ next = { o with info := some value }
    | .changes => o.changes = .none ∧ next = { o with changes := some value }
    | .keepalive => o.keepalive = false ∧ next = { o with keepalive := true } := by
  cases flag <;>
  · simp only [Options.put?, Option.ite_none_left_eq_some, Option.some.injEq] at h
    obtain ⟨unset, rfl⟩ := h
    exact ⟨by simpa using unset, rfl⟩

theorem collect_of_reads {o next : Options} {ts rest : List String} (h : o.Reads ts next rest) :
    o.collect ts = next.collect rest := by
  cases h with
  | keepalive unset =>
    have flag : Flag.ofToken? "-k" = some .keepalive := rfl
    simp [Options.collect, flag, Options.put?, unset]
  | info plain unset =>
    have flag : Flag.ofToken? "-q" = some .info := rfl
    simp [Options.collect, flag, Options.put?, plain, unset]
  | changes plain unset =>
    have flag : Flag.ofToken? "-g" = some .changes := rfl
    simp [Options.collect, flag, Options.put?, plain, unset]

theorem collect_cases {o found : Options} {ts : List String} (h : o.collect ts = .ok found) :
    ts = [] ∧ found = o ∨
      ∃ next rest, o.Reads ts next rest ∧ next.collect rest = .ok found := by
  cases ts with
  | nil =>
    rw [Options.collect] at h
    exact Or.inl ⟨rfl, (Except.ok.inj h).symm⟩
  | cons token rest =>
    right
    rw [Options.collect.eq_def] at h
    simp only at h
    split at h
    · next flag =>
      obtain rfl := ofToken?_eq_some flag
      split at h
      · cases h
      · next next put =>
        obtain ⟨unset, rfl⟩ := put?_eq_some put
        exact ⟨_, rest, .keepalive unset, h⟩
    · next flag other token =>
      obtain rfl := ofToken?_eq_some token
      split at h
      · cases h
      · next value rest =>
        split at h
        · cases h
        · next plain =>
          rw [Option.not_isSome_iff_eq_none] at plain
          split at h
          · cases h
          · next next put =>
            cases flag with
            | info =>
              obtain ⟨unset, rfl⟩ := put?_eq_some put
              exact ⟨_, rest, .info plain unset, h⟩
            | changes =>
              obtain ⟨unset, rfl⟩ := put?_eq_some put
              exact ⟨_, rest, .changes plain unset, h⟩
            | keepalive => exact absurd rfl other
    · split at h <;> cases h

/-- With both flags of a request for changes set, nothing is left to be read. -/
theorem collect_after_both {found : Options} {value : String} {ts : List String}
    (noInfo : "-q" ∉ ts) (h : Options.collect ⟨.none, some value, true⟩ ts = .ok found) :
    ts = [] ∧ found = ⟨.none, some value, true⟩ := by
  rcases collect_cases h with ends | ⟨next, rest, reads, -⟩
  · exact ends
  · cases reads with
    | info _ _ => exact absurd List.mem_cons_self noInfo
    | changes _ unset => cases unset
    | keepalive unset => cases unset

theorem collect_changes {found : Options} {ts : List String} (noInfo : "-q" ∉ ts)
    (present : "-g" ∈ ts) (h : Options.none.collect ts = .ok found) :
    ∃ value, ts = ["-g", value] ∧ found = ⟨.none, some value, false⟩ ∨
      (ts = ["-k", "-g", value] ∨ ts = ["-g", value, "-k"]) ∧
        found = ⟨.none, some value, true⟩ := by
  rcases collect_cases h with ⟨rfl, -⟩ | ⟨next, rest, reads, later⟩
  · cases present
  · cases reads with
    | info _ _ => exact absurd List.mem_cons_self noInfo
    | @changes value rest _ _ =>
      refine ⟨value, ?_⟩
      rcases collect_cases later with ⟨rfl, rfl⟩ | ⟨next, rest, reads, last⟩
      · exact Or.inl ⟨rfl, rfl⟩
      · cases reads with
        | info _ _ => simp at noInfo
        | changes _ unset => cases unset
        | keepalive _ =>
          obtain ⟨rfl, rfl⟩ := collect_after_both (by simp_all) last
          exact Or.inr ⟨Or.inr rfl, rfl⟩
    | keepalive _ =>
      rcases collect_cases later with ⟨rfl, -⟩ | ⟨next, rest, reads, last⟩
      · simp at present
      · cases reads with
        | info _ _ => simp at noInfo
        | keepalive unset => cases unset
        | @changes value rest _ _ =>
          obtain ⟨rfl, rfl⟩ := collect_after_both (by simp_all) last
          exact ⟨value, Or.inr ⟨Or.inl rfl, rfl⟩⟩

theorem collect_info {found : Options} {ts : List String} (noChanges : "-g" ∉ ts)
    (noKeepalive : "-k" ∉ ts) (present : ts ≠ []) (h : Options.none.collect ts = .ok found) :
    ∃ value, ts = ["-q", value] ∧ found = ⟨some value, .none, false⟩ := by
  rcases collect_cases h with ⟨rfl, -⟩ | ⟨next, rest, reads, later⟩
  · exact absurd rfl present
  · cases reads with
    | changes _ _ => exact absurd List.mem_cons_self noChanges
    | keepalive _ => exact absurd List.mem_cons_self noKeepalive
    | @info value rest _ _ =>
      rcases collect_cases later with ⟨rfl, rfl⟩ | ⟨next, rest, reads, -⟩
      · exact ⟨value, rfl, rfl⟩
      · cases reads with
        | changes _ _ => simp at noChanges
        | keepalive _ => simp at noKeepalive
        | info _ unset => cases unset

/-! ## Lines -/

/-- The checks of a line, and then its reading. -/
theorem parse_eq_ok_iff {ctx : SourceContext} {line : String} {q : Query} :
    parse ctx line = .ok q ↔ tokens line ≠ [] ∧ ¬ ("-q" ∈ tokens line ↔ "-g" ∈ tokens line) ∧
      ("-k" ∈ tokens line → "-g" ∈ tokens line) ∧
      ∃ o, Options.none.collect (tokens line) = .ok o ∧ o.query ctx = .ok q := by
  rw [parse]
  generalize tokens line = ts
  by_cases empty : ts = []
  · simp [empty]
  · by_cases both : "-q" ∈ ts ↔ "-g" ∈ ts
    · simp [empty, Flag.token, both]
    · by_cases alone : "-k" ∈ ts ∧ "-g" ∉ ts
      · have info : "-q" ∈ ts := not_not.mp fun none => both (iff_of_false none alone.2)
        simp [empty, Flag.token, info, alone]
      · have needed : "-k" ∈ ts → "-g" ∈ ts := fun keep => not_not.mp fun g => alone ⟨keep, g⟩
        cases read : Options.none.collect ts with
        | error fault => simp [empty, Flag.token, both, alone, bind, Except.bind]
        | ok o =>
          simp only [List.isEmpty_iff, empty, if_false, Flag.token, List.contains_eq_mem,
            beq_iff_eq, decide_eq_decide, both, Bool.and_eq_true, decide_eq_true_eq,
            Bool.not_eq_true', decide_eq_false_iff_not, alone, bind, Except.bind]
          constructor
          · intro asked
            exact ⟨empty, not_false, needed, o, rfl, asked⟩
          · rintro ⟨-, -, -, found, same, asked⟩
            obtain rfl := Except.ok.inj same
            exact asked

/-- A value is no flag: it is one of two words, or it has a colon. -/
theorem ofToken?_of_spells {value : String} {option : InfoOption}
    (h : Spells value.toList option.text) : Flag.ofToken? value = .none := by
  have absent := h.not_mem (c := '-') (by cases option <;> decide)
  cases found : Flag.ofToken? value with
  | none => rfl
  | some flag =>
    obtain rfl := ofToken?_eq_some found
    cases flag <;> exact absurd (by decide) absent

theorem ofToken?_of_selects {ctx : SourceContext} {value : String} {source : Source} {first : Int}
    {final : RangeEnd} (h : Selects ctx value source first final) :
    Flag.ofToken? value = .none := by
  have colon : ':' ∈ value.toList := by
    cases h
    simp
  cases found : Flag.ofToken? value with
  | none => rfl
  | some flag =>
    obtain rfl := ofToken?_eq_some found
    cases flag <;> exact absurd colon (by decide)

theorem query_changes {ctx : SourceContext} {value : String} {keep : Bool} {q : Query} :
    Options.query ctx ⟨.none, some value, keep⟩ = .ok q ↔ ∃ source first final,
      Selects ctx value source first final ∧ q = .changes source first final keep := by
  simp only [Options.query, ← readSelection_eq_ok_iff]
  cases readSelection ctx value with
  | error fault => simp [bind, Except.bind]
  | ok found => simp [bind, Except.bind, pure, Except.pure, Prod.ext_iff, eq_comm]

theorem query_info {ctx : SourceContext} {value : String} {other : Option String} {keep : Bool}
    {q : Query} : Options.query ctx ⟨some value, other, keep⟩ = .ok q ↔
      ∃ option, Spells value.toList option.text ∧ q = .info ctx.authoritative option := by
  simp only [Options.query, ← readInfoOption_eq_ok_iff]
  cases readInfoOption value with
  | error fault => simp [bind, Except.bind]
  | ok option => simp [bind, Except.bind, pure, Except.pure, eq_comm]

theorem ne_of_ofToken? {value : String} (h : Flag.ofToken? value = .none) :
    "-q" ≠ value ∧ "-g" ≠ value ∧ "-k" ≠ value := by
  refine ⟨?_, ?_, ?_⟩ <;>
  · rintro rfl
    cases h

/-- The flags of a line, and its value, make a request exactly if they are read as that request. -/
theorem parse_iff_denotes {ctx : SourceContext} {line : String} {q : Query} :
    parse ctx line = .ok q ↔ Denotes ctx (tokens line) q := by
  rw [parse_eq_ok_iff]
  generalize tokens line = ts
  constructor
  · rintro ⟨present, one, keep, o, read, asked⟩
    by_cases changes : "-g" ∈ ts
    · have noInfo : "-q" ∉ ts := fun info => one ⟨fun _ => changes, fun _ => info⟩
      obtain ⟨value, ⟨rfl, rfl⟩ | ⟨order, rfl⟩⟩ := collect_changes noInfo changes read
      · obtain ⟨source, first, final, selects, rfl⟩ := query_changes.mp asked
        exact .changes selects
      · obtain ⟨source, first, final, selects, rfl⟩ := query_changes.mp asked
        rcases order with rfl | rfl
        · exact .keepaliveFirst selects
        · exact .keepaliveLast selects
    · obtain ⟨value, rfl, rfl⟩ := collect_info changes (mt keep changes) present read
      obtain ⟨option, spells, rfl⟩ := query_info.mp asked
      exact .info spells
  · intro denotes
    cases denotes with
    | @info value option spells =>
      have plain := ofToken?_of_spells spells
      refine ⟨by simp, by simp [ne_of_ofToken? plain], by simp [ne_of_ofToken? plain],
        ⟨some value, .none, false⟩, ?_, query_info.mpr ⟨option, spells, rfl⟩⟩
      rw [collect_of_reads (.info plain rfl), Options.collect]
      rfl
    | @changes value source first final selects =>
      have plain := ofToken?_of_selects selects
      refine ⟨by simp, by simp [ne_of_ofToken? plain], by simp,
        ⟨.none, some value, false⟩, ?_, query_changes.mpr ⟨source, first, final, selects, rfl⟩⟩
      rw [collect_of_reads (.changes plain rfl), Options.collect]
      rfl
    | @keepaliveFirst value source first final selects =>
      have plain := ofToken?_of_selects selects
      refine ⟨by simp, by simp [ne_of_ofToken? plain], by simp,
        ⟨.none, some value, true⟩, ?_, query_changes.mpr ⟨source, first, final, selects, rfl⟩⟩
      rw [collect_of_reads (.keepalive rfl), collect_of_reads (.changes plain rfl), Options.collect]
      rfl
    | @keepaliveLast value source first final selects =>
      have plain := ofToken?_of_selects selects
      refine ⟨by simp, by simp [ne_of_ofToken? plain], by simp,
        ⟨.none, some value, true⟩, ?_, query_changes.mpr ⟨source, first, final, selects, rfl⟩⟩
      rw [collect_of_reads (.changes plain rfl), collect_of_reads (.keepalive rfl), Options.collect]
      rfl

theorem tokens_eq_iff {line : String} {ts : List String} :
    tokens line = ts ↔ Text.Separated line.toList (ts.map String.toList) := by
  rw [tokens, ← Text.words_eq_iff]
  constructor
  · rintro rfl
    simp [Function.comp_def]
  · intro h
    rw [h]
    simp [Function.comp_def]

/-- A line is accepted as a query exactly if the words between its blanks make that query. One for
information is about the authoritative source and has the range and the flag that stand for none. -/
theorem accepted_iff (ctx : SourceContext) (line : String) (q : Query) :
    (parse ctx line = .ok q ↔ ∃ ts : List String,
      Text.Separated line.toList (ts.map String.toList) ∧ Denotes ctx ts q) ∧
    (parse ctx line = .ok q → q.option?.isSome →
      q.source = ctx.authoritative ∧ q.first = 0 ∧ q.final = .last ∧ q.keepalive = false) := by
  rw [parse_iff_denotes]
  constructor
  · constructor
    · intro denotes
      exact ⟨tokens line, tokens_eq_iff.mp rfl, denotes⟩
    · rintro ⟨ts, separated, denotes⟩
      rwa [tokens_eq_iff.mpr separated]
  · generalize tokens line = ts
    intro denotes asked
    cases denotes with
    | info _ => exact ⟨rfl, rfl, rfl, rfl⟩
    | changes _ | keepaliveFirst _ | keepaliveLast _ => cases asked

/-- A wide blank cuts words as well, and a word is spelled in any case. -/
theorem accepted_version :
    parse ⟨⟨"RIPE"⟩, none⟩ "-q\u3000Version" = .ok (.info ⟨"RIPE"⟩ .version) ∧
      (∃ ts : List String,
        Text.Separated "-q\u3000Version".toList (ts.map String.toList) ∧
          Denotes ⟨⟨"RIPE"⟩, none⟩ ts (.info ⟨"RIPE"⟩ .version)) ∧
      (Query.info ⟨"RIPE"⟩ .version).final = .last := by
  have read : parse ⟨⟨"RIPE"⟩, none⟩ "-q\u3000Version" = .ok (.info ⟨"RIPE"⟩ .version) := by
    rfl
  obtain ⟨accepted, range⟩ := accepted_iff ⟨⟨"RIPE"⟩, none⟩ "-q\u3000Version"
    (.info ⟨"RIPE"⟩ .version)
  exact ⟨read, accepted.mp read, (range read rfl).2.2.1⟩

end RegistryFeed.Request
