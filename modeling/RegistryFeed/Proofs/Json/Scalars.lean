import RegistryFeed.Json.Reader
import RegistryFeed.Json.Value

/-!
# Strings and numbers that were written

What is written as a string or as a whole number is read back as that, whatever
stands behind it in a written text: nothing, a comma, a bracket or a brace. Every
character may be in a string. A number has to be one that fits into 64 bits, with
or without a sign; no other is taken for a whole one by the reader.
-/

namespace RegistryFeed.Json

/-- What may stand behind a value in a written text. -/
def Closes (rest : List Char) : Prop :=
  ∀ c, rest.head? = some c → c = ',' ∨ c = ']' ∨ c = '\x7d'

theorem closes_nil : Closes [] := by
  intro c h
  cases h

theorem closes_cons {c : Char} (h : c = ',' ∨ c = ']' ∨ c = '\x7d') (rest : List Char) :
    Closes (c :: rest) := by
  intro d same
  obtain rfl := Option.some.inj same
  exact h

theorem skipGap_cons {c : Char} (visible : isGap c = false) (rest : List Char) :
    skipGap (c :: rest) = c :: rest := by
  rw [skipGap, List.dropWhile_cons_of_neg]
  rw [visible]
  exact Bool.false_ne_true

/-! ## Strings -/

theorem hexValue?_hexDigit {d : Nat} (h : d < 16) : Text.hexValue? (Text.hexDigit d) = some d :=
  (by decide : ∀ d : Fin 16, Text.hexValue? (Text.hexDigit d) = some d.val) ⟨d, h⟩

theorem utf8Size_hexDigit {d : Nat} (h : d < 16) : (Text.hexDigit d).utf8Size = 1 :=
  (by decide : ∀ d : Fin 16, (Text.hexDigit d).utf8Size = 1) ⟨d, h⟩

/-- The code of a control character is read back as that character. -/
theorem readCode_of_control {c : Char} (control : c.toNat < 0x20) (rest : List Char) :
    readCode ('0' :: '0' :: Text.hexDigit (c.toNat / 16) :: Text.hexDigit (c.toNat % 16) :: rest) =
      .ok (c, rest) := by
  have high : c.toNat / 16 < 16 := by omega
  have low : c.toNat % 16 < 16 := by omega
  have zero : Text.hexValue? '0' = some 0 := by decide
  have one : ('0').utf8Size = 1 := by decide
  have code : ((0 * 16 + 0) * 16 + c.toNat / 16) * 16 + c.toNat % 16 = c.toNat := by omega
  have four : readHex4 ('0' :: '0' :: Text.hexDigit (c.toNat / 16) ::
      Text.hexDigit (c.toNat % 16) :: rest) = .ok (c.toNat, rest) := by
    simp only [readHex4, List.take_succ_cons, List.take_zero, List.foldr_cons, List.foldr_nil,
      utf8Size_hexDigit high, utf8Size_hexDigit low, one, hexValue?_hexDigit high,
      hexValue?_hexDigit low, zero, code]
    rfl
  have noTrailing : isTrailingSurrogate c.toNat = false := by
    rw [isTrailingSurrogate]
    simp
    omega
  have noLeading : isLeadingSurrogate c.toNat = false := by
    rw [isLeadingSurrogate]
    simp
    omega
  simp [readCode, four, bind, Except.bind, noTrailing, noLeading, pure, Except.pure,
    Char.ofNat_toNat]

theorem readStringRest_letter {e x : Char} (letter : escaped? e = some x) (fuel : Nat)
    (rest : List Char) : readStringRest (fuel + 1) ('\\' :: e :: rest) =
      (readStringRest fuel rest).map fun p => (x :: p.1, p.2) := by
  have noCode : e ≠ 'u' := by
    rintro rfl
    cases letter
  have noQuote : '\\' ≠ '"' := by decide
  rw [readStringRest.eq_def]
  simp only [if_neg noQuote, if_pos, if_neg noCode, letter]
  cases readStringRest fuel rest <;> rfl

theorem readStringRest_code {c : Char} (control : c.toNat < 0x20) (fuel : Nat)
    (rest : List Char) :
    readStringRest (fuel + 1) ('\\' :: 'u' :: '0' :: '0' :: Text.hexDigit (c.toNat / 16) ::
      Text.hexDigit (c.toNat % 16) :: rest) =
      (readStringRest fuel rest).map fun p => (c :: p.1, p.2) := by
  have noQuote : '\\' ≠ '"' := by decide
  rw [readStringRest.eq_def]
  simp only [if_neg noQuote, if_pos, readCode_of_control control, bind, Except.bind]
  cases readStringRest fuel rest <;> rfl

theorem readStringRest_plain {c : Char} (noQuote : c ≠ '"') (noSlash : c ≠ '\\')
    (visible : ¬ c.toNat < 0x20) (fuel : Nat) (rest : List Char) :
    readStringRest (fuel + 1) (c :: rest) =
      (readStringRest fuel rest).map fun p => (c :: p.1, p.2) := by
  rw [readStringRest.eq_def]
  simp only [if_neg noQuote, if_neg noSlash, if_neg visible]
  cases readStringRest fuel rest <;> rfl

/-- What a character of a string is written as. -/
inductive Escapes (c : Char) : List Char → Prop
  | letter {e : Char} (h : escaped? e = some c) : Escapes c ['\\', e]
  | code (control : c.toNat < 0x20) : Escapes c
      ['\\', 'u', '0', '0', Text.hexDigit (c.toNat / 16), Text.hexDigit (c.toNat % 16)]
  | plain (noQuote : c ≠ '"') (noSlash : c ≠ '\\') (visible : ¬ c.toNat < 0x20) : Escapes c [c]

theorem escapes_escapeChar (c : Char) : Escapes c (escapeChar c) := by
  rw [escapeChar]
  -- the seven characters with a letter of their own
  repeat
    split
    · next same =>
      rw [same]
      exact .letter rfl
  split
  · next control => exact .code control
  · next visible => exact .plain (by assumption) (by assumption) visible

/-- One character of a string, escaped or not, is read back. -/
theorem readStringRest_escapeChar (fuel : Nat) (c : Char) (rest : List Char) :
    readStringRest (fuel + 1) (escapeChar c ++ rest) =
      (readStringRest fuel rest).map fun p => (c :: p.1, p.2) := by
  have written := escapes_escapeChar c
  generalize escapeChar c = text at written
  cases written with
  | letter h => exact readStringRest_letter h fuel rest
  | code control => exact readStringRest_code control fuel rest
  | plain noQuote noSlash visible => exact readStringRest_plain noQuote noSlash visible fuel rest

theorem readStringRest_flatMap {fuel : Nat} {cs : List Char} (enough : cs.length < fuel)
    (rest : List Char) :
    readStringRest fuel (cs.flatMap escapeChar ++ '"' :: rest) = .ok (cs, rest) := by
  induction cs generalizing fuel with
  | nil =>
    obtain ⟨fuel, rfl⟩ := Nat.exists_eq_add_one_of_ne_zero (Nat.ne_of_gt enough)
    rfl
  | cons c cs ih =>
    rw [List.length_cons] at enough
    obtain ⟨fuel, rfl⟩ := Nat.exists_eq_add_one_of_ne_zero (Nat.ne_zero_of_lt enough)
    rw [List.flatMap_cons, List.append_assoc, readStringRest_escapeChar, ih (by omega)]
    rfl

theorem length_le_flatMap_escapeChar (cs : List Char) :
    cs.length ≤ (cs.flatMap escapeChar).length := by
  induction cs with
  | nil => exact Nat.le_refl 0
  | cons c cs ih =>
    have one : 1 ≤ (escapeChar c).length := by
      have written := escapes_escapeChar c
      generalize escapeChar c = text at written
      cases written <;> exact Nat.le_add_left 1 _
    rw [List.flatMap_cons, List.length_append, List.length_cons]
    omega

/-- A string is read back after its opening quotation mark. -/
theorem readQuoted_escaped (s : String) (rest : List Char) :
    readQuoted (s.toList.flatMap escapeChar ++ '"' :: rest) = .ok (s, rest) := by
  have long := length_le_flatMap_escapeChar s.toList
  rw [readQuoted, readStringRest_flatMap (by rw [List.length_append]; omega) rest]
  simp only [bind, Except.bind, pure, Except.pure, String.ofList_toList]

theorem writeString_append (s : String) (rest : List Char) :
    writeString s ++ rest = '"' :: (s.toList.flatMap escapeChar ++ '"' :: rest) := by
  simp [writeString]

theorem readString_writeString (s : String) (rest : List Char) :
    readString (writeString s ++ rest) = .ok (s, rest) := by
  rw [writeString_append, readString, skipGap_cons rfl]
  exact readQuoted_escaped s rest

theorem readString?_writeString (s : String) (rest : List Char) :
    readString? (writeString s ++ rest) = .ok (some s, rest) := by
  have read := readString_writeString s rest
  rw [writeString_append] at read ⊢
  rw [readString?, skipGap_cons rfl]
  split
  · next same => exact absurd (List.cons.inj same).1 (by decide)
  · rw [read]
    rfl

/-- A word of a set is read back as what it stands for. -/
theorem readWord_writeString {α : Type} {word? : String → Option α} {s : String} {x : α}
    (word : word? s = some x) (rest : List Char) :
    readWord word? (writeString s ++ rest) = .ok (x, rest) := by
  have read := readString_writeString s rest
  rw [writeString_append] at read ⊢
  rw [readWord, skipGap_cons rfl]
  simp only [if_pos, read, bind, Except.bind, word]
  rfl

/-! ## Numbers -/

theorem digits_ne_nil (n : Nat) : Text.digits n ≠ [] := by
  have numeral := Text.isNumeral_digits n
  rw [Text.isNumeral, Bool.and_eq_true] at numeral
  simpa using numeral.1

/-- Only zero is written with a zero first. -/
theorem digits_of_zero_first {n : Nat} {tail : List Char} (h : Text.digits n = '0' :: tail) :
    tail = [] := by
  induction n using Nat.strongRecOn generalizing tail with
  | ind n ih =>
    rw [Text.digits] at h
    split at h
    · exact (List.cons.inj h).2.symm
    · next large =>
      obtain ⟨c, more, front⟩ := List.exists_cons_of_ne_nil (digits_ne_nil (n / 10))
      rw [front, List.cons_append] at h
      obtain ⟨rfl, -⟩ := List.cons.inj h
      have single := ih (n / 10) (by omega) front
      rw [single] at front
      have value := Text.ofDigits_digits (n / 10)
      rw [front] at value
      have zero : Text.ofDigits 0 ['0'] = 0 := by decide
      omega

theorem le_ofDigits (n : Nat) (cs : List Char) : n ≤ Text.ofDigits n cs := by
  induction cs generalizing n with
  | nil => exact Nat.le_refl n
  | cons c cs ih =>
    have later := ih (n * 10 + Text.digitValue c)
    rw [Text.ofDigits, List.foldl_cons, ← Text.ofDigits]
    omega

/-- Digits are all taken in if their number fits. -/
theorem absorb_eq {n : Nat} {cs : List Char} (fits : Text.ofDigits n cs ≤ Text.maxNat64) :
    absorb n cs = (Text.ofDigits n cs, cs.length) := by
  induction cs generalizing n with
  | nil => rfl
  | cons c cs ih =>
    have later : Text.ofDigits n (c :: cs) = Text.ofDigits (n * 10 + Text.digitValue c) cs := rfl
    rw [later] at fits ⊢
    have here := Nat.le_trans (le_ofDigits _ cs) fits
    simp only [absorb, if_pos here, ih fits, List.length_cons]

/-- What closes a value continues no number. -/
theorem Closes.takeWhile_append {rest : List Char} (closes : Closes rest) (n : Nat) :
    (Text.digits n ++ rest).takeWhile Text.isAsciiDigit = Text.digits n := by
  rw [List.takeWhile_append_of_pos Text.isAsciiDigit_of_mem_digits]
  cases rest with
  | nil => simp
  | cons c rest =>
    have noDigit : ¬ Text.isAsciiDigit c := by
      rcases closes c rfl with rfl | rfl | rfl <;> decide
    rw [List.takeWhile_cons_of_neg noDigit, List.append_nil]

theorem Closes.dropWhile_append {rest : List Char} (closes : Closes rest) (n : Nat) :
    (Text.digits n ++ rest).dropWhile Text.isAsciiDigit = rest := by
  have parts :=
    List.takeWhile_append_dropWhile (p := Text.isAsciiDigit) (l := Text.digits n ++ rest)
  rw [closes.takeWhile_append] at parts
  exact List.append_cancel_left parts

theorem Closes.not_digit {rest : List Char} (closes : Closes rest) :
    (rest.head?.map Text.isAsciiDigit).getD false = false := by
  cases rest with
  | nil => rfl
  | cons c rest =>
    rcases closes c rfl with rfl | rfl | rfl <;> rfl

theorem readMagnitude_digits {rest : List Char} (closes : Closes rest) (negative : Bool) {n : Nat}
    (fits : n ≤ Text.maxNat64) : readMagnitude negative (Text.digits n ++ rest) =
      .ok (wholeNumeral negative n, rest) := by
  have value := Text.ofDigits_digits n
  have all := closes.takeWhile_append n
  have left := closes.dropWhile_append n
  have taken : absorb 0 (Text.digits n) = (n, (Text.digits n).length) := by
    rw [absorb_eq (by rw [value]; exact fits), value]
  have kept : (((Text.digits n).length - (Text.digits n).length : Nat) : Int) = 0 := by omega
  obtain ⟨c, tail, text⟩ := List.exists_cons_of_ne_nil (digits_ne_nil n)
  have digit : Text.isAsciiDigit c := Text.isAsciiDigit_of_mem_digits (n := n) c (by simp [text])
  have noZero : (c = '0' && ((tail ++ rest).head?.map Text.isAsciiDigit).getD false) = false := by
    by_cases zero : c = '0'
    · subst zero
      rw [digits_of_zero_first text, List.nil_append, closes.not_digit, Bool.and_false]
    · simp [zero]
  rw [text, List.cons_append] at all left ⊢
  rw [text] at taken kept
  simp only [readMagnitude, digit, Bool.not_true, if_false, all, left, taken, noZero, kept,
    Bool.false_eq_true, if_true]
  cases rest with
  | nil => rfl
  | cons d rest => rcases closes d rfl with rfl | rfl | rfl <;> rfl

theorem writeInt_ofNat (n : Nat) : writeInt n = Text.digits n := String.toList_ofList

theorem writeInt_negSucc (n : Nat) : writeInt (Int.negSucc n) = '-' :: Text.digits (n + 1) :=
  String.toList_ofList

/-- A number begins with a digit or a sign, and so with no blank. -/
theorem writeInt_head (n : Int) : ∃ c tail, writeInt n = c :: tail ∧
    (c = '-' || Text.isAsciiDigit c) = true := by
  cases n with
  | ofNat n =>
    obtain ⟨c, tail, text⟩ := List.exists_cons_of_ne_nil (digits_ne_nil n)
    have digit : Text.isAsciiDigit c := Text.isAsciiDigit_of_mem_digits (n := n) c (by simp [text])
    refine ⟨c, tail, ?_, by rw [digit, Bool.or_true]⟩
    rw [← text]
    exact writeInt_ofNat n
  | negSucc n => exact ⟨'-', _, writeInt_negSucc n, rfl⟩

theorem not_gap_of_number {c : Char} (h : (c = '-' || Text.isAsciiDigit c) = true) :
    isGap c = false := by
  rw [Bool.eq_false_iff]
  intro gap
  simp only [isGap, Bool.or_eq_true, beq_iff_eq] at gap
  rcases gap with ((rfl | rfl) | rfl) | rfl <;> cases h

theorem readNumber_writeInt {n : Int} (low : Text.minInt64 ≤ n) (high : n ≤ Text.maxNat64)
    {rest : List Char} (closes : Closes rest) :
    readNumber (writeInt n ++ rest) = .ok (.whole n, rest) := by
  cases n with
  | ofNat n =>
    have fits : n ≤ Text.maxNat64 := Int.ofNat_le.mp high
    have read := readMagnitude_digits closes false fits
    rw [Int.ofNat_eq_natCast, writeInt_ofNat, readNumber.eq_def]
    split
    · next tail text =>
      obtain ⟨c, more, front⟩ := List.exists_cons_of_ne_nil (digits_ne_nil n)
      have digit : Text.isAsciiDigit c :=
        Text.isAsciiDigit_of_mem_digits (n := n) c (by simp [front])
      rw [front, List.cons_append] at text
      obtain ⟨rfl, -⟩ := List.cons.inj text
      cases digit
    · exact read
  | negSucc n =>
    have small : n + 1 ≤ 9223372036854775808 := by
      rw [Text.minInt64] at low
      omega
    have fits : n + 1 ≤ Text.maxNat64 := by
      rw [Text.maxNat64]
      omega
    have numeral : wholeNumeral true (n + 1) = .whole (Int.negSucc n) := by
      have inRange : (n + 1 = 0 || 9223372036854775808 < n + 1) = false := by
        simp
        omega
      rw [wholeNumeral, inRange]
      rfl
    rw [writeInt_negSucc, ← numeral]
    exact readMagnitude_digits closes true fits

/-- A number between the bounds of a reader is read back by it. -/
theorem readInt_writeInt {low high n : Int} (above : low ≤ n) (below : n ≤ high)
    (lowest : Text.minInt64 ≤ n) (greatest : n ≤ Text.maxNat64) {rest : List Char}
    (closes : Closes rest) : readInt low high (writeInt n ++ rest) = .ok (n, rest) := by
  have read := readNumber_writeInt lowest greatest closes
  obtain ⟨c, tail, text, number⟩ := writeInt_head n
  rw [text, List.cons_append] at read ⊢
  have bounded : (low ≤ n && n ≤ high) = true := by simp [above, below]
  simp only [readInt, skipGap_cons (not_gap_of_number number), number, if_true, read, bind,
    Except.bind, bounded]
  rfl

end RegistryFeed.Json
