import RegistryFeed.Text.Ascii

/-! # Numerals

Whole numbers in decimal. A written numeral has no leading zero and no plus sign; a read one may
have leading zeros, and a plus sign where the reader says so. Bounds are part of reading. -/
namespace RegistryFeed.Text

def digitChar (d : Nat) : Char := Char.ofNat (48 + d)

def digitValue (c : Char) : Nat := c.toNat - 48

/-- The digits of a number, most significant first. -/
def digits (n : Nat) : List Char :=
  if n < 10 then [digitChar n] else digits (n / 10) ++ [digitChar (n % 10)]
termination_by n

/-- The value of a run of digits that continues the number `acc`. -/
def ofDigits (acc : Nat) (cs : List Char) : Nat :=
  cs.foldl (fun n c => n * 10 + digitValue c) acc

def decimalNat (n : Nat) : String := String.ofList (digits n)

/-- A negative number is written with a hyphen. -/
def decimal : Int → String
  | .ofNat n => String.ofList (digits n)
  | .negSucc n => String.ofList ('-' :: digits (n + 1))

/-- A run of ASCII digits, at least one. -/
def isNumeral (cs : List Char) : Bool := !cs.isEmpty && cs.all isAsciiDigit

theorem isAsciiDigit_digitChar {d : Nat} (h : d < 10) : isAsciiDigit (digitChar d) = true :=
  (by decide : ∀ d : Fin 10, isAsciiDigit (digitChar d) = true) ⟨d, h⟩

theorem digitValue_digitChar {d : Nat} (h : d < 10) : digitValue (digitChar d) = d :=
  (by decide : ∀ d : Fin 10, digitValue (digitChar d) = d) ⟨d, h⟩

theorem ofDigits_append (acc : Nat) (a b : List Char) :
    ofDigits acc (a ++ b) = ofDigits (ofDigits acc a) b := List.foldl_append

/-- Reading the digits of a number gives the number. -/
theorem ofDigits_digits (n : Nat) : ofDigits 0 (digits n) = n := by
  induction n using Nat.strongRecOn with
  | ind n ih =>
    rw [digits]
    split
    · next h => simp [ofDigits, digitValue_digitChar h]
    · next h =>
      rw [ofDigits_append, ih (n / 10) (by omega)]
      simp only [ofDigits, List.foldl_cons, List.foldl_nil,
        digitValue_digitChar (show n % 10 < 10 by omega)]
      omega

theorem isNumeral_digits (n : Nat) : isNumeral (digits n) = true := by
  induction n using Nat.strongRecOn with
  | ind n ih =>
    rw [digits]
    split
    · next h => simp [isNumeral, isAsciiDigit_digitChar h]
    · next h =>
      have rest := ih (n / 10) (by omega)
      simp only [isNumeral, Bool.and_eq_true, List.all_append] at rest ⊢
      exact ⟨by simp, rest.2, by simp [isAsciiDigit_digitChar (show n % 10 < 10 by omega)]⟩

theorem isAsciiDigit_of_mem_digits {n : Nat} : ∀ c ∈ digits n, isAsciiDigit c := by
  have numeral := isNumeral_digits n
  rw [isNumeral, Bool.and_eq_true, List.all_eq_true] at numeral
  exact numeral.2

/-- A whole number is written with digits and a hyphen. -/
theorem mem_decimal {n : Int} {c : Char} (h : c ∈ (decimal n).toList) :
    isAsciiDigit c = true ∨ c = '-' := by
  cases n with
  | ofNat k =>
    rw [decimal, String.toList_ofList] at h
    exact .inl (isAsciiDigit_of_mem_digits c h)
  | negSucc k =>
    rw [decimal, String.toList_ofList] at h
    rcases List.mem_cons.mp h with sign | digit
    · exact .inr sign
    · exact .inl (isAsciiDigit_of_mem_digits c digit)

/-- A numeral of value at most `bound`, with at most one plus sign before it. -/
def readUpTo? (bound : Nat) (cs : List Char) : Option Nat :=
  let body := match cs with
    | '+' :: rest => rest
    | _ => cs
  if isNumeral body && ofDigits 0 body ≤ bound then some (ofDigits 0 body) else none

/-- The greatest serial, version or time: 2^63 − 1. -/
def maxInt64 : Int := 9223372036854775807

def minInt64 : Int := -9223372036854775808

/-- The greatest 64-bit natural number. -/
def maxNat64 : Nat := 18446744073709551615

/-- The greatest 32-bit natural number. -/
def maxNat32 : Nat := 4294967295

def hexDigit (d : Nat) : Char := if d < 10 then Char.ofNat (48 + d) else Char.ofNat (87 + d)

/-- The digits of a number in base sixteen, in lower case. -/
def hexDigits (n : Nat) : List Char :=
  if n < 16 then [hexDigit n] else hexDigits (n / 16) ++ [hexDigit (n % 16)]
termination_by n

/-- The value of one digit of base sixteen, in either case. -/
def hexValue? (c : Char) : Option Nat :=
  if '0' ≤ c && c ≤ '9' then some (c.toNat - 48)
  else if 'a' ≤ c && c ≤ 'f' then some (c.toNat - 87)
  else if 'A' ≤ c && c ≤ 'F' then some (c.toNat - 55)
  else none

def isHexDigit (c : Char) : Bool := (hexValue? c).isSome

/-- The value of a run of digits of base sixteen. -/
def ofHexDigits (cs : List Char) : Nat :=
  cs.foldl (fun n c => n * 16 + (hexValue? c).getD 0) 0

/-- The byte that two digits of base sixteen stand for. -/
def byte? (high low : Char) : Option UInt8 := do
  return UInt8.ofNat ((← hexValue? high) * 16 + (← hexValue? low))

/-- The bytes that pairs of digits stand for. -/
def bytes? : List Char → Option (List UInt8)
  | [] => some []
  | [_] => none
  | high :: low :: rest => do return (← byte? high low) :: (← bytes? rest)

end RegistryFeed.Text
