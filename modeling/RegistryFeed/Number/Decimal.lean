import RegistryFeed.Number.Binary64
import RegistryFeed.Text.Fields
import RegistryFeed.Text.Numeral

/-! # Reading decimal numbers

A decimal numeral stands for the binary number nearest to it. It may have a sign, a point with
digits on at least one side of it, and a power of ten; three words stand for what has no digits. -/
namespace RegistryFeed.Binary64

/-- The power of ten behind the letter of a numeral. -/
def readPower? (cs : List Char) : Option Int :=
  match cs with
  | '-' :: rest => if Text.isNumeral rest then some (-(Text.ofDigits 0 rest : Int)) else none
  | '+' :: rest => if Text.isNumeral rest then some (Text.ofDigits 0 rest) else none
  | _ => if Text.isNumeral cs then some (Text.ofDigits 0 cs) else none

/-- The number `± mantissa · 10^exponent`. -/
def ofScientific (negative : Bool) (mantissa : Nat) (exponent : Int) : Binary64 :=
  ofRatio negative (mantissa * Nat.pow 10 exponent.toNat) (Nat.pow 10 (-exponent).toNat)

/-- Reads a numeral without a sign, with or without a power of ten. -/
def readUnsigned? (negative : Bool) (cs : List Char) : Option Binary64 := do
  let (body, power) ← match Text.cut? 'e' (cs.map Char.toLower) with
    | some (body, power) => do pure (body, ← readPower? power)
    | none => pure (cs, 0)
  let (whole, fraction) := (Text.cut? '.' body).getD (body, [])
  if Text.isNumeral (whole ++ fraction) then
    some (ofScientific negative (Text.ofDigits 0 (whole ++ fraction)) (power - fraction.length))
  else none

def ofText? (s : String) : Option Binary64 :=
  let (negative, body) := match s.toList with
    | '-' :: rest => (true, rest)
    | '+' :: rest => (false, rest)
    | cs => (false, cs)
  match String.ofList (body.map Char.toLower) with
  | "nan" => some .nan
  | "inf" | "infinity" => some (.infinite negative)
  | _ => readUnsigned? negative body

end RegistryFeed.Binary64
