import RegistryFeed.Number.Binary64
import RegistryFeed.Text.Numeral

/-! # Shortest decimal text

The text of a finite number has the fewest digits that read back as the number, and of those the
nearest to it, away from zero where two are as near. It is positional at every size and has no point
where the number is whole. -/
namespace RegistryFeed.Binary64

/-- The reals that round to a finite number, with their ends if the significand is even. Both ends
are in quarters of the gap above the number. -/
structure Window where
  low : Nat
  high : Nat
  closed : Bool

def window (significand shift : Nat) : Window where
  low := 4 * significand - (if significand = Nat.pow 2 52 ∧ 0 < shift then 1 else 2)
  high := 4 * significand + 2
  closed := significand % 2 = 0

/-- Whether `c / scale` quarters lie in the window. -/
def Window.holds (w : Window) (c scale : Nat) : Bool :=
  if w.closed then w.low * scale ≤ c && c ≤ w.high * scale
  else w.low * scale < c && c < w.high * scale

/-- The number of digits before the point, for a number `num / den`; zero or negative if zeros
follow the point. -/
def pointPlace (num den : Nat) : Int :=
  if den ≤ num then (Text.digits (num / den)).length
  else
    -- the first power of ten that lifts the number to one or more
    let guess := (Text.digits (den / num)).length
    if den ≤ num * Nat.pow 10 (guess - 1) then 2 - (guess : Int) else 1 - (guess : Int)

/-- A decimal number `digits · 10^exponent`. -/
structure Decimal where
  digits : Nat
  exponent : Int

/-- Of the two multiples of 10^exponent around a number, the nearer one that reads back; a number in
the middle between the two goes to the greater one. -/
def onGrid? (w : Window) (num den : Nat) (exponent : Int) : Option Decimal :=
  -- value = num / den; a quarter of the gap = num / (den · 4 · significand)
  let up := Nat.pow 10 exponent.toNat
  let down := Nat.pow 10 (-exponent).toNat
  let floor := num * down / (den * up)
  let below := num * down - floor * (den * up)
  let above := (floor + 1) * (den * up) - num * down
  let quarters := w.high - 2
  let good (n : Nat) : Bool := w.holds (n * up * den * quarters) (num * down)
  match good floor, good (floor + 1) with
  | true, true => some ⟨if above ≤ below then floor + 1 else floor, exponent⟩
  | true, false => some ⟨floor, exponent⟩
  | false, true => some ⟨floor + 1, exponent⟩
  | false, false => none

/-- Tries the grids of `count` digits and more. Seventeen digits always read back, so seventeen
tries from one digit on end before the fuel does. -/
def shortestFrom (w : Window) (num den : Nat) (place : Int) : Nat → Nat → Decimal
  | 0, _ => ⟨0, 0⟩
  | fuel + 1, count =>
    match onGrid? w num den (place - count) with
    | some d => d
    | none => shortestFrom w num den place fuel (count + 1)

/-- The shortest decimal of a finite number other than zero. -/
def shortest (significand shift : Nat) : Decimal :=
  let num := units significand shift
  shortestFrom (window significand shift) num unitsPerOne (pointPlace num unitsPerOne) 17 1

/-- A number without zeros at its end, and how many there were. -/
def stripZeros (n : Nat) : Nat × Nat :=
  if n = 0 then (0, 0)
  else if n % 10 = 0 then
    let (m, k) := stripZeros (n / 10)
    (m, k + 1)
  else (n, 0)
termination_by n
decreasing_by omega

def Decimal.text (d : Decimal) : List Char :=
  let (n, zeros) := stripZeros d.digits
  let exponent := d.exponent + zeros
  let ds := Text.digits n
  if 0 ≤ exponent then ds ++ List.replicate exponent.toNat '0'
  else
    let places := (-exponent).toNat
    if places < ds.length then
      ds.take (ds.length - places) ++ '.' :: ds.drop (ds.length - places)
    else '0' :: '.' :: List.replicate (places - ds.length) '0' ++ ds

/-- The sign of zero is shown; what is no number has no sign. -/
def text : Binary64 → String
  | .nan => "NaN"
  | .infinite negative => if negative then "-inf" else "inf"
  | .finite negative significand shift =>
    let body := if significand = 0 then ['0'] else (shortest significand shift).text
    String.ofList (if negative then '-' :: body else body)

end RegistryFeed.Binary64
