/-! # Binary floating-point numbers

Numbers of the 64-bit binary format of IEEE 754, as exact values: a finite number is a whole
multiple of 2^-1074. Every operation is the exact result rounded to the nearest number, a tie going
to the even significand. Nothing here rests on hardware arithmetic. -/
namespace RegistryFeed

/-- A finite number is `significand · 2^shift` units of 2^-1074. -/
inductive Binary64
  | nan
  | infinite (negative : Bool)
  | finite (negative : Bool) (significand shift : Nat)
deriving DecidableEq, Repr

namespace Binary64

def zero : Binary64 := .finite false 0 0

/-- The number of units of 2^-1074 in one. -/
def unitsPerOne : Nat := Nat.pow 2 1074

/-- The quotient of two whole numbers to the nearest whole number, a half to the even one. -/
def nearest (a d : Nat) : Nat :=
  let q := a / d
  let r := a % d
  if d < 2 * r then q + 1
  else if 2 * r = d then q + q % 2
  else q

/-- The number nearest to `a / d` units, where `d` is not zero. -/
def ofUnits (negative : Bool) (a d : Nat) : Binary64 :=
  let whole := a / d
  let shift := if whole < Nat.pow 2 53 then 0 else Nat.log2 whole - 52
  let q := nearest a (d * Nat.pow 2 shift)
  let (significand, shift) := if q = Nat.pow 2 53 then (Nat.pow 2 52, shift + 1) else (q, shift)
  if 2045 < shift then .infinite negative else .finite negative significand shift

/-- The number nearest to `num / den`, where `den` is not zero. -/
def ofRatio (negative : Bool) (num den : Nat) : Binary64 := ofUnits negative (num * unitsPerOne) den

def ofNat (n : Nat) : Binary64 := ofRatio false n 1

def ofInt (n : Int) : Binary64 := ofRatio (n < 0) n.natAbs 1

/-- The number nearest to a decimal fraction `± mantissa / 10^places`. -/
def ofDecimal (negative : Bool) (mantissa places : Nat) : Binary64 :=
  ofRatio negative mantissa (Nat.pow 10 places)

/-- The magnitude of a finite number in units. -/
def units (significand shift : Nat) : Nat := significand * Nat.pow 2 shift

def isFinite : Binary64 → Bool
  | .finite .. => true
  | _ => false

/-- The signed number of units of a finite number. -/
def signedUnits (negative : Bool) (significand shift : Nat) : Int :=
  if negative then -(units significand shift : Int) else (units significand shift : Int)

/-- Products of infinity and zero are no numbers. -/
def mul : Binary64 → Binary64 → Binary64
  | .nan, _ | _, .nan => .nan
  | .infinite a, .infinite b => .infinite (a ^^ b)
  | .infinite a, .finite b s _ | .finite b s _, .infinite a =>
    if s = 0 then .nan else .infinite (a ^^ b)
  | .finite a s p, .finite b t q => ofUnits (a ^^ b) (units s p * units t q) unitsPerOne

/-- A sum of opposite numbers is zero without a sign. -/
def add : Binary64 → Binary64 → Binary64
  | .nan, _ | _, .nan => .nan
  | .infinite a, .infinite b => if a = b then .infinite a else .nan
  | .infinite a, .finite .. | .finite .., .infinite a => .infinite a
  | .finite a s p, .finite b t q =>
    let sum := signedUnits a s p + signedUnits b t q
    if sum = 0 then .finite (a && b) 0 0 else ofUnits (sum < 0) sum.natAbs 1

/-- The quotient of two natural numbers that are themselves rounded first. -/
def quotient (a b : Nat) : Binary64 :=
  match ofNat a, ofNat b with
  | .finite _ s p, .finite _ t q =>
    if t = 0 then .nan else ofRatio false (units s p) (units t q)
  | _, _ => .nan

/-- The order of numbers; no number is below or equal to what is no number. -/
def le : Binary64 → Binary64 → Bool
  | .nan, _ | _, .nan => false
  | .infinite a, .infinite b => a || !b
  | .infinite a, .finite .. => a
  | .finite .., .infinite b => !b
  | .finite a s p, .finite b t q => signedUnits a s p ≤ signedUnits b t q

/-- Repeated squaring: `x` squared for each halving of the exponent, `r` collecting the factors of
its odd steps. -/
def powerLoop (r x : Binary64) (n : Nat) : Binary64 :=
  let r' := if n % 2 = 1 then mul r x else r
  if h : n < 2 then r'
  else powerLoop r' (mul x x) (n / 2)
termination_by n
decreasing_by omega

/-- The power by repeated squaring; each product is rounded. -/
def power (x : Binary64) (n : Nat) : Binary64 := powerLoop (ofNat 1) x n

end Binary64

end RegistryFeed
