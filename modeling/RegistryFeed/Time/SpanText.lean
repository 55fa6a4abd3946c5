import RegistryFeed.Error
import RegistryFeed.Text.Ascii
import RegistryFeed.Text.Blank
import RegistryFeed.Text.Numeral
import RegistryFeed.Time.Span

/-! # Spans as text

A span is written as numbers with units, such as `1h 30min` or `1.5s`, which add up. A number may
hold blanks between its digits and one fraction; a unit is a run of letters. All arithmetic stays
below 2^64 at every step, and a fraction has to come out in whole nanoseconds, or in whole seconds
from the hour on. The text is read from left to right, so of two faults the first one counts. -/
namespace RegistryFeed.SpanText

inductive TimeUnit
  | nanosecond
  | microsecond
  | millisecond
  | second
  | minute
  | hour
  | day
  | week
  | month
  | year
deriving DecidableEq, Repr

/-- A month is a twelfth of a year, a year is 365 days and a quarter. -/
def TimeUnit.names : List (String × TimeUnit) :=
  [("nanos", .nanosecond), ("nsec", .nanosecond), ("ns", .nanosecond),
    ("usec", .microsecond), ("us", .microsecond), ("µs", .microsecond),
    ("millis", .millisecond), ("msec", .millisecond), ("ms", .millisecond),
    ("seconds", .second), ("second", .second), ("secs", .second), ("sec", .second),
    ("s", .second),
    ("minutes", .minute), ("minute", .minute), ("min", .minute), ("mins", .minute),
    ("m", .minute),
    ("hours", .hour), ("hour", .hour), ("hr", .hour), ("hrs", .hour), ("h", .hour),
    ("days", .day), ("day", .day), ("d", .day),
    ("weeks", .week), ("week", .week), ("wk", .week), ("wks", .week), ("w", .week),
    ("months", .month), ("month", .month), ("M", .month),
    ("years", .year), ("year", .year), ("yr", .year), ("yrs", .year), ("y", .year)]

def TimeUnit.ofName? (name : String) : Option TimeUnit := TimeUnit.names.lookup name

/-- The size of a unit, in nanoseconds below the second and in seconds from it on. -/
def TimeUnit.size : TimeUnit → Nat
  | .nanosecond => 1
  | .microsecond => 1000
  | .millisecond => 1000000
  | .second => 1
  | .minute => 60
  | .hour => 3600
  | .day => 86400
  | .week => 604800
  | .month => 2630016
  | .year => 31557600

def TimeUnit.belowSecond : TimeUnit → Bool
  | .nanosecond | .microsecond | .millisecond => true
  | _ => false

/-- The size by which a fraction is multiplied, and whether the product is in nanoseconds. A part
of a nanosecond cannot be expressed. -/
def TimeUnit.fractionSize? : TimeUnit → Option (Nat × Bool)
  | .nanosecond => none
  | .microsecond => some (1000, true)
  | .millisecond => some (1000000, true)
  | .second => some (1000000000, true)
  | .minute => some (60000000000, true)
  | u => some (u.size, false)

/-- What a text is that gives no span. -/
inductive Failure
  | malformed
  | overflow
deriving DecidableEq, Repr

/-- A product or a sum that has to stay in 64 bits. -/
def bounded (n : Nat) : Except Failure Nat :=
  if n ≤ Text.maxNat64 then .ok n else .error .malformed

/-- Adds seconds and nanoseconds. Nanoseconds are carried when they are more than a second; exactly
one second is carried last, where only a full count of seconds leaves it no room. -/
def increase (total : Span) (seconds nanos : Nat) : Except Failure Span := do
  let nanos ← bounded (total.subsecond + nanos)
  let carried := Span.nanosPerSecond < nanos
  let seconds ← if carried then bounded (seconds + nanos / Span.nanosPerSecond) else pure seconds
  let nanos := if carried then nanos % Span.nanosPerSecond else nanos
  let seconds ← bounded (total.seconds + seconds)
  if nanos = Span.nanosPerSecond && seconds = Text.maxNat64 then throw .overflow
  return ⟨seconds * Span.nanosPerSecond + nanos⟩

/-- Adds one item: a whole number and perhaps a fraction, with its unit. -/
def addItem (total : Span) (whole : Nat) (fraction : Option (Nat × Nat)) (unit : String) :
    Except Failure Span := do
  match TimeUnit.ofName? unit with
  | none => throw .malformed
  | some u =>
    let product ← bounded (whole * u.size)
    let total ← if u.belowSecond then increase total 0 product else increase total product 0
    match fraction with
    | none => return total
    | some (numerator, denominator) =>
      match u.fractionSize? with
      | none => throw .malformed
      | some (size, inNanos) =>
        let product ← bounded (numerator * size)
        if product % denominator ≠ 0 then throw .malformed
        let part := product / denominator
        if inNanos then increase total 0 part else increase total part 0

/-- Where in an item the reader stands. -/
inductive Place
  | start
  | whole (n : Nat)
  | fraction (n numerator denominator : Nat)
  | unit (n : Nat) (fraction : Option (Nat × Nat)) (letters : List Char)
deriving DecidableEq, Repr

/-- What was read: the sum of the finished items, whether there was any, and the present place. -/
structure State where
  total : Span
  any : Bool
  place : Place
deriving DecidableEq, Repr

def State.initial : State := ⟨.zero, false, .start⟩

/-- Letters of units: those of ASCII and the micro sign. -/
def isUnitLetter (c : Char) : Bool := Text.isAsciiLetter c || c == 'µ'

/-- Reads one character. -/
def step (s : State) (c : Char) : Except Failure State := do
  match s.place with
  | .start =>
    if Text.isBlank c then return s
    else if Text.isAsciiDigit c then return { s with place := .whole (Text.digitValue c) }
    else throw .malformed
  | .whole n =>
    if Text.isAsciiDigit c then
      let n ← bounded (n * 10 + Text.digitValue c)
      return { s with place := .whole n }
    else if Text.isBlank c then return s
    else if isUnitLetter c then return { s with place := .unit n none [c] }
    else if c = '.' then return { s with place := .fraction n 0 1 }
    else throw .malformed
  | .fraction n numerator denominator =>
    if Text.isAsciiDigit c then
      let denominator ← bounded (denominator * 10)
      return { s with place := .fraction n (numerator * 10 + Text.digitValue c) denominator }
    else if Text.isBlank c then return s
    else if isUnitLetter c && denominator ≠ 1 then
      return { s with place := .unit n (some (numerator, denominator)) [c] }
    else throw .malformed
  | .unit n fraction letters =>
    if isUnitLetter c then return { s with place := .unit n fraction (letters ++ [c]) }
    else if Text.isAsciiDigit c then
      let total ← addItem s.total n fraction (String.ofList letters)
      return ⟨total, true, .whole (Text.digitValue c)⟩
    else if Text.isBlank c then
      let total ← addItem s.total n fraction (String.ofList letters)
      return ⟨total, true, .start⟩
    else throw .malformed

/-- The end of the text: an item may end here only inside its unit. -/
def finish (s : State) : Except Failure Span :=
  match s.place with
  | .start => if s.any then .ok s.total else .error .malformed
  | .unit n fraction letters => addItem s.total n fraction (String.ofList letters)
  | _ => .error .malformed

/-- Reads a span. The text `0` alone needs no unit. -/
def read (text : String) : Except Failure Span :=
  if text = "0" then .ok .zero
  else do finish (← text.toList.foldlM step .initial)

/-- Reads a span where another one is at hand for malformed text. -/
def readOr (fallback : Span) (text : String) : Except Fatal Span :=
  match read text with
  | .ok s => .ok s
  | .error .malformed => .ok fallback
  | .error .overflow => .error .spanOverflow

end RegistryFeed.SpanText
