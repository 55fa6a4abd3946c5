import RegistryFeed.Json.Record
import RegistryFeed.Json.Value

/-! # Reading values

A text is read as whatever value it holds, so long as its numbers are whole and of 64 bits. Members
keep their order, and a key may come twice. -/
namespace RegistryFeed.Json

/-- The members of an object after its brace or after a member; each takes text, so as much fuel as
text is enough. -/
def readPairs {α : Type} (item : Reader α) : Nat → Bool → Reader (List (String × α))
  | 0, _, _ => .error .ends
  | fuel + 1, first, cs =>
    let next (cs : List Char) : Except Flaw (List (String × α) × List Char) := do
      let (key, rest) ← readQuoted cs
      let rest ← readColon rest
      let (x, rest) ← item rest
      let (xs, rest) ← readPairs item fuel false rest
      return ((key, x) :: xs, rest)
    match skipGap cs with
    | [] => .error .ends
    | '\x7d' :: rest => .ok ([], rest)
    | '"' :: rest => if first then next rest else .error .malformed
    | ',' :: rest =>
      if first then .error .malformed
      else match skipGap rest with
        | [] => .error .ends
        | '"' :: rest => next rest
        | _ => .error .malformed
    | _ => .error .malformed

/-- Reads a value in which lists and objects are nested less deep than the fuel says. -/
def readValue : Nat → Reader Value
  | 0, _ => .error .ends
  | fuel + 1, cs =>
    match skipGap cs with
    | [] => .error .ends
    | 'n' :: rest => do return (.null, ← expect ['u', 'l', 'l'] rest)
    | 't' :: rest => do return (.bool true, ← expect ['r', 'u', 'e'] rest)
    | 'f' :: rest => do return (.bool false, ← expect ['a', 'l', 's', 'e'] rest)
    | '"' :: rest => do
      let (s, rest) ← readQuoted rest
      return (.string s, rest)
    | '[' :: rest => do
      let (vs, rest) ← readItems (readValue fuel) (rest.length + 1) true rest
      return (.list vs, rest)
    | '\x7b' :: rest => do
      let (ms, rest) ← readPairs (readValue fuel) (rest.length + 1) true rest
      return (.object ms, rest)
    | cs => do
      let (n, rest) ← readInt Text.minInt64 Text.maxNat64 cs
      return (.number n, rest)

/-- The value that a text holds. A value is nested no deeper than its text is long. -/
def Value.ofText (text : String) : Except Flaw Value :=
  readAll (readValue (text.length + 1)) text

end RegistryFeed.Json
