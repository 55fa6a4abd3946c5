import RegistryFeed.Number.Binary64
import RegistryFeed.Text.Ascii
import RegistryFeed.Text.Numeral

/-! # Reading JSON

Readers take the rest of a text and give a value and what follows it. They go strictly from left to
right, so the first flaw of a text decides how it is rejected: it ends too early, it is no JSON, or
it is JSON of another kind than wanted. A value of the wrong kind is read to the end of its number,
word or string before it is refused, and refused at once if it is a list or an object. -/
namespace RegistryFeed.Json

/-- Why a text is rejected. -/
inductive Flaw
  | ends
  | malformed
  | mismatch
deriving DecidableEq, Repr

abbrev Reader (α : Type) := List Char → Except Flaw (α × List Char)

/-- The four characters that may stand between tokens. -/
def isGap (c : Char) : Bool := c == ' ' || c == '\n' || c == '\t' || c == '\r'

def skipGap (cs : List Char) : List Char := cs.dropWhile isGap

/-- Goes past the given characters. -/
def expect : List Char → List Char → Except Flaw (List Char)
  | [], cs => .ok cs
  | _ :: _, [] => .error .ends
  | w :: ws, c :: cs => if w = c then expect ws cs else .error .malformed

/-! ## Strings -/

/-- Four digits of base sixteen. A text with fewer than four bytes left ends too early. -/
def readHex4 (cs : List Char) : Except Flaw (Nat × List Char) :=
  if (cs.take 4).foldr (fun c n => c.utf8Size + n) 0 < 4 then .error .ends
  else match cs with
    | a :: b :: c :: d :: rest =>
      match Text.hexValue? a, Text.hexValue? b, Text.hexValue? c, Text.hexValue? d with
      | some a, some b, some c, some d => .ok (((a * 16 + b) * 16 + c) * 16 + d, rest)
      | _, _, _, _ => .error .malformed
    | _ => .error .malformed

def isLeadingSurrogate (n : Nat) : Bool := 0xd800 ≤ n && n ≤ 0xdbff

def isTrailingSurrogate (n : Nat) : Bool := 0xdc00 ≤ n && n ≤ 0xdfff

/-- The character of an escape by code, after its letter. A leading surrogate needs a trailing one
right after it; a trailing one alone is malformed. -/
def readCode (cs : List Char) : Except Flaw (Char × List Char) := do
  let (n, rest) ← readHex4 cs
  if isTrailingSurrogate n then throw .malformed
  if isLeadingSurrogate n then
    let rest ← expect ['\\', 'u'] rest
    let (m, rest) ← readHex4 rest
    if isTrailingSurrogate m then
      return (Char.ofNat (0x10000 + (n - 0xd800) * 0x400 + (m - 0xdc00)), rest)
    else throw .malformed
  else return (Char.ofNat n, rest)

/-- The character that an escape by letter stands for. -/
def escaped? (c : Char) : Option Char :=
  if c = '"' then some '"'
  else if c = '\\' then some '\\'
  else if c = '/' then some '/'
  else if c = 'b' then some '\x08'
  else if c = 'f' then some '\x0c'
  else if c = 'n' then some '\n'
  else if c = 'r' then some '\r'
  else if c = 't' then some '\t'
  else none

/-- The rest of a string after its opening quotation mark. Each character read is at least one
character of text, so as much fuel as text is enough. -/
def readStringRest : Nat → List Char → Except Flaw (List Char × List Char)
  | 0, _ => .error .ends
  | _ + 1, [] => .error .ends
  | fuel + 1, c :: rest =>
    if c = '"' then .ok ([], rest)
    else if c = '\\' then
      match rest with
      | [] => .error .ends
      | e :: rest =>
        if e = 'u' then do
          let (x, rest) ← readCode rest
          let (xs, rest) ← readStringRest fuel rest
          return (x :: xs, rest)
        else match escaped? e with
          | some x => do
            let (xs, rest) ← readStringRest fuel rest
            return (x :: xs, rest)
          | none => .error .malformed
    else if c.toNat < 0x20 then .error .malformed
    else do
      let (xs, rest) ← readStringRest fuel rest
      return (c :: xs, rest)

/-- The rest of a string, as text. -/
def readQuoted : Reader String := fun cs => do
  let (xs, rest) ← readStringRest (cs.length + 1) cs
  return (String.ofList xs, rest)

/-! ## Numbers -/

/-- A number is whole and in the range of 64 bits, or it is some other number. -/
inductive Numeral
  | whole (n : Int)
  | other
deriving DecidableEq, Repr

/-- Takes digits into a number as long as it stays in 64 bits, and counts them. -/
def absorb : Nat → List Char → Nat × Nat
  | n, [] => (n, 0)
  | n, c :: cs =>
    let m := n * 10 + Text.digitValue c
    if m ≤ Text.maxNat64 then
      let (r, k) := absorb m cs
      (r, k + 1)
    else (n, 0)

/-- Whether `significand · 10^exponent` is too large for a floating-point number. -/
def tooLarge (significand : Nat) (exponent : Int) : Bool :=
  significand != 0 && 0 < exponent &&
    (308 < exponent ||
      !((Binary64.ofNat significand).mul (Binary64.ofNat (Nat.pow 10 exponent.toNat))).isFinite)

/-- The greatest value an exponent is read to. -/
def maxExponent : Nat := 2147483647

/-- The exponent of a number, after its letter: the sign, digits, and the end of the number. -/
def readExponent (significand : Nat) (exponent : Int) (cs : List Char) :
    Except Flaw (Numeral × List Char) :=
  let (negative, body) := match cs with
    | '+' :: rest => (false, rest)
    | '-' :: rest => (true, rest)
    | _ => (false, cs)
  match body with
  | [] => .error .ends
  | c :: _ =>
    if !Text.isAsciiDigit c then .error .malformed
    else
      let n := Text.ofDigits 0 (body.takeWhile Text.isAsciiDigit)
      let rest := body.dropWhile Text.isAsciiDigit
      if maxExponent < n then
        if significand != 0 && !negative then .error .malformed else .ok (.other, rest)
      else
        let exponent := if negative then exponent - n else exponent + n
        if tooLarge significand exponent then .error .malformed else .ok (.other, rest)

/-- What may follow the whole part and the fraction of a number. -/
def readNumberEnd (significand : Nat) (exponent : Int) (cs : List Char) :
    Except Flaw (Numeral × List Char) :=
  match cs with
  | c :: rest =>
    if c = 'e' || c = 'E' then readExponent significand exponent rest
    else if tooLarge significand exponent then .error .malformed
    else .ok (.other, cs)
  | [] => if tooLarge significand exponent then .error .malformed else .ok (.other, [])

/-- The fraction of a number, after its point. Digits that no longer fit are dropped. -/
def readFraction (significand : Nat) (exponent : Int) (cs : List Char) :
    Except Flaw (Numeral × List Char) :=
  match cs with
  | [] => .error .ends
  | c :: _ =>
    if !Text.isAsciiDigit c then .error .malformed
    else
      let (significand, used) := absorb significand (cs.takeWhile Text.isAsciiDigit)
      readNumberEnd significand (exponent - used) (cs.dropWhile Text.isAsciiDigit)

/-- A number that has neither point nor exponent. -/
def wholeNumeral (negative : Bool) (n : Nat) : Numeral :=
  if !negative then .whole n
  else if n = 0 || 9223372036854775808 < n then .other
  else .whole (-n)

/-- A number after its sign. -/
def readMagnitude (negative : Bool) (cs : List Char) : Except Flaw (Numeral × List Char) :=
  match cs with
  | [] => .error .ends
  | c :: tail =>
    if !Text.isAsciiDigit c then .error .malformed
    else
      let ds := cs.takeWhile Text.isAsciiDigit
      let rest := cs.dropWhile Text.isAsciiDigit
      if c = '0' && (tail.head?.map Text.isAsciiDigit).getD false then .error .malformed
      else
        let (significand, used) := absorb 0 ds
        let dropped : Int := (ds.length - used : Nat)
        match rest with
        | '.' :: rest => readFraction significand dropped rest
        | 'e' :: rest | 'E' :: rest => readExponent significand dropped rest
        | _ =>
          if dropped = 0 then .ok (wholeNumeral negative significand, rest)
          else if tooLarge significand dropped then .error .malformed
          else .ok (.other, rest)

def readNumber (cs : List Char) : Except Flaw (Numeral × List Char) :=
  match cs with
  | '-' :: rest => readMagnitude true rest
  | _ => readMagnitude false cs

/-! ## Values of a wanted kind -/

/-- The flaw of a text that begins with a value of another kind than wanted. -/
def wrongKind : List Char → Flaw
  | [] => .ends
  | c :: rest =>
    let after (r : Except Flaw (List Char)) : Flaw := match r with
      | .error f => f
      | .ok _ => .mismatch
    if c = 'n' then after (expect ['u', 'l', 'l'] rest)
    else if c = 't' then after (expect ['r', 'u', 'e'] rest)
    else if c = 'f' then after (expect ['a', 'l', 's', 'e'] rest)
    else if c = '-' || Text.isAsciiDigit c then after ((readNumber (c :: rest)).map (·.2))
    else if c = '"' then after ((readQuoted rest).map (·.2))
    else if c = '[' || c = '\x7b' then .mismatch
    else .malformed

def readString : Reader String := fun cs =>
  match skipGap cs with
  | '"' :: rest => readQuoted rest
  | cs => .error (wrongKind cs)

/-- A string, or null for none. -/
def readString? : Reader (Option String) := fun cs =>
  match skipGap cs with
  | 'n' :: rest => do return (none, ← expect ['u', 'l', 'l'] rest)
  | cs => do
    let (s, rest) ← readString cs
    return (some s, rest)

def readBool : Reader Bool := fun cs =>
  match skipGap cs with
  | 't' :: rest => do return (true, ← expect ['r', 'u', 'e'] rest)
  | 'f' :: rest => do return (false, ← expect ['a', 'l', 's', 'e'] rest)
  | cs => .error (wrongKind cs)

/-- A whole number between two bounds. -/
def readInt (low high : Int) : Reader Int := fun cs =>
  match skipGap cs with
  | [] => .error .ends
  | c :: tail =>
    if c = '-' || Text.isAsciiDigit c then do
      let (n, rest) ← readNumber (c :: tail)
      match n with
      | .whole n => if low ≤ n && n ≤ high then return (n, rest) else throw .mismatch
      | .other => throw .mismatch
    else .error (wrongKind (c :: tail))

def readNat (bound : Nat) : Reader Nat := fun cs => do
  let (n, rest) ← readInt 0 bound cs
  return (n.toNat, rest)

/-- The items of a list after its bracket or after an item; each item takes text, so as much fuel
as text is enough. -/
def readItems {α : Type} (item : Reader α) : Nat → Bool → List Char →
    Except Flaw (List α × List Char)
  | 0, _, _ => .error .ends
  | fuel + 1, first, cs =>
    let next (cs : List Char) : Except Flaw (List α × List Char) := do
      let (x, rest) ← item cs
      let (xs, rest) ← readItems item fuel false rest
      return (x :: xs, rest)
    match skipGap cs with
    | [] => .error .ends
    | c :: rest =>
      if c = ']' then .ok ([], rest)
      else if first then next (c :: rest)
      else if c = ',' then
        match skipGap rest with
        | [] => .error .ends
        | d :: more => if d = ']' then .error .malformed else next (d :: more)
      else .error .malformed

def readList {α : Type} (item : Reader α) : Reader (List α) := fun cs =>
  match skipGap cs with
  | '[' :: rest => readItems item (rest.length + 1) true rest
  | cs => .error (wrongKind cs)

/-- One of a set of words: a string, or an object whose only key is the word and whose value is
null. -/
def readWord {α : Type} (word? : String → Option α) : Reader α := fun cs =>
  match skipGap cs with
  | [] => .error .ends
  | c :: rest =>
    let named (cs : List Char) : Except Flaw (α × List Char) := do
      let (s, rest) ← readString cs
      match word? s with
      | some x => return (x, rest)
      | none => throw .mismatch
    if c = '"' then named (c :: rest)
    else if c = '\x7b' then do
      let (x, rest) ← match skipGap rest with
        | [] => throw .ends
        | k :: rest => if k = '"' then named (k :: rest) else throw .malformed
      match skipGap rest with
      | [] => throw .ends
      | d :: rest =>
        if d ≠ ':' then throw .malformed
        match skipGap rest with
        | 'n' :: rest =>
          let rest ← expect ['u', 'l', 'l'] rest
          match skipGap rest with
          | [] => throw .ends
          | e :: rest => if e = '\x7d' then return (x, rest) else throw .malformed
        | rest => throw (wrongKind rest)
    else .error .malformed

/-! ## Values that are not wanted -/

/-- An open list or object. -/
inductive Frame
  | list
  | object
deriving DecidableEq, Repr

/-- Where among the tokens of a value the reader stands. -/
inductive Spot
  | value
  | opened
  | after
deriving DecidableEq, Repr

/-- The rest of a string whose characters nobody asks for: escapes by code are not paired. -/
def skipStringRest : Nat → List Char → Except Flaw (List Char)
  | 0, _ => .error .ends
  | _ + 1, [] => .error .ends
  | fuel + 1, c :: rest =>
    if c = '"' then .ok rest
    else if c = '\\' then
      match rest with
      | [] => .error .ends
      | e :: rest =>
        if e = 'u' then do
          let (_, rest) ← readHex4 rest
          skipStringRest fuel rest
        else if (escaped? e).isSome then skipStringRest fuel rest
        else .error .malformed
    else if c.toNat < 0x20 then .error .malformed
    else skipStringRest fuel rest

def skipQuoted (cs : List Char) : Except Flaw (List Char) := skipStringRest (cs.length + 1) cs

/-- At least one digit. -/
def skipDigits (cs : List Char) : Except Flaw (List Char) :=
  if (cs.head?.map Text.isAsciiDigit).getD false then .ok (cs.dropWhile Text.isAsciiDigit)
  else .error .malformed

def skipExponent (cs : List Char) : Except Flaw (List Char) :=
  match cs with
  | '+' :: rest | '-' :: rest => skipDigits rest
  | _ => skipDigits cs

/-- A number after its sign; its size does not matter. -/
def skipMagnitude (cs : List Char) : Except Flaw (List Char) := do
  let rest ← skipDigits cs
  if cs.head? = some '0' && rest.length + 1 < cs.length then throw .malformed
  match rest with
  | '.' :: rest =>
    let rest ← skipDigits rest
    match rest with
    | 'e' :: rest | 'E' :: rest => skipExponent rest
    | _ => return rest
  | 'e' :: rest | 'E' :: rest => skipExponent rest
  | _ => return rest

/-- A word, number or string. -/
def skipScalar (c : Char) (rest : List Char) : Except Flaw (List Char) :=
  if c = 'n' then expect ['u', 'l', 'l'] rest
  else if c = 't' then expect ['r', 'u', 'e'] rest
  else if c = 'f' then expect ['a', 'l', 's', 'e'] rest
  else if c = '-' then skipMagnitude rest
  else if Text.isAsciiDigit c then skipMagnitude (c :: rest)
  else if c = '"' then skipQuoted rest
  else .error .malformed

/-- The key of a member and its colon, where there is no blank before the key. -/
def skipKey (cs : List Char) : Except Flaw (List Char) :=
  match cs with
  | [] => .error .ends
  | '"' :: rest => do
    let rest ← skipQuoted rest
    match skipGap rest with
    | [] => throw .ends
    | ':' :: rest => return rest
    | _ => throw .malformed
  | _ => .error .malformed

/-- Goes past a value, with the open lists and objects around the present spot. At most two rounds
pass between two characters, so twice as much fuel as text is enough. -/
def skipFrom : Nat → Spot → List Frame → List Char → Except Flaw (List Char)
  | 0, _, _, _ => .error .ends
  | fuel + 1, .value, frames, cs =>
    match skipGap cs with
    | [] => .error .ends
    | c :: rest =>
      if c = '[' then skipFrom fuel .opened (.list :: frames) rest
      else if c = '\x7b' then skipFrom fuel .opened (.object :: frames) rest
      else do
        let rest ← skipScalar c rest
        skipFrom fuel .after frames rest
  | _ + 1, _, [], cs => .ok cs
  | fuel + 1, spot, frame :: frames, cs =>
    let item (cs : List Char) : Except Flaw (List Char) :=
      match frame with
      | .list => skipFrom fuel .value (.list :: frames) cs
      | .object => do
        let rest ← skipKey (skipGap cs)
        skipFrom fuel .value (.object :: frames) rest
    match skipGap cs with
    | [] => .error .ends
    | c :: rest =>
      if frame = .list && c = ']' || frame = .object && c = '\x7d' then
        skipFrom fuel .after frames rest
      else if spot = .opened then item (c :: rest)
      else if c = ',' then item rest
      else .error .malformed

def skipValue (cs : List Char) : Except Flaw (List Char) :=
  skipFrom (2 * cs.length + 2) .value [] cs

/-! ## Whole texts -/

/-- Reads a text that holds one value and nothing else. -/
def readAll {α : Type} (reader : Reader α) (text : String) : Except Flaw α := do
  let (x, rest) ← reader text.toList
  if (skipGap rest).isEmpty then return x else throw .malformed

end RegistryFeed.Json
