import RegistryFeed.Error
import RegistryFeed.Text.Ascii
import RegistryFeed.Text.Numeral

/-! # Addresses

Where to wait for connections: an address and, after a colon, a number of sixteen bits. An address
is four numbers with dots between them, or eight groups of sixteen bits with colons between them in
brackets. Two colons in a row stand for one or more groups of zero, the last two groups may be
written as four numbers, and a zone may follow a percent sign. Each reader gives what it read and
the rest of the text. -/
namespace RegistryFeed

inductive SocketAddress
  | v4 (numbers : List Nat) (portNumber : Nat)
  | v6 (groups : List Nat) (zone portNumber : Nat)
deriving DecidableEq, Repr

namespace SocketAddress

/-- Reads a character if it is the given one. -/
def readChar (c : Char) : List Char → Option (List Char)
  | d :: rest => if d = c then some rest else none
  | [] => none

/-- Reads a numeral of any length, with a value of at most `bound`. -/
def readNumeral (bound : Nat) (cs : List Char) : Option (Nat × List Char) :=
  let digits := cs.takeWhile Text.isAsciiDigit
  if Text.isNumeral digits && Text.ofDigits 0 digits ≤ bound then
    some (Text.ofDigits 0 digits, cs.dropWhile Text.isAsciiDigit)
  else none

/-- Reads one of four numbers: at most three digits, no needless zero before them. -/
def readNumber (cs : List Char) : Option (Nat × List Char) :=
  let digits := cs.takeWhile Text.isAsciiDigit
  if 3 < digits.length || (digits.head? = some '0' && digits.length ≠ 1) then none
  else readNumeral 255 cs

def maxPort : Nat := 65535

def readPort (cs : List Char) : Option (Nat × List Char) := do
  readNumeral maxPort (← readChar ':' cs)

/-- Reads the numbers that follow the first one, each after a dot. -/
def readNumbers : Nat → List Char → Option (List Nat × List Char)
  | 0, cs => some ([], cs)
  | n + 1, cs => do
    let (a, cs) ← readNumber (← readChar '.' cs)
    let (rest, cs) ← readNumbers n cs
    return (a :: rest, cs)

/-- Reads four numbers with dots between them. -/
def readQuad (cs : List Char) : Option (List Nat × List Char) := do
  let (a, cs) ← readNumber cs
  let (rest, cs) ← readNumbers 3 cs
  return (a :: rest, cs)

/-- Reads a group: one to four digits of base sixteen. -/
def readGroup (cs : List Char) : Option (Nat × List Char) :=
  let digits := cs.takeWhile Text.isHexDigit
  if digits.isEmpty || 4 < digits.length then none
  else some (Text.ofHexDigits digits, cs.drop digits.length)

/-- What stands before a group: a colon, except before the first one of a run. -/
def readSeparator (isFirst : Bool) (cs : List Char) : Option (List Char) :=
  if isFirst then some cs else readChar ':' cs

/-- The two groups that four numbers make. -/
def groupsOfQuad : List Nat → List Nat
  | [a, b, c, d] => [a * 256 + b, c * 256 + d]
  | _ => []

/-- Reads a run of at most so many groups, as far as it goes, and tells whether four numbers ended
it. They take the place of two groups. -/
def readGroups (isFirst : Bool) : Nat → List Char → List Nat × Bool × List Char
  | 0, cs => ([], false, cs)
  | n + 1, cs =>
    match if 0 < n then (do readQuad (← readSeparator isFirst cs)) else none with
    | some (quad, cs) => (groupsOfQuad quad, true, cs)
    | none => match (do readGroup (← readSeparator isFirst cs)) with
      | some (g, cs) =>
        let (gs, quad, cs) := readGroups false n cs
        (g :: gs, quad, cs)
      | none => ([], false, cs)

/-- Reads eight groups, or fewer around two colons in a row. -/
def readGroupsOfEight (cs : List Char) : Option (List Nat × List Char) :=
  let (head, quad, cs) := readGroups true 8 cs
  if head.length = 8 then some (head, cs)
  else if quad then none
  else do
    let cs ← readChar ':' (← readChar ':' cs)
    let (tail, _, cs) := readGroups true (7 - head.length) cs
    return (head ++ List.replicate (8 - head.length - tail.length) 0 ++ tail, cs)

/-- Reads a zone after a percent sign. Where there is none, or no number in it, the zone is zero and
nothing is read. -/
def readZone (cs : List Char) : Nat × List Char :=
  ((readChar '%' cs).bind (readNumeral Text.maxNat32)).getD (0, cs)

def readV4 (cs : List Char) : Option (SocketAddress × List Char) := do
  let (numbers, cs) ← readQuad cs
  let (portNumber, cs) ← readPort cs
  return (.v4 numbers portNumber, cs)

def readV6 (cs : List Char) : Option (SocketAddress × List Char) := do
  let (groups, cs) ← readGroupsOfEight (← readChar '[' cs)
  let (zone, cs) := readZone cs
  let (portNumber, cs) ← readPort (← readChar ']' cs)
  return (.v6 groups zone portNumber, cs)

/-- Reads an address that is the whole text. -/
def ofText? (s : String) : Option SocketAddress :=
  match readV4 s.toList <|> readV6 s.toList with
  | some (a, []) => some a
  | _ => none

/-- The only device of the host, with the number one, is down and has no address. -/
def onlyDevice : Nat := 1

/-- Why no server can wait at an address. Four numbers are never looked up, also where groups stand
for them; of the groups the host has only those that stand for every address. Many listeners share
an address that begins with 255, and one of the ten bits 1111111010 needs a device. -/
def refusal? : SocketAddress → Option ConnectionFault
  | .v4 _ _ => none
  | .v6 groups zone _ =>
    let first := groups.headD 0
    let isLocal := first / 64 = 0xfe80 / 64
    if groups = [0, 0, 0, 0, 0, 0, 0, 0] || groups.take 6 = [0, 0, 0, 0, 0, 65535] then none
    else if first / 256 = 255 || (isLocal && zone = 0) then some .invalidArgument
    else if isLocal && zone ≠ onlyDevice then some .noDevice
    else some .addressNotAvailable

example : ofText? "127.0.0.1:04444" = some (.v4 [127, 0, 0, 1] 4444) := by decide +kernel
example : ofText? "[::1]:0" = some (.v6 [0, 0, 0, 0, 0, 0, 0, 1] 0 0) := by decide +kernel
example : ofText? "[1::2:10.0.0.1]:9" = some (.v6 [1, 0, 0, 0, 0, 2, 2560, 1] 0 9) := by
  decide +kernel
example : ofText? "127.0.0.01:1" = none := by decide +kernel
example : refusal? (.v6 [0xfe80, 0, 0, 0, 0, 0, 0, 1] 0 0) = some .invalidArgument := by decide
example : refusal? (.v6 [0, 0, 0, 0, 0, 65535, 32512, 1] 0 0) = none := by decide

end SocketAddress

end RegistryFeed
