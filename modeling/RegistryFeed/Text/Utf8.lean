/-! # UTF-8

Bytes are read as characters in their only well-formed encoding. A flaw is told by the index at
which the first ill-formed sequence begins and by its length; it has no length where the text ends
inside a character that could still have been well formed. -/
namespace RegistryFeed.Utf8

structure Flaw where
  length : Option Nat
  index : Nat
deriving DecidableEq, Repr

def bytesOf (s : String) : List UInt8 := s.toList.flatMap String.utf8EncodeChar

def isContinuation (b : UInt8) : Bool := 0x80 ≤ b && b ≤ 0xbf

/-- What the second byte of a character may be after its first one: the range leaves out encodings
that are too long, surrogates, and what lies beyond the last character. -/
def secondRange (first : UInt8) : UInt8 × UInt8 :=
  if first = 0xe0 then (0xa0, 0xbf)
  else if first = 0xed then (0x80, 0x9f)
  else if first = 0xf0 then (0x90, 0xbf)
  else if first = 0xf4 then (0x80, 0x8f)
  else (0x80, 0xbf)

/-- The number of bytes of a character that begins with the given byte, if a character does. -/
def width (first : UInt8) : Nat :=
  if first < 0x80 then 1
  else if first < 0xc2 then 0
  else if first < 0xe0 then 2
  else if first < 0xf0 then 3
  else if first < 0xf5 then 4
  else 0

def lowBits (b : UInt8) : Nat := b.toNat % 64

/-- The first character of a text and what follows it, or the length of the ill-formed sequence
that begins the text. -/
def readChar (first : UInt8) (rest : List UInt8) : Except (Option Nat) (Char × List UInt8) :=
  let (low, high) := secondRange first
  match width first with
  | 1 => .ok (Char.ofNat first.toNat, rest)
  | 2 => match rest with
    | [] => .error none
    | b :: rest =>
      if !isContinuation b then .error (some 1)
      else .ok (Char.ofNat (first.toNat % 32 * 64 + lowBits b), rest)
  | 3 => match rest with
    | [] => .error none
    | b :: rest =>
      if b < low || high < b then .error (some 1)
      else match rest with
        | [] => .error none
        | c :: rest =>
          if !isContinuation c then .error (some 2)
          else .ok (Char.ofNat (first.toNat % 16 * 4096 + lowBits b * 64 + lowBits c), rest)
  | 4 => match rest with
    | [] => .error none
    | b :: rest =>
      if b < low || high < b then .error (some 1)
      else match rest with
        | [] => .error none
        | c :: rest =>
          if !isContinuation c then .error (some 2)
          else match rest with
            | [] => .error none
            | d :: rest =>
              if !isContinuation d then .error (some 3)
              else .ok (Char.ofNat (first.toNat % 8 * 262144 + lowBits b * 4096 + lowBits c * 64 +
                lowBits d), rest)
  | _ => .error (some 1)

/-- Reads characters from a text that stands at an index. Every character takes a byte, so as much
fuel as bytes is enough. -/
def readFrom : Nat → Nat → List UInt8 → Except Flaw (List Char)
  | _, _, [] => .ok []
  | 0, _, _ => .ok []
  | fuel + 1, index, first :: rest =>
    match readChar first rest with
    | .error length => .error ⟨length, index⟩
    | .ok (c, rest) => do
      let cs ← readFrom fuel (index + width first) rest
      return c :: cs

def decode (bytes : List UInt8) : Except Flaw String := do
  let cs ← readFrom bytes.length 0 bytes
  return String.ofList cs

/-- Reads characters, with the replacement character in the place of every ill-formed sequence. -/
def lossyFrom : Nat → List UInt8 → List Char
  | _, [] => []
  | 0, _ => []
  | fuel + 1, first :: rest =>
    match readChar first rest with
    | .ok (c, rest) => c :: lossyFrom fuel rest
    | .error (some length) => '\ufffd' :: lossyFrom fuel (rest.drop (length - 1))
    | .error none => ['\ufffd']

def decodeLossy (bytes : List UInt8) : String := String.ofList (lossyFrom bytes.length bytes)

end RegistryFeed.Utf8
