import RegistryFeed.Text.Numeral

/-! # JSON values and their text

The values that documents and settings are made of; all numbers are whole. Text is compact: no
blanks, members in the order given. Inside strings only what has to be escaped is. -/
namespace RegistryFeed.Json

inductive Value
  | null
  | bool (b : Bool)
  | number (n : Int)
  | string (s : String)
  | list (vs : List Value)
  | object (members : List (String × Value))
deriving Repr

/-- Quotation marks, backslashes and control characters are escaped. -/
def escapeChar (c : Char) : List Char :=
  if c = '"' then ['\\', '"']
  else if c = '\\' then ['\\', '\\']
  else if c = '\x08' then ['\\', 'b']
  else if c = '\t' then ['\\', 't']
  else if c = '\n' then ['\\', 'n']
  else if c = '\x0c' then ['\\', 'f']
  else if c = '\r' then ['\\', 'r']
  else if c.toNat < 0x20 then
    ['\\', 'u', '0', '0', Text.hexDigit (c.toNat / 16), Text.hexDigit (c.toNat % 16)]
  else [c]

def writeString (s : String) : List Char := '"' :: s.toList.flatMap escapeChar ++ ['"']

def writeInt (n : Int) : List Char := (Text.decimal n).toList

mutual

def Value.write : Value → List Char
  | .null => ['n', 'u', 'l', 'l']
  | .bool true => ['t', 'r', 'u', 'e']
  | .bool false => ['f', 'a', 'l', 's', 'e']
  | .number n => writeInt n
  | .string s => writeString s
  | .list vs => '[' :: writeItems vs
  | .object ms => '\x7b' :: writeMembers ms

/-- The items of a list and the bracket that closes it. -/
def writeItems : List Value → List Char
  | [] => [']']
  | [v] => v.write ++ [']']
  | v :: w :: vs => v.write ++ ',' :: writeItems (w :: vs)

/-- The members of an object and the brace that closes it. -/
def writeMembers : List (String × Value) → List Char
  | [] => ['\x7d']
  | [(k, v)] => writeString k ++ ':' :: v.write ++ ['\x7d']
  | (k, v) :: m :: ms => writeString k ++ ':' :: v.write ++ ',' :: writeMembers (m :: ms)

end

def Value.text (v : Value) : String := String.ofList v.write

/-- A text that may be absent. -/
def Value.ofText? : Option String → Value
  | some s => .string s
  | none => .null

end RegistryFeed.Json
