import RegistryFeed.Json.Reader

/-! # Reading records

A record is read from an object, whose members may come in any order and of which unknown ones are
passed over, or from a list of the values in their order. The record being built starts as the
default; each known member changes it once. Only required members must be there. -/
namespace RegistryFeed.Json

/-- A member of records of type `σ`: reading its value gives the change it makes. -/
structure Member (σ : Type) where
  name : String
  required : Bool
  read : Reader (σ → σ)

namespace Member

variable {σ : Type}

def ofReader {α : Type} (name : String) (required : Bool) (reader : Reader α)
    (change : α → σ → σ) : Member σ where
  name := name
  required := required
  read := fun cs => do
    let (x, rest) ← reader cs
    return (change x, rest)

end Member

variable {σ : Type}

/-- Whether each member that is required has been seen. -/
def complete (members : List (Member σ)) (seen : List String) : Bool :=
  members.all fun m => !m.required || seen.contains m.name

/-- The colon after a key. -/
def readColon (cs : List Char) : Except Flaw (List Char) :=
  match skipGap cs with
  | [] => .error .ends
  | ':' :: rest => .ok rest
  | _ => .error .malformed

/-- The members of an object after its brace or after a member. A known key that was seen before is
refused before its colon is looked at. -/
def readMembers (members : List (Member σ)) : Nat → Bool → List String → σ → Reader σ
  | 0, _, _, _, _ => .error .ends
  | fuel + 1, first, seen, record, cs =>
    let next (cs : List Char) : Except Flaw (σ × List Char) := do
      let (key, rest) ← readQuoted cs
      match members.find? (·.name == key) with
      | some m =>
        if seen.contains key then throw .mismatch
        let rest ← readColon rest
        let (change, rest) ← m.read rest
        readMembers members fuel false (key :: seen) (change record) rest
      | none =>
        let rest ← readColon rest
        let rest ← skipValue rest
        readMembers members fuel false seen record rest
    match skipGap cs with
    | [] => .error .ends
    | '\x7d' :: rest => if complete members seen then .ok (record, rest) else .error .mismatch
    | '"' :: rest => if first then next rest else .error .malformed
    | ',' :: rest =>
      if first then .error .malformed
      else match skipGap rest with
        | [] => .error .ends
        | '"' :: rest => next rest
        | _ => .error .malformed
    | _ => .error .malformed

/-- The values of a record in order, after the bracket or after a value. The list may be short by
members that are not required. -/
def readValues : List (Member σ) → Bool → σ → Reader σ
  | [], _, record, cs =>
    match skipGap cs with
    | [] => .error .ends
    | ']' :: rest => .ok (record, rest)
    | _ => .error .malformed
  | m :: ms, first, record, cs =>
    let next (cs : List Char) : Except Flaw (σ × List Char) := do
      let (change, rest) ← m.read cs
      readValues ms false (change record) rest
    match skipGap cs with
    | [] => .error .ends
    | ']' :: rest => if (m :: ms).all (!·.required) then .ok (record, rest) else .error .mismatch
    | c :: rest =>
      if first then next (c :: rest)
      else if c = ',' then
        match skipGap rest with
        | [] => .error .ends
        | d :: more => if d = ']' then .error .malformed else next (d :: more)
      else .error .malformed

def readRecord (members : List (Member σ)) (initial : σ) : Reader σ := fun cs =>
  match skipGap cs with
  | '\x7b' :: rest => readMembers members (rest.length + 1) true [] initial rest
  | '[' :: rest => readValues members true initial rest
  | cs => .error (wrongKind cs)

end RegistryFeed.Json
