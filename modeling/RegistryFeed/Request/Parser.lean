import RegistryFeed.Request.Fault
import RegistryFeed.Request.Query
import RegistryFeed.Text.Blank
import RegistryFeed.Text.Fields

/-! # Reading a request line

    -q SOURCES|VERSION
    [-k] -g SOURCE:3:BEGIN-END|LAST

Checks run in one order, so a line with several faults is always rejected for the same one: an
empty line, the flags that are present, the words from left to right, and last the value: the
source, its version, the number of fields, the range. -/
namespace RegistryFeed.Request

/-- The values found while reading words from left to right. -/
structure Options where
  info : Option String
  changes : Option String
  keepalive : Bool
deriving DecidableEq, Repr

def Options.none : Options := ⟨.none, .none, false⟩

/-- Sets the value of a flag, which may be set only once. -/
def Options.put? (o : Options) (flag : Flag) (value : String) : Option Options :=
  match flag with
  | .info => if o.info.isSome then .none else some { o with info := some value }
  | .changes => if o.changes.isSome then .none else some { o with changes := some value }
  | .keepalive => if o.keepalive then .none else some { o with keepalive := true }

/-- Reads the words: a flag with its value, the flag `-k` alone, and nothing else. -/
def Options.collect (o : Options) : List String → Except Fault Options
  | [] => .ok o
  | token :: rest =>
    match Flag.ofToken? token with
    | some .keepalive =>
      match o.put? .keepalive "" with
      | .none => .error (.options (.repeated .keepalive))
      | some o' => o'.collect rest
    | some flag =>
      match rest with
      | [] => .error (.options (.needsValue flag))
      | value :: rest' =>
        if (Flag.ofToken? value).isSome then .error (.options (.needsValue flag))
        else match o.put? flag value with
          | .none => .error (.options (.repeated flag))
          | some o' => o'.collect rest'
    | .none =>
      if token.toList.head? = some '-' then .error (.options (.unknown token))
      else .error (.options (.stray token))

/-- A serial: ASCII digits without a sign, in the range of serials. -/
def readSerial (cs : List Char) : Except Malformed Int :=
  if Text.isNumeral cs then
    let n : Int := Text.ofDigits 0 cs
    if n ≤ Text.maxInt64 then .ok n else .error (.serialTooLarge (String.ofList cs))
  else .error (.notSerial (String.ofList cs))

/-- A range `BEGIN-END`, cut at its first hyphen; the end may be the word `LAST`. -/
def readRange (cs : List Char) : Except Malformed (Int × RangeEnd) :=
  match Text.cut? '-' cs with
  | .none => .error .noHyphen
  | some (b, e) => do
    let first ← readSerial b
    if Text.sameWord (String.ofList e) "LAST" then return (first, .last)
    let last ← readSerial e
    if last < first then throw .reversed
    return (first, .serial last)

/-- The value of `-g`. -/
def readSelection (ctx : SourceContext) (value : String) :
    Except Fault (Source × Int × RangeEnd) :=
  match Text.fields ':' value.toList with
  | [] => .error (.malformed .fieldCount)
  | name :: more =>
    match ctx.resolve (String.ofList name) with
    | .none => .error (.unknownSource (String.ofList name))
    | some source =>
      match more with
      | [] => .error (.malformed .fieldCount)
      | version :: more' =>
        if Text.readUpTo? Text.maxNat32 version ≠ some protocolVersion then
          .error (.unsupportedVersion (String.ofList version))
        else match more' with
          | [range] =>
            match readRange range with
            | .ok (first, final) => .ok (source, first, final)
            | .error cause => .error (.malformed cause)
          | _ => .error (.malformed .fieldCount)

def readInfoOption (text : String) : Except Fault InfoOption :=
  match InfoOption.ofText? text with
  | some option => .ok option
  | .none => .error (.unknownInfoOption text)

/-- Gives the collected values their meaning. -/
def Options.query (ctx : SourceContext) (o : Options) : Except Fault Query :=
  match o.info, o.changes with
  | some value, _ => do
    let option ← readInfoOption value
    return .info ctx.authoritative option
  | .none, some value => do
    let (source, first, final) ← readSelection ctx value
    return .changes source first final o.keepalive
  | .none, .none => .error (.options (.needsValue .changes))

/-- The words of a line. -/
def tokens (line : String) : List String := (Text.words line.toList).map String.ofList

/-- Reads one line for a client that sees `ctx`. -/
def parse (ctx : SourceContext) (line : String) : Except Fault Query :=
  let ts := tokens line
  let present (flag : Flag) : Bool := ts.contains flag.token
  if ts.isEmpty then .error .emptyRequest
  else if present .info == present .changes then .error .ambiguousRequest
  else if present .keepalive && !present .changes then .error .keepaliveWithoutChanges
  else do
    let o ← Options.none.collect ts
    o.query ctx

end RegistryFeed.Request
