import RegistryFeed.Request.Fault
import RegistryFeed.Request.Grammar

/-! # The order of the checks

Which fault a line is rejected for, and under which code: a relation, said without a way to find
the fault. The checks have one order, and a fault counts where every check before it passes,
whatever is wrong behind it. First come the flags that are present anywhere, then the words from
left to right, and last the value: its source, its second field, the number of its fields, its
range. -/
namespace RegistryFeed.Request

def IsFlag (word : String) : Prop := word = "-q" ∨ word = "-g" ∨ word = "-k"

/-- Each flag at most once, and a value that is no flag behind each that takes one: so far nothing
is wrong with the words, and these values are set. -/
inductive Given : List String → Option String → Option String → Bool → Prop
  | nil : Given [] .none .none false
  | info {front : List String} {changes : Option String} {keepalive : Bool} {value : String}
      (before : Given front .none changes keepalive) (plain : ¬ IsFlag value) :
      Given (front ++ ["-q", value]) (some value) changes keepalive
  | changes {front : List String} {info : Option String} {keepalive : Bool} {value : String}
      (before : Given front info .none keepalive) (plain : ¬ IsFlag value) :
      Given (front ++ ["-g", value]) info (some value) keepalive
  | keepalive {front : List String} {info changes : Option String}
      (before : Given front info changes false) : Given (front ++ ["-k"]) info changes true

/-- The flag has been given before. -/
def Flag.SetIn (flag : Flag) (info changes : Option String) (keepalive : Bool) : Prop :=
  match flag with
  | .info => info ≠ .none
  | .changes => changes ≠ .none
  | .keepalive => keepalive = true

/-- The first word at which the words go wrong. -/
inductive WordFault : List String → OptionFault → Prop
  | needsValue {front rest : List String} {info changes : Option String} {keepalive : Bool}
      {flag : Flag} (before : Given front info changes keepalive) (valued : flag ≠ .keepalive)
      (missing : ∀ value, rest.head? = some value → IsFlag value) :
      WordFault (front ++ flag.token :: rest) (.needsValue flag)
  | repeated {front rest : List String} {info changes : Option String} {keepalive : Bool}
      {flag : Flag} {value : String} (before : Given front info changes keepalive)
      (valued : flag ≠ .keepalive) (plain : ¬ IsFlag value)
      (twice : flag.SetIn info changes keepalive) :
      WordFault (front ++ flag.token :: value :: rest) (.repeated flag)
  | keptTwice {front rest : List String} {info changes : Option String}
      (before : Given front info changes true) :
      WordFault (front ++ "-k" :: rest) (.repeated .keepalive)
  | unknown {front rest : List String} {info changes : Option String} {keepalive : Bool}
      {word : String} (before : Given front info changes keepalive) (other : ¬ IsFlag word)
      (hyphen : word.toList.head? = some '-') : WordFault (front ++ word :: rest) (.unknown word)
  | stray {front rest : List String} {info changes : Option String} {keepalive : Bool}
      {word : String} (before : Given front info changes keepalive) (other : ¬ IsFlag word)
      (plain : word.toList.head? ≠ some '-') : WordFault (front ++ word :: rest) (.stray word)

inductive SerialFault : List Char → Malformed → Prop
  | notSerial {text : List Char} (h : text = [] ∨ ∃ c ∈ text, ¬ ('0' ≤ c ∧ c ≤ '9')) :
      SerialFault text (.notSerial (String.ofList text))
  | tooLarge {text : List Char} (nonempty : text ≠ []) (digits : ∀ c ∈ text, '0' ≤ c ∧ c ≤ '9')
      (beyond : Text.maxInt64 < Text.ofDigits 0 text) :
      SerialFault text (.serialTooLarge (String.ofList text))

/-- A range is cut at its first hyphen, and its begin is read before its end. -/
inductive RangeFault : List Char → Malformed → Prop
  | noHyphen {text : List Char} (absent : '-' ∉ text) : RangeFault text .noHyphen
  | start {a b : List Char} {cause : Malformed} (first : '-' ∉ a) (wrong : SerialFault a cause) :
      RangeFault (a ++ '-' :: b) cause
  | stop {a b : List Char} {n : Int} {cause : Malformed} (start : IsSerial a n)
      (number : ¬ Spells b "LAST") (wrong : SerialFault b cause) :
      RangeFault (a ++ '-' :: b) cause
  | reversed {a b : List Char} {first last : Int} (start : IsSerial a first)
      (stop : IsSerial b last) (order : last < first) : RangeFault (a ++ '-' :: b) .reversed

/-- The fields of a text: what stands between its colons. -/
structure Fields (text : List Char) (fields : List (List Char)) : Prop where
  present : fields ≠ []
  whole : ∀ field ∈ fields, ':' ∉ field
  text : [':'].intercalate fields = text

/-- What is wrong with the fields of a value first, and the code for it. -/
inductive SelectionFault (ctx : SourceContext) : List (List Char) → Fault → Nat → Prop
  | source {name : List Char} {more : List (List Char)} (unnamed : ∀ s, ¬ Names ctx name s) :
      SelectionFault ctx (name :: more) (.unknownSource (String.ofList name)) 403
  | noVersion {name : List Char} {s : Source} (named : Names ctx name s) :
      SelectionFault ctx [name] (.malformed .fieldCount) 405
  | version {name version : List Char} {more : List (List Char)} {s : Source}
      (named : Names ctx name s) (other : ¬ IsVersion version) :
      SelectionFault ctx (name :: version :: more) (.unsupportedVersion (String.ofList version)) 406
  | fieldCount {name version : List Char} {more : List (List Char)} {s : Source}
      (named : Names ctx name s) (three : IsVersion version) (count : more.length ≠ 1) :
      SelectionFault ctx (name :: version :: more) (.malformed .fieldCount) 405
  | range {name version range : List Char} {s : Source} {cause : Malformed}
      (named : Names ctx name s) (three : IsVersion version) (wrong : RangeFault range cause) :
      SelectionFault ctx [name, version, range] (.malformed cause) 405

/-- Nothing is wrong with the flags that are present: one of the two that ask for something, and
`-k` with `-g` only. -/
structure FlagsAllowed (words : List String) : Prop where
  present : words ≠ []
  oneOf : ¬ ("-q" ∈ words ↔ "-g" ∈ words)
  keepalive : "-k" ∈ words → "-g" ∈ words

/-- The words are rejected for the fault, under the code. -/
inductive Rejects (ctx : SourceContext) : List String → Fault → Nat → Prop
  | empty : Rejects ctx [] .emptyRequest 400
  | ambiguous {words : List String} (present : words ≠ [])
      (both : "-q" ∈ words ↔ "-g" ∈ words) : Rejects ctx words .ambiguousRequest 400
  | keepalive {words : List String} (one : ¬ ("-q" ∈ words ↔ "-g" ∈ words))
      (kept : "-k" ∈ words) (without : "-g" ∉ words) :
      Rejects ctx words .keepaliveWithoutChanges 400
  | option {words : List String} {cause : OptionFault} (flags : FlagsAllowed words)
      (wrong : WordFault words cause) : Rejects ctx words (.options cause) 405
  | info {words : List String} {value : String} {changes : Option String} {keepalive : Bool}
      (flags : FlagsAllowed words) (given : Given words (some value) changes keepalive)
      (unknown : ∀ option : InfoOption, ¬ Spells value.toList option.text) :
      Rejects ctx words (.unknownInfoOption value) 400
  | selection {words : List String} {value : String} {info : Option String} {keepalive : Bool}
      {fields : List (List Char)} {f : Fault} {code : Nat} (flags : FlagsAllowed words)
      (given : Given words info (some value) keepalive) (cut : Fields value.toList fields)
      (wrong : SelectionFault ctx fields f code) : Rejects ctx words f code

end RegistryFeed.Request
