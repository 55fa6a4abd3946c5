import RegistryFeed.Request.Query
import RegistryFeed.Text.Numeral

/-! # The request grammar

Which words make a request, and which one: a relation, said without a way to decide it. Words with a
case of their own are the flags and nothing else; the source is named first, and the authoritative
source goes before the other one. -/
namespace RegistryFeed.Request

/-- The text is a word, in any case of the letters of ASCII. -/
def Spells (text : List Char) (word : String) : Prop :=
  text.map Char.toLower = word.toList.map Char.toLower

instance (text : List Char) (word : String) : Decidable (Spells text word) :=
  inferInstanceAs (Decidable (_ = _))

/-- Digits of ASCII, at least one, with a value that a serial can have. -/
structure IsSerial (text : List Char) (n : Int) : Prop where
  nonempty : text ≠ []
  digits : ∀ c ∈ text, '0' ≤ c ∧ c ≤ '9'
  value : n = Text.ofDigits 0 text
  bounded : n ≤ Text.maxInt64

/-- The number of the protocol, with zeros and a plus sign before it or without. -/
inductive IsVersion : List Char → Prop
  | bare {zeros : List Char} (h : ∀ c ∈ zeros, c = '0') : IsVersion (zeros ++ ['3'])
  | signed {zeros : List Char} (h : ∀ c ∈ zeros, c = '0') : IsVersion ('+' :: zeros ++ ['3'])

inductive IsRange : List Char → Int → RangeEnd → Prop
  | toLast {a b : List Char} {first : Int} (start : IsSerial a first) (word : Spells b "LAST") :
      IsRange (a ++ '-' :: b) first .last
  | upTo {a b : List Char} {first last : Int} (start : IsSerial a first) (stop : IsSerial b last)
      (ordered : first ≤ last) : IsRange (a ++ '-' :: b) first (.serial last)

/-- The name means a source of the context, the first that it spells. -/
inductive Names (ctx : SourceContext) (name : List Char) : Source → Prop
  | authoritative (h : Spells name ctx.authoritative.name) : Names ctx name ctx.authoritative
  | nonAuthoritative {s : Source} (present : ctx.nonAuthoritative = some s)
      (other : ¬ Spells name ctx.authoritative.name) (h : Spells name s.name) : Names ctx name s

/-- A source, the version of the protocol, and a range, with colons between them. -/
inductive Selects (ctx : SourceContext) : String → Source → Int → RangeEnd → Prop
  | fields {name version range : List Char} {source : Source} {first : Int} {final : RangeEnd}
      (oneName : ':' ∉ name) (named : Names ctx name source) (three : IsVersion version)
      (selected : IsRange range first final) :
      Selects ctx (String.ofList (name ++ ':' :: version ++ ':' :: range)) source first final

/-- The words make the request. -/
inductive Denotes (ctx : SourceContext) : List String → Query → Prop
  | info {value : String} {option : InfoOption} (h : Spells value.toList option.text) :
      Denotes ctx ["-q", value] (.info ctx.authoritative option)
  | changes {value : String} {source : Source} {first : Int} {final : RangeEnd}
      (h : Selects ctx value source first final) :
      Denotes ctx ["-g", value] (.changes source first final false)
  | keepaliveFirst {value : String} {source : Source} {first : Int} {final : RangeEnd}
      (h : Selects ctx value source first final) :
      Denotes ctx ["-k", "-g", value] (.changes source first final true)
  | keepaliveLast {value : String} {source : Source} {first : Int} {final : RangeEnd}
      (h : Selects ctx value source first final) :
      Denotes ctx ["-g", value, "-k"] (.changes source first final true)

example : IsRange ['7', '-', 'l', 'a', 's', 't'] 7 .last := by
  have start : IsSerial ['7'] 7 := ⟨by decide, by simp, by decide, by decide⟩
  exact .toLast (b := ['l', 'a', 's', 't']) start (by decide)

end RegistryFeed.Request
