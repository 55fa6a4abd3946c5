import RegistryFeed.Text.Fields
import RegistryFeed.Text.Numeral
import RegistryFeed.Text.Utf8

/-! # Percent-encoded text

A percent sign followed by two digits of base sixteen stands for one byte; every other byte stands
for itself, a lone percent sign too. Parameters are pairs of such texts, in which a plus sign stands
for a space. -/
namespace RegistryFeed.Percent

def percentSign : UInt8 := 0x25

def byte? (high low : UInt8) : Option UInt8 :=
  Text.byte? (Char.ofNat high.toNat) (Char.ofNat low.toNat)

def decode : List UInt8 → List UInt8
  | a :: high :: low :: rest =>
    match if a = percentSign then byte? high low else none with
    | some b => b :: decode rest
    | none => a :: decode (high :: low :: rest)
  | a :: rest => a :: decode rest
  | [] => []

def decodeText (cs : List Char) : Except Utf8.Flaw String :=
  Utf8.decode (decode (Utf8.bytesOf (String.ofList cs)))

/-- A name or a value of a parameter; what is no text in it is replaced. -/
def component (cs : List Char) : String :=
  let spaced := cs.map fun c => if c = '+' then ' ' else c
  Utf8.decodeLossy (decode (Utf8.bytesOf (String.ofList spaced)))

/-- A text that ends before its first byte of zero; what is no text in it is replaced. -/
def untilZero (cs : List Char) : String :=
  Utf8.decodeLossy ((decode (Utf8.bytesOf (String.ofList cs))).takeWhile (· ≠ 0))

/-- The parameters between ampersands. A parameter without an equals sign has the empty value. -/
def parameters (cs : List Char) : List (String × String) :=
  ((Text.fields '&' cs).filter fun f => !f.isEmpty).map fun f =>
    match Text.cut? '=' f with
    | some (name, value) => (component name, component value)
    | none => (component f, "")

end RegistryFeed.Percent
