import RegistryFeed.Text.Numeral
import RegistryFeed.Text.Printable

/-! # Quoted text

Client text inside a diagnosis stands between quotation marks. Quotation marks and backslashes get a
backslash, four control characters their letter, and a character that would not show on its own its
code point in braces. -/
namespace RegistryFeed.Text

def quotedChar (c : Char) : List Char :=
  if c = '"' || c = '\\' then ['\\', c]
  else if c = '\t' then ['\\', 't']
  else if c = '\r' then ['\\', 'r']
  else if c = '\n' then ['\\', 'n']
  else if c = '\x00' then ['\\', '0']
  else if isVisible c then [c]
  else ['\\', 'u', '\x7b'] ++ hexDigits c.toNat ++ ['\x7d']

def quoted (s : String) : String :=
  String.ofList ('"' :: s.toList.flatMap quotedChar ++ ['"'])

end RegistryFeed.Text
