/-! # Letters of ASCII

Keywords, source names and object types are compared without regard to the case of ASCII letters.
All other characters stand for themselves: the case maps used here move no character above 0x7f. -/
namespace RegistryFeed.Text

def lowercase (s : String) : String := String.ofList (s.toList.map Char.toLower)

/-- Two texts that differ at most in the case of ASCII letters. -/
def sameWord (a b : String) : Bool := a.toList.map Char.toLower == b.toList.map Char.toLower

def isAsciiDigit (c : Char) : Bool := '0' ≤ c && c ≤ '9'

def isAsciiLetter (c : Char) : Bool := ('a' ≤ c && c ≤ 'z') || ('A' ≤ c && c ≤ 'Z')

end RegistryFeed.Text
