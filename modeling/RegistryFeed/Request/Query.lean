import RegistryFeed.Source

/-! # Requests

What an accepted line asks for: information about the served sources, or the changes of one source
from a serial up to another serial or up to whatever is last when the request is served. -/
namespace RegistryFeed.Request

inductive InfoOption
  | sources
  | version
deriving DecidableEq, Repr

def InfoOption.all : List InfoOption := [.sources, .version]

def InfoOption.text : InfoOption → String
  | .sources => "SOURCES"
  | .version => "VERSION"

def InfoOption.ofText? (text : String) : Option InfoOption :=
  if Text.sameWord text "SOURCES" then some .sources
  else if Text.sameWord text "VERSION" then some .version
  else none

theorem InfoOption.ofText?_text (o : InfoOption) : ofText? o.text = some o := by
  cases o <;> decide

/-- The upper end of a range. An end at the last serial is kept apart from that serial itself. -/
inductive RangeEnd
  | last
  | serial (n : Int)
deriving DecidableEq, Repr

/-- The number that stands for an open end where only integers have room. -/
def lastSerialSentinel : Int := -1

def RangeEnd.toInt : RangeEnd → Int
  | .last => lastSerialSentinel
  | .serial n => n

def RangeEnd.resolve (tail : Int) : RangeEnd → Int
  | .last => tail
  | .serial n => n

def RangeEnd.isLast : RangeEnd → Bool
  | .last => true
  | .serial _ => false

/-- Information is answered in the name of the authoritative source. -/
inductive Query
  | info (source : Source) (option : InfoOption)
  | changes (source : Source) (first : Int) (final : RangeEnd) (keepalive : Bool)
deriving DecidableEq, Repr

namespace Query

def source : Query → Source
  | .info source _ => source
  | .changes source .. => source

def option? : Query → Option InfoOption
  | .info _ option => some option
  | .changes .. => none

/-- The first serial that is asked for; none is zero. -/
def first : Query → Int
  | .info .. => 0
  | .changes _ first .. => first

def final : Query → RangeEnd
  | .info .. => .last
  | .changes _ _ final _ => final

def keepalive : Query → Bool
  | .info .. => false
  | .changes _ _ _ keepalive => keepalive

end Query

/-- The label under which requests are counted. -/
def Query.kind : Query → String
  | .info _ .sources => "sources"
  | .info _ .version => "version"
  | .changes .. => "mirror"

/-- The version of the request grammar, which clients have to name. -/
def protocolVersion : Nat := 3

end RegistryFeed.Request
