import RegistryFeed.Change.Reading

/-! # Frames

The text in which changes are streamed to a client. A frame has a line with its verb and serial, an
empty line, and, where the object has a text, that text and another empty line; an update is sent as
an addition, which replaces what was there. A stream that was served to its end has an end line. -/
namespace RegistryFeed

/-- The body is the text of the object without line ends behind it. -/
structure Frame where
  deletes : Bool
  serial : Int
  body : Option String
deriving DecidableEq, Repr

/-- The text without line ends behind it. -/
def trimLineEnds (s : String) : String :=
  String.ofList ((s.toList.reverse.dropWhile (· == '\n')).reverse)

namespace Frame

def ofEntry (e : Entry) : Frame := ⟨e.operation.isDelete, e.serial, e.payload.map trimLineEnds⟩

def verb (f : Frame) : String := if f.deletes then "DEL" else "ADD"

def text (f : Frame) : String :=
  f.verb ++ " " ++ Text.decimal f.serial ++ "\n\n" ++
    match f.body with
    | some body => body ++ "\n\n"
    | none => ""

end Frame

def startText (source : Source) (first last : Int) : String :=
  "%START Version: 3 " ++ source.name ++ " " ++ Text.decimal first ++ "-" ++ Text.decimal last ++
    "\n\n"

def endText (source : Source) : String := "%END " ++ source.name ++ "\n"

/-- The line that opens an answer about versions. -/
def serverVersionLine : String := "% nrtm-server-3"

/-- The first and the last serial, or twice zero for an empty log. -/
def rangeText (r : Option SerialRange) : String :=
  match r with
  | some r => Text.decimal r.first ++ "-" ++ Text.decimal r.last
  | none => "0-0"

def sourceLine (source : Source) (r : Option SerialRange) : String :=
  source.name ++ ":3:X:" ++ rangeText r ++ "\n"

def serialsLine (source : Source) (r : Option SerialRange) : String :=
  "% " ++ source.name ++ " serials " ++ rangeText r ++ "\n"

def versionLine (source : Source) (v : VersionInfo) : String :=
  "% " ++ source.name ++ " nrtm4 version " ++ Text.decimal v.version ++ " session " ++ v.session ++
    " last-serial " ++ Text.decimal v.lastSerial ++ "\n"

end RegistryFeed
