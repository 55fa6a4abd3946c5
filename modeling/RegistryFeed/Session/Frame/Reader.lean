import RegistryFeed.Session.Frame
import RegistryFeed.Text.Fields

/-! # Reading a stream

A client cuts a stream into lines and finds the frames again. After the opening line of a frame and
its blank line stands either the next opening line, so the frame has no text, or the end line, or
the text of the object up to the next blank line. -/
namespace RegistryFeed.Frame

/-- The verb and the serial of a line that opens a frame. -/
def opening? (line : List Char) : Option (Bool × Int) :=
  match Text.cut? ' ' line with
  | some (verb, serial) =>
    if !Text.isNumeral serial then none
    else if verb = ['A', 'D', 'D'] then some (false, Text.ofDigits 0 serial)
    else if verb = ['D', 'E', 'L'] then some (true, Text.ofDigits 0 serial)
    else none
  | none => none

/-- Whether a line ends a stream. -/
def isEndLine (line : List Char) : Bool := ['%', 'E', 'N', 'D', ' '].isPrefixOf line

/-- Lines as one text. -/
def joinLines (lines : List (List Char)) : String := String.ofList (['\n'].intercalate lines)

/-- The frames of the lines up to the end line; none if there is no end line, or lines that no
frame has. -/
def ofLines : List (List Char) → Option (List Frame)
  | [] => none
  | line :: rest =>
    if isEndLine line then some []
    else match opening? line, rest with
      | some (deletes, serial), [] :: next :: rest =>
        if isEndLine next || (opening? next).isSome then
          (ofLines (next :: rest)).map (⟨deletes, serial, none⟩ :: ·)
        else
          (ofLines ((next :: rest).dropWhile (!·.isEmpty)).tail).map
            (⟨deletes, serial, some (joinLines ((next :: rest).takeWhile (!·.isEmpty)))⟩ :: ·)
      | _, _ => none
termination_by lines => lines.length
decreasing_by
  · simp
  · have := (List.dropWhile_suffix (l := next :: rest) (!·.isEmpty)).length_le
    simp only [List.length_tail, List.length_cons] at *
    omega

/-- The frames of a stream that was served to its end. -/
def ofStream? (text : String) : Option (List Frame) :=
  match Text.fields '\n' text.toList with
  | _start :: [] :: lines => ofLines lines
  | _ => none

example : ofStream? "%START Version: 3 A 1-3\n\nADD 1\n\nx: y\nz\n\nDEL 3\n\n%END A\n" =
    some [⟨false, 1, some "x: y\nz"⟩, ⟨true, 3, none⟩] := by decide +kernel
example : ofStream? "%START Version: 3 A 1-3\n\nADD 1\n\nx: y\n\n" = none := by decide +kernel

end RegistryFeed.Frame
