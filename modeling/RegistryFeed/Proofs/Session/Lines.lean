import RegistryFeed.Session.Frame.Reader
import RegistryFeed.Session.Transcript

/-!
# The lines of a stream

A stream is cut into lines: the line that opens it, the lines of its frames, one frame
after the other, and the line that ends it. Names and numbers have no line end in them,
but the text of an object has lines of its own.
-/

namespace RegistryFeed

namespace Frame

/-- The line that opens a frame. -/
def openingLine (f : Frame) : List Char := (f.verb ++ " " ++ Text.decimal f.serial).toList

/-- The lines of a frame; the last one of them is empty. -/
def lines (f : Frame) : List (List Char) :=
  f.openingLine :: [] ::
    match f.body with
    | some body => Text.fields '\n' body.toList ++ [[]]
    | none => []

theorem newline_not_mem_decimal (n : Int) : '\n' ∉ (Text.decimal n).toList := by
  intro mem
  rcases Text.mem_decimal mem with digit | sign
  · exact absurd digit (by decide)
  · exact absurd sign (by decide)

theorem newline_not_mem_openingLine (f : Frame) : '\n' ∉ f.openingLine := by
  have verb : '\n' ∉ f.verb.toList := by
    unfold Frame.verb
    split <;> decide
  simp [openingLine, verb, newline_not_mem_decimal]

theorem fields_text_append (f : Frame) (rest : List Char) :
    Text.fields '\n' (f.text.toList ++ rest) = f.lines ++ Text.fields '\n' rest := by
  have whole := f.newline_not_mem_openingLine
  cases body : f.body with
  | none =>
    have opened : f.text.toList ++ rest = f.openingLine ++ '\n' :: ([] ++ '\n' :: rest) := by
      simp [text, openingLine, body]
    rw [opened, Text.fields_append whole, Text.fields_append List.not_mem_nil, lines, body]
    rfl
  | some text =>
    have opened : f.text.toList ++ rest =
        f.openingLine ++ '\n' :: ([] ++ '\n' :: (text.toList ++ '\n' :: ([] ++ '\n' :: rest))) := by
      simp [Frame.text, openingLine, body]
    rw [opened, Text.fields_append whole, Text.fields_append List.not_mem_nil,
      Text.fields_append_sep, Text.fields_append List.not_mem_nil, lines, body]
    simp

end Frame

/-- The lines of some entries, frame after frame. -/
theorem fields_framesText_append (es : List Entry) (rest : List Char) :
    Text.fields '\n' ((framesText es).toList ++ rest) =
      (es.map Frame.ofEntry).flatMap Frame.lines ++ Text.fields '\n' rest := by
  induction es with
  | nil => rfl
  | cons e es ih =>
    have split : framesText (e :: es) = (Frame.ofEntry e).text ++ framesText es := by
      simp [framesText]
    rw [split, String.toList_append, List.append_assoc, Frame.fields_text_append, ih]
    simp

/-- The line that opens a stream. -/
def startLine (source : Source) (first last : Int) : List Char :=
  ("%START Version: 3 " ++ source.name ++ " " ++ Text.decimal first ++ "-" ++
    Text.decimal last).toList

theorem newline_not_mem_startLine {source : Source} (oneLine : '\n' ∉ source.name.toList)
    (first last : Int) : '\n' ∉ startLine source first last := by
  simp only [startLine, String.toList_append, List.mem_append, not_or]
  exact ⟨⟨⟨⟨⟨by decide, oneLine⟩, by decide⟩, Frame.newline_not_mem_decimal _⟩, by decide⟩,
    Frame.newline_not_mem_decimal _⟩

theorem startText_toList (source : Source) (first last : Int) :
    (startText source first last).toList = startLine source first last ++ ['\n', '\n'] := by
  have ending : "\n\n".toList = ['\n', '\n'] := rfl
  unfold startText startLine
  generalize "%START Version: 3 " ++ source.name ++ " " ++ Text.decimal first ++ "-" ++
    Text.decimal last = line
  rw [String.toList_append, ending]

theorem fields_startText_append {source : Source} (oneLine : '\n' ∉ source.name.toList)
    (first last : Int) (rest : List Char) :
    Text.fields '\n' ((startText source first last).toList ++ rest) =
      startLine source first last :: [] :: Text.fields '\n' rest := by
  have opened : (startText source first last).toList ++ rest =
      startLine source first last ++ '\n' :: ([] ++ '\n' :: rest) := by
    rw [startText_toList, List.append_assoc]
    rfl
  rw [opened, Text.fields_append (newline_not_mem_startLine oneLine first last),
    Text.fields_append List.not_mem_nil]

theorem fields_endText {source : Source} (oneLine : '\n' ∉ source.name.toList) :
    Text.fields '\n' (endText source).toList = [("%END " ++ source.name).toList, []] := by
  have whole : '\n' ∉ ("%END " ++ source.name).toList := by
    rw [String.toList_append, List.mem_append, not_or]
    exact ⟨by decide, oneLine⟩
  have closed : (endText source).toList = ("%END " ++ source.name).toList ++ ['\n'] := by
    have ending : "\n".toList = ['\n'] := rfl
    rw [endText, String.toList_append, ending]
  rw [closed, Text.fields_append whole]
  rfl

end RegistryFeed
