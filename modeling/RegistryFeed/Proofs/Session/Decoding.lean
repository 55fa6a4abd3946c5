import RegistryFeed.Proofs.Session.Lines

/-!
# Streams are decoded

A client that cuts a complete stream into lines finds all its frames again, whether or not
they have a text: behind the line that opens a frame stands either the next such line or
the end line, or the text of the object, which is told from both by its first line and ends
at the first empty line. So the texts of objects must not begin like a frame or the end and
must have no empty line; nothing else is asked of them.
-/

namespace RegistryFeed

namespace Frame

/-- The line could open a frame: it has a verb and a number. -/
def Opens (line : List Char) : Prop :=
  ∃ digits, Text.isNumeral digits = true ∧
    (line = ['A', 'D', 'D', ' '] ++ digits ∨ line = ['D', 'E', 'L', ' '] ++ digits)

/-- A verb in capital letters and a number are read as they are. -/
theorem opening?_append {verb digits : List Char} (oneWord : ' ' ∉ verb)
    (numeral : Text.isNumeral digits = true) :
    opening? (verb ++ ' ' :: digits) =
      if verb = ['A', 'D', 'D'] then some (false, (Text.ofDigits 0 digits : Int))
      else if verb = ['D', 'E', 'L'] then some (true, (Text.ofDigits 0 digits : Int))
      else none := by
  have cut : Text.cut? ' ' (verb ++ ' ' :: digits) = some (verb, digits) :=
    Text.cut?_eq_some_iff.mpr ⟨rfl, oneWord⟩
  simp only [opening?, cut, numeral, Bool.not_true, Bool.false_eq_true, if_false]

theorem opens_of_opening? {line : List Char} (found : (opening? line).isSome) : Opens line := by
  unfold opening? at found
  split at found
  · next verb serial cut =>
    obtain ⟨rfl, -⟩ := Text.cut?_eq_some_iff.mp cut
    split at found
    · cases found
    · next numeral =>
      have digits : Text.isNumeral serial = true := by simpa using numeral
      split at found
      · next adds =>
        subst adds
        exact ⟨serial, digits, .inl rfl⟩
      · split at found
        · next deletes =>
          subst deletes
          exact ⟨serial, digits, .inr rfl⟩
        · cases found
  · cases found

theorem opening?_openingLine {f : Frame} (positive : 0 ≤ f.serial) :
    opening? f.openingLine = some (f.deletes, f.serial) := by
  obtain ⟨n, serial⟩ := Int.eq_ofNat_of_zero_le positive
  have line : f.openingLine = f.verb.toList ++ ' ' :: Text.digits n := by
    have written : Text.decimal f.serial = String.ofList (Text.digits n) := by rw [serial]; rfl
    simp [openingLine, written]
  have value : (Text.ofDigits 0 (Text.digits n) : Int) = f.serial := by
    rw [Text.ofDigits_digits, serial]
  have oneWord : ' ' ∉ f.verb.toList := by
    unfold Frame.verb
    split <;> decide
  rw [line, opening?_append oneWord (Text.isNumeral_digits n), value]
  unfold Frame.verb
  cases f.deletes <;> simp

theorem opens_iff (line : List Char) : Opens line ↔ (opening? line).isSome = true := by
  refine ⟨?_, opens_of_opening?⟩
  rintro ⟨digits, numeral, rfl | rfl⟩
  · have found := opening?_append (show ' ' ∉ ['A', 'D', 'D'] by decide) numeral
    simpa using congrArg Option.isSome found
  · have found := opening?_append (show ' ' ∉ ['D', 'E', 'L'] by decide) numeral
    simpa using congrArg Option.isSome found

instance (line : List Char) : Decidable (Opens line) := decidable_of_iff _ (opens_iff line).symm

/-- A frame that a client can find: a serial that can be read, and a text, if there is one, that has
no empty line and does not begin like a frame or the end of the stream. -/
structure Plain (f : Frame) : Prop where
  positive : 0 ≤ f.serial
  whole : ∀ body, f.body = some body → [] ∉ Text.fields '\n' body.toList
  apart : ∀ body line, f.body = some body → (Text.fields '\n' body.toList).head? = some line →
    ¬ Opens line ∧ ¬ ['%', 'E', 'N', 'D', ' '] <+: line

instance (f : Frame) : Decidable f.Plain :=
  decidable_of_iff (0 ≤ f.serial ∧ ∀ body ∈ f.body, [] ∉ Text.fields '\n' body.toList ∧
      ∀ line ∈ (Text.fields '\n' body.toList).head?,
        ¬ Opens line ∧ ¬ ['%', 'E', 'N', 'D', ' '] <+: line)
    ⟨fun ⟨positive, h⟩ => ⟨positive, fun body hb => (h body hb).1,
        fun body line hb hl => (h body hb).2 line hl⟩,
      fun ⟨positive, whole, apart⟩ => ⟨positive, fun body hb =>
        ⟨whole body hb, fun line hl => apart body line hb hl⟩⟩⟩

theorem isEndLine_openingLine (f : Frame) : isEndLine f.openingLine = false := by
  have verb : f.openingLine = f.verb.toList ++ ' ' :: (Text.decimal f.serial).toList := by
    simp [openingLine]
  rw [verb]
  unfold Frame.verb
  cases f.deletes <;> rfl

/-- Only the text of an object can have a line in a frame that looks like the end of a stream. -/
theorem isEndLine_of_mem_lines {f : Frame} {l : List Char} (mem : l ∈ f.lines)
    (ends : isEndLine l = true) :
    ∃ body, f.body = some body ∧ l ∈ Text.fields '\n' body.toList := by
  have plain : l ≠ f.openingLine ∧ l ≠ [] := by
    refine ⟨?_, ?_⟩
    · rintro rfl
      rw [f.isEndLine_openingLine] at ends
      cases ends
    · rintro rfl
      cases ends
  cases text : f.body with
  | none =>
    rw [lines, text] at mem
    simp [plain] at mem
  | some body =>
    rw [lines, text] at mem
    exact ⟨body, rfl, by simpa [plain] using mem⟩

/-! ## One frame -/

section

variable {line : List Char} {deletes : Bool} {serial : Int}

theorem ofLines_end (ends : isEndLine line = true) (rest : List (List Char)) :
    ofLines (line :: rest) = some [] := by
  unfold ofLines
  rw [if_pos ends]

/-- A frame without a text has the next frame, or the end, right behind it. -/
theorem ofLines_bare (goesOn : isEndLine line = false)
    (opens : opening? line = some (deletes, serial)) {next : List Char} {more : List (List Char)}
    (begins : (isEndLine next || (opening? next).isSome) = true) :
    ofLines (line :: [] :: next :: more) =
      (ofLines (next :: more)).map (⟨deletes, serial, none⟩ :: ·) := by
  rw [ofLines.eq_def]
  simp only [goesOn, opens, begins, Bool.false_eq_true, if_false, if_true]

/-- A text goes up to the first empty line. -/
theorem ofLines_text (goesOn : isEndLine line = false)
    (opens : opening? line = some (deletes, serial)) {first : List Char}
    {others : List (List Char)} (whole : [] ∉ first :: others)
    (apart : (isEndLine first || (opening? first).isSome) = false) (more : List (List Char)) :
    ofLines (line :: [] :: (first :: others ++ [] :: more)) =
      (ofLines more).map (⟨deletes, serial, some (joinLines (first :: others))⟩ :: ·) := by
  have full : ∀ l ∈ first :: others, (!l.isEmpty) = true := by
    intro l hl
    cases l with
    | nil => exact absurd hl whole
    | cons c l => rfl
  have text : (first :: others ++ [] :: more).takeWhile (!·.isEmpty) = first :: others := by
    rw [List.takeWhile_append_of_pos full]
    simp
  have behind : ((first :: others ++ [] :: more).dropWhile (!·.isEmpty)).tail = more := by
    rw [List.dropWhile_append_of_pos full]
    simp
  rw [List.cons_append] at text behind ⊢
  rw [ofLines.eq_def]
  simp only [goesOn, opens, apart, text, behind, Bool.false_eq_true, if_false]

end

/-! ## A whole stream -/

/-- What stands behind a frame begins the next one, or is the end line. -/
theorem begins_next {fs : List Frame} (plain : ∀ f ∈ fs, f.Plain) {line : List Char}
    (ends : isEndLine line = true) (rest : List (List Char)) :
    ∃ next more, fs.flatMap lines ++ line :: rest = next :: more ∧
      (isEndLine next || (opening? next).isSome) = true := by
  cases fs with
  | nil => exact ⟨line, rest, rfl, by simp [ends]⟩
  | cons f fs =>
    refine ⟨f.openingLine, _, rfl, ?_⟩
    rw [opening?_openingLine (plain f List.mem_cons_self).positive]
    simp

theorem joinLines_fields (body : String) :
    joinLines (Text.fields '\n' body.toList) = body := by
  rw [joinLines, Text.intercalate_fields, String.ofList_toList]

/-- The frames are found again in their lines. -/
theorem ofLines_lines {fs : List Frame} (plain : ∀ f ∈ fs, f.Plain) {line : List Char}
    (ends : isEndLine line = true) (rest : List (List Char)) :
    ofLines (fs.flatMap lines ++ line :: rest) = some fs := by
  induction fs with
  | nil => exact ofLines_end ends rest
  | cons f fs ih =>
    have others : ∀ g ∈ fs, g.Plain := fun g hg => plain g (List.mem_cons_of_mem f hg)
    obtain ⟨positive, whole, apart⟩ := plain f List.mem_cons_self
    have goesOn := f.isEndLine_openingLine
    have opens := opening?_openingLine positive
    rw [List.flatMap_cons, List.append_assoc]
    obtain ⟨deletes, serial, body⟩ := f
    cases body with
    | none =>
      obtain ⟨next, more, follows, begins⟩ := begins_next others ends rest
      have later := ih others
      rw [follows] at later ⊢
      exact (ofLines_bare goesOn opens begins).trans (by rw [later]; rfl)
    | some body =>
      obtain ⟨first, more, cut⟩ :=
        List.exists_cons_of_ne_nil (Text.fields_ne_nil '\n' body.toList)
      obtain ⟨silent, unended⟩ := apart body first rfl (by rw [cut]; rfl)
      have distinct : (isEndLine first || (opening? first).isSome) = false := by
        rw [Bool.or_eq_false_iff]
        refine ⟨?_, ?_⟩
        · exact Bool.eq_false_iff.mpr fun end' => unended (List.isPrefixOf_iff_prefix.mp end')
        · exact Bool.eq_false_iff.mpr fun opened => silent (opens_of_opening? opened)
      have whole' := whole body rfl
      rw [cut] at whole'
      have decoded := ofLines_text goesOn opens whole' distinct
        (fs.flatMap lines ++ line :: rest)
      rw [ih others, ← cut, joinLines_fields] at decoded
      rw [lines]
      simpa using decoded

end Frame

/-! ## The line that ends a stream -/

theorem isEndLine_startLine (source : Source) (first last : Int) :
    Frame.isEndLine (startLine source first last) = false := by
  rw [startLine, String.toList_append, String.toList_append, String.toList_append,
    String.toList_append, String.toList_append]
  rfl

/-- Before the end of a stream, only the texts of its objects have lines that look like it. -/
theorem isEndLine_of_mem_frames {source : Source} {first last : Int} {frames : List Entry}
    (oneLine : '\n' ∉ source.name.toList) {l : List Char}
    (mem : l ∈ Text.fields '\n' (startText source first last ++ framesText frames).toList)
    (ends : Frame.isEndLine l = true) :
    ∃ e ∈ frames, ∃ body, (Frame.ofEntry e).body = some body ∧
      l ∈ Text.fields '\n' body.toList := by
  have lines := fields_framesText_append frames []
  rw [List.append_nil] at lines
  rw [String.toList_append, fields_startText_append oneLine, lines] at mem
  have present : l ≠ [] := by
    rintro rfl
    cases ends
  have other : l ≠ startLine source first last := by
    rintro rfl
    rw [isEndLine_startLine] at ends
    cases ends
  have framed : l ∈ (frames.map Frame.ofEntry).flatMap Frame.lines := by
    have none : Text.fields '\n' [] = [[]] := rfl
    rw [none] at mem
    simpa [present, other] using mem
  obtain ⟨f, hf, inFrame⟩ := List.mem_flatMap.mp framed
  obtain ⟨e, he, rfl⟩ := List.mem_map.mp hf
  exact ⟨e, he, Frame.isEndLine_of_mem_lines inFrame ends⟩

/-! ## Decoding -/

/-- The stream of the entries can be decoded: their serials are not negative, and no text of theirs,
without the line ends behind it, has an empty line or begins like a frame or the end line. -/
def Readable (es : List Entry) : Prop := ∀ e ∈ es, (Frame.ofEntry e).Plain

instance (es : List Entry) : Decidable (Readable es) :=
  inferInstanceAs (Decidable (∀ e ∈ es, (Frame.ofEntry e).Plain))

/-- A complete stream is decoded to the kinds, the serials and the texts of its entries. -/
theorem ofStream?_stream {source : Source} (oneLine : '\n' ∉ source.name.toList) {es : List Entry}
    (readable : Readable es) (first last : Int) :
    Frame.ofStream? (startText source first last ++ framesText es ++ endText source) =
      some (es.map Frame.ofEntry) := by
  have plain : ∀ f ∈ es.map Frame.ofEntry, f.Plain := by
    intro f hf
    obtain ⟨e, he, rfl⟩ := List.mem_map.mp hf
    exact readable e he
  have lines : Text.fields '\n'
      (startText source first last ++ framesText es ++ endText source).toList =
        startLine source first last :: [] ::
          ((es.map Frame.ofEntry).flatMap Frame.lines ++
            [("%END " ++ source.name).toList, []]) := by
    rw [String.toList_append, String.toList_append, List.append_assoc,
      fields_startText_append oneLine, fields_framesText_append, fields_endText oneLine]
  have ends : Frame.isEndLine ("%END " ++ source.name).toList = true := by
    rw [String.toList_append]
    rfl
  rw [Frame.ofStream?, lines]
  exact Frame.ofLines_lines plain ends [[]]

/-- A request for changes that was served to its end was served the entries of its range. -/
theorem ofStream?_changesText {source : Source} (oneLine : '\n' ∉ source.name.toList)
    {first : Int} {final : Request.RangeEnd} {es : List Entry} {r : SerialRange} {text : String}
    (range : serialRange es = some r)
    (served : changesText source first final false es = .ok text) (readable : Readable es) :
    Frame.ofStream? text =
      some ((entriesBetween first (final.resolve r.last) es).map Frame.ofEntry) := by
  simp only [changesText, range] at served
  split at served
  · cases served
  · rw [← Except.ok.inj served]
    exact ofStream?_stream oneLine (fun e he => readable e (List.mem_filter.mp he).1) _ _

/-- The stream of some entries can be decoded to what their frames tell, so two lists that differ in
a kind, a serial or a text have different streams. -/
theorem stream_decodes {source : Source} {first last : Int} {es : List Entry}
    (oneLine : '\n' ∉ source.name.toList) (readable : Readable es) :
    Frame.ofStream? (startText source first last ++ framesText es ++ endText source) =
        some (es.map Frame.ofEntry) ∧
      ∀ (other : Source) (a b : Int) (es' : List Entry), '\n' ∉ other.name.toList →
        Readable es' →
        startText source first last ++ framesText es ++ endText source =
          startText other a b ++ framesText es' ++ endText other →
        es.map Frame.ofEntry = es'.map Frame.ofEntry := by
  have decoded := ofStream?_stream oneLine readable first last
  refine ⟨decoded, ?_⟩
  intro other a b es' oneLine' readable' same
  have again := ofStream?_stream oneLine' readable' a b
  rw [← same, decoded] at again
  exact Option.some.inj again

/-- The frames of two objects without a text are found before, between and behind two others, of
which one begins almost like a frame. -/
theorem stream_decodes_mixed :
    let es := [⟨1, .update, "a", "A", none, 0⟩, ⟨2, .add, "a", "B", some "a: B\nc: d\n\n", 0⟩,
      ⟨4, .delete, "a", "C", none, 0⟩, ⟨5, .add, "a", "D", some "ADD 6x", 0⟩,
      ⟨7, .delete, "a", "B", none, 0⟩]
    '\n' ∉ (Source.mk "TEST").name.toList ∧ Readable es ∧
      Frame.ofStream? (startText ⟨"TEST"⟩ 1 7 ++ framesText es ++ endText ⟨"TEST"⟩) =
        some [⟨false, 1, none⟩, ⟨false, 2, some "a: B\nc: d"⟩, ⟨true, 4, none⟩,
          ⟨false, 5, some "ADD 6x"⟩, ⟨true, 7, none⟩] := by
  intro es
  have oneLine : '\n' ∉ (Source.mk "TEST").name.toList := by decide
  have readable : Readable es := by decide +kernel
  refine ⟨oneLine, readable, ?_⟩
  have decoded : Frame.ofStream? (startText ⟨"TEST"⟩ 1 7 ++ framesText es ++ endText ⟨"TEST"⟩) =
      some (es.map Frame.ofEntry) := (stream_decodes oneLine readable).1
  rw [decoded]
  decide +kernel

end RegistryFeed
