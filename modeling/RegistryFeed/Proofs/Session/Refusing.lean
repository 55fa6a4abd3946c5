import RegistryFeed.Proofs.Request.Rejection
import RegistryFeed.Proofs.Session.Range

/-!
# Rejections in one line

The reason of a rejection repeats what the client has said: a word, or a field of one.
Words have no blanks, whatever the line is, so a reason has no blank but the spaces of
its own wording and cannot be broken into lines. Of a fault that no line is rejected
for nothing is said.
-/

namespace RegistryFeed

namespace Text

/-- No blank but the space, so no end of a line either. -/
def Spaced (text : List Char) : Prop := ∀ c ∈ text, isBlank c → c = ' '

instance (text : List Char) : Decidable (Spaced text) :=
  List.decidableBAll (fun c => isBlank c → c = ' ') text

theorem Spaced.append {a b : List Char} (first : Spaced a) (later : Spaced b) :
    Spaced (a ++ b) := by
  intro c hc
  rcases List.mem_append.mp hc with left | right
  · exact first c left
  · exact later c right

/-- What is repeated behind a wording that is ours. -/
theorem spaced_echo {echoed : String} (wording : String) (own : Spaced wording.toList)
    (spaced : Spaced echoed.toList) : Spaced (wording ++ echoed).toList := by
  rw [String.toList_append]
  exact own.append spaced

theorem Spaced.not_mem {text : List Char} (h : Spaced text) : '\n' ∉ text := by
  intro mem
  exact absurd (h '\n' mem (by decide)) (by decide)

theorem spaced_of_visible {text : List Char} (visible : ∀ c ∈ text, isBlank c = false) :
    Spaced text := by
  intro c hc blank
  rw [visible c hc] at blank
  cases blank

theorem spaced_decimal (n : Int) : Spaced (decimal n).toList := by
  apply spaced_of_visible
  intro c hc
  rcases mem_decimal hc with digit | rfl
  · have range : 48 ≤ c.toNat ∧ c.toNat ≤ 57 := by
      simpa [isAsciiDigit, Char.le_def, UInt32.le_iff_toNat_le] using digit
    simp only [isBlank]
    grind
  · decide

/-- All characters of a field are characters of the text. -/
theorem mem_of_mem_fields {sep c : Char} {cs f : List Char} (hf : f ∈ fields sep cs)
    (hc : c ∈ f) : c ∈ cs := by
  induction cs generalizing f with
  | nil => simp_all [fields]
  | cons d rest ih =>
    simp only [fields] at hf
    split at hf
    · rcases List.mem_cons.mp hf with rfl | later
      · cases hc
      · exact List.mem_cons_of_mem d (ih later hc)
    · split at hf
      · next none => exact absurd none (fields_ne_nil sep rest)
      · next g gs some =>
        rw [some] at ih
        rcases List.mem_cons.mp hf with rfl | later
        · rcases List.mem_cons.mp hc with rfl | inside
          · exact List.mem_cons_self
          · exact List.mem_cons_of_mem d (ih List.mem_cons_self inside)
        · exact List.mem_cons_of_mem d (ih (List.mem_cons_of_mem g later) hc)

theorem spaced_of_mem_fields {sep : Char} {cs f : List Char} (hf : f ∈ fields sep cs)
    (spaced : Spaced cs) : Spaced f :=
  fun c hc => spaced c (mem_of_mem_fields hf hc)

end Text

namespace Request

theorem spaced_of_mem_tokens {line word : String} (h : word ∈ tokens line) :
    Text.Spaced word.toList := by
  obtain ⟨w, hw, rfl⟩ := List.mem_map.mp h
  rw [String.toList_ofList]
  exact Text.spaced_of_visible (Text.word_of_mem_words hw).2

/-! ## What is repeated -/

/-- A value that is set is one of the words. -/
theorem Given.value_mem {words : List String} {info changes : Option String} {keepalive : Bool}
    (given : Given words info changes keepalive) {value : String}
    (set : info = some value ∨ changes = some value) : value ∈ words := by
  induction given with
  | nil => simp at set
  | @info front changes keepalive own before plain ih =>
    rcases set with same | earlier
    · obtain rfl := Option.some.inj same
      simp
    · exact List.mem_append_left _ (ih (.inr earlier))
  | @changes front info keepalive own before plain ih =>
    rcases set with earlier | same
    · exact List.mem_append_left _ (ih (.inl earlier))
    · obtain rfl := Option.some.inj same
      simp
  | keepalive before ih => exact List.mem_append_left _ (ih set)

theorem WordFault.spaced {words : List String} {cause : OptionFault}
    (wrong : WordFault words cause) (spaced : ∀ word ∈ words, Text.Spaced word.toList) :
    Text.Spaced cause.detail.toList := by
  cases wrong with
  | @needsValue _ _ _ _ _ flag => cases flag <;> decide +kernel
  | @repeated _ _ _ _ _ flag => cases flag <;> decide +kernel
  | keptTwice => decide +kernel
  | @unknown _ _ _ _ _ word =>
    exact Text.spaced_echo "unknown option " (by decide +kernel) (spaced word (by simp))
  | @stray _ _ _ _ _ word =>
    exact Text.spaced_echo "unexpected argument " (by decide +kernel) (spaced word (by simp))

theorem SelectionFault.spaced {ctx : SourceContext} {fields : List (List Char)} {f : Fault}
    {code : Nat} (wrong : SelectionFault ctx fields f code)
    (spaced : ∀ field ∈ fields, Text.Spaced field) : Text.Spaced f.reason.toList := by
  have field {name : List Char} (mem : name ∈ fields) :
      Text.Spaced (String.ofList name).toList := by
    rw [String.toList_ofList]
    exact spaced name mem
  cases wrong with
  | source =>
    exact Text.spaced_echo "not authorised to mirror " (by decide +kernel) (field (by simp))
  | version =>
    exact Text.spaced_echo "unsupported protocol version: " (by decide +kernel) (field (by simp))
  | noVersion | fieldCount | range =>
    show Text.Spaced "syntax error".toList
    decide +kernel

theorem Rejects.spaced {ctx : SourceContext} {words : List String} {f : Fault} {code : Nat}
    (rejects : Rejects ctx words f code) (spaced : ∀ word ∈ words, Text.Spaced word.toList) :
    Text.Spaced f.reason.toList := by
  cases rejects with
  | empty | ambiguous | keepalive => decide +kernel
  | option flags wrong => exact wrong.spaced spaced
  | @info _ value _ _ flags given unknown =>
    exact Text.spaced_echo "invalid -q option: " (by decide +kernel)
      (spaced value (given.value_mem (.inl rfl)))
  | @selection _ value _ _ fields _ _ flags given cut wrong =>
    apply wrong.spaced
    intro field hf
    rw [← fields_iff.mp cut] at hf
    exact Text.spaced_of_mem_fields hf (spaced value (given.value_mem (.inr rfl)))

theorem spaced_of_parse {ctx : SourceContext} {line : String} {f : Fault}
    (rejected : parse ctx line = .error f) : Text.Spaced f.reason.toList :=
  (parse_eq_error_iff.mp rejected).spaced fun _ => spaced_of_mem_tokens

theorem Fault.spaced_outOfRange (first last : Int) :
    Text.Spaced (Fault.outOfRange first last).reason.toList := by
  have reason : (Fault.outOfRange first last).reason =
      "invalid range: Not within " ++ Text.decimal first ++ "-" ++ Text.decimal last := rfl
  have hyphen : Text.Spaced "-".toList := by decide +kernel
  rw [reason, String.toList_append, String.toList_append]
  have opening := Text.spaced_echo "invalid range: Not within " (by decide +kernel)
    (Text.spaced_decimal first)
  exact (opening.append hyphen).append (Text.spaced_decimal last)

/-! ## The answer -/

/-- One line with a code and a reason, behind it one empty line, and nothing else. -/
structure OneLine (f : Fault) (answer : String) : Prop where
  text : answer = "ERROR:" ++ Text.decimalNat f.code.number ++ " " ++ f.reason ++ "\n\n"
  code : f.code.number ∈ [400, 401, 403, 405, 406]
  reason : Text.Spaced f.reason.toList
  lines : Text.fields '\n' answer.toList = [f.line.toList, [], []]

theorem Code.number_mem (c : Code) : c.number ∈ [400, 401, 403, 405, 406] := by
  cases c <;> decide

theorem Code.spaced_text (c : Code) : Text.Spaced c.text.toList := by
  cases c <;> decide +kernel

theorem Fault.spaced_line {f : Fault} (spaced : Text.Spaced f.reason.toList) :
    Text.Spaced f.line.toList := by
  have space : Text.Spaced " ".toList := by decide +kernel
  have opening := Text.spaced_echo "ERROR:" (by decide +kernel) f.code.spaced_text
  rw [Fault.line, String.toList_append, String.toList_append]
  exact (opening.append space).append spaced

theorem Fault.oneLine {f : Fault} (spaced : Text.Spaced f.reason.toList) :
    OneLine f (rejectionText f) where
  text := rfl
  code := f.code.number_mem
  reason := spaced
  lines := by
    have whole : (rejectionText f).toList = f.line.toList ++ ['\n', '\n'] := by
      rw [rejectionText, String.toList_append]
      rfl
    rw [whole, Text.fields_append (Fault.spaced_line spaced).not_mem]
    rfl

end Request

namespace Session

/-- A session that waits for a line, or for the range of a source, turns the request down. -/
inductive TurnsDown (s : Session) : Event → Request.Fault → Prop
  | line {deadline : Span} {text : String} {f : Request.Fault}
      (phase : s.phase = .reading deadline)
      (rejected : Request.parse s.context text = .error f) : TurnsDown s (.line text) f
  | range {source : Source} {first : Int} {final : Request.RangeEnd} {keepalive : Bool}
      {available : Option SerialRange} {f : Request.Fault}
      (phase : s.phase = .checking source first final keepalive)
      (rejected : checkRange first final available = .error f) :
      TurnsDown s (.reply (.range (.ok available))) f

theorem spaced_of_checkRange {first : Int} {final : Request.RangeEnd}
    {available : Option SerialRange} {f : Request.Fault}
    (rejected : checkRange first final available = .error f) : Text.Spaced f.reason.toList := by
  cases available with
  | none =>
    obtain rfl := Except.error.inj rejected
    exact Request.Fault.spaced_outOfRange 0 0
  | some r =>
    simp only [checkRange] at rejected
    split at rejected
    · cases rejected
    · obtain rfl := Except.error.inj rejected
      exact Request.Fault.spaced_outOfRange r.first r.last

theorem TurnsDown.spaced {s : Session} {e : Event} {f : Request.Fault} (down : s.TurnsDown e f) :
    Text.Spaced f.reason.toList := by
  cases down with
  | line _ rejected => exact Request.spaced_of_parse rejected
  | range _ rejected => exact spaced_of_checkRange rejected

/-- Whatever is told to the operator besides, the session answers the request that it turns down. -/
theorem TurnsDown.step {s : Session} {e : Event} {f : Request.Fault} (down : s.TurnsDown e f)
    (now : Span) : ∃ observed, s.step now e = (s.observe observed).reject now f := by
  cases down with
  | line phase rejected =>
    refine ⟨[.query "invalid" "error"], ?_⟩
    simp only [Session.step, phase, request, rejected]
  | range phase rejected =>
    refine ⟨[.query "mirror" "error"], ?_⟩
    simp only [Session.step, phase, serveRange, rejected]

/-- A request that is turned down, whatever its text, is answered by one line with one of the five
codes, and by an empty line. The reason has no blank but the space, so it does not break the line.
The session reads on when the answer is sent; a client that is gone is told nothing. -/
theorem rejection_is_one_line {s : Session} {e : Event} {f : Request.Fault}
    (down : s.TurnsDown e f) (now : Span) : ∃ answer, Request.OneLine f answer ∧
      (((∃ deadline, (s.step now e).phase = .reading deadline) ∧
          (s.step now e).outbox.sent = s.outbox.text ++ answer ∧
          (s.step now e).outbox.held = "") ∨
        s.outbox.broken = true ∧ (∃ fault, (s.step now e).phase = .ended (.error (.io fault))) ∧
          (s.step now e).outbox.text = s.outbox.text) := by
  refine ⟨rejectionText f, Request.Fault.oneLine down.spaced, ?_⟩
  obtain ⟨observed, step⟩ := down.step now
  rw [step, reject]
  rcases ((s.observe observed).observe [.protocolError f.code.number]).emit_cases now true
    [f.line ++ "\n\n"] (readOn now) with ⟨o, wrote, emitted⟩ | ⟨broken, fault, emitted⟩
  · rw [emitted]
    have text : o.text = s.outbox.text ++ rejectionText f := by
      rw [wrote.text, String.join_cons, String.join_nil, String.append_empty]
      rfl
    exact .inl ⟨⟨_, rfl⟩, (Outbox.sent_of_nothing (wrote.held rfl)).trans text, wrote.held rfl⟩
  · rw [emitted]
    exact .inr ⟨broken, ⟨fault, rfl⟩, text_of_finish _ now _⟩

/-- A separator of lines is a blank, so it ends a word: the text behind it is refused by itself. -/
theorem rejection_of_separators :
    let s := create ⟨⟨"TEST"⟩, none⟩ .default .quiet .zero
    let e := Event.line "-q SOURCES\u2028%END\u0085TEST"
    s.TurnsDown e (.options (.stray "%END")) ∧
      (s.step .zero e).outbox.sent = "ERROR:405 unexpected argument %END\n\n" ∧
      ∃ answer, Request.OneLine (.options (.stray "%END")) answer ∧
        (s.step .zero e).outbox.sent = answer := by
  intro s e
  have down : s.TurnsDown e (.options (.stray "%END")) := .line rfl (by decide +kernel)
  refine ⟨down, by decide +kernel, ?_⟩
  obtain ⟨answer, oneLine, ⟨-, sent, -⟩ | ⟨broken, -⟩⟩ := rejection_is_one_line down .zero
  · exact ⟨answer, oneLine, sent.trans (String.empty_append)⟩
  · exact absurd broken Bool.false_ne_true

end Session

end RegistryFeed
