import RegistryFeed.Proofs.Session.Stages

/-!
# Dialogues on a still log

While nobody writes to a log it is the same at every time, and what a client reads is
settled by the log and the lines alone: it is their transcript. Only how many of the
later entries come before the client closes is left open.
-/

namespace RegistryFeed

/-- What was read is the transcript, with some of the later entries behind it. -/
def Transcript.Read (t : Transcript) (text : String) (e : SessionEnd) : Prop :=
  e = t.ends ∧ ∃ frames, frames <+: t.later ∧ text = t.text ++ framesText frames

theorem Transcript.read_text (t : Transcript) : t.Read t.text t.ends :=
  ⟨rfl, [], List.nil_prefix, (String.append_empty).symm⟩

namespace Dialogue

variable {ctx : SourceContext} {v : LogView} {line text : String}

/-! ## The answer to one line -/

theorem Part.eq {source : Source} {option : Request.InfoOption}
    (h : Part (· = v) source option text) : text = partText v option source := by
  cases h with
  | sources state =>
    rw [state]
    rfl
  | version serials latest =>
    rw [serials, latest]
    rfl

theorem Parts.eq {sources : List Source} {option : Request.InfoOption}
    (h : Parts (· = v) option sources text) :
    text = String.join (sources.map (partText v option)) := by
  induction h with
  | nil => rfl
  | cons part others ih => rw [List.map_cons, String.join_cons, ← part.eq, ← ih]

theorem Declined.answer_eq {f : Request.Fault} (h : Declined ctx (· = v) line f) :
    answer ctx v line = .error f := by
  cases h with
  | rejected parsed => simp only [answer, parsed]
  | refused parsed state outside =>
    rw [state] at outside
    simp only [answer, parsed, outside, Except.map]

theorem Completed.answer_eq (h : Completed ctx (· = v) line text) :
    answer ctx v line = .ok ⟨text, [], .completed⟩ := by
  cases h with
  | info parsed parts => simp only [answer, parsed, infoText, parts.eq]
  | changes parsed state served =>
    rw [state] at served
    simp only [answer, parsed, served, Except.map, Bool.false_eq_true, if_false]

theorem Followed.answer_eq (h : Followed ctx (· = v) v line text) :
    ∃ t, answer ctx v line = .ok t ∧ t.Read text .clientClosed := by
  cases h with
  | @changes source first final _ r served frames parsed state range begun later =>
    rw [state] at range begun
    refine ⟨⟨served, entriesBeyond final (v.entries source), .clientClosed⟩, ?_, rfl, frames, ?_,
      rfl⟩
    · simp only [answer, parsed, begun, Except.map, if_true]
    · rwa [entriesBeyond, range]

/-! ## The answers to all lines -/

theorem Answered.read {lines : List String} {e : SessionEnd}
    (h : Answered ctx (· = v) v lines text e) : (transcript ctx v lines).Read text e := by
  induction h with
  | closed => exact Transcript.read_text ⟨"", [], .clientClosed⟩
  | declined first later ih =>
    obtain ⟨ends, frames, part, rfl⟩ := ih
    rw [transcript, first.answer_eq]
    exact ⟨ends, frames, part, String.append_assoc.symm⟩
  | completed last =>
    rw [transcript, last.answer_eq]
    exact Transcript.read_text ⟨_, [], .completed⟩
  | followed last =>
    obtain ⟨t, answered, read⟩ := last.answer_eq
    rw [transcript, answered]
    exact read

/-- What happens while nobody writes to the log. -/
def Event.Still : Event → Prop
  | .append _ _ | .publish _ _ => False
  | _ => True

theorem log_of_act (s : LiveSession) (now : Span) (e : Session.Event) :
    (s.step (.act now e)).log = s.log := by
  rcases s.step_act_cases now e with same | other
  · rw [same]
  · rw [LiveSession.step_act s now other]

theorem log_of_still {e : Event} (still : e.Still) (d : Dialogue) :
    (d.step e).live.log = d.live.log := by
  cases e with
  | take now =>
    rw [step]
    split
    · split
      · exact log_of_act _ _ _
      · rfl
    · rfl
  | look now => exact log_of_act _ _ _
  | wake now =>
    rw [step]
    split
    · exact log_of_act _ _ _
    · rfl
  | read => exact (d.live.ask_same _).2
  | deliver now =>
    simp only [step, LiveSession.step]
    split <;> rfl
  | append source entry => exact still.elim
  | publish source version => exact still.elim

theorem logAfter_of_still (d : Dialogue) {es : List Event} (still : ∀ e ∈ es, e.Still) :
    d.logAfter es = d.live.log := by
  induction es generalizing d with
  | nil => rfl
  | cons e es ih =>
    obtain ⟨first, later⟩ := List.forall_mem_cons.mp still
    exact (ih (d.step e) later).trans (log_of_still first d)

/-- A client of a still log reads the transcript of its lines. -/
theorem transcript_of_still {settings : SessionSettings} {log : LogView} {bytes : List UInt8}
    {lines : List String} (ctx : SourceContext) (size : 1 ≤ settings.batch)
    (ordered : ∀ source, Ordered (log.entries source)) (said : Inbox.Says bytes lines)
    (now : Span) :
    let d := create ctx settings log bytes now
    ∀ es, (∀ e ∈ es, e.Still) → ∀ result, (d.run es).live.session.result? = some result →
      ∃ e, result = .ok e ∧
        (transcript ctx log lines).Read (d.run es).live.session.outbox.sent e := by
  intro d es still result ended
  have logs (front back : List Event) (split : es = front ++ back) : d.logAfter front = log :=
    logAfter_of_still d fun e he => still e (split ▸ List.mem_append_left back he)
  have goes : Going ctx (· = log) lines (d.run es) := by
    refine (going_create size ordered said now).run ?_
    rintro v ⟨front, back, split, rfl⟩
    exact logs front back split
  have same : (d.run es).live.log = log := logs es [] (List.append_nil es).symm
  obtain ⟨e, ok, answered⟩ := goes.answered ended
  rw [same] at answered
  exact ⟨e, ok, answered.read⟩

end Dialogue

end RegistryFeed
