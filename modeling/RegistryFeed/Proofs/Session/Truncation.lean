import RegistryFeed.Proofs.Session.Decoding
import RegistryFeed.Proofs.Session.Underway

/-!
# Answers that are cut off

A session whose log fails in the middle of an answer has written a beginning of it: the start of
the range with whole frames behind it, or nothing. It cannot have written the line that ends a
stream, though the text of an object may have a line that looks like one.
-/

namespace RegistryFeed

namespace LiveSession

open Dialogue

variable {ctx : SourceContext} {seen : LogView → Prop} {s : LiveSession} {line opening : String}

/-! ## The beginning of an answer -/

/-- What was written of the answer to a line when a reading failed: nothing before the first page,
and then the start of the range and the frames of its first entries, as the log has them. -/
inductive CutOff (ctx : SourceContext) (seen : LogView → Prop) (log : LogView) (line : String) :
    Reading → String → Prop
  | nothing {question : Reading} {q : Request.Query} (accepted : Request.parse ctx line = .ok q)
      (unpaged : ∀ source after max, question ≠ .page source after max) :
      CutOff ctx seen log line question ""
  | range {source : Source} {after first last : Int} {max : Nat} {v : LogView}
      {frames : List Entry} (granted : Granted ctx seen line source first last false v)
      (grown : v.entries source <+: log.entries source)
      (begins : frames <+: entriesBetween first last (v.entries source)) :
      CutOff ctx seen log line (.page source after max)
        (startText source first last ++ framesText frames)
  | stream {source : Source} {after first last : Int} {max : Nat} {v : LogView}
      {frames : List Entry} (granted : Granted ctx seen line source first last true v)
      (grown : v.entries source <+: log.entries source)
      (begins : frames <+: entriesAfter (log.entries source) (first - 1)) :
      CutOff ctx seen log line (.page source after max)
        (startText source first last ++ framesText frames)

/-- Wherever an answer has come to, what is written of it is its beginning. -/
theorem Underway.cutOff (h : Underway ctx seen line opening s) (sure : s.Sure ctx seen)
    {question : Reading} (asks : s.session.reading? = some question) :
    ∃ response, CutOff ctx seen s.log line question response ∧
      s.session.outbox.text = opening ++ response := by
  cases h with
  | informing accepted informs text =>
    refine ⟨"", .nothing accepted ?_, by simpa using text⟩
    rintro source after max rfl
    rcases informs with ⟨_, _, _, _, phase⟩ | ⟨_, _, _, phase⟩
    · simp [Session.reading?, phase] at asks
    · simp [Session.reading?, phase] at asks
  | checking accepted phase text =>
    refine ⟨"", .nothing accepted ?_, by simpa using text⟩
    rintro source after max rfl
    simp [Session.reading?, phase] at asks
  | @paging source first last cursor streamed keepalive v phase granted range within written
      fresh =>
    have sorted := sure.ordered source
    simp only [Session.reading?, phase, Option.some.injEq] at asks
    subst asks
    refine ⟨startText source first last ++
      framesText (window (s.log.entries source) (first - 1) cursor), ?_, ?_⟩
    · cases keepalive with
      | false =>
        refine .range granted range ⟨window (s.log.entries source) cursor last, ?_⟩
        rw [window_append sorted written.start (Int.le_of_lt within),
          granted.window_eq sorted range]
      | true =>
        exact .stream granted range ⟨_, window_append_entriesAfter sorted written.start⟩
    · rw [written.text, String.append_assoc]
  | @tailing first last sub deadline v phase granted range beyond written =>
    have sorted := sure.ordered sub.source
    obtain ⟨-, rfl⟩ := Session.call_of_asking phase asks
    refine ⟨startText sub.source first last ++
      framesText (window (s.log.entries sub.source) (first - 1) sub.cursor), ?_, ?_⟩
    · exact .stream granted range ⟨_, window_append_entriesAfter sorted written.start⟩
    · rw [written.text, String.append_assoc]

theorem framesText_of_prefix {frames all : List Entry} (h : frames <+: all) :
    ∃ rest, framesText frames ++ rest = framesText all := by
  obtain ⟨others, rfl⟩ := h
  exact ⟨framesText others, (Session.framesText_append frames others).symm⟩

/-- What comes behind the beginning of an answer makes it complete; an answer that is followed is so
by all that the log has. -/
theorem CutOff.goesOn {log : LogView} {question : Reading} {response : String}
    (h : CutOff ctx seen log line question response)
    (sorted : ∀ source, Ordered (log.entries source)) {source : Source} {after : Int} {max : Nat}
    (page : question = .page source after max) :
    ∃ rest, Completed ctx seen line (response ++ rest) ∨
      Followed ctx seen log line (response ++ rest) := by
  cases h with
  | nothing _ unpaged => exact absurd page (unpaged source after max)
  | @range source after' first last max' v frames granted grown begins =>
    obtain ⟨others, whole⟩ := framesText_of_prefix begins
    obtain ⟨state, final, accepted, served⟩ := granted
    refine ⟨others ++ endText source, .inl (.changes accepted state ?_)⟩
    rw [changesText_eq, served]
    simp [Except.map, ← whole, String.append_assoc]
  | @stream source after' first last max' v frames granted grown begins =>
    have joined := window_append_entriesAfter (sorted source)
      (show first - 1 ≤ last by have := granted.reaches.1; omega)
    rw [granted.window_eq (sorted source) grown] at joined
    obtain ⟨others, whole⟩ := framesText_of_prefix begins
    obtain ⟨state, final, accepted, served⟩ := granted
    obtain ⟨r, range, rfl⟩ := range_of_served served
    have followed : Followed ctx seen log line _ :=
      .changes accepted state range (by rw [changesText_eq, served]; rfl) List.prefix_rfl
    refine ⟨others, .inr ?_⟩
    rw [String.append_assoc, whole, ← joined, Session.framesText_append]
    simpa [String.append_assoc] using followed

/-- No line ends the stream, unless an object of the log has it in its text. -/
theorem CutOff.unended {log : LogView} {question : Reading} {response : String}
    (h : CutOff ctx seen log line question response) {l : List Char}
    (mem : l ∈ Text.fields '\n' response.toList) (ends : Frame.isEndLine l = true) :
    ∃ source, ∃ e ∈ log.entries source, ∃ body, (Frame.ofEntry e).body = some body ∧
      l ∈ Text.fields '\n' body.toList := by
  cases h with
  | nothing _ _ =>
    obtain rfl : l = [] := List.mem_singleton.mp mem
    cases ends
  | @range source after first last max v frames granted grown begins =>
    obtain ⟨-, final, accepted, -⟩ := granted
    obtain ⟨e, he, text⟩ := isEndLine_of_mem_frames (Request.parse_oneLine accepted) mem ends
    have inLog := (List.mem_filter.mp (begins.subset he)).1
    exact ⟨source, e, grown.subset inLog, text⟩
  | @stream source after first last max v frames granted grown begins =>
    obtain ⟨-, final, accepted, -⟩ := granted
    obtain ⟨e, he, text⟩ := isEndLine_of_mem_frames (Request.parse_oneLine accepted) mem ends
    exact ⟨source, e, (mem_entriesAfter.mp (begins.subset he)).1, text⟩

/-- A session that waits for its first line. -/
def opened (ctx : SourceContext) (settings : SessionSettings) (log : LogView) (signal : Signal)
    (now : Span) : LiveSession :=
  ⟨.create ctx settings signal now, log, none⟩

theorem step_failed {question : Reading} {error : EngineError}
    (asks : s.session.reading? = some question) (failed : s.pending = some (question.failed error))
    (now : Span) : s.step (.deliver now) = ⟨s.session.finish now (.error error), s.log, none⟩ := by
  simp only [LiveSession.step, failed, Session.step_failed asks error now]

/-- Where a reading fails that an answer needs, the session ends with that failure. Behind what was
sent before the line, its client has nothing, or a beginning of the complete answer that has the
start of the range and whole frames, and no line that ends it. -/
theorem failed_reading_truncates {settings : SessionSettings} {log : LogView}
    (size : 1 ≤ settings.batch) (ordered : ∀ source, Ordered (log.entries source))
    (signal : Signal) (begun : Span) (es : List Event) {question : Reading} {error : EngineError}
    (asks : ((opened ctx settings log signal begun).run es).session.reading? = some question)
    (failed : ((opened ctx settings log signal begun).run es).pending =
      some (question.failed error)) (now : Span) :
    let s := opened ctx settings log signal begun
    let t := (s.run es).step (.deliver now)
    t.session.phase = .ended (.error error) ∧
    ∃ before start line after response,
      es = before ++ .act start (.line line) :: after ∧
      (∃ deadline, (s.run before).session.phase = .reading deadline) ∧
      t.session.outbox.text = (s.run before).session.outbox.sent ++ response ∧
      (t.session.outbox.broken = false → t.session.outbox.sent = t.session.outbox.text) ∧
      CutOff ctx (Shown s.logAfter es) t.log line question response ∧
      (∀ source after max, question = .page source after max →
        ∃ rest, Completed ctx (Shown s.logAfter es) line (response ++ rest) ∨
          Followed ctx (Shown s.logAfter es) t.log line (response ++ rest)) ∧
      ∀ l ∈ Text.fields '\n' response.toList, Frame.isEndLine l = true →
        ∃ source, ∃ e ∈ t.log.entries source, ∃ body, (Frame.ofEntry e).body = some body ∧
          l ∈ Text.fields '\n' body.toList := by
  intro s t
  have start : s.Sure ctx (Shown s.logAfter es) :=
    ⟨rfl, size, ordered, fun _ => .of_none rfl⟩
  obtain ⟨sure, course⟩ := Course.run start (.reading rfl rfl) es
    fun front back split => ⟨front, back, split, rfl⟩
  have stepped : t = ⟨(s.run es).session.finish now (.error error), (s.run es).log, none⟩ :=
    step_failed asks failed now
  cases course with
  | rests rests =>
    have silent : (s.run es).session.reading? = none := rests.silent
    cases silent.symm.trans asks
  | @answers before after start deadline line split reading under =>
    obtain ⟨response, cut, text⟩ := under.cutOff sure asks
    rw [stepped]
    refine ⟨rfl, before, start, line, after, response, split, ⟨deadline, reading⟩, ?_, ?_, cut,
      fun source after max page => cut.goesOn sure.ordered page,
      fun l mem ends => cut.unended mem ends⟩
    · rw [Session.text_of_finish]
      exact text
    · intro connected
      have there : (s.run es).session.outbox.broken = false :=
        (Session.broken_of_close _).symm.trans connected
      exact (Outbox.sent_of_close there).trans (Session.text_of_finish _ now _).symm

/-- The same log, and a client that gets one entry with each page. -/
def listening : LiveSession :=
  opened gapped.session.context gapped.session.settings gapped.log .quiet .zero

/-- A line is turned down, and one page of the range of the next one is read. -/
def paged : List Event :=
  [.act .zero (.line "-g TEST:3:9-LAST"), .read, .deliver .zero,
    .act .zero (.line "-g TEST:3:1-LAST"), .read, .deliver .zero, .read, .deliver .zero]

theorem pending_fail {question : Reading} (asks : s.session.reading? = some question)
    (error : EngineError) :
    (s.step (.fail error)).session.reading? = some question ∧
      (s.step (.fail error)).pending = some (question.failed error) := by
  simp only [LiveSession.step, ask, asks]
  trivial

/-- The second page cannot be read. -/
def failing : List Event := paged ++ [.fail (.store .noRow)]

theorem failed_reading_truncates_gapped :
    1 ≤ gapped.session.settings.batch ∧ (∀ source, Ordered (gapped.log.entries source)) ∧
    (listening.run failing).session.reading? = some (.page ⟨"TEST"⟩ 1 1) ∧
    (listening.run failing).pending =
      some (Reading.failed (.store .noRow) (.page ⟨"TEST"⟩ 1 1)) ∧
    ((listening.run failing).step (.deliver .zero)).session.phase =
      .ended (.error (.store .noRow)) ∧
    ((listening.run failing).step (.deliver .zero)).session.outbox.sent =
      "ERROR:401 invalid range: Not within 1-7\n\n" ++
        "%START Version: 3 TEST 1-7\n\nADD 1\n\np\n\n" := by
  have size : 1 ≤ gapped.session.settings.batch := by decide
  have ordered : ∀ source, Ordered (gapped.log.entries source) := by
    intro source
    simp only [gapped]
    split
    · decide
    · exact .nil
  have next : (listening.run paged).session.reading? = some (.page ⟨"TEST"⟩ 1 1) := by
    decide +kernel
  obtain ⟨asks, failed⟩ := pending_fail next (.store .noRow)
  rw [← run_concat] at asks failed
  have cut := failed_reading_truncates size ordered .quiet .zero failing asks failed .zero
  exact ⟨size, ordered, asks, failed, cut.1, by decide +kernel⟩

/-- The first object has a line that looks like the end of the stream, and a client gets one entry
with each page. -/
def misleading : LiveSession :=
  opened ⟨⟨"RIPE"⟩, none⟩ { SessionSettings.default with batch := 1 }
    ⟨fun s => if s = ⟨"RIPE"⟩ then
        [⟨1, .add, "mntner", "MNT-1", some "mntner: MNT-1\n%END RIPE\n", 0⟩,
          ⟨2, .add, "mntner", "MNT-2", some "mntner: MNT-2\nsource: RIPE", 0⟩] else [],
      fun _ => none⟩ .quiet .zero

/-- One page of the range is read. -/
def misled : List Event :=
  [.act .zero (.line "-g RIPE:3:1-LAST"), .read, .deliver .zero, .read, .deliver .zero]

/-- The next page cannot be read. The text of an object is written as it is, so what the client has
been sent has a line that ends a stream. -/
theorem failed_reading_shows_end_of_misleading :
    let s := (misleading.run misled).step (.fail (.store .noRow))
    let t := s.step (.deliver .zero)
    1 ≤ misleading.session.settings.batch ∧ Ordered (misleading.log.entries ⟨"RIPE"⟩) ∧
    s.session.reading? = some (.page ⟨"RIPE"⟩ 1 1) ∧
    s.pending = some (Reading.failed (.store .noRow) (.page ⟨"RIPE"⟩ 1 1)) ∧
    t.session.phase = .ended (.error (.store .noRow)) ∧
    t.session.outbox.sent =
      "%START Version: 3 RIPE 1-2\n\nADD 1\n\nmntner: MNT-1\n%END RIPE\n\n" ∧
    ∃ l ∈ Text.fields '\n' t.session.outbox.sent.toList, Frame.isEndLine l = true := by
  intro s t
  have next : (misleading.run misled).session.reading? = some (.page ⟨"RIPE"⟩ 1 1) := by
    decide +kernel
  obtain ⟨asks, failed⟩ := pending_fail next (.store .noRow)
  have sent : t.session.outbox.sent =
      "%START Version: 3 RIPE 1-2\n\nADD 1\n\nmntner: MNT-1\n%END RIPE\n\n" := by decide +kernel
  refine ⟨by decide, by decide, asks, failed, ?_, sent, "%END RIPE".toList, ?_, by decide⟩
  · show (s.step (.deliver .zero)).session.phase = _
    rw [step_failed asks failed]
    rfl
  · rw [sent]
    decide +kernel

end LiveSession

end RegistryFeed
