import RegistryFeed.Proofs.Session.Dialogue

/-!
# What a client reads

Lines are answered one after the other, each with one rejection, up to the first that
is accepted, and nothing after it is answered. One invariant goes along with a dialogue:
the lines that have been turned down with their rejections, and behind them how far the
answer to the present line has come. The log may grow at any time.
-/

namespace RegistryFeed

namespace Dialogue

variable {ctx : SourceContext} {seen : LogView → Prop} {log : LogView}

/-! ## How far a dialogue has come -/

/-- The lines have been turned down, one after the other. -/
inductive TurnedDown (ctx : SourceContext) (seen : LogView → Prop) : List String → String → Prop
  | nil : TurnedDown ctx seen [] ""
  | snoc {lines : List String} {opening line : String} {f : Request.Fault}
      (before : TurnedDown ctx seen lines opening) (declined : Declined ctx seen line f) :
      TurnedDown ctx seen (lines ++ [line]) (opening ++ rejectionText f)

/-- All lines before the rest have been turned down. -/
def UpTo (ctx : SourceContext) (seen : LogView → Prop) (lines rest : List String)
    (opening : String) : Prop :=
  ∃ done, lines = done ++ rest ∧ TurnedDown ctx seen done opening

theorem TurnedDown.answered {done rest : List String} {opening text : String} {e : SessionEnd}
    (h : TurnedDown ctx seen done opening) (later : Answered ctx seen log rest text e) :
    Answered ctx seen log (done ++ rest) (opening ++ text) e := by
  induction h generalizing rest text with
  | nil => simpa using later
  | snoc before declined ih =>
    rw [List.append_assoc, String.append_assoc]
    exact ih (.declined declined later)

variable {lines rest : List String} {line opening : String}

theorem UpTo.answered {text : String} {e : SessionEnd} (h : UpTo ctx seen lines rest opening)
    (later : Answered ctx seen log rest text e) :
    Answered ctx seen log lines (opening ++ text) e := by
  obtain ⟨done, rfl, turned⟩ := h
  exact turned.answered later

theorem UpTo.snoc {f : Request.Fault} (h : UpTo ctx seen lines (line :: rest) opening)
    (declined : Declined ctx seen line f) :
    UpTo ctx seen lines rest (opening ++ rejectionText f) := by
  obtain ⟨done, rfl, turned⟩ := h
  exact ⟨done ++ [line], by simp, turned.snoc declined⟩

theorem Parts.snoc {option : Request.InfoOption} {front : List Source} {source : Source}
    {text more : String} (h : Parts seen option front text)
    (part : Part seen source option more) :
    Parts seen option (front ++ [source]) (text ++ more) := by
  induction h with
  | nil =>
    have alone := Parts.cons part .nil
    rwa [String.append_empty, ← String.empty_append (s := more)] at alone
  | cons first others ih =>
    rw [String.append_assoc]
    exact .cons first ih

/-- Where a session stands: the lines up to the present one are turned down, and the answer to that
one has come some way. -/
inductive Stage (ctx : SourceContext) (seen : LogView → Prop) (lines : List String)
    (bytes : List UInt8) (log : LogView) (pending : Option Reply) (s : Session) : Prop
  | reading {rest : List String} {deadline : Span} (phase : s.phase = .reading deadline)
      (said : Inbox.Says bytes rest) (before : UpTo ctx seen lines rest s.outbox.text) :
      Stage ctx seen lines bytes log pending s
  | describing {line text : String} {after : List String} {self source : Source}
      {option : Request.InfoOption} {front more : List Source}
      (phase : s.phase = .describing option source more (heading option ++ text))
      (before : UpTo ctx seen lines (line :: after) s.outbox.text)
      (accepted : Request.parse ctx line = .ok (.info self option))
      (sources : ctx.servable = front ++ source :: more) (parts : Parts seen option front text) :
      Stage ctx seen lines bytes log pending s
  | versioning {line text : String} {after : List String} {self source : Source}
      {front more : List Source} {v : LogView}
      (phase : s.phase = .versioning source more
        (heading .version ++ text ++ serialsLine source (serialRange (v.entries source))))
      (before : UpTo ctx seen lines (line :: after) s.outbox.text)
      (accepted : Request.parse ctx line = .ok (.info self .version))
      (sources : ctx.servable = front ++ source :: more) (parts : Parts seen .version front text)
      (state : seen v) : Stage ctx seen lines bytes log pending s
  | checking {line : String} {after : List String} {source : Source} {first : Int}
      {final : Request.RangeEnd} {keepalive : Bool}
      (phase : s.phase = .checking source first final keepalive) (said : Inbox.Says bytes after)
      (before : UpTo ctx seen lines (line :: after) s.outbox.text)
      (accepted : Request.parse ctx line = .ok (.changes source first final keepalive)) :
      Stage ctx seen lines bytes log pending s
  | paging {line opening : String} {after : List String} {source : Source} {first last cursor : Int}
      {streamed : Nat} {keepalive : Bool} {v : LogView}
      (phase : s.phase = .paging source cursor last streamed keepalive)
      (said : Inbox.Says bytes after) (before : UpTo ctx seen lines (line :: after) opening)
      (granted : Granted ctx seen line source first last keepalive v)
      (grown : v.entries source <+: log.entries source) (within : cursor < last)
      (written : Written first (opening ++ startText source first last) (log.entries source) cursor
        s.outbox.text)
      (fresh : ∀ reply, pending = some reply → ∃ old, Reaches (old.entries source) last ∧
        LiveSession.Grows old log ∧ reply = old.reply (.page source cursor s.settings.batch)) :
      Stage ctx seen lines bytes log pending s
  | tailing {line opening : String} {after rest : List String} {first last : Int}
      {sub : Subscription} {deadline : Span} {v : LogView}
      (phase : s.phase = .tailing sub deadline) (said : Inbox.Says bytes rest)
      (before : UpTo ctx seen lines (line :: after) opening)
      (granted : Granted ctx seen line sub.source first last true v)
      (grown : v.entries sub.source <+: log.entries sub.source) (beyond : last ≤ sub.cursor)
      (written : Written first (opening ++ startText sub.source first last)
        (log.entries sub.source) sub.cursor s.outbox.text) :
      Stage ctx seen lines bytes log pending s
  | ended {e : SessionEnd} (phase : s.phase = .ended (.ok e))
      (answered : Answered ctx seen log lines s.outbox.sent e) :
      Stage ctx seen lines bytes log pending s

variable {bytes : List UInt8} {s : Session}

theorem Followed.grow {text : String} (h : Followed ctx seen log line text) {more : LogView}
    (grown : LiveSession.Grows log more) : Followed ctx seen more line text := by
  cases h with
  | @changes source first final v r text frames accepted state range served later =>
    exact .changes accepted state range served
      (later.trans (entriesAfter_grows (grown source) _))

theorem Answered.grow {text : String} {e : SessionEnd} (h : Answered ctx seen log lines text e)
    {more : LogView} (grown : LiveSession.Grows log more) :
    Answered ctx seen more lines text e := by
  induction h with
  | closed => exact .closed
  | declined first _ ih => exact .declined first ih
  | completed answer => exact .completed answer
  | followed answer => exact .followed (answer.grow grown)

/-- A log that grows leaves every dialogue where it stands. -/
theorem Stage.grow {pending : Option Reply} (h : Stage ctx seen lines bytes log pending s)
    {more : LogView} (sorted : ∀ source, Ordered (more.entries source))
    (grown : LiveSession.Grows log more) : Stage ctx seen lines bytes more pending s := by
  cases h with
  | reading phase said before => exact .reading phase said before
  | describing phase before accepted sources parts =>
    exact .describing phase before accepted sources parts
  | versioning phase before accepted sources parts state =>
    exact .versioning phase before accepted sources parts state
  | checking phase said before accepted => exact .checking phase said before accepted
  | paging phase said before granted old within written fresh =>
    refine .paging phase said before granted (old.trans (grown _)) within
      (written.grow (sorted _) (grown _)) fun reply hr => ?_
    obtain ⟨read, reached, before, same⟩ := fresh reply hr
    exact ⟨read, reached, fun source => (before source).trans (grown source), same⟩
  | tailing phase said before granted old beyond written =>
    exact .tailing phase said before granted (old.trans (grown _)) beyond
      (written.grow (sorted _) (grown _))
  | ended phase answered => exact .ended phase (answered.grow grown)

/-- A session that follows the log has written the answer as it is when its client closes now. -/
theorem answered_of_tailing {after : List String} {first last : Int} {sub : Subscription}
    {v : LogView} {text : String} (before : UpTo ctx seen lines (line :: after) opening)
    (granted : Granted ctx seen line sub.source first last true v)
    (sorted : Ordered (log.entries sub.source))
    (grown : v.entries sub.source <+: log.entries sub.source) (beyond : last ≤ sub.cursor)
    (written : Written first (opening ++ startText sub.source first last)
      (log.entries sub.source) sub.cursor text) :
    Answered ctx seen log lines text .clientClosed := by
  obtain ⟨answer, rfl, followed⟩ := granted.followed sorted grown beyond written
  exact before.answered (.followed followed)

/-! ## What each step makes of it -/

theorem Stage.describe {after : List String} {self : Source} {option : Request.InfoOption}
    {front more : List Source} {text : String} (connected : s.outbox.broken = false)
    (before : UpTo ctx seen lines (line :: after) s.outbox.text)
    (accepted : Request.parse ctx line = .ok (.info self option))
    (sources : ctx.servable = front ++ more) (parts : Parts seen option front text) (now : Span) :
    Stage ctx seen lines bytes log none (s.describe now option more (heading option ++ text)) := by
  cases more with
  | cons source more => exact .describing rfl before accepted sources parts
  | nil =>
    rw [List.append_nil] at sources
    rw [← sources] at parts
    have completes (kind : String) :
        Stage ctx seen lines bytes log none (s.answer now kind (heading option ++ text)) := by
      obtain ⟨phase, sent⟩ := Session.answer_completes connected now kind (heading option ++ text)
      refine .ended phase ?_
      rw [sent]
      exact before.answered (.completed (.info accepted parts))
    cases option with
    | sources => exact completes "sources"
    | version => exact completes "version"

theorem Stage.reject {f : Request.Fault} (connected : s.outbox.broken = false)
    (said : Inbox.Says bytes rest) (before : UpTo ctx seen lines (line :: rest) s.outbox.text)
    (declined : Declined ctx seen line f) (now : Span) :
    Stage ctx seen lines bytes log none (s.reject now f) := by
  obtain ⟨⟨deadline, phase⟩, text, -⟩ := Session.text_of_reject connected now f
  refine .reading phase said ?_
  rw [text]
  exact before.snoc declined

theorem Stage.request (context : s.context = ctx) (connected : s.outbox.broken = false)
    (said : Inbox.Says bytes rest) (before : UpTo ctx seen lines (line :: rest) s.outbox.text)
    (now : Span) : Stage ctx seen lines bytes log none (s.request now line) := by
  rw [Session.request, context]
  cases parsed : Request.parse ctx line with
  | error f =>
    exact Stage.reject (s := s.observe [.query "invalid" "error"]) connected said before
      (.rejected parsed) now
  | ok q =>
    cases q with
    | info self option =>
      have begins : Stage ctx seen lines bytes log none
          (s.describe now option ctx.servable (heading option ++ "")) :=
        Stage.describe connected before parsed (List.nil_append _).symm .nil now
      rw [String.append_empty] at begins
      cases option with
      | sources => exact begins
      | version => exact begins
    | changes source first final keepalive => exact .checking rfl said before parsed

/-- Wherever a range has come to, its answer goes on from there or is complete. -/
theorem Stage.of_advances {after : List String} {source : Source} {first last floor : Int}
    {keepalive : Bool} {v : LogView} {now : Span} {t : Session}
    (connected : s.outbox.broken = false) (said : Inbox.Says bytes after)
    (before : UpTo ctx seen lines (line :: after) opening)
    (granted : Granted ctx seen line source first last keepalive v)
    (sorted : Ordered (log.entries source)) (grown : v.entries source <+: log.entries source)
    (h : s.Advances now source first last (opening ++ startText source first last)
      (log.entries source) keepalive floor t) : Stage ctx seen lines bytes log none t := by
  cases h with
  | further _ _ within written =>
    refine .paging rfl said before granted grown within written ?_
    rintro _ ⟨⟩
  | lost broken => exact absurd (connected.symm.trans broken) Bool.false_ne_true
  | @complete o streamed same written =>
    have there : ({ s with outbox := o } : Session).outbox.broken = false := same.trans connected
    cases keepalive with
    | false =>
      obtain ⟨phase, sent⟩ := Session.rangeServed_completes there now source last streamed
      obtain ⟨answer, whole, completed⟩ := granted.completed sorted grown written
      refine .ended phase ?_
      rw [sent, whole]
      exact before.answered (.completed completed)
    | true =>
      obtain ⟨phase, text⟩ := Session.rangeServed_follows there now source last streamed
      exact .tailing phase said before granted grown (Int.le_refl _) (text ▸ written)

/-- The range of the log has come: the request is refused, or served from it. -/
theorem Stage.serveRange {after : List String} {source : Source} {first : Int}
    {final : Request.RangeEnd} {keepalive : Bool} {v : LogView}
    (connected : s.outbox.broken = false) (said : Inbox.Says bytes after)
    (before : UpTo ctx seen lines (line :: after) s.outbox.text)
    (accepted : Request.parse ctx line = .ok (.changes source first final keepalive))
    (state : seen v) (sorted : Ordered (log.entries source))
    (grown : v.entries source <+: log.entries source) (now : Span) :
    Stage ctx seen lines bytes log none
      (s.serveRange now source first final keepalive (serialRange (v.entries source))) := by
  cases checked : Session.checkRange first final (serialRange (v.entries source)) with
  | error f =>
    have refused : changesText source first final keepalive (v.entries source) = .error f := by
      rw [changesText_eq, checked]
      rfl
    rw [Session.serveRange, checked]
    exact Stage.reject (s := s.observe [.query "mirror" "error"]) connected said before
      (.refused accepted state refused) now
  | ok last =>
    have granted : Granted ctx seen line source first last keepalive v :=
      ⟨state, final, accepted, checked⟩
    obtain ⟨inOrder, reached⟩ := granted.reaches
    have advances := Session.serveRange_advances (s := s) source checked (reached.mono grown)
      inOrder now keepalive
    exact Stage.of_advances (s := s.observe [.query "mirror" "ok"]) connected said before granted
      sorted grown advances

/-- Part after part, an answer with information is collected. -/
theorem Stage.tell {after : List String} {self source : Source} {option : Request.InfoOption}
    {front more : List Source} {text part : String} (connected : s.outbox.broken = false)
    (before : UpTo ctx seen lines (line :: after) s.outbox.text)
    (accepted : Request.parse ctx line = .ok (.info self option))
    (sources : ctx.servable = front ++ source :: more) (parts : Parts seen option front text)
    (told : Part seen source option part) (now : Span) :
    Stage ctx seen lines bytes log none
      (s.describe now option more (heading option ++ text ++ part)) := by
  rw [String.append_assoc]
  refine Stage.describe connected before accepted ?_ (parts.snoc told) now
  rw [sources, List.append_assoc]
  rfl

/-- What a page adds behind a range that is written already. -/
theorem Stage.follow {after : List String} {first last : Int} {sub : Subscription}
    {deadline : Span} {v old : LogView} (phase : s.phase = .tailing sub deadline)
    (reading : sub.call = .reading) (connected : s.outbox.broken = false)
    (said : Inbox.Says bytes rest) (before : UpTo ctx seen lines (line :: after) opening)
    (granted : Granted ctx seen line sub.source first last true v)
    (range : v.entries sub.source <+: log.entries sub.source) (beyond : last ≤ sub.cursor)
    (written : Written first (opening ++ startText sub.source first last)
      (log.entries sub.source) sub.cursor s.outbox.text)
    (sorted : Ordered (log.entries sub.source))
    (grown : old.entries sub.source <+: log.entries sub.source) (now : Span) :
    Stage ctx seen lines bytes log none (s.step now
      (.reply (.page (.ok ((entriesAfter (old.entries sub.source) sub.cursor).take
        sub.batchSize))))) := by
  have read := List.take_prefix sub.batchSize (entriesAfter (old.entries sub.source) sub.cursor)
  generalize (entriesAfter (old.entries sub.source) sub.cursor).take sub.batchSize = page at read ⊢
  obtain ⟨call, deadline', phase', text⟩ :=
    Session.page_follows phase reading connected now page
  have extended := written.extend sorted grown read
  have further := (window_append_part sorted grown read written.start).1
  rw [← text] at extended
  exact .tailing phase' said before granted range (Int.le_trans beyond further) extended

/-- The log replies to the question of a session from a state that has been seen. -/
theorem Stage.reply {question : Reading} {old : LogView}
    (h : Stage ctx seen lines bytes log (some (old.reply question)) s)
    (asks : s.reading? = some question) (state : seen old) (grown : LiveSession.Grows old log)
    (connected : s.outbox.broken = false) (size : 1 ≤ s.settings.batch)
    (sorted : ∀ source, Ordered (log.entries source)) (now : Span) :
    Stage ctx seen lines bytes log none (s.step now (.reply (old.reply question))) := by
  cases h with
  | reading phase said before => simp [Session.reading?, phase] at asks
  | ended phase answered => simp [Session.reading?, phase] at asks
  | @describing line text after self source option front more phase before accepted sources
      parts =>
    rw [Session.step_reply asks, Session.told, phase]
    cases option with
    | sources => exact Stage.tell connected before accepted sources parts (.sources state) now
    | version => exact .versioning rfl before accepted sources parts state
  | @versioning line text after self source front more v phase before accepted sources parts
      serials =>
    rw [Session.step_reply asks, Session.told, phase]
    dsimp only
    rw [String.append_assoc]
    exact Stage.tell connected before accepted sources parts (.version serials state) now
  | @checking line after source first final keepalive phase said before accepted =>
    rw [Session.step_reply asks, Session.told, phase]
    exact Stage.serveRange connected said before accepted state (sorted source) (grown source) now
  | @paging line opening after source first last cursor streamed keepalive v phase said before
      granted range within written fresh =>
    obtain ⟨read, reached, earlier, same⟩ := fresh _ rfl
    have page : s.reading? = some (.page source cursor s.settings.batch) := by
      rw [Session.reading?, phase]
    rw [same, Session.step_reply page, Session.told, phase]
    exact Stage.of_advances connected said before granted (sorted source) range
      (Session.turnPage_advances written (sorted source) (earlier source) reached now streamed
        keepalive size within)
  | tailing phase said before granted range beyond written =>
    obtain ⟨reading, rfl⟩ := Session.call_of_asking phase asks
    exact Stage.follow phase reading connected said before granted range beyond written
      (sorted _) (grown _) now

/-- A reply reaches the session, if there is one. -/
theorem Stage.deliver {live : LiveSession}
    (h : Stage ctx seen lines bytes live.log live.pending live.session)
    (steady : live.Steady ctx seen) (now : Span) :
    Stage ctx seen lines bytes (live.step (.deliver now)).log (live.step (.deliver now)).pending
      (live.step (.deliver now)).session := by
  rw [LiveSession.step]
  split
  · next reply pending =>
    obtain ⟨question, old, asks, state, grown, rfl⟩ := steady.honest reply pending
    rw [pending] at h
    exact h.reply asks state grown steady.connected steady.size steady.ordered now
  · exact h

/-- The log replies, and the reply is on its way. -/
theorem Stage.read {pending : Option Reply} (h : Stage ctx seen lines bytes log pending s)
    {question : Reading} (asks : s.reading? = some question) :
    Stage ctx seen lines bytes log (some (log.reply question)) s := by
  cases h with
  | reading phase said before => exact .reading phase said before
  | describing phase before accepted sources parts =>
    exact .describing phase before accepted sources parts
  | versioning phase before accepted sources parts state =>
    exact .versioning phase before accepted sources parts state
  | checking phase said before accepted => exact .checking phase said before accepted
  | @paging line opening after source first last cursor streamed keepalive v phase said before
      granted range within written fresh =>
    simp only [Session.reading?, phase, Option.some.injEq] at asks
    subst asks
    refine .paging phase said before granted range within written ?_
    rintro _ ⟨⟩
    exact ⟨log, granted.reaches.2.mono range, fun _ => List.prefix_rfl, rfl⟩
  | tailing phase said before granted range beyond written =>
    exact .tailing phase said before granted range beyond written
  | ended phase answered => exact .ended phase answered

/-- The client has closed, and nothing more is answered. -/
theorem Stage.close {pending : Option Reply} (connected : s.outbox.broken = false)
    (answered : Answered ctx seen log lines s.outbox.text .clientClosed) (now : Span) :
    Stage ctx seen lines bytes log pending (s.finish now (.ok .clientClosed)) := by
  refine .ended (rfl : _ = Phase.ended (.ok .clientClosed)) ?_
  have sent : (s.finish now (.ok .clientClosed)).outbox.sent = s.outbox.text :=
    Outbox.sent_of_close connected
  rwa [sent]

/-- A dialogue in which nothing but what it may have has happened. -/
structure Going (ctx : SourceContext) (seen : LogView → Prop) (lines : List String)
    (d : Dialogue) : Prop where
  steady : d.live.Steady ctx seen
  closed : d.inbox.closed = true
  stage : Stage ctx seen lines d.inbox.bytes d.live.log d.live.pending d.live.session

variable {d : Dialogue}

theorem step_take_line {i : Inbox} (listens : d.listens = true)
    (next : d.inbox.next = (.line line, i)) (now : Span) :
    d.step (.take now) = ⟨d.live.step (.act now (.line line)), i⟩ := by
  rw [step, if_pos listens, next]
  rfl

theorem step_take_closed (listens : d.listens = true) (next : d.inbox.next = (.closed, d.inbox))
    (now : Span) : d.step (.take now) = { d with live := d.live.step (.act now .closed) } := by
  rw [step, if_pos listens, next]
  rfl

/-- The next thing that the client says reaches a session that listens. -/
theorem Going.take (h : Going ctx seen lines d) (now : Span) :
    Stage ctx seen lines (d.step (.take now)).inbox.bytes (d.step (.take now)).live.log
      (d.step (.take now)).live.pending (d.step (.take now)).live.session := by
  have steady := h.steady
  have closed := h.closed
  have deaf (silent : d.listens = false) : d.step (.take now) = d :=
    if_neg (Bool.eq_false_iff.mp silent)
  cases h.stage with
  | describing phase _ _ _ _ | versioning phase _ _ _ _ _ | checking phase _ _ _
      | paging phase _ _ _ _ _ _ _ | ended phase _ =>
    rw [deaf (by simp [listens, isTailing, phase])]
    exact h.stage
  | @reading rest deadline phase said before =>
    have hears : d.listens = true := by simp [listens, phase]
    cases rest with
    | nil =>
      rw [step_take_closed hears (Inbox.next_of_says_nothing closed said) now,
        LiveSession.step_act _ _ (by simp)]
      simp only [Session.step, phase]
      refine Stage.close steady.connected ?_ now
      simpa using before.answered .closed
    | cons line rest =>
      obtain ⟨bytes, next, later, -⟩ := Inbox.next_of_says closed said
      rw [step_take_line hears next now, LiveSession.step_act _ _ (by simp),
        steady.pending_eq_none (by simp [Session.reading?, phase]), ite_self]
      simp only [Session.step, phase]
      exact Stage.request steady.context steady.connected later before now
  | @tailing line opening after rest first last sub deadline v phase said before granted range
      beyond written =>
    have hears : d.listens = true := by simp [listens, isTailing, phase]
    cases rest with
    | nil =>
      rw [step_take_closed hears (Inbox.next_of_says_nothing closed said) now,
        LiveSession.step_act _ _ (by simp)]
      simp only [Session.step, phase]
      exact Stage.close steady.connected (answered_of_tailing before granted
        (steady.ordered sub.source) range beyond written) now
    | cons line' rest =>
      obtain ⟨bytes, next, later, -⟩ := Inbox.next_of_says closed said
      obtain ⟨call, deadline', same⟩ :=
        Session.step_follows phase steady.quiet now (.inr (.inr ⟨line', rfl⟩))
      rw [step_take_line hears next now, LiveSession.step_act _ _ (by simp), same]
      exact .tailing rfl later before granted range beyond written

/-- A look or a wait tells a session nothing unless it follows the log. -/
theorem Stage.wait {live : LiveSession}
    (h : Stage ctx seen lines bytes live.log live.pending live.session)
    (steady : live.Steady ctx seen) (now : Span) {e : Session.Event}
    (plain : e = .look ∨
      e = .deadline ∧ ∃ sub deadline, live.session.phase = .tailing sub deadline) :
    Stage ctx seen lines bytes (live.step (.act now e)).log (live.step (.act now e)).pending
      (live.step (.act now e)).session := by
  have silent (idle : ∀ sub deadline, live.session.phase ≠ .tailing sub deadline) :
      live.step (.act now e) = live := by
    rcases plain with rfl | ⟨-, sub, deadline, phase⟩
    · exact live.step_look_of_idle idle now
    · exact absurd phase (idle sub deadline)
  have stands := h
  cases h with
  | reading phase _ _ | describing phase _ _ _ _ | versioning phase _ _ _ _ _
      | checking phase _ _ _ | paging phase _ _ _ _ _ _ _ | ended phase _ =>
    rw [silent (by simp [phase])]
    exact stands
  | tailing phase said before granted range beyond written =>
    have follows : e = .look ∨ e = .deadline ∨ ∃ text, e = .line text :=
      plain.imp_right fun wait => .inl wait.1
    obtain ⟨call, deadline', same⟩ := Session.step_follows phase steady.quiet now follows
    rw [LiveSession.step_act _ _ (by rcases plain with rfl | ⟨rfl, -⟩ <;> simp), same]
    exact .tailing rfl said before granted range beyond written

/-- What is heard is a line, or that the client leaves, or nothing that can be understood. -/
theorem heard_cases {a : Arrival} {e : Session.Event} (h : Connection.arrivalEvent a = some e) :
    (∃ text, a = .line text ∧ e = .line text) ∨ e = .closed ∨ ∃ l i, e = .garbled l i := by
  cases a with
  | pending => cases h
  | line text => exact .inl ⟨text, rfl, (Option.some.inj h).symm⟩
  | garbled flaw => exact .inr (.inr ⟨_, _, (Option.some.inj h).symm⟩)
  | closed => exact .inr (.inl (Option.some.inj h).symm)

theorem told_of_arrivalEvent {a : Arrival} {e : Session.Event}
    (h : Connection.arrivalEvent a = some e) : e.Told ∧ ∀ r, e ≠ .reply r := by
  rcases heard_cases h with ⟨text, -, rfl⟩ | rfl | ⟨l, i, rfl⟩ <;> exact ⟨trivial, by simp⟩

/-- An event is one calm event of the session at most, and the client says nothing more. -/
theorem step_live (d : Dialogue) (e : Event) :
    ((d.step e).live = d.live ∨ ∃ x : LiveSession.Event, x.Calm ∧ (d.step e).live = d.live.step x) ∧
      (d.step e).inbox.closed = d.inbox.closed := by
  cases e with
  | take now =>
    rw [step]
    split
    · split
      · next x heard =>
        exact ⟨.inr ⟨.act now x, told_of_arrivalEvent heard, rfl⟩, d.inbox.closed_next⟩
      · exact ⟨.inl rfl, rfl⟩
    · exact ⟨.inl rfl, rfl⟩
  | look now => exact ⟨.inr ⟨.act now .look, ⟨trivial, by simp⟩, rfl⟩, rfl⟩
  | wake now =>
    rw [step]
    split
    · exact ⟨.inr ⟨.act now .deadline, ⟨trivial, by simp⟩, rfl⟩, rfl⟩
    · exact ⟨.inl rfl, rfl⟩
  | read => exact ⟨.inr ⟨.read, trivial, rfl⟩, rfl⟩
  | deliver now => exact ⟨.inr ⟨.deliver now, trivial, rfl⟩, rfl⟩
  | append source entry => exact ⟨.inr ⟨.append source entry, trivial, rfl⟩, rfl⟩
  | publish source version => exact ⟨.inr ⟨.publish source version, trivial, rfl⟩, rfl⟩

theorem Going.step (h : Going ctx seen lines d) (now : seen d.live.log) (e : Event) :
    Going ctx seen lines (d.step e) := by
  obtain ⟨live, closed⟩ := d.step_live e
  have steady : (d.step e).live.Steady ctx seen := by
    rcases live with same | ⟨x, calm, stepped⟩
    · rw [same]
      exact h.steady
    · rw [stepped]
      exact h.steady.step now calm
  refine ⟨steady, closed.trans h.closed, ?_⟩
  cases e with
  | take now => exact h.take now
  | look now => exact h.stage.wait h.steady now (.inl rfl)
  | wake now =>
    rw [Dialogue.step]
    split
    · next tails =>
      refine h.stage.wait h.steady now (.inr ⟨rfl, ?_⟩)
      unfold isTailing at tails
      split at tails
      · next phase => exact ⟨_, _, phase⟩
      · cases tails
    · exact h.stage
  | read =>
    simp only [Dialogue.step, LiveSession.step, LiveSession.ask]
    split
    · next question asks => exact h.stage.read asks
    · exact h.stage
  | deliver now => exact h.stage.deliver h.steady now
  | append source entry =>
    exact h.stage.grow steady.ordered fun other => d.live.log.append_grows source other entry
  | publish source version => exact h.stage.grow steady.ordered fun _ => List.prefix_rfl

theorem Going.run (h : Going ctx seen lines d) {es : List Event}
    (logs : ∀ v, Shown d.logAfter es v → seen v) : Going ctx seen lines (d.run es) := by
  induction es generalizing d with
  | nil => exact h
  | cons e es ih =>
    refine ih (h.step (logs _ ⟨[], e :: es, rfl, rfl⟩) e) ?_
    rintro v ⟨front, back, rfl, rfl⟩
    exact logs _ ⟨e :: front, back, rfl, rfl⟩

theorem going_create {settings : SessionSettings} (size : 1 ≤ settings.batch)
    (ordered : ∀ source, Ordered (log.entries source)) (said : Inbox.Says bytes lines)
    (now : Span) : Going ctx seen lines (create ctx settings log bytes now) where
  steady := ⟨rfl, rfl, size, rfl, ordered, by rintro _ ⟨⟩⟩
  closed := rfl
  stage := .reading rfl said ⟨[], rfl, .nil⟩

/-- What a session has written when it ends, and how it ends. -/
theorem Going.answered (h : Going ctx seen lines d) {result : Except EngineError SessionEnd}
    (ended : d.live.session.result? = some result) :
    ∃ e, result = .ok e ∧
      Answered ctx seen d.live.log lines d.live.session.outbox.sent e := by
  cases h.stage with
  | ended phase answered =>
    simp only [Session.result?, phase, Option.some.injEq] at ended
    exact ⟨_, ended.symm, answered⟩
  | reading phase _ _ | describing phase _ _ _ _ | versioning phase _ _ _ _ _
      | checking phase _ _ _ | paging phase _ _ _ _ _ _ _ | tailing phase _ _ _ _ _ _ =>
    simp [Session.result?, phase] at ended

/-- What a session that follows the log has written so far. -/
theorem Going.followed (h : Going ctx seen lines d) (tails : d.isTailing = true) :
    Answered ctx seen d.live.log lines d.live.session.outbox.text .clientClosed := by
  cases h.stage with
  | tailing phase said before granted range beyond written =>
    exact answered_of_tailing before granted (h.steady.ordered _) range beyond written
  | reading phase _ _ | describing phase _ _ _ _ | versioning phase _ _ _ _ _
      | checking phase _ _ _ | paging phase _ _ _ _ _ _ _ | ended phase _ =>
    simp [isTailing, phase] at tails

end Dialogue

end RegistryFeed
