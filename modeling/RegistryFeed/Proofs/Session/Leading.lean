import RegistryFeed.Proofs.Session.Dialogue

/-!
# Where replies and requests lead

A session goes from phase to phase. A request that it hears, and the reply to a question
that it puts, can each lead to a few phases only, whatever the texts are and whether or
not the client is there. What is counted to show that sessions end is counted over these.
-/

namespace RegistryFeed

variable {v : LogView}

/-- The phases to which a phase can be led by the reply to its question from a view of the log. -/
inductive Phase.Leads (v : LogView) : Phase → Phase → Prop
  | ended (p : Phase) (result : Except EngineError SessionEnd) : Leads v p (.ended result)
  | described {option : Request.InfoOption} {source self : Source} {more : List Source}
      {before after : String} :
      Leads v (.describing option source (self :: more) before)
        (.describing option self more after)
  | half {option : Request.InfoOption} {source : Source} {more : List Source}
      {before after : String} :
      Leads v (.describing option source more before) (.versioning source more after)
  | versioned {option : Request.InfoOption} {source self : Source} {more : List Source}
      {before after : String} :
      Leads v (.versioning source (self :: more) before) (.describing option self more after)
  | refused {source : Source} {first : Int} {final : Request.RangeEnd} {keepalive : Bool}
      {deadline : Span} : Leads v (.checking source first final keepalive) (.reading deadline)
  | begun {source : Source} {first : Int} {final : Request.RangeEnd} {keepalive : Bool}
      {cursor last : Int} {streamed : Nat} :
      Leads v (.checking source first final keepalive)
        (.paging source cursor last streamed keepalive)
  | checked {source : Source} {first : Int} {final : Request.RangeEnd} {keepalive : Bool}
      {sub : Subscription} {deadline : Span} (looks : sub.call = .looking) :
      Leads v (.checking source first final keepalive) (.tailing sub deadline)
  | turned {source : Source} {cursor last : Int} {streamed more : Nat} {keepalive : Bool}
      {e : Entry} (read : e ∈ entriesAfter (v.entries source) cursor) (within : e.serial < last) :
      Leads v (.paging source cursor last streamed keepalive)
        (.paging source e.serial last more keepalive)
  | served {source : Source} {cursor last : Int} {streamed : Nat} {keepalive : Bool}
      {sub : Subscription} {deadline : Span} (looks : sub.call = .looking) :
      Leads v (.paging source cursor last streamed keepalive) (.tailing sub deadline)
  | followed {sub next : Subscription} {deadline later : Span} (asks : sub.call = .reading)
      (rests : next.call ≠ .reading) : Leads v (.tailing sub deadline) (.tailing next later)

/-- The phases in which a request can leave a session. -/
inductive Phase.Opens : Phase → Prop
  | ended (result : Except EngineError SessionEnd) : Opens (.ended result)
  | rejected (deadline : Span) : Opens (.reading deadline)
  | informing (option : Request.InfoOption) (source : Source) {more : List Source} (text : String)
      (few : more.length < 2) : Opens (.describing option source more text)
  | checking (source : Source) (first : Int) (final : Request.RangeEnd) (keepalive : Bool) :
      Opens (.checking source first final keepalive)

namespace Session

variable {s : Session} {now : Span} {p : Phase}

theorem running_of_asks {question : Reading} (asks : s.reading? = some question) :
    ∀ result, s.phase ≠ .ended result := by
  intro result phase
  simp [reading?, phase] at asks

/-- A session that cannot send ends. -/
theorem phase_of_emit {P : Phase → Prop} (ends : ∀ result, P (.ended result)) {flush : Bool}
    {texts : List String} {next : Session → Session}
    (h : ∀ o, P (next { s with outbox := o }).phase) : P (s.emit now flush texts next).phase := by
  rcases s.emit_cases now flush texts next with ⟨o, -, emitted⟩ | ⟨-, fault, failed⟩
  · rw [emitted]
    exact h o
  · rw [failed]
    exact ends _

theorem phase_of_describe {P : Phase → Prop} (ends : ∀ result, P (.ended result))
    {option : Request.InfoOption} {more : List Source} {text : String}
    (next : ∀ self rest, more = self :: rest → P (.describing option self rest text)) :
    P (s.describe now option more text).phase := by
  cases more with
  | nil => cases option <;> exact phase_of_emit ends fun _ => ends _
  | cons self rest => exact next self rest rfl

theorem phase_of_rangeServed {P : Phase → Prop} (ends : ∀ result, P (.ended result))
    (follows : ∀ sub deadline, sub.call = .looking → P (.tailing sub deadline)) (source : Source)
    (last : Int) (streamed : Nat) (keepalive : Bool) :
    P (s.rangeServed now source last streamed keepalive).phase := by
  refine phase_of_emit ends fun o => ?_
  cases keepalive with
  | true => exact follows _ _ rfl
  | false =>
    simp only [Bool.false_eq_true, if_false]
    exact phase_of_emit ends fun _ => ends _

theorem request_opens (s : Session) (now : Span) (line : String) :
    (s.request now line).phase.Opens := by
  have described (option : Request.InfoOption) (text : String) :
      (s.describe now option s.context.servable text).phase.Opens := by
    refine phase_of_describe .ended fun self rest same => .informing option self text ?_
    have both : (self :: rest).length ≤ 2 := by
      rw [← same, SourceContext.servable]
      cases s.context.nonAuthoritative <;> simp
    exact both
  unfold request
  split
  · exact phase_of_emit .ended fun _ => .rejected _
  · exact described .sources _
  · exact described .version _
  · exact .checking _ _ _ _

theorem serveRange_leads (source : Source) (first : Int) (final : Request.RangeEnd)
    (keepalive : Bool) (available : Option SerialRange) :
    (Phase.checking source first final keepalive).Leads v
      (s.serveRange now source first final keepalive available).phase := by
  unfold serveRange
  split
  · exact phase_of_emit (.ended _) fun _ => .refused
  · refine phase_of_emit (.ended _) fun o => ?_
    unfold page
    split
    · exact .begun
    · exact phase_of_rangeServed (.ended _) (fun _ _ => .checked) _ _ _ _

/-- A page that is not the last one has entries of the range, and the last of them is the new
position. -/
theorem turnPage_leads (source : Source) (sorted : Ordered (v.entries source))
    (cursor last : Int) (streamed : Nat) (keepalive : Bool) :
    (Phase.paging source cursor last streamed keepalive).Leads v
      (s.turnPage now source cursor last streamed keepalive
        ((entriesAfter (v.entries source) cursor).take s.settings.batch)).phase := by
  have served (t : Session) (streamed' : Nat) :
      (Phase.paging source cursor last streamed keepalive).Leads v
        (t.rangeServed now source last streamed' keepalive).phase :=
    phase_of_rangeServed (.ended _) (fun _ _ => .served) _ _ _ _
  unfold turnPage
  generalize paged : (entriesAfter (v.entries source) cursor).take s.settings.batch = entries
  refine phase_of_emit (.ended _) fun o => ?_
  dsimp only
  split
  · exact served _ _
  · next goesOn =>
    have further := lt_positionAfter sorted paged goesOn
    unfold positionAfter at further
    unfold page
    split
    · next within =>
      cases ends : (entries.takeWhile fun e => e.serial ≤ last).getLast? with
      | none => simp [ends] at further
      | some e =>
        have read : e ∈ entries := (List.takeWhile_prefix _).subset (List.mem_of_getLast? ends)
        rw [← paged] at read
        rw [ends] at within
        exact .turned (List.mem_of_mem_take read) within
    · exact served _ _

theorem batch_leads {sub : Subscription} (asks : sub.call = .reading) (deadline : Span)
    (entries : List Entry) : (Phase.tailing sub deadline).Leads v
      (s.tail now deadline sub (.page (.ok entries))).phase := by
  cases ends : entries.getLast? with
  | none =>
    simp only [tail, Subscription.step, asks, ends]
    exact .followed asks (by simp)
  | some last =>
    simp only [tail, Subscription.step, asks, ends]
    exact phase_of_emit (.ended _) fun _ => .followed asks (by simp)

/-- The reply to the question of a session, from a log in order, leads it on. -/
theorem told_leads {question : Reading} (asks : s.reading? = some question)
    (sorted : ∀ source, Ordered (v.entries source)) : s.phase.Leads v (s.told v now).phase := by
  rw [told]
  cases phase : s.phase with
  | reading | ended => simp [reading?, phase] at asks
  | describing option source more text =>
    cases option with
    | sources =>
      refine phase_of_describe (.ended _) ?_
      rintro self rest rfl
      exact .described
    | version => exact .half
  | versioning source more text =>
    refine phase_of_describe (.ended _) ?_
    rintro self rest rfl
    exact .versioned
  | checking => exact serveRange_leads _ _ _ _ _
  | paging => exact turnPage_leads _ (sorted _) _ _ _ _
  | tailing => exact batch_leads (call_of_asking phase asks).1 _ _

end Session

end RegistryFeed
