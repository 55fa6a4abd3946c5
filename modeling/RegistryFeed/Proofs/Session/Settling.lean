import RegistryFeed.Proofs.Session.Connection
import RegistryFeed.Proofs.Session.Decoding
import RegistryFeed.Proofs.Session.Leading
import RegistryFeed.Proofs.Session.Progress

/-!
# The end of a connection

A connection whose client has said all that it has to say comes to its end without more
ado: every event leaves fewer events ahead, and there are never more of them ahead than
are let happen at one time. The client has then read the transcript of its lines.
-/

namespace RegistryFeed

namespace Inbox

/-- A line that is taken is no longer there. -/
theorem next_shorter {i : Inbox} {text : String} (h : i.next.1 = .line text) :
    i.next.2.bytes.length < i.bytes.length := by
  unfold next at h ⊢
  split
  · next line rest cut =>
    obtain ⟨front, rfl, -, bytes⟩ := cutLine?_eq_some cut
    simp only [bytes, List.length_append, List.length_singleton]
    omega
  · next cut =>
    simp only [cut] at h
    split at h
    · cases h
    · next closed =>
      split at h
      · cases h
      · next some =>
        rw [if_neg closed, if_neg some]
        exact List.length_pos_iff.mpr (by simpa using some)

end Inbox

/-! ## How many events are ahead -/

namespace Phase

/-- How many events a phase has before it at most, while so many bytes may still be heard and the
log shows the same view, with so many entries of a source at most. Each line may be turned down,
which takes two events; one may be answered entry by entry, and nine more are enough for what an
answer takes besides. -/
def ahead (v : LogView) (size words : Nat) : Phase → Nat
  | .reading _ => 2 * words + size + 9
  | .checking _ _ _ _ => 2 * words + size + 10
  | .describing _ _ more _ => 2 * more.length + 2
  | .versioning _ more _ => 2 * more.length + 1
  | .paging source cursor _ _ _ => (entriesAfter (v.entries source) cursor).length + words + 2
  | .tailing sub _ => words + 1 + if sub.call = .reading then 1 else 0
  | .ended _ => 0

variable {v : LogView} {size words : Nat} {p q : Phase}

theorem ahead_pos (running : ∀ result, p ≠ .ended result) : 0 < p.ahead v size words := by
  cases p with
  | ended result => exact absurd rfl (running result)
  | tailing sub deadline => exact Nat.add_pos_left (Nat.succ_pos words) _
  | _ => exact Nat.succ_pos _

theorem Leads.ahead_lt (h : p.Leads v q) (running : ∀ result, p ≠ .ended result)
    (few : ∀ source, (v.entries source).length ≤ size) :
    q.ahead v size words < p.ahead v size words := by
  cases h with
  | ended p result => exact ahead_pos running
  | described | versioned =>
    simp only [ahead, List.length_cons]
    omega
  | half | refused =>
    simp only [ahead]
    omega
  | @begun source first final keepalive cursor last streamed =>
    have left : (entriesAfter (v.entries source) cursor).length ≤ size :=
      (List.length_filter_le _ _).trans (few source)
    simp only [ahead]
    omega
  | turned read within =>
    have fewer := length_entriesAfter_lt read
    simp only [ahead]
    omega
  | checked looks | served looks =>
    simp only [ahead, looks, reduceCtorEq, if_false]
    omega
  | followed asks rests =>
    simp only [ahead, asks, rests, if_true, if_false]
    omega

theorem Opens.ahead_lt (h : q.Opens) {before : Nat} (fewer : words < before) :
    q.ahead v size words < 2 * before + size + 9 := by
  cases h with
  | ended | rejected | informing | checking =>
    simp only [ahead]
    omega

end Phase

/-! ## The end -/

namespace Connection

variable {σ : Type} {source : LogSource σ} {sees : σ → LogView → Prop} {v : LogView}
  {c c' : Connection σ}

/-- How many events a connection has before it at most. -/
def ahead (v : LogView) (size : Nat) (c : Connection σ) : Nat :=
  c.session.phase.ahead v size c.inbox.bytes.length

variable {size : Nat}

theorem ahead_of_heard {e : Session.Event} (listens : c.listens = true)
    (arrives : arrivalEvent c.inbox.next.1 = some e) :
    ({ c with inbox := c.inbox.next.2 }.act e).ahead v size < c.ahead v size := by
  have hears := hears_of_listens listens
  rcases Dialogue.heard_cases arrives with ⟨text, arrival, rfl⟩ | leaves
  · have shorter := Inbox.next_shorter arrival
    rcases hears with ⟨deadline, phase⟩ | ⟨sub, deadline, phase⟩
    · simp only [ahead, act, Session.step, phase]
      exact (Session.request_opens _ _ text).ahead_lt shorter
    · simp only [ahead, act, Session.step, phase, Subscription.begin_again, Phase.ahead,
        reduceCtorEq, if_false]
      omega
  · have running : ∀ result, c.session.phase ≠ .ended result := by
      rcases hears with ⟨deadline, phase⟩ | ⟨sub, deadline, phase⟩ <;> simp [phase]
    obtain ⟨result, ended⟩ : ∃ result, (c.session.step c.now e).phase = .ended result := by
      rcases hears with ⟨deadline, phase⟩ | ⟨sub, deadline, phase⟩ <;>
        rcases leaves with rfl | ⟨l, i, rfl⟩ <;>
        · simp only [Session.step, phase]
          exact ⟨_, rfl⟩
    simp only [ahead, act, ended]
    exact Phase.ahead_pos running

theorem Settling.ahead_of_advance (shows : source.Shows sees) (h : Settling sees v c)
    (few : ∀ source, (v.entries source).length ≤ size)
    (sorted : ∀ source, Ordered (v.entries source)) (adv : Advance source c c') :
    c'.ahead v size < c.ahead v size := by
  cases adv with
  | replied asks =>
    simp only [ahead, act, shows.reply h.shown, Session.step_reply asks]
    exact (Session.told_leads asks sorted).ahead_lt (Session.running_of_asks asks) few
  | heard silent listens arrives => exact ahead_of_heard listens arrives
  | waited silent running unheard own => exact absurd unheard (h.not_waits silent running)

theorem Settling.ended (h : Settling sees v c) (stops : advance? source c = none) :
    ∃ result, c.session.result? = some result := by
  cases running : c.session.result? with
  | some result => exact ⟨result, rfl⟩
  | none =>
    unfold advance? at stops
    split at stops
    · cases stops
    · next silent =>
      obtain ⟨e, arrives⟩ := arrives_of_closed h.closed
      simp only [listens_of_running silent running, if_true, arrives] at stops
      cases stops

theorem Settling.settleFor_ended (shows : source.Shows sees)
    (few : ∀ source, (v.entries source).length ≤ size)
    (sorted : ∀ source, Ordered (v.entries source)) (fuel : Nat) (h : Settling sees v c)
    (enough : c.ahead v size < fuel) :
    ∃ result, (Connection.settleFor source fuel c).session.result? = some result := by
  induction fuel generalizing c with
  | zero => exact absurd enough (Nat.not_lt_zero _)
  | succ fuel ih =>
    rw [Connection.settleFor]
    split
    · next next adv =>
      have less := h.ahead_of_advance shows few sorted (advance_of_advance? adv)
      exact ih (h.advance shows (advance_of_advance? adv)).1 (by omega)
    · next stops => exact h.ended stops

section

variable {stream : StreamSettings} {settings : SessionSettings} {bytes : List UInt8}
  {lines : List String} (ctx : SourceContext) (derived : stream.session = .ok settings)
  (said : Inbox.Says bytes lines) (now : Span)

include derived said

/-- A connection whose client has said all, to a log in order, comes to an end without more ado, and
the client has read the transcript of what it said. -/
theorem settle_reads (shows : source.Shows sees) {log : σ} (shown : sees log v)
    (ordered : ∀ source, Ordered (v.entries source)) :
    let session := ((saying ctx settings bytes log now).settle source).session
    ∃ e, session.result? = some (.ok e) ∧
      (transcript ctx v lines).Read session.outbox.sent e := by
  intro session
  have begins : Settling sees v (saying ctx settings bytes log now) := ⟨shown, rfl⟩
  have enough : (saying ctx settings bytes log now).ahead v (source.size log) <
      eventsNow source (saying ctx settings bytes log now) := by
    show 2 * bytes.length + source.size log + 9 < 4 * (bytes.length + source.size log) + 64
    omega
  obtain ⟨es, still, ran⟩ := begins.settleFor shows _
  obtain ⟨result, ended⟩ := begins.settleFor_ended shows (shows.large shown) ordered _ enough
  have same : session = ((Dialogue.create ctx settings v bytes now).run es).live.session :=
    congrArg (fun d => d.live.session) ran
  have reads := Dialogue.transcript_of_still ctx (Dialogue.one_le_batch derived) ordered said now
    es still result
  rw [← same] at reads
  obtain ⟨e, ok, read⟩ := reads ended
  rw [ok] at ended
  exact ⟨e, ended, read⟩

theorem settle_reads_memory {log : MemoryLog} (working : log.health = .working)
    (ordered : ∀ source, Ordered (log.entriesOf source)) :
    let session := ((saying ctx settings bytes log now).settle MemoryLog.source).session
    ∃ e, session.result? = some (.ok e) ∧
      (transcript ctx log.view lines).Read session.outbox.sent e :=
  settle_reads ctx derived said now MemoryLog.source_shows ⟨working, rfl⟩ ordered

theorem settle_reads_store {store : Store} (readable : store.Readable)
    (ordered : ∀ source, Ordered (store.view.entries source)) :
    let session := ((saying ctx settings bytes store now).settle Store.source).session
    ∃ e, session.result? = some (.ok e) ∧
      (transcript ctx store.view lines).Read session.outbox.sent e :=
  settle_reads ctx derived said now Store.source_shows ⟨readable, rfl⟩ ordered

end

/-- A client that asks for a range is sent the entries of the range, and can decode them. -/
theorem settle_decodes (shows : source.Shows sees) {stream : StreamSettings}
    {settings : SessionSettings} {bytes : List UInt8} {line : String} {ctx : SourceContext}
    {log : σ} {self : Source} {first : Int} {final : Request.RangeEnd} {r : SerialRange}
    {text : String} (derived : stream.session = .ok settings) (said : Inbox.Says bytes [line])
    (shown : sees log v) (ordered : ∀ source, Ordered (v.entries source)) (now : Span)
    (parsed : Request.parse ctx line = .ok (.changes self first final false))
    (range : serialRange (v.entries self) = some r)
    (served : changesText self first final false (v.entries self) = .ok text)
    (oneLine : '\n' ∉ self.name.toList) (readable : Readable (v.entries self)) :
    let session := ((saying ctx settings bytes log now).settle source).session
    session.result? = some (.ok .completed) ∧
      Frame.ofStream? session.outbox.sent = some
        ((entriesBetween first (final.resolve r.last) (v.entries self)).map Frame.ofEntry) := by
  intro session
  obtain ⟨e, ended, ends, frames, part, sent⟩ :=
    settle_reads ctx derived said now shows shown ordered
  have whole : transcript ctx v [line] = ⟨text, [], .completed⟩ := by
    simp only [transcript, answer, parsed, served, Except.map, Bool.false_eq_true, if_false]
  rw [whole] at ends part sent
  subst ends
  obtain rfl : frames = [] := List.prefix_nil.mp part
  have same : session.outbox.sent = text := sent.trans String.append_empty
  exact ⟨ended, same ▸ ofStream?_changesText oneLine range served readable⟩

end Connection

end RegistryFeed
