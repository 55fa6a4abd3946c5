import RegistryFeed.Server.Address
import RegistryFeed.Session.Machine

/-! # The streaming server

A server waits at an address for connections and serves each in a session of its own. Every session
holds a slot from its first to its last moment, however it ends; a connection that finds no slot
free is closed without a word. Once the server notices the shutdown signal it accepts nothing more,
and the sessions that are left end by themselves or are aborted. -/
namespace RegistryFeed

/-- A session with the permit for its slot. -/
structure ServedSession where
  permit : Nat
  session : Session
deriving Repr

structure Server where
  address : SocketAddress
  context : SourceContext
  settings : SessionSettings
  slots : Slots
  sessions : List ServedSession
  signal : Signal
  accepting : Bool
  observed : List Observation
deriving Repr

namespace Server

/-- A client connects, something happens in a session or to the shutdown signal, or the server
notices that the signal has changed, whatever its value. A session that does not end in time after
that is cut off. -/
inductive Event
  | arrival
  | inSession (permit : Nat) (e : Session.Event)
  | signal (value : Bool)
  | detached
  | notice
  | aborted (permit : Nat)
deriving Repr

def create (address : SocketAddress) (context : SourceContext) (settings : SessionSettings)
    (slots : Slots) : Server :=
  ⟨address, context, settings, slots, [], .quiet, true, []⟩

/-- The number of slots that are taken. -/
def active (s : Server) : Nat := s.slots.capacity - s.slots.available

def observe (s : Server) (os : List Observation) : Server :=
  { s with observed := s.observed ++ os }

def find? (s : Server) (permit : Nat) : Option Session :=
  (s.sessions.find? (·.permit = permit)).map (·.session)

/-- Serves a new connection, or refuses it. -/
def accept (s : Server) (now : Span) : Server :=
  match s.slots.take? with
  | none => s.observe [.sessionRejected]
  | some (permit, slots) =>
    let served : ServedSession := ⟨permit, .create s.context s.settings s.signal now⟩
    let s := { s with slots := slots, sessions := s.sessions ++ [served] }
    s.observe [.activeSessions s.active]

/-- A session is over: its slot is free again. -/
def drop (s : Server) (permit : Nat) : Server :=
  { s with
    slots := s.slots.giveBack permit
    sessions := s.sessions.filter (·.permit ≠ permit) }

/-- Goes on with the session of a permit after a step of it. -/
def update (s : Server) (permit : Nat) (session : Session) : Server :=
  match session.result? with
  | some _ =>
    let s := s.drop permit
    s.observe (session.observed ++ [.activeSessions s.active])
  | none =>
    { s with sessions := s.sessions.map fun t =>
        if t.permit = permit then { t with session := session } else t }

/-- Tells all sessions. -/
def tell (s : Server) (now : Span) (e : Session.Event) : Server :=
  { s with sessions := s.sessions.map fun t => { t with session := t.session.step now e } }

def step (s : Server) (now : Span) : Event → Server
  | .arrival => if s.accepting then s.accept now else s
  | .inSession permit e =>
    match s.find? permit with
    | some session => s.update permit (session.step now e)
    | none => s
  | .signal value => { s with signal := s.signal.send value }.tell now (.signal value)
  | .detached => { s with signal := s.signal.detach }.tell now .detached
  | .notice => if s.signal.wakes then { s with accepting := false } else s
  | .aborted permit => if s.accepting then s else s.drop permit

/-- What becomes of a server when the events come one after another, each at its time. -/
def run (s : Server) (es : List (Span × Event)) : Server := es.foldl (fun s e => s.step e.1 e.2) s

end Server

end RegistryFeed
