import RegistryFeed.Publication.Site
import RegistryFeed.Server.Address
import RegistryFeed.Store.Disk

/-! # The host of an engine

What an engine finds around it: the database that its settings lead to, with the clock and perhaps a
change log of another program, the disk on which a database can be made, and the addresses at which
a server can wait. Other generators may work on the same database. -/
namespace RegistryFeed

/-- What an engine is started on, with the identifier that a chain begun now gets. -/
structure Host where
  site : Site
  session : String
  disk : Disk
deriving Repr

namespace Host

def create (site : Site) (session : String) : Host := ⟨site, session, .usual⟩

/-- Opens the store at a location and writes to it. One that is gone when it is closed is new. -/
def openAt (host : Host) (l : StoreLocation) : Except StoreFault Host := do
  let o ← Opening.ofLocation l
  if !o.isVolatile then
    (host.disk.openFile o).mapError .opening
    return host
  else match o.volatileFault? with
    | some cause => throw (.opening cause)
    | none => return { host with site := { host.site with store := .empty } }

def openStore (host : Host) (s : StoreSettings) : Except EngineError Host :=
  match s.location with
  | .error cause => .error (.config (.location cause))
  | .ok l => (host.openAt l).mapError .store

/-- The address at which a server waits, if it can be had. -/
def bind (text : String) : Except EngineError SocketAddress :=
  match SocketAddress.ofText? text with
  | none => .error (.config .bindAddress)
  | some a => match a.refusal? with
    | some fault => .error (.io fault)
    | none => .ok a

/-- The latest serial of the log that is served and published from. -/
def latestSerial (host : Host) (source : Source) : Except EngineError (Option Int) × Host :=
  match host.site.memory with
  | some log =>
    let (result, log) := log.latestSerial source
    (result, { host with site := { host.site with memory := some log } })
  | none => (.ok (host.site.store.latestSerial source), host)

end Host

end RegistryFeed
