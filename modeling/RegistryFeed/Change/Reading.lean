import RegistryFeed.Change.Entry
import RegistryFeed.Error
import RegistryFeed.Publication.Version

/-! # Reading a change log

Readers put questions to a log and may wait for the replies while the log grows: for the range of
serials that can be served, for a page of entries after a position, and for the latest published
version. -/
namespace RegistryFeed

inductive Reading
  | range (source : Source)
  | page (source : Source) (after : Int) (max : Nat)
  | latest (source : Source)
deriving DecidableEq, Repr

inductive Reply
  | range (result : Except EngineError (Option SerialRange))
  | page (result : Except EngineError (List Entry))
  | latest (result : Except EngineError (Option VersionInfo))
deriving Repr

/-- A change log as its readers see it: it replies to a reading, may change by it, and has so many
entries. -/
structure LogSource (σ : Type) where
  reply : σ → Reading → Reply × σ
  size : σ → Nat

end RegistryFeed
