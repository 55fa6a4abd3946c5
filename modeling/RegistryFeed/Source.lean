import RegistryFeed.Text.Ascii

/-! # Sources

A source is a registry database under one name. A client of a feed sees one authoritative source and
at most one non-authoritative source; names are looked up without regard to ASCII case and answered
in their configured spelling. -/
namespace RegistryFeed

structure Source where
  name : String
deriving DecidableEq, Repr

def Source.answersTo (s : Source) (text : String) : Bool := Text.sameWord s.name text

/-- The name of the lock that guards the version chain of a source. -/
def Source.lockName (s : Source) : String := "nrtm4-generation:" ++ s.name

/-- What one client may ask for. -/
structure SourceContext where
  authoritative : Source
  nonAuthoritative : Option Source
deriving DecidableEq, Repr

/-- The sources of a context, the authoritative one first. -/
def SourceContext.servable (ctx : SourceContext) : List Source :=
  ctx.authoritative :: ctx.nonAuthoritative.toList

/-- The first source that answers to the text. -/
def SourceContext.resolve (ctx : SourceContext) (text : String) : Option Source :=
  ctx.servable.find? (·.answersTo text)

end RegistryFeed
