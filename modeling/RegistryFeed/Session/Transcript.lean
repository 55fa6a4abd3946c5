import RegistryFeed.Session.Machine

/-! # Transcripts

What a client is to read, said from the log as a whole: neither pages nor cursors nor waiting. Each
line gets its answer until one is accepted, which is the last; the answer to a keepalive request
may go on with the frames of later entries. -/
namespace RegistryFeed

/-- What is known of each source. -/
structure LogView where
  entries : Source → List Entry
  latest : Source → Option VersionInfo

def framesText (es : List Entry) : String := String.join (es.map fun e => (Frame.ofEntry e).text)

/-- The entries with serials from `first` to `last`. -/
def entriesBetween (first last : Int) (es : List Entry) : List Entry :=
  es.filter fun e => first ≤ e.serial ∧ e.serial ≤ last

/-- The answer to a request for changes, without what a keepalive adds later. It is refused if the
log has no entries, begins after the first serial, or ends before either serial. -/
def changesText (source : Source) (first : Int) (final : Request.RangeEnd) (keepalive : Bool)
    (es : List Entry) : Except Request.Fault String :=
  match serialRange es with
  | none => .error (.outOfRange 0 0)
  | some r =>
    let last := final.resolve r.last
    if first < r.first ∨ r.last < first ∨ r.last < last then .error (.outOfRange r.first r.last)
    else .ok (startText source first last ++ framesText (entriesBetween first last es) ++
      if keepalive then "" else endText source)

/-- How an answer to an information query begins. -/
def heading : Request.InfoOption → String
  | .sources => ""
  | .version => serverVersionLine ++ "\n"

/-- What such an answer says of one source: its serials, or these and its latest version. -/
def partText (v : LogView) : Request.InfoOption → Source → String
  | .sources, s => sourceLine s (serialRange (v.entries s))
  | .version, s =>
    serialsLine s (serialRange (v.entries s)) ++ ((v.latest s).map (versionLine s)).getD ""

def infoText (ctx : SourceContext) (v : LogView) (option : Request.InfoOption) : String :=
  heading option ++ String.join (ctx.servable.map (partText v option)) ++ "\n"

/-- What a client is to read, which entries may follow, and how its session ends. -/
structure Transcript where
  text : String
  later : List Entry
  ends : SessionEnd
deriving DecidableEq, Repr

/-- The entries beyond the end of a range. -/
def entriesBeyond (final : Request.RangeEnd) (es : List Entry) : List Entry :=
  match serialRange es with
  | some r => entriesAfter es (final.resolve r.last)
  | none => []

/-- The answer to a line; a keepalive request is answered until the client closes. -/
def answer (ctx : SourceContext) (v : LogView) (line : String) :
    Except Request.Fault Transcript :=
  match Request.parse ctx line with
  | .error f => .error f
  | .ok (.info _ option) => .ok ⟨infoText ctx v option, [], .completed⟩
  | .ok (.changes source first final keepalive) =>
    (changesText source first final keepalive (v.entries source)).map fun text =>
      if keepalive then ⟨text, entriesBeyond final (v.entries source), .clientClosed⟩
      else ⟨text, [], .completed⟩

/-- The answer to a rejected line. -/
def rejectionText (f : Request.Fault) : String := f.line ++ "\n\n"

/-- The answers to the lines of a client, up to the first that is accepted. -/
def transcript (ctx : SourceContext) (v : LogView) : List String → Transcript
  | [] => ⟨"", [], .clientClosed⟩
  | line :: rest =>
    match answer ctx v line with
    | .ok t => t
    | .error f =>
      let t := transcript ctx v rest
      { t with text := rejectionText f ++ t.text }

end RegistryFeed
