import RegistryFeed.Text.Quoted

/-! # Rejected requests

A request line that cannot be served is answered by one line with a code and a reason. Faults are
causes; the five codes and the wording are functions of the cause. -/
namespace RegistryFeed.Request

/-- The flags of a request line. -/
inductive Flag
  | info
  | changes
  | keepalive
deriving DecidableEq, Repr

def Flag.token : Flag → String
  | .info => "-q"
  | .changes => "-g"
  | .keepalive => "-k"

def Flag.ofToken? (token : String) : Option Flag :=
  if token = "-q" then some .info
  else if token = "-g" then some .changes
  else if token = "-k" then some .keepalive
  else none

theorem Flag.ofToken?_token (f : Flag) : ofToken? f.token = some f := by
  cases f <;> decide

/-- The answer codes. -/
inductive Code
  | badRequest
  | outOfRange
  | notAuthorised
  | malformed
  | unsupportedVersion
deriving DecidableEq, Repr

def Code.number : Code → Nat
  | .badRequest => 400
  | .outOfRange => 401
  | .notAuthorised => 403
  | .malformed => 405
  | .unsupportedVersion => 406

def Code.text (c : Code) : String := Text.decimalNat c.number

/-- What is wrong with the flags and values of a line. -/
inductive OptionFault
  | needsValue (flag : Flag)
  | repeated (flag : Flag)
  | unknown (token : String)
  | stray (token : String)
  | other (detail : String)
deriving DecidableEq, Repr

def OptionFault.detail : OptionFault → String
  | .needsValue flag => flag.token ++ " requires an argument"
  | .repeated flag => flag.token ++ " given more than once"
  | .unknown token => "unknown option " ++ token
  | .stray token => "unexpected argument " ++ token
  | .other detail => detail

/-- What is wrong with the value of `-g`, where its source and its version are good. -/
inductive Malformed
  | fieldCount
  | noHyphen
  | notSerial (text : String)
  | serialTooLarge (text : String)
  | reversed
  | other (detail : String)
deriving DecidableEq, Repr

def Malformed.detail : Malformed → String
  | .fieldCount => "expected SOURCE:VERSION:RANGE"
  | .noHyphen => "range must be BEGIN-END"
  | .notSerial text => "invalid serial " ++ Text.quoted text
  | .serialTooLarge text => "serial out of range " ++ Text.quoted text
  | .reversed => "range end before begin"
  | .other detail => detail

/-- Why a request is rejected. -/
inductive Fault
  | emptyRequest
  | ambiguousRequest
  | keepaliveWithoutChanges
  | unknownInfoOption (value : String)
  | unknownSource (name : String)
  | malformed (cause : Malformed)
  | unsupportedVersion (requested : String)
  | outOfRange (first last : Int)
  | options (cause : OptionFault)
deriving DecidableEq, Repr

def Fault.code : Fault → Code
  | .emptyRequest | .ambiguousRequest | .keepaliveWithoutChanges | .unknownInfoOption _ =>
    .badRequest
  | .outOfRange _ _ => .outOfRange
  | .unknownSource _ => .notAuthorised
  | .malformed _ | .options _ => .malformed
  | .unsupportedVersion _ => .unsupportedVersion

/-- The reason a client reads. A malformed value is not described to it, a bad option is. -/
def Fault.reason : Fault → String
  | .emptyRequest => "empty request"
  | .ambiguousRequest => "ambiguous request: use exactly one of -q or -g"
  | .keepaliveWithoutChanges => "-k is only allowed with -g"
  | .unknownInfoOption value => "invalid -q option: " ++ value
  | .unknownSource name => "not authorised to mirror " ++ name
  | .malformed _ => "syntax error"
  | .unsupportedVersion requested => "unsupported protocol version: " ++ requested
  | .outOfRange first last =>
    "invalid range: Not within " ++ Text.decimal first ++ "-" ++ Text.decimal last
  | .options cause => cause.detail

/-- The line sent to the client. -/
def Fault.line (f : Fault) : String := "ERROR:" ++ f.code.text ++ " " ++ f.reason

/-- The text for the operator: the line sent, but for faults found before any meaning was given to
the line. -/
def Fault.message : Fault → String
  | .options cause => "option syntax error: " ++ cause.detail
  | f => f.line

end RegistryFeed.Request
