import FieldMask.Config.Compile
import FieldMask.Engine
import FieldMask.Environment

/-!
# `FieldMask.Exchange`: masking what crosses a boundary

An `Exchange` masks the requests that leave a system and the responses that come back.
`Exchange.create` builds one from options, a configuration file and the environment, or around an
engine that is given. `onRequest` masks a body that is a JSON object; `onResponse` masks a body
that is the text of one, unless it is streamed.

A hook gives a `Reply`: the message as it was, or a message with another body. What masking could
not handle is passed on as it was, unless the engine fails closed. A `HookRun` keeps the lines of
the engine's own log apart; they come before the others.
-/

set_option autoImplicit false

namespace FieldMask

/-- What an exchange is told. -/
structure ExchangeOptions where
  options : Options := {}
  configFile : Option Text := none
  /-- An engine that is there already. Nothing else is then looked at. -/
  engine : Option Engine := none
  /-- The masked fields are logged. -/
  verbose : Bool := false

/-- An exchange. -/
structure Exchange where
  engine : Engine
  verbose : Bool

/-- The values of a header. -/
inductive HeaderValue where
  | single (value : Text)
  | several (values : List Text)
  deriving DecidableEq, Repr

/-- A message on its way out. -/
structure Request where
  path : Text
  session : Option Text
  headers : List (Text × HeaderValue)
  body : Json
  deriving DecidableEq

/-- A message on its way back. -/
structure Response where
  status : Int
  session : Option Text
  headers : List (Text × HeaderValue)
  body : Text
  isStreaming : Bool
  deriving DecidableEq, Repr

/-- What a hook does with a message. -/
inductive Reply (α : Type) where
  /-- The message goes on as it was. -/
  | asReceived
  /-- This message goes on in its place. -/
  | rewritten (message : α)
  deriving DecidableEq

/-- What comes of a hook. -/
structure HookRun (α : Type) where
  result : Except Failure (Reply α)
  engineLog : List LogLine
  log : List LogLine
  deriving DecidableEq

namespace Exchange

/-- The engine of an exchange: the one that is given, or one by the options over those of the file,
the environment and the defaults. -/
def resolveEngine (o : ExchangeOptions) (env : Environment) (read : FileReader) :
    Except ConfigError Engine :=
  match o.engine with
  | some engine => .ok engine
  | none => do
    let file ← Config.loadNamed read o.configFile
    return Engine.create ((o.options.orElse file).resolve env)

/-- Builds an exchange. Its settings are logged if it is verbose. -/
def create (o : ExchangeOptions) (env : Environment) (read : FileReader) :
    Except ConfigError (Exchange × List LogLine) := do
  let engine ← resolveEngine o env read
  return (⟨engine, o.verbose⟩, if o.verbose then [.info engine.settings.describe] else [])

/-- The wording of the session in a report. -/
def sessionMark : Option Text → Text
  | none | some [] => []
  | some session => (" [" : Text) ++ session ++ ("]" : Text)

/-- The report of masked fields, if there are any and the exchange is verbose. -/
def report (x : Exchange) (direction : Text) (session : Option Text) (tally : Tally) :
    List LogLine :=
  if x.verbose && tally.total != 0 then
    [.info (direction ++ sessionMark session ++ (" Masked " : Text) ++ Text.ofNat tally.total ++
      (" field(s): " : Text) ++ tally.details)]
  else []

/-- Masks the body of a request, if it is an object. -/
def onRequest (x : Exchange) (request : Request) : HookRun Request :=
  match x.engine.settings.enabled, request.body with
  | true, .object members =>
    let walked := x.engine.maskObject members Tally.empty
    match walked.refusal with
    | some r =>
      let f := Failure.internal r
      if x.engine.settings.failClosed then
        ⟨.error f, [], [.error "Rejecting request" (some f.message)]⟩
      else ⟨.ok .asReceived, [], [.error "Forwarding request unmasked" (some f.message)]⟩
    | none =>
      let reply :=
        if walked.tally.total = 0 then .asReceived
        else .rewritten { request with body := .object walked.value }
      ⟨.ok reply, [], x.report "request" request.session walked.tally⟩
  | _, _ => ⟨.ok .asReceived, [], []⟩

/-- Masks the body of a response, if it is not streamed. -/
def onResponse (x : Exchange) (response : Response) : HookRun Response :=
  if response.isStreaming then ⟨.ok .asReceived, [], []⟩
  else
    let run := x.engine.maskDocument response.body Tally.empty
    match run.result with
    | .error f => ⟨.error f, run.log, [.error "Rejecting response" (some f.message)]⟩
    | .ok body =>
      let reply :=
        if run.tally.total = 0 then .asReceived else .rewritten { response with body }
      ⟨.ok reply, run.log, x.report "response" response.session run.tally⟩

end Exchange

end FieldMask
