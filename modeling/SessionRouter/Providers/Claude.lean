import SessionRouter.Lib.Json
import SessionRouter.Protocol.Names
import SessionRouter.Providers.Ledger

/-!
The actor of a Claude child behind its bridge.
-/

namespace SessionRouter.Providers

def providerDeadlineMargin : ℕ := 100

structure ClaudeTurn where
  requestId : String
  rpcId : ℕ
  /-- The command that waits for the result. -/
  result : Option ℕ
  deadline : Instant
  closeDeadline : Option Instant
  cancelRpcId : Option ℕ
  shutdownRpcId : Option ℕ
  terminalSent : Bool
  terminalReason : TerminalReason

/-- The loop runs and may owe an answer to a close, has stopped, or the actor has ended. How the
child is reaped depends on whether it was shut down gracefully, its outcome does not. -/
inductive ClaudePhase where
  | running (closing : Bool)
  | stopping (error : ProviderError) (close graceful : Bool)
  | finished
  deriving DecidableEq

structure Claude where
  active : Option ClaudeTurn := none
  state : ProviderState := .idle
  nextRpcId : ℕ := 2
  sessionId : Option Uuid := none
  phase : ClaudePhase := .running false
  log : Log := []

namespace Claude

inductive WireEvent where
  | message (value : Value)
  | protocolError
  | eof

/-- Whether the bytes of the frames reach the child; a failed write may reach it in part. -/
abbrev Io := Except ProviderError Unit

inductive Input where
  | handle (request : SessionRequest) (now : Instant) (io : Io)
  | cancel (requestId : String) (reason : CancelReason) (now : Instant) (io : Io)
  | close (now : Instant) (io : Io)
  /-- No one is left to send commands. -/
  | disconnected
  | wire (event : WireEvent) (now : Instant) (io : Io)
  | requestDeadline (now : Instant) (io : Io)
  | closeDeadline (now : Instant)
  /-- The child has ended, or it cannot be told. -/
  | childExited
  | reap (reaped : Bool)

def writeFrame (message : JsonValue) (io : Io) : Io :=
  if maxProviderFrameBytes < message.encodedLen then .error .bridgeProtocolError else io

def turnFrame (rpcId : ℕ) (request : SessionRequest) (now : Instant) : JsonValue :=
  .obj [("v", .num 1), ("id", .num rpcId), ("method", .str "turn"),
    ("params", .obj [("requestId", .str request.requestId), ("prompt", .str request.content),
      ("timeoutMs", .num (max (request.deadline - now) 1))])]

def validateResponseEnvelope (value : Value) (expectedId : ℕ) : Except ProviderError Unit :=
  if (value.get "v").bind Value.asU64 ≠ some 1 ||
      (value.get "id").bind Value.asU64 ≠ some expectedId then .error .bridgeProtocolError
  else
    match (value.get "ok").bind Value.asBool, value.get "result", value.get "error" with
    | some true, some _, none => .ok ()
    | some false, none, some _ => .ok ()
    | _, _, _ => .error .bridgeProtocolError

def mapBridgeError (response : Value) : ProviderError :=
  match ((response.get "error").bind (·.get "code")).bind Value.asStr with
  | some "claude_initialize_failed" => .claudeInitializeFailed
  | some "request_timeout" => .requestTimeout
  | some "provider_disconnected" => .providerDisconnected
  | some "error_max_turns" | some "claude_max_turns" => .claudeMaxTurns
  | some "error_max_budget_usd" | some "claude_max_budget" => .claudeMaxBudget
  | some "error_max_structured_output_retries" | some "claude_structured_output_error" =>
    .claudeStructuredOutputError
  | some "claude_no_result" => .claudeNoResult
  | some "claude_sdk_error" => .claudeSdkError
  | some "claude_protocol_error" => .claudeProtocolError
  | some "bridge_protocol_error" | some "session_busy" | none => .bridgeProtocolError
  | some _ => .claudeExecutionError

/-- The errors after which the session cannot go on. -/
def endsSession : ProviderError → Bool
  | .requestTimeout | .providerDisconnected | .claudeProtocolError | .bridgeProtocolError => true
  | _ => false

def stop (a : Claude) (error : ProviderError) (close : Bool) : Claude :=
  { a with phase := .stopping error close false }

def give (a : Claude) (entry : Entry) : Claude := { a with log := a.log ++ [entry] }

/-- The answer to an earlier close that is dropped. -/
def dropClose (a : Claude) (closing : Bool) : Claude :=
  if closing then a.give (.reply (.error .providerDisconnected)) else a

def refuse (a : Claude) (error : ProviderError) : Claude :=
  { a with log := a.log ++
      [.command a.log.commands, .result a.log.commands (.failure error)] }

def settle (a : Claude) (turn : ClaudeTurn) (result : SessionResult) : Claude :=
  { a with
    active := some { turn with result := none }
    log := a.log.settle turn.result result }

def startTurn (a : Claude) (closing : Bool) (request : SessionRequest) (now : Instant) (io : Io) :
    Claude :=
  if a.active.isSome then a.refuse .sessionBusy
  else if a.state ≠ .idle then a.refuse .providerNotReady
  else if request.deadline ≤ now then a.refuse .requestTimeout
  else
    let n := a.log.commands
    let rpcId := a.nextRpcId
    let a := { a with
      nextRpcId := nextRpc rpcId
      log := a.log ++ [Entry.command n, .turn n request.requestId rpcId] }
    match writeFrame (turnFrame rpcId request now) io with
    | .error _ =>
      ((a.give (.result n (.failure .providerDisconnected))).dropClose closing).stop
        .providerDisconnected false
    | .ok () =>
      { a with
        state := .running
        active := some {
          requestId := request.requestId
          rpcId := rpcId
          result := some n
          deadline := max (request.deadline - providerDeadlineMargin) now
          closeDeadline := none
          cancelRpcId := none
          shutdownRpcId := none
          terminalSent := false
          terminalReason := .turnEnded } }

/-- A cancel and a shutdown are written to the bridge. -/
def beginClose (a : Claude) (turn : ClaudeTurn) (now : Instant) (io : Io) :
    Except ProviderError Unit × Claude :=
  let cancelId := a.nextRpcId
  let shutdownId := nextRpc cancelId
  let a := { a with nextRpcId := nextRpc shutdownId }
  match io with
  | .error e => (.error e, { a with active := some turn })
  | .ok () => (.ok (), { a with
      state := .cancelling
      active := some { turn with
        cancelRpcId := some cancelId
        shutdownRpcId := some shutdownId
        closeDeadline := some (now + providerTerminalGrace) } })

/-- The turn is to end: its result is given, and the bridge is asked to close. -/
def endTurn (a : Claude) (turn : ClaudeTurn) (error : ProviderError) (reason : TerminalReason)
    (now : Instant) (io : Io) : Except ProviderError Unit × Claude :=
  (a.settle turn (.failure error)).beginClose
    { turn with result := none, terminalReason := reason } now io

def cancelTurn (a : Claude) (closing : Bool) (requestId : String) (reason : CancelReason)
    (now : Instant) (io : Io) : Claude :=
  match a.active with
  | none => a.give (.reply (.error .providerNotReady))
  | some turn =>
    if turn.requestId ≠ requestId then a.give (.reply (.error .providerNotReady))
    else if turn.closeDeadline.isNone then
      let error := if reason = .requestTimeout then .requestTimeout else .providerDisconnected
      match a.endTurn turn error reason.terminal now io with
      | (.error _, a) => ((a.give (.reply (.error .providerDisconnected))).dropClose closing).stop
          .providerDisconnected false
      | (.ok (), a) => a.give (.reply (.ok ()))
    else a.give (.reply (.ok ()))

/-- An idle bridge is shut down at once, an open turn is ended first. -/
def closeActor (a : Claude) (closing : Bool) (now : Instant) (io : Io) : Claude :=
  match a.active with
  | some turn =>
    match a.endTurn turn .providerDisconnected .sessionEnded now io with
    | (.error _, a) => (a.dropClose closing).stop .providerDisconnected true
    | (.ok (), a) => { a.dropClose closing with phase := .running true }
  | none =>
    { a.dropClose closing with phase := .stopping .providerDisconnected true io.isOk }

section

variable (parseUuid : String → Option Uuid)

def parseSessionId (value : Value) : Except ProviderError Uuid :=
  match value.asStr.bind parseUuid with
  | some id => .ok id
  | none => .error .claudeProtocolError

/-- The result of a turn and the session it names. -/
def decodeTurnResult (response : Value) : Except ProviderError (SessionResult × Option Uuid) :=
  if (response.get "ok").bind Value.asBool = some false then
    match (response.get "error").bind (·.get "sessionId") with
    | some value =>
      match parseSessionId parseUuid value with
      | .ok id => .ok (.failure (mapBridgeError response), some id)
      | .error e => .error e
    | none => .ok (.failure (mapBridgeError response), none)
  else
    match (response.get "result").filter (·.asObject.isSome) with
    | none => .error .bridgeProtocolError
    | some result =>
      match result.get "sessionId" with
      | none => .error .bridgeProtocolError
      | some value =>
        match parseSessionId parseUuid value with
        | .error e => .error e
        | .ok id =>
          match (result.get "content").bind Value.asStr with
          | some content => .ok (.success content, some id)
          | none => .ok (.failure .claudeNoResult, some id)

def tell (a : Claude) (turn : ClaudeTurn) : Claude :=
  { a with
    active := some { turn with terminalSent := true }
    log := a.log ++ [.evidence {
      requestId := turn.requestId, reason := turn.terminalReason, childReaped := false }] }

/-- The turn has ended, and so has the session. -/
def endSession (a : Claude) (turn : ClaudeTurn) (error : ProviderError) (now : Instant) (io : Io) :
    Except ProviderError Unit × Claude :=
  let reason := if error = .requestTimeout then .requestTimeout else .hostError
  let ended := { turn with result := none, terminalReason := reason }
  ((a.settle turn (.failure error)).tell ended).beginClose
    { ended with terminalSent := true } now io

def complete (a : Claude) (turn : ClaudeTurn) (result : SessionResult) : Claude :=
  let a := a.settle turn result
  { a with
    active := none
    state := .idle
    log := a.log ++ [.evidence {
      requestId := turn.requestId, reason := .turnEnded, childReaped := false }] }

/-- The bridge answers a turn. -/
def processTurn (a : Claude) (turn : ClaudeTurn) (value : Value) (now : Instant) (io : Io) :
    Except ProviderError Unit × Claude :=
  match validateResponseEnvelope value turn.rpcId with
  | .error e => (.error e, a)
  | .ok () =>
    match decodeTurnResult parseUuid value with
    | .error e => (.error e, a)
    | .ok (result, sessionId) =>
      let a := { a with sessionId := sessionId <|> a.sessionId }
      if turn.closeDeadline.isSome then
        if turn.terminalSent then (.ok (), a) else (.ok (), a.tell turn)
      else
        match result with
        | .failure error =>
          if endsSession error then a.endSession turn error now io
          else (.ok (), a.complete turn (.failure error))
        | .success content => (.ok (), a.complete turn (.success content))

/-- The bridge answers a cancel or a shutdown with a field of its result. -/
def processAnswer (a : Claude) (turn next : ClaudeTurn) (value : Value) (id : ℕ)
    (accepts : Value → Bool) : Except ProviderError Unit × Claude :=
  match validateResponseEnvelope value id with
  | .error e => (.error e, { a with active := some turn })
  | .ok () =>
    if (value.get "result").any accepts then (.ok (), { a with active := some next })
    else (.error .bridgeProtocolError, { a with active := some turn })

def processResponse (a : Claude) (value : Value) (now : Instant) (io : Io) :
    Except ProviderError Unit × Claude :=
  match a.active, (value.get "id").bind Value.asU64 with
  | some turn, some id =>
    if id = turn.rpcId then a.processTurn parseUuid turn value now io
    else if turn.cancelRpcId = some id then
      a.processAnswer turn { turn with cancelRpcId := none } value id fun result =>
        ((result.get "cancelled").bind Value.asBool).isSome
    else if turn.shutdownRpcId = some id then
      a.processAnswer turn { turn with shutdownRpcId := none } value id fun result =>
        (result.get "state").bind Value.asStr = some "closed"
    else (.error .claudeProtocolError, a)
  | _, _ => (.error .claudeProtocolError, a)

def handleWireEvent (a : Claude) (event : WireEvent) (now : Instant) (io : Io) :
    Except ProviderError Unit × Claude :=
  match event with
  | .message value => (a.give (.message value)).processResponse parseUuid value now io
  | .protocolError => (.error .bridgeProtocolError, a)
  | .eof => (.error .providerDisconnected, a)

end

/-- The deadline of the request is watched until the bridge is asked to close. -/
def requestDue (a : Claude) (now : Instant) : Option ClaudeTurn :=
  a.active.filter fun turn => turn.closeDeadline.isNone && turn.deadline ≤ now

def closeDue (a : Claude) (now : Instant) : Bool :=
  a.active.any fun turn => turn.closeDeadline.any (· ≤ now)

def handleRequestTimeout (a : Claude) (turn : ClaudeTurn) (now : Instant) (io : Io) :
    Except ProviderError Unit × Claude :=
  a.endTurn turn .requestTimeout .requestTimeout now io

/-- What the caller of an unfinished turn sees. -/
def visible : ProviderError → ProviderError
  | .requestTimeout => .requestTimeout
  | .bridgeProtocolError => .bridgeProtocolError
  | .claudeProtocolError => .claudeProtocolError
  | _ => .providerDisconnected

def finishOpen (a : Claude) (error : ProviderError) (reaped : Bool) : Claude :=
  match a.active with
  | none => a
  | some turn =>
    let a := a.settle turn (.failure (visible error))
    if turn.terminalSent then { a with active := none }
    else { a with
      active := none
      log := a.log ++ [.evidence {
        requestId := turn.requestId, reason := turn.terminalReason, childReaped := reaped }] }

def finishActor (a : Claude) (error : ProviderError) (close reaped : Bool) : Claude :=
  let a := if reaped then a.give .reaped else a
  let a := finishOpen { a with state := .closed, phase := .finished } error reaped
  if close then a.give (.reply (.ok ())) else a

section

variable (parseUuid : String → Option Uuid)

/-- One turn of the loop. -/
def loop (a : Claude) (closing : Bool) (input : Input) : Claude :=
  match input with
  | .handle request now io => a.startTurn closing request now io
  | .cancel requestId reason now io => a.cancelTurn closing requestId reason now io
  | .close now io => a.closeActor closing now io
  | .disconnected => a.stop .providerDisconnected closing
  | .wire event now io =>
    match a.handleWireEvent parseUuid event now io with
    | (.error e, a) => a.stop e closing
    | (.ok (), a) => a
  | .requestDeadline now io =>
    match a.requestDue now with
    | none => a
    | some turn =>
      match a.handleRequestTimeout turn now io with
      | (.error _, a) => a.stop .providerDisconnected closing
      | (.ok (), a) => a
  | .closeDeadline now => if a.closeDue now then a.stop .requestTimeout closing else a
  | .childExited => a.stop .providerDisconnected closing
  | .reap _ => a

/-- A command that the actor no longer takes is answered by its dropped reply. -/
def step (a : Claude) (input : Input) : Claude :=
  match a.phase, input with
  | .running closing, input => a.loop parseUuid closing input
  | .stopping error close _, .reap reaped => a.finishActor error close reaped
  | _, .handle .. => a.refuse .providerDisconnected
  | _, .cancel .. | _, .close .. => a.give (.reply (.error .providerDisconnected))
  | _, _ => a

def run (a : Claude) (inputs : List Input) : Claude := inputs.foldl (step parseUuid) a

end

end Claude

end SessionRouter.Providers
