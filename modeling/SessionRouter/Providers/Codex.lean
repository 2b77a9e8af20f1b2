import SessionRouter.Lib.Json
import SessionRouter.Providers.Ledger

/-!
The actor of a Codex child: commands, messages of the child and deadlines in any order, until it
stops and reaps the child.
-/

namespace SessionRouter.Providers

def maxEarlyNotifications : ℕ := 256

structure CodexTurn where
  requestId : String
  /-- The command that waits for the result. -/
  result : Option ℕ
  turnId : Option String
  startRpcId : ℕ
  startRpcDeadline : Instant
  deadline : Instant
  cancelDeadline : Option Instant
  interruptRpcId : Option ℕ
  interruptSent : Bool
  finalMessages : List String
  fallbackMessage : Option String
  earlyEvents : List Value
  earlyBytes : ℕ
  terminalReason : TerminalReason

/-- The loop runs, has stopped with an error, or the actor has ended. -/
inductive Phase where
  | running
  | stopping (error : ProviderError) (close : Bool)
  | finished
  deriving DecidableEq

structure Codex where
  active : Option CodexTurn := none
  state : ProviderState := .idle
  nextRpcId : ℕ := 3
  phase : Phase := .running
  log : Log := []

namespace Codex

inductive WireEvent where
  | message (value : Value) (bytes : ℕ)
  | protocolError
  | eof

/-- Whether the bytes of a frame reach the child; a failed write may reach it in part. -/
abbrev Io := Except ProviderError Unit

inductive Input where
  | handle (request : SessionRequest) (now : Instant) (io : Io)
  | cancel (requestId : String) (reason : CancelReason) (now : Instant) (io : Io)
  | close
  /-- No one is left to send commands. -/
  | disconnected
  | wire (event : WireEvent) (io : Io)
  | requestDeadline (now : Instant) (io : Io)
  | startDeadline (now : Instant)
  | cancelDeadline (now : Instant)
  /-- The child has ended, or it cannot be told. -/
  | childExited
  | reap (reaped : Bool)

def writeJsonLine (message : JsonValue) (io : Io) : Io :=
  if maxProviderFrameBytes < message.encodedLen then .error .codexProtocolError else io

def turnStart (threadId : String) (rpcId : ℕ) (content : String) : JsonValue :=
  .obj [("id", .num rpcId), ("method", .str "turn/start"),
    ("params", .obj [("threadId", .str threadId),
      ("input", .arr [.obj [("type", .str "text"), ("text", .str content)]])])]

def turnInterrupt (threadId : String) (rpcId : ℕ) (turnId : String) : JsonValue :=
  .obj [("id", .num rpcId), ("method", .str "turn/interrupt"),
    ("params", .obj [("threadId", .str threadId), ("turnId", .str turnId)])]

def validJsonRpcId : Value → Bool
  | .string _ | .posInt _ | .negInt _ => true
  | _ => false

def isServerRequest (value : Value) : Bool :=
  ((value.get "method").bind Value.asStr).isSome && (value.get "id").any validJsonRpcId

def responseId (value : Value) : Option ℕ :=
  if (value.get "method").isSome then none else (value.get "id").bind Value.asU64

/-- `response_result`, and the id of the turn that has started. -/
def startedTurn (value : Value) : Option String :=
  match value.get "result", value.get "error" with
  | some result, none =>
    (((result.get "turn").bind (·.get "id")).bind Value.asStr).filter (· ≠ "")
  | _, _ => none

def isRelevantNotification (threadId : String) (value : Value) : Bool :=
  let method := (value.get "method").bind Value.asStr
  (method = some "item/completed" || method = some "turn/completed") &&
    ((value.get "params").bind (·.get "threadId")).bind Value.asStr = some threadId

/-- The message of an agent that an item ends with. -/
def applyItem (turn : CodexTurn) (params : Value) : CodexTurn :=
  match (params.get "item").bind (·.get "type") |>.bind Value.asStr,
    (params.get "item").bind (·.get "text") |>.bind Value.asStr with
  | some "agentMessage", some text =>
    match (params.get "item").bind (·.get "phase") with
    | some (.string "final_answer") =>
      { turn with finalMessages := turn.finalMessages ++ [text] }
    | none => { turn with fallbackMessage := some text }
    | some _ => turn
  | _, _ => turn

/-- The status in which the turn of that id has ended. -/
def completedStatus (turnId : Option String) (params : Value) : Option String :=
  match (params.get "turn").filter (·.asObject.isSome) with
  | some completed =>
    if (completed.get "id").bind Value.asStr = turnId then
      (completed.get "status").bind Value.asStr
    else none
  | none => none

def completion (turn : CodexTurn) : String → SessionResult
  | "completed" =>
    match if turn.finalMessages.isEmpty then turn.fallbackMessage
      else some ("\n".intercalate turn.finalMessages) with
    | some content => .success content
    | none => .failure .codexNoFinalResponse
  | "interrupted" => .failure .codexTurnInterrupted
  | "failed" => .failure .codexTurnFailed
  | _ => .failure .codexProtocolError

def applyNotification (threadId : String) (turn : CodexTurn) (value : Value) :
    CodexTurn × Option SessionResult :=
  let method := (value.get "method").bind Value.asStr
  match (value.get "params").filter (·.asObject.isSome) with
  | none => (turn, none)
  | some params =>
    if (params.get "threadId").bind Value.asStr ≠ some threadId then (turn, none)
    else if method = some "item/completed" then
      if (params.get "turnId").bind Value.asStr ≠ turn.turnId then (turn, none)
      else (applyItem turn params, none)
    else if method = some "turn/completed" then
      (turn, (completedStatus turn.turnId params).map (completion turn))
    else (turn, none)

/-- The notifications that came before the turn was known, until one ends it. -/
def applyEarly (threadId : String) (turn : CodexTurn) :
    List Value → CodexTurn × Option SessionResult
  | [] => (turn, none)
  | event :: events =>
    match applyNotification threadId turn event with
    | (turn, some result) => (turn, some result)
    | (turn, none) => applyEarly threadId turn events

def stop (a : Codex) (error : ProviderError) (close : Bool) : Codex :=
  { a with phase := .stopping error close }

def settle (a : Codex) (turn : CodexTurn) (result : SessionResult) : Codex :=
  { a with
    active := some { turn with result := none }
    log := a.log.settle turn.result result }

def give (a : Codex) (entry : Entry) : Codex := { a with log := a.log ++ [entry] }

def refuse (a : Codex) (error : ProviderError) : Codex :=
  { a with log := a.log ++
      [.command a.log.commands, .result a.log.commands (.failure error)] }

def finishActive (a : Codex) (turn : CodexTurn) (result : SessionResult) : Codex :=
  let a := a.settle turn result
  { a with
    active := none
    state := .idle
    log := a.log ++ [.evidence {
      requestId := turn.requestId, reason := turn.terminalReason, childReaped := false }] }

section

variable (threadId : String) (rpcTimeout : ℕ)

def startActorTurn (a : Codex) (request : SessionRequest) (now : Instant) (io : Io) : Codex :=
  let n := a.log.commands
  let rpcId := a.nextRpcId
  let a := { a with
    nextRpcId := nextRpc rpcId
    log := a.log ++ [Entry.command n, .turn n request.requestId rpcId] }
  match writeJsonLine (turnStart threadId rpcId request.content) io with
  | .error _ => (a.give (.result n (.failure .providerDisconnected))).stop .providerDisconnected
      false
  | .ok () =>
    { a with
      state := .running
      active := some {
        requestId := request.requestId
        result := some n
        turnId := none
        startRpcId := rpcId
        startRpcDeadline := now + rpcTimeout
        deadline := request.deadline
        cancelDeadline := none
        interruptRpcId := none
        interruptSent := false
        finalMessages := []
        fallbackMessage := none
        earlyEvents := []
        earlyBytes := 0
        terminalReason := .turnEnded } }

def handle (a : Codex) (request : SessionRequest) (now : Instant) (io : Io) : Codex :=
  if a.active.isSome then a.refuse .sessionBusy
  else if a.state = .closed then a.refuse .providerNotReady
  else if request.deadline ≤ now then a.refuse .requestTimeout
  else a.startActorTurn threadId rpcTimeout request now io

/-- The interrupt of a turn the child has named. -/
def sendInterrupt (a : Codex) (turn : CodexTurn) (turnId : String) (io : Io) :
    Except ProviderError Unit × Codex :=
  let rpcId := a.nextRpcId
  let a := { a with nextRpcId := nextRpc rpcId }
  match writeJsonLine (turnInterrupt threadId rpcId turnId) io with
  | .error e => (.error e, { a with active := some turn })
  | .ok () => (.ok (), { a with
      active := some { turn with interruptRpcId := some rpcId, interruptSent := true } })

/-- The turn is to end: its result is given, and the child is asked to interrupt it. -/
def beginCancel (a : Codex) (turn : CodexTurn) (error : ProviderError) (reason : TerminalReason)
    (now : Instant) (io : Io) : Except ProviderError Unit × Codex :=
  let a := a.settle turn (.failure error)
  let turn := { turn with
    result := none
    terminalReason := reason
    cancelDeadline := some (now + providerTerminalGrace) }
  let a := { a with active := some turn, state := .cancelling }
  match turn.turnId with
  | some turnId => a.sendInterrupt threadId turn turnId io
  | none => (.ok (), a)

def cancel (a : Codex) (requestId : String) (reason : CancelReason) (now : Instant) (io : Io) :
    Codex :=
  match a.active with
  | none => a.give (.reply (.error .providerNotReady))
  | some turn =>
    if turn.requestId ≠ requestId then a.give (.reply (.error .providerNotReady))
    else if turn.cancelDeadline.isNone then
      let error := if reason = .requestTimeout then .requestTimeout else .providerDisconnected
      match a.beginCancel threadId turn error reason.terminal now io with
      | (.error _, a) =>
        (a.give (.reply (.error .providerDisconnected))).stop .providerDisconnected false
      | (.ok (), a) => a.give (.reply (.ok ()))
    else a.give (.reply (.ok ()))

/-- The child answers a request to start a turn. -/
def processStarted (a : Codex) (turn : CodexTurn) (value : Value) (io : Io) :
    Except ProviderError Unit × Codex :=
  match startedTurn value with
  | none => (.error .codexProtocolError, a)
  | some turnId =>
    let early := turn.earlyEvents
    let turn := { turn with turnId := some turnId, earlyEvents := [], earlyBytes := 0 }
    match applyEarly threadId turn early with
    | (turn, some result) => (.ok (), a.finishActive turn result)
    | (turn, none) =>
      let a := { a with active := some turn }
      if turn.cancelDeadline.isSome && !turn.interruptSent then
        a.sendInterrupt threadId turn turnId io
      else (.ok (), a)

def processNotification (a : Codex) (turn : CodexTurn) (value : Value) (bytes : ℕ) :
    Except ProviderError Unit × Codex :=
  if turn.turnId.isNone && isRelevantNotification threadId value then
    if maxEarlyNotifications ≤ turn.earlyEvents.length ||
        maxProviderFrameBytes < turn.earlyBytes + bytes then (.error .codexProtocolError, a)
    else (.ok (), { a with active := some { turn with
      earlyBytes := turn.earlyBytes + bytes, earlyEvents := turn.earlyEvents ++ [value] } })
  else
    match applyNotification threadId turn value with
    | (turn, some result) => (.ok (), a.finishActive turn result)
    | (turn, none) => (.ok (), { a with active := some turn })

/-- A request of the server is answered; its answer repeats an id of any length, and whether it can
be written is left open. -/
def processMessage (a : Codex) (value : Value) (bytes : ℕ) (io : Io) :
    Except ProviderError Unit × Codex :=
  if isServerRequest value then (io, a)
  else
    match responseId value with
    | some id =>
      match a.active with
      | none => (.ok (), a)
      | some turn =>
        if id = turn.startRpcId then a.processStarted threadId turn value io else (.ok (), a)
    | none =>
      if ((value.get "method").bind Value.asStr).isNone then (.error .codexProtocolError, a)
      else
        match a.active with
        | none => (.ok (), a)
        | some turn => a.processNotification threadId turn value bytes

def handleWireEvent (a : Codex) (event : WireEvent) (io : Io) :
    Except ProviderError Unit × Codex :=
  match event with
  | .message value bytes => (a.give (.message value)).processMessage threadId value bytes io
  | .protocolError => (.error .codexProtocolError, a)
  | .eof => (.error .providerDisconnected, a)

/-- The deadline of the request is watched until the turn is cancelled. -/
def requestDue (a : Codex) (now : Instant) : Option CodexTurn :=
  a.active.filter fun turn => turn.cancelDeadline.isNone && turn.deadline ≤ now

def startDue (a : Codex) (now : Instant) : Bool :=
  a.active.any fun turn =>
    turn.turnId.isNone && turn.cancelDeadline.isNone && turn.startRpcDeadline ≤ now

def cancelDue (a : Codex) (now : Instant) : Bool :=
  a.active.any fun turn => turn.cancelDeadline.any (· ≤ now)

def handleRequestTimeout (a : Codex) (turn : CodexTurn) (now : Instant) (io : Io) :
    Except ProviderError Unit × Codex :=
  a.beginCancel threadId turn .requestTimeout .requestTimeout now io

/-- What the caller of an unfinished turn sees. -/
def visible : ProviderError → ProviderError
  | .requestTimeout => .requestTimeout
  | .codexProtocolError => .codexProtocolError
  | _ => .providerDisconnected

/-- The end of a turn that is still there when the child is reaped. -/
def finishTurn (a : Codex) (turn : CodexTurn) (error : ProviderError) (reaped : Bool) : Codex :=
  let a := a.settle turn (.failure (visible error))
  let reason :=
    if turn.cancelDeadline.isSome then turn.terminalReason
    else if error = .requestTimeout then .requestTimeout else .sessionEnded
  { a with
    active := none
    log := a.log ++ [.evidence { requestId := turn.requestId, reason, childReaped := reaped }] }

def finishOpen (a : Codex) (error : ProviderError) (reaped : Bool) : Codex :=
  match a.active with
  | some turn => a.finishTurn turn error reaped
  | none => a

def finishActor (a : Codex) (error : ProviderError) (close reaped : Bool) : Codex :=
  let a := if reaped then a.give .reaped else a
  let a := finishOpen { a with state := .closed, phase := .finished } error reaped
  if close then a.give (.reply (.ok ())) else a

/-- One turn of the loop. -/
def loop (a : Codex) (input : Input) : Codex :=
  match input with
  | .handle request now io => a.handle threadId rpcTimeout request now io
  | .cancel requestId reason now io => a.cancel threadId requestId reason now io
  | .close => a.stop .providerDisconnected true
  | .disconnected => a.stop .providerDisconnected false
  | .wire event io =>
    match a.handleWireEvent threadId event io with
    | (.error e, a) => a.stop e false
    | (.ok (), a) => a
  | .requestDeadline now io =>
    match a.requestDue now with
    | none => a
    | some turn =>
      match a.handleRequestTimeout threadId turn now io with
      | (.error _, a) => a.stop .providerDisconnected false
      | (.ok (), a) => a
  | .startDeadline now => if a.startDue now then a.stop .codexProtocolError false else a
  | .cancelDeadline now => if a.cancelDue now then a.stop .requestTimeout false else a
  | .childExited => a.stop .providerDisconnected false
  | .reap _ => a

/-- A command that the actor no longer takes is answered by its dropped reply. -/
def step (a : Codex) (input : Input) : Codex :=
  match a.phase, input with
  | .running, input => a.loop threadId rpcTimeout input
  | .stopping error close, .reap reaped => a.finishActor error close reaped
  | _, .handle .. => a.refuse .providerDisconnected
  | _, .cancel .. | _, .close => a.give (.reply (.error .providerDisconnected))
  | _, _ => a

def run (a : Codex) (inputs : List Input) : Codex :=
  inputs.foldl (step threadId rpcTimeout) a

end

end Codex

end SessionRouter.Providers
