import SessionRouter.Providers.CodexSpec

/-!
The outcome of a Codex turn does not depend on where the answer to `turn/start` stands among the
notifications of the server.
-/

namespace SessionRouter.Providers

def Entry.isMessage : Entry → Bool
  | .message _ => true
  | _ => false

namespace Codex

/-- A notification names its method, and asks for no answer. -/
def isNotification (value : Value) : Bool :=
  ((value.get "method").bind Value.asStr).isSome && !isServerRequest value

/-- A notification that names no method. -/
def isNameless (value : Value) : Bool :=
  (responseId value).isNone && ((value.get "method").bind Value.asStr).isNone

/-- A line of the child as the actor receives it. -/
structure Received where
  value : Value
  bytes : ℕ
  io : Io

def Received.input (m : Received) : Input := .wire (.message m.value m.bytes) m.io

/-- The lines that are kept while the turn is not known. -/
def relevant (threadId : String) (early : List Received) : List Received :=
  early.filter fun m => isRelevantNotification threadId m.value

structure WithinLimits (threadId : String) (early : List Received) : Prop where
  count : (relevant threadId early).length ≤ maxEarlyNotifications
  bytes : ((relevant threadId early).map Received.bytes).sum ≤ maxProviderFrameBytes

theorem WithinLimits.left {threadId : String} {early rest : List Received}
    (h : WithinLimits threadId (early ++ rest)) : WithinLimits threadId early := by
  obtain ⟨hcount, hbytes⟩ := h
  simp only [relevant, List.filter_append, List.length_append, List.map_append,
    List.sum_append] at hcount hbytes
  exact ⟨(Nat.le_add_right _ _).trans hcount, (Nat.le_add_right _ _).trans hbytes⟩

/-- The turn is written to the child, and nothing is known of it yet. -/
structure Awaits (a : Codex) (turn : CodexTurn) : Prop where
  running : a.phase = .running
  active : a.active = some turn
  unnamed : turn.turnId = none
  uncancelled : turn.cancelDeadline = none
  early : turn.earlyEvents = []
  earlyBytes : turn.earlyBytes = 0

/-- Two actors that differ only in when they heard what the child said. -/
structure Agree (a b : Codex) : Prop where
  active : a.active = b.active
  state : a.state = b.state
  nextRpcId : a.nextRpcId = b.nextRpcId
  phase : a.phase = b.phase
  log : a.log.filter (fun e => !e.isMessage) = b.log.filter (fun e => !e.isMessage)

section

variable (threadId : String) (rpcTimeout : ℕ) {a b c : Codex}

theorem Agree.refl (a : Codex) : Agree a a := ⟨rfl, rfl, rfl, rfl, rfl⟩

theorem Agree.symm (h : Agree a b) : Agree b a :=
  ⟨h.active.symm, h.state.symm, h.nextRpcId.symm, h.phase.symm, h.log.symm⟩

theorem Agree.trans (h : Agree a b) (h' : Agree b c) : Agree a c :=
  ⟨h.active.trans h'.active, h.state.trans h'.state, h.nextRpcId.trans h'.nextRpcId,
    h.phase.trans h'.phase, h.log.trans h'.log⟩

theorem Agree.give_message (h : Agree a b) (value : Value) :
    Agree (a.give (.message value)) b := by
  refine ⟨h.active, h.state, h.nextRpcId, h.phase, ?_⟩
  show (a.log ++ [Entry.message value]).filter _ = _
  rw [List.filter_append, h.log]
  simp [Entry.isMessage]

theorem Agree.give (h : Agree a b) (entry : Entry) : Agree (a.give entry) (b.give entry) := by
  refine ⟨h.active, h.state, h.nextRpcId, h.phase, ?_⟩
  show (a.log ++ [entry]).filter _ = (b.log ++ [entry]).filter _
  rw [List.filter_append, List.filter_append, h.log]

theorem Agree.activate (h : Agree a b) (active : Option CodexTurn) :
    Agree { a with active } { b with active } :=
  ⟨rfl, h.state, h.nextRpcId, h.phase, h.log⟩

theorem Agree.stop (h : Agree a b) (error : ProviderError) (close : Bool) :
    Agree (a.stop error close) (b.stop error close) :=
  ⟨h.active, h.state, h.nextRpcId, rfl, h.log⟩

theorem Agree.settle (h : Agree a b) (turn : CodexTurn) (result : SessionResult) :
    Agree (a.settle turn result) (b.settle turn result) := by
  refine ⟨rfl, h.state, h.nextRpcId, h.phase, ?_⟩
  show (a.log.settle turn.result result).filter _ = (b.log.settle turn.result result).filter _
  cases turn.result with
  | none => exact h.log
  | some n => exact (h.give (.result n result)).log

theorem Agree.finishActive (h : Agree a b) (turn : CodexTurn) (result : SessionResult) :
    Agree (a.finishActive turn result) (b.finishActive turn result) := by
  have hlog := ((h.settle turn result).give (.evidence {
    requestId := turn.requestId, reason := turn.terminalReason, childReaped := false })).log
  exact ⟨rfl, rfl, h.nextRpcId, h.phase, hlog⟩

/-- The same outcome of a step, from states that agree. -/
def Alike (x y : Except ProviderError Unit × Codex) : Prop := x.1 = y.1 ∧ Agree x.2 y.2

theorem Agree.sendInterrupt (h : Agree a b) (turn : CodexTurn) (turnId : String) (io : Io) :
    Alike (a.sendInterrupt threadId turn turnId io) (b.sendInterrupt threadId turn turnId io) := by
  unfold Codex.sendInterrupt
  dsimp only
  rw [h.nextRpcId]
  generalize writeJsonLine (turnInterrupt threadId b.nextRpcId turnId) io = written
  cases written with
  | error e => exact ⟨rfl, rfl, h.state, rfl, h.phase, h.log⟩
  | ok _ => exact ⟨rfl, rfl, h.state, rfl, h.phase, h.log⟩

theorem Agree.processStarted (h : Agree a b) (turn : CodexTurn) (value : Value) (io : Io) :
    Alike (a.processStarted threadId turn value io) (b.processStarted threadId turn value io) := by
  unfold Codex.processStarted
  cases startedTurn value with
  | none => exact ⟨rfl, h⟩
  | some turnId =>
    dsimp only
    split
    · exact ⟨rfl, h.finishActive _ _⟩
    · split_ifs
      · exact (h.activate _).sendInterrupt threadId _ _ _
      · exact ⟨rfl, h.activate _⟩

theorem Agree.processNotification (h : Agree a b) (turn : CodexTurn) (value : Value) (bytes : ℕ) :
    Alike (a.processNotification threadId turn value bytes)
      (b.processNotification threadId turn value bytes) := by
  unfold Codex.processNotification
  split_ifs
  · exact ⟨rfl, h⟩
  · exact ⟨rfl, h.activate _⟩
  · split
    · exact ⟨rfl, h.finishActive _ _⟩
    · exact ⟨rfl, h.activate _⟩

theorem Agree.processMessage (h : Agree a b) (value : Value) (bytes : ℕ) (io : Io) :
    Alike (a.processMessage threadId value bytes io)
      (b.processMessage threadId value bytes io) := by
  unfold Codex.processMessage
  rw [h.active]
  by_cases hrequest : isServerRequest value = true
  · rw [if_pos hrequest, if_pos hrequest]
    exact ⟨rfl, h⟩
  · rw [if_neg hrequest, if_neg hrequest]
    cases responseId value with
    | some id =>
      cases b.active with
      | none => exact ⟨rfl, h⟩
      | some turn =>
        dsimp only
        split_ifs
        · exact h.processStarted threadId turn value io
        · exact ⟨rfl, h⟩
    | none =>
      cases b.active with
      | none =>
        dsimp only
        split_ifs
        · exact ⟨rfl, h⟩
        · exact ⟨rfl, h⟩
      | some turn =>
        dsimp only
        split_ifs
        · exact ⟨rfl, h⟩
        · exact h.processNotification threadId turn value bytes

/-- What a line of the child does to a running actor. -/
theorem step_received (hrunning : a.phase = .running) (m : Received) :
    a.step threadId rpcTimeout m.input =
      match (a.give (.message m.value)).processMessage threadId m.value m.bytes m.io with
      | (.error e, a) => a.stop e false
      | (.ok (), a) => a := by
  unfold Codex.step
  rw [hrunning]
  rfl

/-- An actor that has stopped reads no more lines. -/
theorem step_stopped (hstopped : a.phase ≠ .running) (m : Received) :
    a.step threadId rpcTimeout m.input = a := by
  unfold Codex.step Received.input
  cases hphase : a.phase with
  | running => exact absurd hphase hstopped
  | stopping error close => rfl
  | finished => rfl

theorem run_stopped (hstopped : a.phase ≠ .running) (late : List Received) :
    a.run threadId rpcTimeout (late.map Received.input) = a := by
  induction late with
  | nil => rfl
  | cons m late ih =>
    show (a.step threadId rpcTimeout m.input).run threadId rpcTimeout _ = a
    rw [step_stopped threadId rpcTimeout hstopped, ih]

theorem Agree.step (h : Agree a b) (m : Received) :
    Agree (a.step threadId rpcTimeout m.input) (b.step threadId rpcTimeout m.input) := by
  by_cases hrunning : a.phase = .running
  · rw [step_received threadId rpcTimeout hrunning,
      step_received threadId rpcTimeout (h.phase.symm.trans hrunning)]
    obtain ⟨hresult, hnext⟩ := (h.give (.message m.value)).processMessage threadId
      m.value m.bytes m.io
    revert hresult hnext
    generalize (a.give (.message m.value)).processMessage threadId m.value m.bytes m.io = x
    generalize (b.give (.message m.value)).processMessage threadId m.value m.bytes m.io = y
    obtain ⟨result, next⟩ := x
    obtain ⟨result', next'⟩ := y
    rintro rfl hnext
    cases result with
    | error e => exact hnext.stop e false
    | ok _ => exact hnext
  · rw [step_stopped threadId rpcTimeout hrunning, step_stopped threadId rpcTimeout]
    · exact h
    · exact h.phase ▸ hrunning

theorem Agree.run (h : Agree a b) (late : List Received) :
    Agree (a.run threadId rpcTimeout (late.map Received.input))
      (b.run threadId rpcTimeout (late.map Received.input)) := by
  induction late generalizing a b with
  | nil => exact h
  | cons m late ih => exact ih (h.step threadId rpcTimeout m)

theorem Agree.finishOpen (h : Agree a b) (error : ProviderError) (reaped : Bool) :
    Agree (a.finishOpen error reaped) (b.finishOpen error reaped) := by
  unfold Codex.finishOpen
  rw [h.active]
  cases b.active with
  | none => exact h
  | some turn =>
    have hlog := ((h.settle turn (.failure (visible error))).give (.evidence {
      requestId := turn.requestId
      reason := if turn.cancelDeadline.isSome then turn.terminalReason
        else if error = .requestTimeout then .requestTimeout else .sessionEnded
      childReaped := reaped })).log
    exact ⟨rfl, h.state, h.nextRpcId, h.phase, hlog⟩

theorem Agree.close (h : Agree a b) : Agree { a with state := .closed, phase := .finished }
    { b with state := .closed, phase := .finished } :=
  ⟨h.active, rfl, h.nextRpcId, rfl, h.log⟩

theorem Agree.finishActor (h : Agree a b) (error : ProviderError) (close reaped : Bool) :
    Agree (a.finishActor error close reaped) (b.finishActor error close reaped) := by
  have hreaped : Agree (if reaped then a.give .reaped else a)
      (if reaped then b.give .reaped else b) := by
    split_ifs
    · exact h.give _
    · exact h
  have hopen := (hreaped.close).finishOpen error reaped
  unfold Codex.finishActor
  cases close with
  | false => exact hopen
  | true => exact hopen.give _

theorem Agree.reap (h : Agree a b) (reaped : Bool) :
    Agree (a.step threadId rpcTimeout (.reap reaped))
      (b.step threadId rpcTimeout (.reap reaped)) := by
  unfold Codex.step
  rw [h.phase]
  cases b.phase with
  | running => exact h
  | stopping error close => exact h.finishActor error close reaped
  | finished => exact h

end

/-- A notification that is not kept changes nothing. -/
theorem applyNotification_irrelevant {threadId : String} {value : Value}
    (h : isRelevantNotification threadId value = false) (turn : CodexTurn) :
    applyNotification threadId turn value = (turn, none) := by
  unfold applyNotification
  dsimp only
  split
  · rfl
  · next params hparams =>
    obtain ⟨hparams, -⟩ := Option.filter_eq_some_iff.mp hparams
    by_cases hthread : (params.get "threadId").bind Value.asStr = some threadId
    · have hmethod : (value.get "method").bind Value.asStr ≠ some "item/completed" ∧
          (value.get "method").bind Value.asStr ≠ some "turn/completed" := by
        simpa [isRelevantNotification, hparams, hthread] using h
      rw [if_neg (not_not_intro hthread), if_neg hmethod.1, if_neg hmethod.2]
    · rw [if_pos hthread]

theorem applyEarly_relevant (threadId : String) (turn : CodexTurn) (early : List Received) :
    applyEarly threadId turn ((relevant threadId early).map Received.value) =
      applyEarly threadId turn (early.map Received.value) := by
  induction early generalizing turn with
  | nil => rfl
  | cons m early ih =>
    cases hrelevant : isRelevantNotification threadId m.value with
    | true =>
      have hcons : relevant threadId (m :: early) = m :: relevant threadId early :=
        List.filter_cons_of_pos hrelevant
      rw [hcons, List.map_cons, List.map_cons, applyEarly, applyEarly]
      split
      · rfl
      · exact ih _
    | false =>
      have hcons : relevant threadId (m :: early) = relevant threadId early :=
        List.filter_cons_of_neg (by simp [hrelevant])
      rw [hcons, ih, List.map_cons, applyEarly, applyNotification_irrelevant hrelevant]

theorem applyItem_cancelDeadline (turn : CodexTurn) (params : Value) :
    (applyItem turn params).cancelDeadline = turn.cancelDeadline := by
  unfold applyItem
  split
  · split <;> rfl
  · rfl

theorem applyNotification_cancelDeadline (threadId : String) (turn : CodexTurn) (value : Value) :
    (applyNotification threadId turn value).1.cancelDeadline = turn.cancelDeadline := by
  unfold applyNotification
  dsimp only
  split
  · rfl
  · split_ifs
    · rfl
    · rfl
    · exact applyItem_cancelDeadline turn _
    · rfl
    · rfl

theorem applyEarly_cancelDeadline (threadId : String) (turn : CodexTurn) (events : List Value) :
    (applyEarly threadId turn events).1.cancelDeadline = turn.cancelDeadline := by
  induction events generalizing turn with
  | nil => rfl
  | cons event events ih =>
    have hevent := applyNotification_cancelDeadline threadId turn event
    unfold applyEarly
    split
    · next heq =>
      rw [heq] at hevent
      exact hevent
    · next heq =>
      rw [heq] at hevent
      exact (ih _).trans hevent

/-- What is left of a turn after some notifications. -/
def settled (a : Codex) : CodexTurn × Option SessionResult → Codex
  | (turn, some result) => a.finishActive turn result
  | (turn, none) => { a with active := some turn }

theorem settled_activate (a : Codex) (active : Option CodexTurn)
    (x : CodexTurn × Option SessionResult) : settled { a with active } x = a.settled x := by
  obtain ⟨turn, result⟩ := x
  cases result with
  | none => rfl
  | some result => rfl

theorem Agree.settled {a b : Codex} (h : Agree a b) (x : CodexTurn × Option SessionResult) :
    Agree (a.settled x) (b.settled x) := by
  obtain ⟨turn, result⟩ := x
  cases result with
  | none => exact h.activate _
  | some result => exact h.finishActive turn result

section

variable {threadId : String} {rpcTimeout : ℕ} {a : Codex} {turn : CodexTurn}

theorem responseId_notification {value : Value} (hnot : isNotification value = true) :
    responseId value = none ∧ isServerRequest value = false ∧
      ((value.get "method").bind Value.asStr).isNone = false := by
  obtain ⟨hmethod, hrequest⟩ := Bool.and_eq_true_iff.mp hnot
  refine ⟨?_, by simpa using hrequest, by simpa using hmethod⟩
  have hsome : (value.get "method").isSome := by
    cases hget : value.get "method" with
    | none =>
      rw [hget] at hmethod
      cases hmethod
    | some method => rfl
  rw [responseId, if_pos hsome]

theorem processMessage_idle {value : Value} (hnot : isNotification value = true)
    (hactive : a.active = none) (bytes : ℕ) (io : Io) :
    a.processMessage threadId value bytes io = (.ok (), a) := by
  obtain ⟨hresponse, hrequest, hmethod⟩ := responseId_notification hnot
  unfold processMessage
  simp only [hrequest, hresponse, hmethod, hactive, Bool.false_eq_true, if_false]

theorem processMessage_active {value : Value} (hnot : isNotification value = true)
    (hactive : a.active = some turn) (bytes : ℕ) (io : Io) :
    a.processMessage threadId value bytes io = a.processNotification threadId turn value bytes := by
  obtain ⟨hresponse, hrequest, hmethod⟩ := responseId_notification hnot
  unfold processMessage
  simp only [hrequest, hresponse, hmethod, hactive, Bool.false_eq_true, if_false]

/-- A message that names no method stops the actor. -/
theorem nameless_step (hrunning : a.phase = .running) {m : Received}
    (hm : isNameless m.value = true) : a.step threadId rpcTimeout m.input =
      (a.give (.message m.value)).stop .codexProtocolError false := by
  obtain ⟨hresponse, hmethod⟩ := Bool.and_eq_true_iff.mp hm
  have hnone : responseId m.value = none := Option.isNone_iff_eq_none.mp hresponse
  have hrequest : isServerRequest m.value = false := by
    rw [isServerRequest, Option.isNone_iff_eq_none.mp hmethod]
    rfl
  rw [step_received threadId rpcTimeout hrunning]
  unfold processMessage
  simp only [hrequest, hnone, hmethod, Bool.false_eq_true, if_false, if_true]

theorem Agree.nameless {b : Codex} (h : Agree b a) (hrunning : a.phase = .running) {m : Received}
    (hm : isNameless m.value = true) (rest : List Received) :
    Agree (b.run threadId rpcTimeout ((m :: rest).map Received.input))
      (a.stop .codexProtocolError false) := by
  have hstep := h.step threadId rpcTimeout m
  rw [nameless_step hrunning hm] at hstep
  have hrun := hstep.run threadId rpcTimeout rest
  rw [run_stopped threadId rpcTimeout (a := (a.give (.message m.value)).stop .codexProtocolError
    false) nofun] at hrun
  exact hrun.trans (((Agree.refl a).give_message m.value).stop _ _)

theorem idle_step (hrunning : a.phase = .running) (hactive : a.active = none) {m : Received}
    (hnot : isNotification m.value = true) :
    a.step threadId rpcTimeout m.input = a.give (.message m.value) := by
  have hactive' : (a.give (.message m.value)).active = none := hactive
  rw [step_received threadId rpcTimeout hrunning, processMessage_idle hnot hactive']

theorem idle_run (hrunning : a.phase = .running) (hactive : a.active = none)
    {early : List Received} (hnot : ∀ m ∈ early, isNotification m.value = true) :
    Agree (a.run threadId rpcTimeout (early.map Received.input)) a := by
  induction early generalizing a with
  | nil => exact .refl a
  | cons m early ih =>
    obtain ⟨hm, hnot⟩ := List.forall_mem_cons.mp hnot
    show Agree ((a.step threadId rpcTimeout m.input).run threadId rpcTimeout _) a
    rw [idle_step hrunning hactive hm]
    have hrest : Agree ((a.give (.message m.value)).run threadId rpcTimeout
        (early.map Received.input)) (a.give (.message m.value)) := ih hrunning hactive hnot
    exact hrest.trans ((Agree.refl a).give_message m.value)

/-- A turn that is known takes its notifications one by one until it ends. -/
theorem named_run {turnId : String} (hrunning : a.phase = .running)
    (hactive : a.active = some turn) (hid : turn.turnId = some turnId) {early : List Received}
    (hnot : ∀ m ∈ early, isNotification m.value = true) :
    Agree (a.run threadId rpcTimeout (early.map Received.input))
      (a.settled (applyEarly threadId turn (early.map Received.value))) := by
  induction early generalizing a turn with
  | nil => exact ⟨hactive, rfl, rfl, rfl, rfl⟩
  | cons m early ih =>
    obtain ⟨hm, hnot⟩ := List.forall_mem_cons.mp hnot
    have hactive' : (a.give (.message m.value)).active = some turn := hactive
    have hstep : a.step threadId rpcTimeout m.input =
        (a.give (.message m.value)).settled (applyNotification threadId turn m.value) := by
      rw [step_received threadId rpcTimeout hrunning, processMessage_active hm hactive']
      unfold processNotification
      rw [hid, if_neg (by simp)]
      cases applyNotification threadId turn m.value with
      | mk turn result => cases result <;> rfl
    show Agree ((a.step threadId rpcTimeout m.input).run threadId rpcTimeout _)
      (a.settled (applyEarly threadId turn (m.value :: early.map Received.value)))
    have hsame := applyNotification_same threadId turn m.value
    rw [hstep, applyEarly]
    cases happly : applyNotification threadId turn m.value with
    | mk turn' result =>
      rw [happly] at hsame
      have hgiven : Agree (a.give (.message m.value)) a := (Agree.refl a).give_message m.value
      cases result with
      | some result =>
        have hphase : Codex.phase ((a.give (.message m.value)).finishActive turn' result) =
            .running := hrunning
        have hrest := @idle_run threadId rpcTimeout _ hphase rfl _ hnot
        exact hrest.trans (hgiven.finishActive turn' result)
      | none =>
        have hrest := ih (a := { a.give (.message m.value) with active := some turn' }) hrunning
          rfl (hsame.turnId.trans hid) hnot
        exact hrest.trans ((hgiven.activate (some turn')).settled _)

/-- Before the turn is known its notifications are kept, and nothing else happens. -/
theorem unnamed_run (hrunning : a.phase = .running) (hactive : a.active = some turn)
    (hid : turn.turnId = none) {early : List Received}
    (hnot : ∀ m ∈ early, isNotification m.value = true)
    (hcount : turn.earlyEvents.length + (relevant threadId early).length ≤ maxEarlyNotifications)
    (hbytes : turn.earlyBytes + ((relevant threadId early).map Received.bytes).sum ≤
      maxProviderFrameBytes) :
    Agree (a.run threadId rpcTimeout (early.map Received.input))
      { a with active := some { turn with
        earlyEvents := turn.earlyEvents ++ (relevant threadId early).map Received.value
        earlyBytes := turn.earlyBytes +
          ((relevant threadId early).map Received.bytes).sum } } := by
  induction early generalizing a turn with
  | nil =>
    refine ⟨?_, rfl, rfl, rfl, rfl⟩
    show a.active = _
    rw [hactive]
    simp [relevant]
  | cons m early ih =>
    obtain ⟨hm, hnot⟩ := List.forall_mem_cons.mp hnot
    have hactive' : (a.give (.message m.value)).active = some turn := hactive
    have hgiven : Agree (a.give (.message m.value)) a := (Agree.refl a).give_message m.value
    show Agree ((a.step threadId rpcTimeout m.input).run threadId rpcTimeout _) _
    cases hrelevant : isRelevantNotification threadId m.value with
    | true =>
      have hcons : relevant threadId (m :: early) = m :: relevant threadId early :=
        List.filter_cons_of_pos hrelevant
      simp only [hcons, List.length_cons, List.map_cons, List.sum_cons] at hcount hbytes ⊢
      have hstep : a.step threadId rpcTimeout m.input =
          { a.give (.message m.value) with active := some { turn with
            earlyBytes := turn.earlyBytes + m.bytes
            earlyEvents := turn.earlyEvents ++ [m.value] } } := by
        rw [step_received threadId rpcTimeout hrunning, processMessage_active hm hactive']
        unfold processNotification
        rw [if_pos (by simp [hid, hrelevant]), if_neg (by
          simp only [Bool.or_eq_true, decide_eq_true_eq]
          omega)]
      rw [hstep]
      have hrest := @ih { a.give (.message m.value) with active := some { turn with
            earlyBytes := turn.earlyBytes + m.bytes
            earlyEvents := turn.earlyEvents ++ [m.value] } } _ hrunning rfl hid hnot
        (by simp only [List.length_append, List.length_singleton]; omega)
        (by dsimp only; omega)
      simp only [List.append_assoc, List.singleton_append, add_assoc] at hrest
      exact hrest.trans (hgiven.activate _)
    | false =>
      have hcons : relevant threadId (m :: early) = relevant threadId early :=
        List.filter_cons_of_neg (by simp [hrelevant])
      rw [hcons] at hcount hbytes ⊢
      have hstep : a.step threadId rpcTimeout m.input =
          { a.give (.message m.value) with active := some turn } := by
        rw [step_received threadId rpcTimeout hrunning, processMessage_active hm hactive']
        unfold processNotification
        rw [if_neg (by simp [hrelevant]), applyNotification_irrelevant hrelevant]
      rw [hstep]
      have hrest := @ih { a.give (.message m.value) with active := some turn } turn hrunning rfl
        hid hnot hcount hbytes
      exact hrest.trans (hgiven.activate _)

end

/-- The line names the turn that the actor has asked for. -/
structure Names (turn : CodexTurn) (turnId : String) (value : Value) : Prop where
  response : responseId value = some turn.startRpcId
  started : startedTurn value = some turnId

section

variable {threadId : String} {rpcTimeout : ℕ} {a : Codex} {turn : CodexTurn}

/-- The turn is known from here on, and what was kept is taken at once. -/
theorem started_step {turnId : String} (hrunning : a.phase = .running)
    (hactive : a.active = some turn) (hcancel : turn.cancelDeadline = none) {started : Received}
    (hnames : Names turn turnId started.value) :
    Agree (a.step threadId rpcTimeout started.input) (a.settled (applyEarly threadId
      { turn with turnId := some turnId, earlyEvents := [], earlyBytes := 0 }
      turn.earlyEvents)) := by
  have hmethod : (started.value.get "method").isSome = false := by
    have h := hnames.response
    unfold responseId at h
    split_ifs at h with hsome
    simpa using hsome
  have hrequest : isServerRequest started.value = false := by
    have hnone : started.value.get "method" = none := by simpa using hmethod
    simp [isServerRequest, hnone]
  have hactive' : (a.give (.message started.value)).active = some turn := hactive
  have hgiven : Agree (a.give (.message started.value)) a :=
    (Agree.refl a).give_message started.value
  have hstep : (a.give (.message started.value)).processMessage threadId started.value
      started.bytes started.io = (.ok (), (a.give (.message started.value)).settled
        (applyEarly threadId
          { turn with turnId := some turnId, earlyEvents := [], earlyBytes := 0 }
          turn.earlyEvents)) := by
    unfold processMessage
    rw [if_neg (by simp [hrequest]), hnames.response, hactive']
    dsimp only
    rw [if_pos rfl, processStarted, hnames.started]
    dsimp only
    have hdeadline := applyEarly_cancelDeadline threadId
      { turn with turnId := some turnId, earlyEvents := [], earlyBytes := 0 } turn.earlyEvents
    revert hdeadline
    cases applyEarly threadId
      { turn with turnId := some turnId, earlyEvents := [], earlyBytes := 0 }
      turn.earlyEvents with
    | mk turn' result =>
      intro hdeadline
      cases result with
      | some result => rfl
      | none =>
        have hnone : turn'.cancelDeadline = none := hdeadline.trans hcancel
        dsimp only
        rw [hnone]
        rfl
  rw [step_received threadId rpcTimeout hrunning, hstep]
  exact hgiven.settled _

/-- Both orders leave actors that agree. -/
theorem start_agree {turnId : String} (ha : Awaits a turn) {started : Received}
    (hnames : Names turn turnId started.value) {early : List Received}
    (hnot : ∀ m ∈ early, isNotification m.value = true)
    (hlimits : WithinLimits threadId early) (late : List Received) :
    Agree (a.run threadId rpcTimeout ((early ++ started :: late).map Received.input))
      (a.run threadId rpcTimeout ((started :: (early ++ late)).map Received.input)) := by
  let named : CodexTurn :=
    { turn with turnId := some turnId, earlyEvents := [], earlyBytes := 0 }
  let end' := a.settled (applyEarly threadId named (early.map Received.value))
  have hafter : Agree ((a.run threadId rpcTimeout (early.map Received.input)).step threadId
      rpcTimeout started.input) end' := by
    have hkept := @unnamed_run threadId rpcTimeout a turn ha.running ha.active ha.unnamed early
      hnot (by simpa [ha.early] using hlimits.count) (by simpa [ha.earlyBytes] using hlimits.bytes)
    refine (hkept.step threadId rpcTimeout started).trans ?_
    have htaken := @started_step threadId rpcTimeout { a with active := some { turn with
        earlyEvents := turn.earlyEvents ++ (relevant threadId early).map Received.value
        earlyBytes := turn.earlyBytes + ((relevant threadId early).map Received.bytes).sum } } _
      turnId ha.running rfl ha.uncancelled started ⟨hnames.response, hnames.started⟩
    have hevents : applyEarly threadId named (turn.earlyEvents ++
        (relevant threadId early).map Received.value) =
        applyEarly threadId named (early.map Received.value) := by
      rw [ha.early, List.nil_append, applyEarly_relevant]
    dsimp only at htaken
    rw [settled_activate] at htaken
    rw [hevents] at htaken
    exact htaken
  have hbefore : Agree ((a.step threadId rpcTimeout started.input).run threadId rpcTimeout
      (early.map Received.input)) end' := by
    have htaken := @started_step threadId rpcTimeout a turn turnId ha.running ha.active
      ha.uncancelled started hnames
    rw [ha.early] at htaken
    have hrest := htaken.run threadId rpcTimeout early
    have hnamed := @named_run threadId rpcTimeout { a with active := some named } named turnId
      ha.running rfl rfl early hnot
    rw [settled_activate] at hnamed
    exact hrest.trans hnamed
  have hboth := (hafter.trans hbefore.symm).run threadId rpcTimeout late
  have hlate : a.run threadId rpcTimeout ((early ++ started :: late).map Received.input) =
      ((a.run threadId rpcTimeout (early.map Received.input)).step threadId rpcTimeout
        started.input).run threadId rpcTimeout (late.map Received.input) := by
    simp [run]
  have hfirst : a.run threadId rpcTimeout ((started :: (early ++ late)).map Received.input) =
      ((a.step threadId rpcTimeout started.input).run threadId rpcTimeout
        (early.map Received.input)).run threadId rpcTimeout (late.map Received.input) := by
    simp [run]
  rw [hlate, hfirst]
  exact hboth

theorem Agree.results {a b : Codex} (h : Agree a b) (n : ℕ) :
    a.log.results n = b.log.results n := by
  have hquiet (log : Log) : Log.results n (log.filter fun e => !e.isMessage) = log.results n := by
    rw [Log.results, List.filterMap_filter]
    apply List.filterMap_congr
    intro entry hentry
    cases entry <;> rfl
  rw [← hquiet, h.log, hquiet]

theorem Agree.evidences {a b : Codex} (h : Agree a b) : a.log.evidences = b.log.evidences := by
  have hquiet (log : Log) : Log.evidences (log.filter fun e => !e.isMessage) = log.evidences := by
    rw [Log.evidences, List.filterMap_filter]
    apply List.filterMap_congr
    intro entry hentry
    cases entry <;> rfl
  rw [← hquiet, h.log, hquiet]

/-- The same for everyone who waits for the turn. -/
structure SameOutcome (a b : Codex) : Prop where
  results : ∀ n, a.log.results n = b.log.results n
  evidences : a.log.evidences = b.log.evidences
  active : a.active.isSome = b.active.isSome
  state : a.state = b.state
  phase : a.phase = b.phase

theorem SameOutcome.symm {a b : Codex} (h : SameOutcome a b) : SameOutcome b a :=
  ⟨fun n => (h.results n).symm, h.evidences.symm, h.active.symm, h.state.symm, h.phase.symm⟩

theorem SameOutcome.trans {a b c : Codex} (h : SameOutcome a b) (h' : SameOutcome b c) :
    SameOutcome a c :=
  ⟨fun n => (h.results n).trans (h'.results n), h.evidences.trans h'.evidences,
    h.active.trans h'.active, h.state.trans h'.state, h.phase.trans h'.phase⟩

theorem Agree.outcome {a b : Codex} (h : Agree a b) : SameOutcome a b :=
  ⟨h.results, h.evidences, congrArg Option.isSome h.active, h.state, h.phase⟩

/-- The end of the child asks of the turn only whose it is. -/
theorem stopped_reap {turn' : CodexTurn} (hopened : turn'.opened = turn.opened)
    (hcancel : turn.cancelDeadline = none) (hcancel' : turn'.cancelDeadline = none)
    (error : ProviderError) (reaped : Bool) :
    (stop { a with active := some turn' } error false).step threadId rpcTimeout (.reap reaped) =
      (stop { a with active := some turn } error false).step threadId rpcTimeout
        (.reap reaped) := by
  have hrequest : turn'.requestId = turn.requestId := congrArg OpenTurn.requestId hopened
  have hresult : turn'.result = turn.result := congrArg OpenTurn.owed hopened
  show finishActor _ error false reaped = finishActor _ error false reaped
  unfold finishActor finishOpen finishTurn settle
  cases reaped <;> simp [stop, give, hrequest, hresult, hcancel, hcancel']

/-- A message without a name that comes before the turn has ended stops both actors alike. -/
theorem nameless_outcome {turnId : String} (ha : Awaits a turn) {started : Received}
    (hnames : Names turn turnId started.value) {early : List Received}
    (hnot : ∀ m ∈ early, isNotification m.value = true)
    (hopen : ∀ m ∈ early, ¬EndsTurn threadId turnId m.value)
    (hlimits : WithinLimits threadId early) {m : Received} (hm : isNameless m.value = true)
    (rest rest' : List Received) :
    let after := a.run threadId rpcTimeout ((early ++ m :: rest).map Received.input)
    let first := a.run threadId rpcTimeout ((started :: (early ++ m :: rest')).map Received.input)
    SameOutcome after first ∧ ∀ reaped,
      SameOutcome (after.step threadId rpcTimeout (.reap reaped))
        (first.step threadId rpcTimeout (.reap reaped)) := by
  intro after first
  let named : CodexTurn :=
    { turn with turnId := some turnId, earlyEvents := [], earlyBytes := 0 }
  have hunended : (applyEarly threadId named (early.map Received.value)).2 = none := by
    by_contra hended
    obtain ⟨result, hended⟩ := Option.ne_none_iff_exists'.mp hended
    have hid : named.turnId = some turnId := rfl
    obtain ⟨v, hv, hends⟩ := applyEarly_ends hid hended
    obtain ⟨m, hm, rfl⟩ := List.mem_map.mp hv
    exact hopen m hm hends
  have hopened := (applyEarly_same threadId named (early.map Received.value)).opened
  have hcancel := applyEarly_cancelDeadline threadId named (early.map Received.value)
  revert hunended hopened hcancel
  have hnamed := @named_run threadId rpcTimeout { a with active := some named } named turnId
    ha.running rfl rfl early hnot
  revert hnamed
  generalize applyEarly threadId named (early.map Received.value) = x
  obtain ⟨turn', result⟩ := x
  rintro hnamed rfl hopened hcancel
  let kept : CodexTurn := { turn with
    earlyEvents := turn.earlyEvents ++ (relevant threadId early).map Received.value
    earlyBytes := turn.earlyBytes + ((relevant threadId early).map Received.bytes).sum }
  have hkept : Agree (a.run threadId rpcTimeout (early.map Received.input))
      { a with active := some kept } :=
    unnamed_run ha.running ha.active ha.unnamed hnot (by simpa [ha.early] using hlimits.count)
      (by simpa [ha.earlyBytes] using hlimits.bytes)
  have hafter : Agree after (stop { a with active := some kept } .codexProtocolError false) := by
    have hstop := @Agree.nameless threadId rpcTimeout _ _ hkept ha.running m hm rest
    simpa [after, run] using hstop
  have hfirst : Agree first (stop { a with active := some turn' } .codexProtocolError false) := by
    have htaken := @started_step threadId rpcTimeout a turn turnId ha.running ha.active
      ha.uncancelled started hnames
    rw [ha.early] at htaken
    have hread : Agree ((a.step threadId rpcTimeout started.input).run threadId rpcTimeout
        (early.map Received.input)) { a with active := some turn' } :=
      (htaken.run threadId rpcTimeout early).trans hnamed
    have hstop := @Agree.nameless threadId rpcTimeout _ _ hread ha.running m hm rest'
    simpa [first, run] using hstop
  have hsame : SameOutcome (stop { a with active := some kept } .codexProtocolError false)
      (stop { a with active := some turn' } .codexProtocolError false) :=
    ⟨fun _ => rfl, rfl, rfl, rfl, rfl⟩
  refine ⟨hafter.outcome.trans (hsame.trans hfirst.outcome.symm), fun reaped => ?_⟩
  have hreap : (stop { a with active := some turn' } .codexProtocolError false).step threadId
      rpcTimeout (.reap reaped) = (stop { a with active := some kept } .codexProtocolError
      false).step threadId rpcTimeout (.reap reaped) :=
    @stopped_reap threadId rpcTimeout a kept turn' hopened ha.uncancelled
      (hcancel.trans ha.uncancelled) _ reaped
  have hend := (hfirst.reap threadId rpcTimeout reaped).outcome
  rw [hreap] at hend
  exact (hafter.reap threadId rpcTimeout reaped).outcome.trans hend.symm

/-- A request that is taken and written waits for its turn to be named. -/
theorem handle_awaits {request : SessionRequest} {now : Instant} (hrunning : a.phase = .running)
    (hidle : a.active = none) (hopen : a.state ≠ .closed) (hdue : now < request.deadline)
    (hwritten : writeJsonLine (turnStart threadId a.nextRpcId request.content) (.ok ()) =
      .ok ()) :
    ∃ turn, Awaits (a.step threadId rpcTimeout (.handle request now (.ok ()))) turn ∧
      turn.startRpcId = a.nextRpcId := by
  have hstep : a.step threadId rpcTimeout (.handle request now (.ok ())) =
      a.startActorTurn threadId rpcTimeout request now (.ok ()) := by
    unfold Codex.step
    rw [hrunning]
    show a.handle threadId rpcTimeout request now (.ok ()) = _
    unfold handle
    rw [if_neg (by simp [hidle]), if_neg hopen, if_neg (Nat.not_le.mpr hdue)]
  rw [hstep, startActorTurn]
  dsimp only
  rw [hwritten]
  exact ⟨_, ⟨hrunning, rfl, rfl, rfl, rfl, rfl⟩, rfl⟩

/-- The answer that names a turn may come at any place among the notifications: who waits for the
turn, or for the end of the child, sees what an answer that comes first would show him. Messages
that name no method are excepted where the turn has ended before them. -/
theorem start_answer_anywhere {turnId : String} (ha : Awaits a turn) {started : Received}
    (hnames : Names turn turnId started.value) {early : List Received}
    (hkind : ∀ m ∈ early, isNotification m.value = true ∨ isNameless m.value = true)
    (hends : early.Pairwise fun m m' =>
      EndsTurn threadId turnId m.value → isNameless m'.value = false)
    (hlimits : WithinLimits threadId early) (late : List Received) :
    let after := a.run threadId rpcTimeout ((early ++ started :: late).map Received.input)
    let first := a.run threadId rpcTimeout ((started :: (early ++ late)).map Received.input)
    SameOutcome after first ∧
      (∀ reaped, SameOutcome (after.step threadId rpcTimeout (.reap reaped))
        (first.step threadId rpcTimeout (.reap reaped))) ∧
      ((∀ m ∈ early, isNotification m.value = true) → after.active = first.active) := by
  intro after first
  have hagree (hnot : ∀ m ∈ early, isNotification m.value = true) : Agree after first :=
    start_agree ha hnames hnot hlimits late
  rw [← and_assoc]
  refine ⟨?_, fun hnot => (hagree hnot).active⟩
  cases hfind : early.find? fun m => isNameless m.value with
  | none =>
    have hnot : ∀ m ∈ early, isNotification m.value = true := fun m hm =>
      (hkind m hm).resolve_right (List.find?_eq_none.mp hfind m hm)
    exact ⟨(hagree hnot).outcome, fun reaped =>
      ((hagree hnot).reap threadId rpcTimeout reaped).outcome⟩
  | some m =>
    obtain ⟨hm, before, rest, rfl, hbefore⟩ := List.find?_eq_some_iff_append.mp hfind
    have hnot : ∀ m ∈ before, isNotification m.value = true := fun m' hm' =>
      (hkind m' (List.mem_append_left _ hm')).resolve_right (by simpa using hbefore m' hm')
    have hopen : ∀ m ∈ before, ¬EndsTurn threadId turnId m.value := by
      intro m' hm' hended
      rw [(List.pairwise_append.mp hends).2.2 m' hm' m List.mem_cons_self hended] at hm
      cases hm
    have hsame := @nameless_outcome threadId rpcTimeout a turn turnId ha started hnames before
      hnot hopen hlimits.left m hm (rest ++ started :: late) (rest ++ late)
    simpa only [after, first, List.append_assoc, List.cons_append] using hsame

end

namespace Sample

def line (value : Value) : Received := ⟨value, 90, .ok ()⟩

def answer : Value := .object [("id", .posInt 3), ("result",
  .object [("turn", .object [("id", .string "u")])])]

def item (turnId text : String) : Value :=
  .object [("method", .string "item/completed"), ("params", .object [("threadId", .string "t"),
    ("turnId", .string turnId), ("item", .object [("type", .string "agentMessage"),
      ("text", .string text), ("phase", .string "final_answer")])])]

def turnCompleted (turnId : String) : Value :=
  .object [("method", .string "turn/completed"), ("params", .object [("threadId", .string "t"),
    ("turn", .object [("id", .string turnId), ("status", .string "completed")])])]

/-- Another turn ends, this turn says something, and a notification has no parameters. -/
def early : List Received :=
  [line (turnCompleted "v"), line (item "u" "hello"), line (item "v" "other"),
    line (.object [("method", .string "item/completed")]), line (turnCompleted "u")]

def asked : Codex :=
  Codex.step "t" 5000 {} (.handle { requestId := "r", content := "hi", deadline := 1000 } 0
    (.ok ()))

/-- A message that names no method. -/
def malformed : Value :=
  .object [("method", .null), ("params", .object [("threadId", .string "t")])]

/-- The turn is not over when a message comes that stops the actor. -/
def broken : List Received := [line (turnCompleted "v"), line (item "u" "hello"), line malformed]

theorem start_answer_anywhere_sample :
    (let after := asked.run "t" 5000 ((early ++ [line answer]).map Received.input)
      let first := asked.run "t" 5000 ((line answer :: (early ++ [])).map Received.input)
      after.log.results 0 = first.log.results 0 ∧ after.log.results 0 = [.success "hello"] ∧
        after.active = first.active) ∧
    let after := asked.run "t" 5000 ((broken ++ [line answer]).map Received.input)
    let first := asked.run "t" 5000 ((line answer :: (broken ++ [])).map Received.input)
    SameOutcome (after.step "t" 5000 (.reap true)) (first.step "t" 5000 (.reap true)) ∧
      (after.step "t" 5000 (.reap true)).log.results 0 = [.failure .codexProtocolError] := by
  have hwritten : writeJsonLine (turnStart "t" 3 "hi") (.ok ()) = .ok () := by decide +kernel
  obtain ⟨turn, hawaits, hrpc⟩ := @handle_awaits "t" 5000 {}
    { requestId := "r", content := "hi", deadline := 1000 } 0 rfl rfl nofun (by decide) hwritten
  have hnames : Names turn "u" (line answer).value := ⟨by rw [hrpc]; rfl, by rfl⟩
  have hnot : ∀ m ∈ early, isNotification m.value = true := by decide +kernel
  have hnamed : ∀ m ∈ early, isNameless m.value = false := by decide +kernel
  obtain ⟨hsame, -, hactive⟩ := @start_answer_anywhere "t" 5000 asked turn "u" hawaits
    (line answer) hnames early (fun m hm => .inl (hnot m hm))
    (List.pairwise_of_forall_mem_list fun _ _ m' hm' _ => hnamed m' hm')
    ⟨by decide +kernel, by decide +kernel⟩ []
  have hkind : ∀ m ∈ broken, isNotification m.value = true ∨ isNameless m.value = true := by
    decide +kernel
  have hopen : ∀ m ∈ broken, ¬EndsTurn "t" "u" m.value := by
    simp only [broken, List.forall_mem_cons]
    refine ⟨?_, ?_, ?_, nofun⟩
    · rintro ⟨-, params, hparams, -, hstatus⟩
      obtain rfl := Option.some.inj hparams
      exact absurd hstatus (by decide +kernel)
    · rintro ⟨hmethod, -⟩
      exact absurd hmethod (by decide +kernel)
    · rintro ⟨hmethod, -⟩
      exact absurd hmethod (by decide +kernel)
  obtain ⟨-, hreap, -⟩ := @start_answer_anywhere "t" 5000 asked turn "u" hawaits (line answer)
    hnames broken hkind
    (List.pairwise_of_forall_mem_list fun m hm _ _ hended => absurd hended (hopen m hm))
    ⟨by decide +kernel, by decide +kernel⟩ []
  exact ⟨⟨hsame.results 0, by decide +kernel, hactive hnot⟩, hreap true, by decide +kernel⟩

/-- A message that names no method stops the actor; behind the end of the turn it does so too late
to spoil a result that has been given, but not one that is still to come. -/
theorem start_answer_too_late :
    let lines := [line (item "u" "hello"), line (turnCompleted "u"), line malformed]
    let end' (lines : List Received) :=
      asked.run "t" 5000 (lines.map Received.input ++ [.reap true])
    WithinLimits "t" lines ∧
      (end' (line answer :: lines)).log.results 0 = [.success "hello"] ∧
      (end' (lines ++ [line answer])).log.results 0 = [.failure .codexProtocolError] := by
  intro lines end'
  exact ⟨⟨by decide +kernel, by decide +kernel⟩, by decide +kernel, by decide +kernel⟩

end Sample

end Codex

end SessionRouter.Providers
