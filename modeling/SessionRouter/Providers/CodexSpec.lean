import SessionRouter.Providers.Codex

/-!
The Codex actor makes the moves of the ledger, as long as the turns it starts reach the child and
the child of an open turn is reaped.
-/

namespace SessionRouter.Providers

def CodexTurn.opened (turn : CodexTurn) : OpenTurn :=
  { requestId := turn.requestId, rpcId := turn.startRpcId, owed := turn.result, evidenced := false }

namespace Codex

/-- The part of the actor that the ledger knows. -/
def view (a : Codex) : Option OpenTurn := a.active.map CodexTurn.opened

/-- The message says that the turn of that id is over. -/
def EndsTurn (threadId turnId : String) (value : Value) : Prop :=
  (value.get "method").bind Value.asStr = some "turn/completed" ∧
    ∃ params, value.get "params" = some params ∧
      (params.get "threadId").bind Value.asStr = some threadId ∧
      (completedStatus (some turnId) params).isSome

/-- The child has named the turn it was asked for, and has said that it is over. -/
def ended (threadId : String) (rpcId : ℕ) (messages : List Value) : Prop :=
  ∃ turnId, (∃ v ∈ messages, responseId v = some rpcId ∧ startedTurn v = some turnId) ∧
    ∃ v ∈ messages, EndsTurn threadId turnId v

/-- What the actor knows of a turn is from the messages of the child since it was written. -/
structure Heard (turn : CodexTurn) (log : Log) : Prop where
  named : ∀ turnId, turn.turnId = some turnId → ∃ v ∈ log.since.messages,
    responseId v = some turn.startRpcId ∧ startedTurn v = some turnId
  early : ∀ v ∈ turn.earlyEvents, v ∈ log.since.messages

theorem Heard.concat {turn : CodexTurn} {log : Log} (h : Heard turn log) {entry : Entry}
    (hturn : ∀ n requestId rpcId, entry ≠ .turn n requestId rpcId) :
    Heard turn (log ++ [entry]) := by
  have hmem (v : Value) (hv : v ∈ log.since.messages) : v ∈ Log.messages (Log.since
      (log ++ [entry])) := by
    rw [Log.since_concat log hturn, Log.messages_append]
    exact List.mem_append_left _ hv
  constructor
  · intro turnId hid
    obtain ⟨v, hv, hresponse⟩ := h.named turnId hid
    exact ⟨v, hmem v hv, hresponse⟩
  · exact fun v hv => hmem v (h.early v hv)

theorem Heard.settle {turn : CodexTurn} {log : Log} (h : Heard turn log) (reply : Option ℕ)
    (result : SessionResult) : Heard turn (log.settle reply result) := by
  cases reply with
  | none => exact h
  | some n => exact h.concat nofun

/-- The parts of a turn that its notifications leave alone. -/
structure Same (turn turn' : CodexTurn) : Prop where
  opened : turn'.opened = turn.opened
  turnId : turn'.turnId = turn.turnId
  early : turn'.earlyEvents = turn.earlyEvents

theorem Same.refl (turn : CodexTurn) : Same turn turn := ⟨rfl, rfl, rfl⟩

theorem Same.heard {turn turn' : CodexTurn} {log : Log} (hs : Same turn turn')
    (h : Heard turn log) : Heard turn' log := by
  have hrpc : turn'.startRpcId = turn.startRpcId := congrArg OpenTurn.rpcId hs.opened
  constructor
  · rw [hs.turnId, hrpc]
    exact h.named
  · rw [hs.early]
    exact h.early

theorem applyItem_same (turn : CodexTurn) (params : Value) : Same turn (applyItem turn params) := by
  unfold applyItem
  split
  · split <;> exact ⟨rfl, rfl, rfl⟩
  · exact .refl turn

theorem applyNotification_same (threadId : String) (turn : CodexTurn) (value : Value) :
    Same turn (applyNotification threadId turn value).1 := by
  unfold applyNotification
  dsimp only
  split
  · exact .refl turn
  · split_ifs
    · exact .refl turn
    · exact .refl turn
    · exact applyItem_same turn _
    · exact .refl turn
    · exact .refl turn

/-- A notification that ends a turn is relevant, and names the turn if it is known. -/
theorem applyNotification_ends {threadId : String} {turn : CodexTurn} {value : Value}
    {result : SessionResult} (h : (applyNotification threadId turn value).2 = some result) :
    isRelevantNotification threadId value = true ∧
      ∀ turnId, turn.turnId = some turnId → EndsTurn threadId turnId value := by
  unfold applyNotification at h
  dsimp only at h
  split at h
  · cases h
  · next params hparams =>
    obtain ⟨hparams, -⟩ := Option.filter_eq_some_iff.mp hparams
    split_ifs at h with hthread hitem hid hturn
    have hthread : (params.get "threadId").bind Value.asStr = some threadId := by
      simpa using hthread
    constructor
    · simp [isRelevantNotification, hturn, hparams, hthread]
    · intro turnId hid
      refine ⟨hturn, params, hparams, hthread, ?_⟩
      rw [hid] at h
      cases hstatus : completedStatus (some turnId) params with
      | none =>
        rw [hstatus] at h
        cases h
      | some status => rfl

theorem applyEarly_same (threadId : String) (turn : CodexTurn) (events : List Value) :
    Same turn (applyEarly threadId turn events).1 := by
  induction events generalizing turn with
  | nil => exact .refl turn
  | cons event events ih =>
    have hs := applyNotification_same threadId turn event
    unfold applyEarly
    split
    · next turn' result heq =>
      rw [heq] at hs
      exact hs
    · next turn' heq =>
      rw [heq] at hs
      have h := ih turn'
      exact ⟨h.opened.trans hs.opened, h.turnId.trans hs.turnId, h.early.trans hs.early⟩

theorem applyEarly_ends {threadId turnId : String} {turn : CodexTurn} {events : List Value}
    {result : SessionResult} (hid : turn.turnId = some turnId)
    (h : (applyEarly threadId turn events).2 = some result) :
    ∃ v ∈ events, EndsTurn threadId turnId v := by
  induction events generalizing turn with
  | nil => cases h
  | cons event events ih =>
    unfold applyEarly at h
    split at h
    · next turn' result' heq =>
      have hends := applyNotification_ends (congrArg Prod.snd heq)
      exact ⟨event, List.mem_cons_self, hends.2 turnId hid⟩
    · next turn' heq =>
      have hs := applyNotification_same threadId turn event
      rw [heq] at hs
      obtain ⟨v, hv, hends⟩ := ih (hs.turnId.trans hid) h
      exact ⟨v, List.mem_cons_of_mem _ hv, hends⟩

/-- The actor has gone on by moves of the ledger. -/
structure Traces (threadId : String) (a a' : Codex) : Prop where
  moves : Relation.ReflTransGen (Move (ended threadId)) (a.view, a.log) (a'.view, a'.log)
  heard : ∀ turn, a'.active = some turn → Heard turn a'.log

section

variable {threadId : String} {a a' a'' : Codex}

theorem Traces.refl (h : ∀ turn, a.active = some turn → Heard turn a.log) : Traces threadId a a :=
  ⟨.refl, h⟩

theorem Traces.trans (h : Traces threadId a a') (h' : Traces threadId a' a'') :
    Traces threadId a a'' :=
  ⟨h.moves.trans h'.moves, h'.heard⟩

/-- Only the open turn and the log count. -/
theorem Traces.congr (h : Traces threadId a a') (hactive : a''.active = a'.active)
    (hlog : a''.log = a'.log) : Traces threadId a a'' := by
  constructor
  · have hview : a''.view = a'.view := congrArg (Option.map CodexTurn.opened) hactive
    rw [hview, hlog]
    exact h.moves
  · rw [hactive, hlog]
    exact h.heard

/-- The turn changes in what the ledger does not know. -/
theorem Traces.update {turn next : CodexTurn} (hview : a.view = some turn.opened)
    (hactive : a'.active = some next) (hlog : a'.log = a.log) (hopen : next.opened = turn.opened)
    (hturn : Heard next a.log) : Traces threadId a a' := by
  constructor
  · rw [hview, hlog, view, hactive, Option.map_some, hopen]
  · intro turn' hturn'
    rw [hactive] at hturn'
    cases hturn'
    rw [hlog]
    exact hturn

theorem give_traces (h : ∀ turn, a.active = some turn → Heard turn a.log) {entry : Entry}
    (hmove : ∀ view log, Move (ended threadId) (view, log) (view, log ++ [entry]))
    (hturn : ∀ n requestId rpcId, entry ≠ .turn n requestId rpcId) :
    Traces threadId a (a.give entry) :=
  ⟨.single (hmove a.view a.log), fun turn hactive => (h turn hactive).concat hturn⟩

theorem reply_traces (h : ∀ turn, a.active = some turn → Heard turn a.log) (result : Io) :
    Traces threadId a (a.give (.reply result)) :=
  give_traces h (fun view log => .reply view log result) nofun

theorem refuse_traces (h : ∀ turn, a.active = some turn → Heard turn a.log)
    (error : ProviderError) : Traces threadId a (a.refuse error) := by
  refine ⟨.single (.refuse a.view a.log _), ?_⟩
  intro turn hactive
  have hcommand : Heard turn (a.log ++ [.command a.log.commands]) :=
    (h turn hactive).concat nofun
  have hresult : Heard turn (a.log ++ [.command a.log.commands] ++
      [.result a.log.commands (.failure error)]) := hcommand.concat nofun
  rw [List.append_assoc] at hresult
  exact hresult

theorem settle_traces {turn : CodexTurn} (hview : a.view = some turn.opened)
    (hturn : Heard turn a.log) (result : SessionResult) :
    Traces threadId a (a.settle turn result) := by
  constructor
  · rw [hview]
    exact Move.settled turn.opened a.log result
  · intro turn' hturn'
    cases hturn'
    have hheard := hturn.settle turn.result result
    exact ⟨hheard.named, hheard.early⟩

theorem finish_traces {turn : CodexTurn} {e : TerminalEvidence} {result : SessionResult}
    (hview : a.view = some turn.opened) (hid : e.requestId = turn.requestId)
    (htrue : Evident (ended threadId) turn.startRpcId a.log) (hactive : a'.active = none)
    (hlog : a'.log = a.log.settle turn.result result ++ [.evidence e]) : Traces threadId a a' := by
  constructor
  · rw [hview, hlog, view, hactive]
    apply (Move.settled turn.opened a.log result).trans
    exact Move.finished rfl rfl hid (htrue.settle _ _)
  · rw [hactive]
    nofun

theorem sendInterrupt_traces {turn : CodexTurn} (hview : a.view = some turn.opened)
    (hturn : Heard turn a.log) (turnId : String) (io : Io) :
    Traces threadId a (a.sendInterrupt threadId turn turnId io).2 := by
  unfold sendInterrupt
  dsimp only
  split
  · exact .update hview rfl rfl rfl hturn
  · exact .update hview rfl rfl rfl ⟨hturn.named, hturn.early⟩

theorem beginCancel_traces {turn : CodexTurn} (hview : a.view = some turn.opened)
    (hturn : Heard turn a.log) (error : ProviderError) (reason : TerminalReason) (now : Instant)
    (io : Io) : Traces threadId a (a.beginCancel threadId turn error reason now io).2 := by
  have hsettled : Traces threadId a (a.settle turn (.failure error)) :=
    settle_traces hview hturn _
  have hheard := hsettled.heard _ rfl
  have hcancel : Traces threadId a { a.settle turn (.failure error) with
      active := some { turn with
        result := none
        terminalReason := reason
        cancelDeadline := some (now + providerTerminalGrace) }
      state := .cancelling } :=
    hsettled.trans (.update rfl rfl rfl rfl ⟨hheard.named, hheard.early⟩)
  unfold beginCancel
  dsimp only
  split
  · exact hcancel.trans (sendInterrupt_traces rfl (hcancel.heard _ rfl) _ io)
  · exact hcancel

theorem cancel_traces (h : ∀ turn, a.active = some turn → Heard turn a.log) (requestId : String)
    (reason : CancelReason) (now : Instant) (io : Io) :
    Traces threadId a (a.cancel threadId requestId reason now io) := by
  unfold cancel
  split
  · exact reply_traces h _
  · next turn hactive =>
    have hview : a.view = some turn.opened := by
      rw [view, hactive]
      rfl
    have hcancel {error : ProviderError} {result : Except ProviderError Unit} {a' : Codex}
        (heq : a.beginCancel threadId turn error reason.terminal now io = (result, a')) :
        Traces threadId a a' := by
      have htraces : Traces threadId a _ :=
        beginCancel_traces hview (h turn hactive) error reason.terminal now io
      rw [heq] at htraces
      exact htraces
    split
    · exact reply_traces h _
    · split
      · dsimp only
        split
        · next a' heq =>
          have htraces := hcancel heq
          exact (htraces.trans (reply_traces htraces.heard _)).congr rfl rfl
        · next a' heq =>
          have htraces := hcancel heq
          exact htraces.trans (reply_traces htraces.heard _)
      · exact reply_traces h _

theorem finishActive_traces {turn : CodexTurn} (hview : a.view = some turn.opened)
    (htrue : ended threadId turn.startRpcId a.log.since.messages) (result : SessionResult) :
    Traces threadId a (a.finishActive turn result) :=
  finish_traces hview rfl (Or.inr htrue) rfl rfl

theorem processStarted_traces {turn : CodexTurn} {value : Value}
    (hactive : a.active = some turn) (hturn : Heard turn a.log)
    (hvalue : value ∈ a.log.since.messages) (hid : responseId value = some turn.startRpcId)
    (io : Io) : Traces threadId a (a.processStarted threadId turn value io).2 := by
  have hview : a.view = some turn.opened := by
    rw [view, hactive]
    rfl
  unfold processStarted
  split
  · refine .refl fun turn' hturn' => ?_
    rw [hactive] at hturn'
    cases hturn'
    exact hturn
  · next turnId hstarted =>
    have hnamed : Heard { turn with turnId := some turnId, earlyEvents := [], earlyBytes := 0 }
        a.log := by
      refine ⟨?_, nofun⟩
      intro turnId' heq
      cases heq
      exact ⟨value, hvalue, hid, hstarted⟩
    dsimp only
    have hsame := applyEarly_same threadId
      { turn with turnId := some turnId, earlyEvents := [], earlyBytes := 0 } turn.earlyEvents
    split
    · next next result heq =>
      rw [heq] at hsame
      obtain ⟨event, hevent, hends⟩ : ∃ v ∈ turn.earlyEvents, EndsTurn threadId turnId v :=
        applyEarly_ends rfl (congrArg Prod.snd heq)
      have hview' : a.view = some next.opened := hview.trans (congrArg some hsame.opened.symm)
      have hrpc : next.startRpcId = turn.startRpcId := congrArg OpenTurn.rpcId hsame.opened
      apply finishActive_traces hview'
      rw [hrpc]
      exact ⟨turnId, ⟨value, hvalue, hid, hstarted⟩, event, hturn.early event hevent, hends⟩
    · next next heq =>
      rw [heq] at hsame
      have hnext : Heard next a.log := hsame.heard hnamed
      have htraces : Traces threadId a { a with active := some next } :=
        .update hview rfl rfl hsame.opened hnext
      split_ifs
      · have hinterrupt : Traces threadId { a with active := some next }
            (sendInterrupt threadId { a with active := some next } next turnId io).2 :=
          sendInterrupt_traces (a := { a with active := some next }) rfl hnext turnId io
        exact htraces.trans hinterrupt
      · exact htraces

theorem processNotification_traces {turn : CodexTurn} {value : Value}
    (hactive : a.active = some turn) (hturn : Heard turn a.log)
    (hvalue : value ∈ a.log.since.messages) (bytes : ℕ) :
    Traces threadId a (a.processNotification threadId turn value bytes).2 := by
  have hview : a.view = some turn.opened := by
    rw [view, hactive]
    rfl
  have hrefl : Traces threadId a a := by
    refine .refl fun turn' hturn' => ?_
    rw [hactive] at hturn'
    cases hturn'
    exact hturn
  unfold processNotification
  split_ifs with hearly hfull
  · exact hrefl
  · refine .update hview rfl rfl rfl ⟨hturn.named, ?_⟩
    intro v hv
    rcases List.mem_append.mp hv with hv | hv
    · exact hturn.early v hv
    · rw [List.mem_singleton.mp hv]
      exact hvalue
  · have hsame := applyNotification_same threadId turn value
    split
    · next next result heq =>
      rw [heq] at hsame
      obtain ⟨hrelevant, hends⟩ := applyNotification_ends (congrArg Prod.snd heq)
      have hrpc : next.startRpcId = turn.startRpcId := congrArg OpenTurn.rpcId hsame.opened
      -- an unnamed turn would have kept the notification for later
      cases hid : turn.turnId with
      | none =>
        rw [hid, hrelevant] at hearly
        exact absurd rfl hearly
      | some turnId =>
        apply finishActive_traces (hview.trans (congrArg some hsame.opened.symm))
        rw [hrpc]
        exact ⟨turnId, hturn.named turnId hid, value, hvalue, hends turnId hid⟩
    · next next heq =>
      rw [heq] at hsame
      exact .update hview rfl rfl hsame.opened (hsame.heard hturn)

theorem processMessage_traces (h : ∀ turn, a.active = some turn → Heard turn a.log)
    {value : Value} (hvalue : value ∈ a.log.since.messages) (bytes : ℕ) (io : Io) :
    Traces threadId a (a.processMessage threadId value bytes io).2 := by
  unfold processMessage
  split
  · exact .refl h
  · split
    · next id hid =>
      split
      · exact .refl h
      · next turn hactive =>
        split_ifs with hstart
        · exact processStarted_traces hactive (h turn hactive) hvalue (hstart ▸ hid) io
        · exact .refl h
    · split
      · exact .refl h
      · split
        · exact .refl h
        · next turn hactive =>
          exact processNotification_traces hactive (h turn hactive) hvalue bytes

theorem handleWireEvent_traces (h : ∀ turn, a.active = some turn → Heard turn a.log)
    (event : WireEvent) (io : Io) :
    Traces threadId a (a.handleWireEvent threadId event io).2 := by
  cases event with
  | protocolError => exact .refl h
  | eof => exact .refl h
  | message value bytes =>
    have hgive : Traces threadId a (a.give (.message value)) :=
      give_traces h (fun view log => .message view log value) nofun
    have hvalue : value ∈ Log.messages (Log.since (a.give (.message value)).log) := by
      show value ∈ Log.messages (Log.since (a.log ++ [.message value]))
      rw [Log.since_concat a.log (by intros; nofun), Log.messages_append]
      exact List.mem_append_right _ List.mem_cons_self
    exact hgive.trans (processMessage_traces hgive.heard hvalue bytes io)

/-- A turn that reaches the child. -/
theorem startActorTurn_traces {request : SessionRequest} {now : Instant} {io : Io}
    {rpcTimeout : ℕ} (hactive : a.active = none)
    (hwritten : writeJsonLine (turnStart threadId a.nextRpcId request.content) io = .ok ()) :
    Traces threadId a (a.startActorTurn threadId rpcTimeout request now io) := by
  have hview : a.view = none := by
    rw [view, hactive]
    rfl
  unfold startActorTurn
  dsimp only
  rw [hwritten]
  constructor
  · rw [hview]
    exact .single (.start a.log request.requestId a.nextRpcId)
  · intro turn hturn
    cases hturn
    exact ⟨nofun, nofun⟩

variable (threadId) in
/-- The turn of a command that is not refused reaches the child, and the child of an open turn is
reaped. -/
def Orderly (a : Codex) : Input → Prop
  | .handle request now io => a.active = none → a.state ≠ .closed → now < request.deadline →
    writeJsonLine (turnStart threadId a.nextRpcId request.content) io = .ok ()
  | .reap reaped => a.active.isSome → reaped = true
  | _ => True

theorem handle_traces (h : ∀ turn, a.active = some turn → Heard turn a.log) {rpcTimeout : ℕ}
    {request : SessionRequest} {now : Instant} {io : Io}
    (ho : Orderly threadId a (.handle request now io)) :
    Traces threadId a (a.handle threadId rpcTimeout request now io) := by
  unfold handle
  split_ifs with hbusy hclosed hdue
  · exact refuse_traces h _
  · exact refuse_traces h _
  · exact refuse_traces h _
  · have hactive : a.active = none := by simpa using hbusy
    exact startActorTurn_traces hactive (ho hactive hclosed (not_le.mp hdue))

theorem finishOpen_traces (h : ∀ turn, a.active = some turn → Heard turn a.log)
    (hreaped : a.active.isSome → Entry.reaped ∈ a.log.since) (error : ProviderError)
    (reaped : Bool) : Traces threadId a (a.finishOpen error reaped) := by
  unfold finishOpen
  split
  · next turn hactive =>
    have hview : a.view = some turn.opened := by
      rw [view, hactive]
      rfl
    exact finish_traces hview rfl (Or.inl (hreaped (by rw [hactive]; rfl))) rfl rfl
  · exact .refl h

theorem finishActor_traces (h : ∀ turn, a.active = some turn → Heard turn a.log)
    {reaped : Bool} (ho : Orderly threadId a (.reap reaped)) (error : ProviderError)
    (close : Bool) : Traces threadId a (a.finishActor error close reaped) := by
  have hreap : Traces threadId a (if reaped then a.give .reaped else a) ∧
      ((if reaped then a.give .reaped else a).active.isSome →
        Entry.reaped ∈ (if reaped then a.give .reaped else a).log.since) := by
    cases reaped with
    | true =>
      refine ⟨give_traces h (fun view log => .reap view log) nofun, fun _ => ?_⟩
      show Entry.reaped ∈ Log.since (a.log ++ [.reaped])
      rw [Log.since_concat a.log (by intros; nofun)]
      exact List.mem_append_right _ List.mem_cons_self
    | false => exact ⟨.refl h, fun hactive => absurd (ho hactive) nofun⟩
  unfold finishActor
  dsimp only
  generalize (if reaped then a.give .reaped else a) = b at hreap
  have hclosed : Traces threadId a { b with state := .closed, phase := .finished } :=
    hreap.1.congr rfl rfl
  have hopen : Traces threadId a
      (finishOpen { b with state := .closed, phase := .finished } error reaped) :=
    hclosed.trans (finishOpen_traces hclosed.heard hreap.2 error reaped)
  split
  · exact hopen.trans (reply_traces hopen.heard _)
  · exact hopen

theorem loop_traces (h : ∀ turn, a.active = some turn → Heard turn a.log) {rpcTimeout : ℕ}
    {input : Input} (ho : Orderly threadId a input) :
    Traces threadId a (a.loop threadId rpcTimeout input) := by
  cases input with
  | handle request now io => exact handle_traces h ho
  | cancel requestId reason now io => exact cancel_traces h requestId reason now io
  | close => exact (Traces.refl h).congr rfl rfl
  | disconnected => exact (Traces.refl h).congr rfl rfl
  | wire event io =>
    have htraces : Traces threadId a _ := handleWireEvent_traces h event io
    unfold loop
    dsimp only
    split
    · next e a' heq =>
      rw [heq] at htraces
      exact htraces.congr rfl rfl
    · next a' heq =>
      rw [heq] at htraces
      exact htraces
  | requestDeadline now io =>
    unfold loop
    dsimp only
    split
    · exact .refl h
    · next turn hdue =>
      obtain ⟨hactive, -⟩ := Option.filter_eq_some_iff.mp hdue
      have hview : a.view = some turn.opened := by
        rw [view, hactive]
        rfl
      have htraces : Traces threadId a (a.handleRequestTimeout threadId turn now io).2 :=
        beginCancel_traces hview (h turn hactive) _ _ now io
      split
      · next e a' heq =>
        rw [heq] at htraces
        exact htraces.congr rfl rfl
      · next a' heq =>
        rw [heq] at htraces
        exact htraces
  | startDeadline now =>
    unfold loop
    dsimp only
    split
    · exact (Traces.refl h).congr rfl rfl
    · exact .refl h
  | cancelDeadline now =>
    unfold loop
    dsimp only
    split
    · exact (Traces.refl h).congr rfl rfl
    · exact .refl h
  | childExited => exact (Traces.refl h).congr rfl rfl
  | reap reaped => exact .refl h

/-- The step lemma. -/
theorem step_traces (h : ∀ turn, a.active = some turn → Heard turn a.log) {rpcTimeout : ℕ}
    {input : Input} (ho : Orderly threadId a input) :
    Traces threadId a (a.step threadId rpcTimeout input) := by
  unfold step
  split
  · exact loop_traces h ho
  · exact finishActor_traces h ho _ _
  · exact refuse_traces h _
  · exact reply_traces h _
  · exact reply_traces h _
  · exact .refl h

/-- The entry checks of a command pass. -/
def Accepts (a : Codex) (request : SessionRequest) (now : Instant) : Prop :=
  a.phase = .running ∧ a.active = none ∧ a.state ≠ .closed ∧ now < request.deadline

theorem refuse_taken (a : Codex) (error : ProviderError) :
    a.log ++ [.command a.log.commands] <+: (a.refuse error).log :=
  ⟨[.result a.log.commands (.failure error)], List.append_assoc _ _ _⟩

/-- Every command to handle a request is taken. -/
theorem handle_taken (a : Codex) (threadId : String) (rpcTimeout : ℕ) (request : SessionRequest)
    (now : Instant) (io : Io) :
    a.log ++ [.command a.log.commands] <+:
      (a.step threadId rpcTimeout (.handle request now io)).log := by
  unfold step
  cases a.phase with
  | running =>
    show _ <+: (a.handle threadId rpcTimeout request now io).log
    unfold handle
    split_ifs
    · exact refuse_taken a _
    · exact refuse_taken a _
    · exact refuse_taken a _
    · unfold startActorTurn
      dsimp only
      split
      · exact ⟨[.turn a.log.commands request.requestId a.nextRpcId,
          .result a.log.commands (.failure .providerDisconnected)], by simp [give, stop]⟩
      · exact ⟨[.turn a.log.commands request.requestId a.nextRpcId], by simp⟩
  | stopping error close => exact refuse_taken a _
  | finished => exact refuse_taken a _

/-- The turn of a command that passes the entry checks is written. -/
theorem handle_written {request : SessionRequest} {now : Instant} {io : Io}
    (h : a.Accepts request now) (ho : Orderly threadId a (.handle request now io))
    (rpcTimeout : ℕ) : (a.step threadId rpcTimeout (.handle request now io)).log =
      a.log ++ [.command a.log.commands, .turn a.log.commands request.requestId a.nextRpcId] := by
  obtain ⟨hrunning, hactive, hopen, hdue⟩ := h
  have hwritten := ho hactive hopen hdue
  unfold step
  rw [hrunning]
  show (a.handle threadId rpcTimeout request now io).log = _
  unfold handle
  rw [if_neg (by simp [hactive]), if_neg hopen, if_neg (not_le.mpr hdue)]
  unfold startActorTurn
  dsimp only
  rw [hwritten]

theorem sendInterrupt_spec (a : Codex) (turn : CodexTurn) (turnId : String) (io : Io) :
    (a.sendInterrupt threadId turn turnId io).2.phase = a.phase ∧
      ∃ next, (a.sendInterrupt threadId turn turnId io).2.active = some next ∧
        next.cancelDeadline = turn.cancelDeadline := by
  unfold sendInterrupt
  dsimp only
  split <;> exact ⟨rfl, _, rfl, rfl⟩

theorem beginCancel_spec (a : Codex) (turn : CodexTurn) (error : ProviderError)
    (reason : TerminalReason) (now : Instant) (io : Io) :
    (a.beginCancel threadId turn error reason now io).2.phase = a.phase ∧
      ∃ next, (a.beginCancel threadId turn error reason now io).2.active = some next ∧
        next.cancelDeadline = some (now + providerTerminalGrace) := by
  unfold beginCancel
  dsimp only
  split
  · exact sendInterrupt_spec ..
  · exact ⟨rfl, _, rfl, rfl⟩

theorem processStarted_phase (a : Codex) (turn : CodexTurn) (value : Value) (io : Io) :
    (a.processStarted threadId turn value io).2.phase = a.phase := by
  unfold processStarted
  split
  · rfl
  · dsimp only
    split
    · rfl
    · split
      · exact (sendInterrupt_spec ..).1
      · rfl

theorem processNotification_phase (a : Codex) (turn : CodexTurn) (value : Value) (bytes : ℕ) :
    (a.processNotification threadId turn value bytes).2.phase = a.phase := by
  unfold processNotification
  split_ifs
  · rfl
  · rfl
  · split <;> rfl

theorem handleWireEvent_phase (a : Codex) (event : WireEvent) (io : Io) :
    (a.handleWireEvent threadId event io).2.phase = a.phase := by
  cases event with
  | protocolError => rfl
  | eof => rfl
  | message value bytes =>
    show (processMessage threadId (a.give (.message value)) value bytes io).2.phase = _
    unfold processMessage
    split
    · rfl
    · split
      · split
        · rfl
        · split
          · exact processStarted_phase ..
          · rfl
      · split
        · rfl
        · split
          · rfl
          · exact processNotification_phase ..

/-- The loop goes on or stops, but never ends the actor. -/
theorem loop_phase (hrunning : a.phase = .running) (rpcTimeout : ℕ) (input : Input) :
    (a.loop threadId rpcTimeout input).phase ≠ .finished := by
  have hnot : a.phase ≠ .finished := by
    rw [hrunning]
    nofun
  cases input with
  | handle request now io =>
    show (a.handle threadId rpcTimeout request now io).phase ≠ _
    unfold handle
    split_ifs
    · exact hnot
    · exact hnot
    · exact hnot
    · unfold startActorTurn
      dsimp only
      split
      · nofun
      · exact hnot
  | cancel requestId reason now io =>
    show (a.cancel threadId requestId reason now io).phase ≠ _
    unfold cancel
    split
    · exact hnot
    · split
      · exact hnot
      · split
        · dsimp only
          split
          · nofun
          · next a' heq =>
            have hphase := congrArg (fun r => r.2.phase) heq
            rw [(beginCancel_spec ..).1] at hphase
            exact hphase ▸ hnot
        · exact hnot
  | close => nofun
  | disconnected => nofun
  | wire event io =>
    unfold loop
    dsimp only
    split
    · nofun
    · next a' heq =>
      have hphase := congrArg (fun r => r.2.phase) heq
      rw [handleWireEvent_phase] at hphase
      exact hphase ▸ hnot
  | requestDeadline now io =>
    unfold loop
    dsimp only
    split
    · exact hnot
    · split
      · nofun
      · next a' heq =>
        have hphase := congrArg (fun r => r.2.phase) heq
        rw [handleRequestTimeout, (beginCancel_spec ..).1] at hphase
        exact hphase ▸ hnot
  | startDeadline now =>
    unfold loop
    dsimp only
    split
    · nofun
    · exact hnot
  | cancelDeadline now =>
    unfold loop
    dsimp only
    split
    · nofun
    · exact hnot
  | childExited => nofun
  | reap reaped => exact hnot

theorem finishActor_spec (a : Codex) (error : ProviderError) (close reaped : Bool) :
    (a.finishActor error close reaped).phase = .finished ∧
      (a.finishActor error close reaped).active = none := by
  have hopen (b : Codex) : (b.finishOpen error reaped).phase = b.phase ∧
      (b.finishOpen error reaped).active = none := by
    unfold finishOpen
    split
    · exact ⟨rfl, rfl⟩
    · next hnone => exact ⟨rfl, hnone⟩
  unfold finishActor
  dsimp only
  split
  · exact hopen _
  · exact hopen _

end

section

variable (threadId : String) (rpcTimeout : ℕ)

/-- All inputs of a run are orderly. -/
def OrderlyRun (a : Codex) : List Input → Prop
  | [] => True
  | input :: inputs =>
    Orderly threadId a input ∧ OrderlyRun (a.step threadId rpcTimeout input) inputs

/-- The invariant of orderly runs. -/
structure Inv (a : Codex) : Prop where
  heard : ∀ turn, a.active = some turn → Heard turn a.log
  balanced : Balanced (ended threadId) a.view a.log
  finished : a.phase = .finished → a.active = none

/-- An input that comes by itself when time passes. -/
def Input.timed : Input → Bool
  | .requestDeadline .. | .cancelDeadline .. | .reap .. => true
  | _ => false

/-- The passing of time alone ends the actor. -/
def Drains (a : Codex) : Prop :=
  ∃ inputs : List Input, (∀ input ∈ inputs, input.timed = true) ∧
    OrderlyRun threadId rpcTimeout a inputs ∧
    (a.run threadId rpcTimeout inputs).phase = .finished

end

section

variable {threadId : String} {rpcTimeout : ℕ} {a : Codex}

theorem Inv.initial : Inv threadId {} := ⟨nofun, .empty, nofun⟩

theorem Inv.step (h : Inv threadId a) {input : Input} (ho : Orderly threadId a input) :
    Inv threadId (a.step threadId rpcTimeout input) := by
  have htraces : Traces threadId a (a.step threadId rpcTimeout input) := step_traces h.heard ho
  refine ⟨htraces.heard, h.balanced.moves htraces.moves, ?_⟩
  unfold Codex.step
  split
  · next hrunning => exact fun hfinished => absurd hfinished (loop_phase hrunning rpcTimeout _)
  · exact fun _ => (finishActor_spec ..).2
  · exact h.finished
  · exact h.finished
  · exact h.finished
  · exact h.finished

theorem Inv.run (h : Inv threadId a) {inputs : List Input}
    (ho : OrderlyRun threadId rpcTimeout a inputs) :
    Inv threadId (a.run threadId rpcTimeout inputs) := by
  induction inputs generalizing a with
  | nil => exact h
  | cons input inputs ih => exact ih (h.step ho.1) ho.2

theorem OrderlyRun.split {before after : List Input}
    (ho : OrderlyRun threadId rpcTimeout a (before ++ after)) :
    OrderlyRun threadId rpcTimeout a before ∧
      OrderlyRun threadId rpcTimeout (a.run threadId rpcTimeout before) after := by
  induction before generalizing a with
  | nil => exact ⟨trivial, ho⟩
  | cons input before ih =>
    obtain ⟨hbefore, hafter⟩ := ih ho.2
    exact ⟨⟨ho.1, hbefore⟩, hafter⟩

theorem Inv.run_extends (h : Inv threadId a) {inputs : List Input}
    (ho : OrderlyRun threadId rpcTimeout a inputs) :
    a.log <+: (a.run threadId rpcTimeout inputs).log := by
  induction inputs generalizing a with
  | nil => exact List.prefix_rfl
  | cons input inputs ih =>
    have hstep : a.log <+: (a.step threadId rpcTimeout input).log :=
      Move.extends_all (step_traces h.heard ho.1).moves
    exact hstep.trans (ih (h.step ho.1) ho.2)

/-- What becomes of every command of a run. -/
theorem Inv.handled (h : Inv threadId a) {before after : List Input} {request : SessionRequest}
    {now : Instant} {io : Io}
    (ho : OrderlyRun threadId rpcTimeout a (before ++ .handle request now io :: after)) :
    let past := a.run threadId rpcTimeout before
    let last := a.run threadId rpcTimeout (before ++ .handle request now io :: after)
    Handled last.view past.log last.log request.requestId (past.Accepts request now) := by
  intro past last
  obtain ⟨hbefore, hhandle, hafter⟩ := ho.split
  have hpast : Inv threadId past := h.run hbefore
  have hlast : last = (past.step threadId rpcTimeout (.handle request now io)).run threadId
      rpcTimeout after := List.foldl_append ..
  have hrest : (past.step threadId rpcTimeout (.handle request now io)).log <+: last.log := by
    rw [hlast]
    exact (hpast.step hhandle).run_extends hafter
  apply (h.run ho).balanced.handled
  · exact (handle_taken past threadId rpcTimeout request now io).trans hrest
  · intro haccepts
    rw [handle_written haccepts hhandle rpcTimeout] at hrest
    exact ⟨past.nextRpcId, hrest⟩

theorem Drains.cons {i : Input} (htimed : i.timed = true) (ho : Orderly threadId a i)
    (h : Drains threadId rpcTimeout (a.step threadId rpcTimeout i)) :
    Drains threadId rpcTimeout a := by
  obtain ⟨inputs, hinputs, hos, hfinished⟩ := h
  exact ⟨i :: inputs, List.forall_mem_cons.mpr ⟨htimed, hinputs⟩, ⟨ho, hos⟩, hfinished⟩

theorem drains_stopped {error : ProviderError} {close : Bool}
    (hstopped : a.phase = .stopping error close) : Drains threadId rpcTimeout a := by
  refine ⟨[.reap true], by simp [Input.timed], ⟨fun _ => rfl, trivial⟩, ?_⟩
  show (a.step threadId rpcTimeout (.reap true)).phase = _
  unfold Codex.step
  rw [hstopped]
  exact (finishActor_spec ..).1

theorem drains_cancelled {turn : CodexTurn} {deadline : Instant} (hrunning : a.phase = .running)
    (hactive : a.active = some turn) (hcancel : turn.cancelDeadline = some deadline) :
    Drains threadId rpcTimeout a := by
  have hstep : a.step threadId rpcTimeout (.cancelDeadline deadline) =
      a.stop .requestTimeout false := by
    unfold Codex.step
    rw [hrunning]
    show (if a.cancelDue deadline then _ else _) = _
    rw [if_pos (by simp [cancelDue, hactive, hcancel])]
  apply Drains.cons (i := .cancelDeadline deadline) rfl trivial
  rw [hstep]
  exact drains_stopped rfl

/-- An open turn cannot last: its deadlines end the actor. -/
theorem drains_of_open (hrunning : a.phase = .running) (hopen : a.active.isSome) :
    Drains threadId rpcTimeout a := by
  obtain ⟨turn, hactive⟩ := Option.isSome_iff_exists.mp hopen
  cases hcancel : turn.cancelDeadline with
  | some deadline => exact drains_cancelled hrunning hactive hcancel
  | none =>
    have hdue : a.requestDue turn.deadline = some turn := by
      simp [requestDue, hactive, hcancel, Option.filter]
    have hstep : a.step threadId rpcTimeout (.requestDeadline turn.deadline (.ok ())) =
        Codex.loop threadId rpcTimeout a (.requestDeadline turn.deadline (.ok ())) := by
      unfold Codex.step
      rw [hrunning]
    apply Drains.cons (i := .requestDeadline turn.deadline (.ok ())) rfl trivial
    rw [hstep]
    unfold Codex.loop
    dsimp only
    rw [hdue]
    dsimp only [handleRequestTimeout]
    obtain ⟨hphase, next, hnext, hdeadline⟩ := @beginCancel_spec threadId a turn
      .requestTimeout .requestTimeout turn.deadline (.ok ())
    split
    · exact drains_stopped rfl
    · next a' heq =>
      rw [heq] at hphase hnext
      exact drains_cancelled (hphase.trans hrunning) hnext hdeadline

end

end Codex

end SessionRouter.Providers
