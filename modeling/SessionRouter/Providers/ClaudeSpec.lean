import SessionRouter.Providers.Claude

/-!
The Claude actor makes the moves of the ledger, as long as the turns it starts reach the child and
the child of a turn without evidence is reaped.
-/

namespace SessionRouter.Providers

def ClaudeTurn.opened (turn : ClaudeTurn) : OpenTurn where
  requestId := turn.requestId
  rpcId := turn.rpcId
  owed := turn.result
  evidenced := turn.terminalSent

namespace Claude

/-- The part of the actor that the ledger knows. -/
def view (a : Claude) : Option OpenTurn := a.active.map ClaudeTurn.opened

/-- The bridge has answered the turn. -/
def ended (rpcId : ℕ) (messages : List Value) : Prop :=
  ∃ v ∈ messages, validateResponseEnvelope v rpcId = .ok ()

/-- The actor has gone on by moves of the ledger. -/
def Traces (a a' : Claude) : Prop :=
  Relation.ReflTransGen (Move ended) (a.view, a.log) (a'.view, a'.log)

variable {a a' a'' : Claude} {turn : ClaudeTurn}

theorem view_of_active (h : a.active = some turn) : a.view = some turn.opened := by
  rw [view, h]
  rfl

theorem Traces.refl (a : Claude) : Traces a a := Relation.ReflTransGen.refl

theorem Traces.trans (h : Traces a a') (h' : Traces a' a'') : Traces a a'' :=
  Relation.ReflTransGen.trans h h'

/-- Only the open turn and the log count. -/
theorem Traces.congr (h : Traces a a') (hview : a''.view = a'.view) (hlog : a''.log = a'.log) :
    Traces a a'' := by
  unfold Traces
  rw [hview, hlog]
  exact h

theorem reply_traces (a : Claude) (result : Io) : Traces a (a.give (.reply result)) :=
  .single (.reply a.view a.log result)

theorem dropClose_traces (a : Claude) (closing : Bool) : Traces a (a.dropClose closing) := by
  unfold dropClose
  split
  · exact reply_traces a _
  · exact .refl a

theorem refuse_traces (a : Claude) (error : ProviderError) : Traces a (a.refuse error) :=
  .single (.refuse a.view a.log _)

theorem settle_traces (hview : a.view = some turn.opened) (result : SessionResult) :
    Traces a (a.settle turn result) := by
  unfold Traces
  rw [hview]
  exact Move.settled turn.opened a.log result

theorem tell_traces (hview : a.view = some turn.opened) (hnew : turn.terminalSent = false)
    (htrue : Evident ended turn.rpcId a.log) : Traces a (a.tell turn) := by
  unfold Traces
  rw [hview]
  exact .single (.evidence hnew rfl htrue)

theorem beginClose_traces (hview : a.view = some turn.opened) (now : Instant) (io : Io) :
    Traces a (a.beginClose turn now io).2 := by
  unfold beginClose
  cases io with
  | error e => exact (Traces.refl a).congr hview.symm rfl
  | ok _ => exact (Traces.refl a).congr hview.symm rfl

theorem endTurn_traces (hview : a.view = some turn.opened) (error : ProviderError)
    (reason : TerminalReason) (now : Instant) (io : Io) :
    Traces a (a.endTurn turn error reason now io).2 :=
  (settle_traces hview (.failure error)).trans (beginClose_traces rfl now io)

theorem cancelTurn_traces (a : Claude) (closing : Bool) (requestId : String)
    (reason : CancelReason) (now : Instant) (io : Io) :
    Traces a (a.cancelTurn closing requestId reason now io) := by
  unfold cancelTurn
  split
  · exact reply_traces a _
  · next turn hactive =>
    have hend {error : ProviderError} {result : Except ProviderError Unit} {a' : Claude}
        (heq : a.endTurn turn error reason.terminal now io = (result, a')) : Traces a a' := by
      have htraces := endTurn_traces (view_of_active hactive) error reason.terminal now io
      rw [heq] at htraces
      exact htraces
    split
    · exact reply_traces a _
    · split
      · dsimp only
        split
        · next a' heq =>
          apply Traces.congr _ rfl rfl
          exact (hend heq).trans ((reply_traces a' _).trans (dropClose_traces _ closing))
        · next a' heq => exact (hend heq).trans (reply_traces a' _)
      · exact reply_traces a _

theorem closeActor_traces (a : Claude) (closing : Bool) (now : Instant) (io : Io) :
    Traces a (a.closeActor closing now io) := by
  unfold closeActor
  split
  · next turn hactive =>
    have htraces := endTurn_traces (view_of_active hactive) .providerDisconnected .sessionEnded
      now io
    split
    · next a' heq =>
      rw [heq] at htraces
      exact (htraces.trans (dropClose_traces a' closing)).congr rfl rfl
    · next a' heq =>
      rw [heq] at htraces
      exact (htraces.trans (dropClose_traces a' closing)).congr rfl rfl
  · exact (dropClose_traces a closing).congr rfl rfl

theorem endSession_traces (hview : a.view = some turn.opened) (hnew : turn.terminalSent = false)
    (htrue : Evident ended turn.rpcId a.log) (error : ProviderError) (now : Instant) (io : Io) :
    Traces a (a.endSession turn error now io).2 := by
  apply (settle_traces hview (.failure error)).trans
  refine Traces.trans (tell_traces ?_ ?_ ?_) (beginClose_traces rfl now io)
  · rfl
  · exact hnew
  · exact htrue.settle turn.result (.failure error)

theorem complete_traces (hview : a.view = some turn.opened) (hnew : turn.terminalSent = false)
    (htrue : Evident ended turn.rpcId a.log) (result : SessionResult) :
    Traces a (a.complete turn result) := by
  apply (settle_traces hview result).trans
  exact Move.finished rfl hnew rfl (htrue.settle turn.result result)

theorem processTurn_traces (parseUuid : String → Option Uuid) (hactive : a.active = some turn)
    {value : Value} (hvalue : value ∈ a.log.since.messages)
    (hopen : turn.closeDeadline = none → turn.terminalSent = false) (now : Instant) (io : Io) :
    Traces a (a.processTurn parseUuid turn value now io).2 := by
  unfold processTurn
  split
  · exact .refl a
  · next hvalid =>
    have htrue : Evident ended turn.rpcId a.log := Or.inr ⟨value, hvalue, hvalid⟩
    split
    · exact .refl a
    · next result sessionId _ =>
      have hview : Claude.view { a with sessionId := sessionId <|> a.sessionId } =
          some turn.opened := view_of_active hactive
      dsimp only
      split
      · split
        · exact .refl a
        · next hsent => exact tell_traces hview (Bool.eq_false_iff.mpr hsent) htrue
      · next hlive =>
        have hnew : turn.terminalSent = false := hopen (by simpa using hlive)
        split
        · split
          · exact endSession_traces hview hnew htrue _ now io
          · exact complete_traces hview hnew htrue _
        · exact complete_traces hview hnew htrue _

theorem processAnswer_traces {next : ClaudeTurn} (hactive : a.active = some turn)
    (hnext : next.opened = turn.opened) (value : Value) (id : ℕ) (accepts : Value → Bool) :
    Traces a (a.processAnswer turn next value id accepts).2 := by
  have hview := view_of_active hactive
  unfold processAnswer
  split
  · exact (Traces.refl a).congr hview.symm rfl
  · split
    · exact (Traces.refl a).congr (hview.trans (congrArg some hnext.symm)).symm rfl
    · exact (Traces.refl a).congr hview.symm rfl

/-- Evidence for an open turn is given only when the bridge is asked to close. -/
def Quiet (a : Claude) : Prop :=
  ∀ turn, a.active = some turn → turn.closeDeadline = none → turn.terminalSent = false

theorem processResponse_traces (parseUuid : String → Option Uuid) (hquiet : a.Quiet)
    {value : Value} (hvalue : value ∈ a.log.since.messages) (now : Instant) (io : Io) :
    Traces a (a.processResponse parseUuid value now io).2 := by
  unfold processResponse
  split
  · next turn id hactive _ =>
    split_ifs
    · exact processTurn_traces parseUuid hactive hvalue (hquiet turn hactive) now io
    · refine processAnswer_traces hactive ?_ value id _
      rfl
    · refine processAnswer_traces hactive ?_ value id _
      rfl
    · exact .refl a
  · exact .refl a

theorem handleWireEvent_traces (parseUuid : String → Option Uuid) (hquiet : a.Quiet)
    (event : WireEvent) (now : Instant) (io : Io) :
    Traces a (a.handleWireEvent parseUuid event now io).2 := by
  cases event with
  | protocolError => exact .refl a
  | eof => exact .refl a
  | message value =>
    have hgive : Traces a (a.give (.message value)) := .single (.message a.view a.log value)
    have hvalue : value ∈ Log.messages (Log.since (a.give (.message value)).log) := by
      show value ∈ Log.messages (Log.since (a.log ++ [.message value]))
      rw [Log.since_concat a.log (by intros; nofun), Log.messages_append]
      exact List.mem_append_right _ List.mem_cons_self
    exact hgive.trans
      (processResponse_traces (a := a.give (.message value)) parseUuid hquiet hvalue now io)

/-- The turn of a command that is not refused reaches the child, and the child of a turn without
evidence is reaped. -/
def Orderly (a : Claude) : Input → Prop
  | .handle request now io => a.active = none → a.state = .idle → now < request.deadline →
    writeFrame (turnFrame a.nextRpcId request now) io = .ok ()
  | .reap reaped => (a.active.any fun turn => !turn.terminalSent) → reaped = true
  | _ => True

theorem startTurn_traces {request : SessionRequest} {now : Instant} {io : Io}
    (ho : a.Orderly (.handle request now io)) (closing : Bool) :
    Traces a (a.startTurn closing request now io) := by
  unfold startTurn
  split_ifs with hbusy hstate hdue
  · exact refuse_traces a _
  · exact refuse_traces a _
  · exact refuse_traces a _
  · have hactive : a.active = none := by simpa using hbusy
    have hview : a.view = none := by
      rw [view, hactive]
      rfl
    dsimp only
    rw [ho hactive (not_not.mp hstate) (not_le.mp hdue)]
    unfold Traces
    rw [hview]
    exact .single (.start a.log request.requestId a.nextRpcId)

theorem finishOpen_traces (a : Claude)
    (hreaped : (a.active.any fun turn => !turn.terminalSent) → Entry.reaped ∈ a.log.since)
    (error : ProviderError) (reaped : Bool) : Traces a (a.finishOpen error reaped) := by
  unfold finishOpen
  split
  · exact .refl a
  · next turn hactive =>
    have hsettled := settle_traces (view_of_active hactive) (.failure (visible error))
    dsimp only
    split
    · next hsent =>
      apply hsettled.trans
      exact .single (.close rfl hsent _)
    · next hsent =>
      have hnew : turn.terminalSent = false := Bool.eq_false_iff.mpr hsent
      have htrue : Evident ended turn.rpcId a.log :=
        Or.inl (hreaped (by rw [hactive]; simp [hnew]))
      apply hsettled.trans
      exact Move.finished rfl hnew rfl (htrue.settle turn.result _)

theorem finishActor_traces {reaped : Bool} (ho : a.Orderly (.reap reaped)) (error : ProviderError)
    (close : Bool) : Traces a (a.finishActor error close reaped) := by
  have hreap : Traces a (if reaped then a.give .reaped else a) ∧
      (((if reaped then a.give .reaped else a).active.any fun turn => !turn.terminalSent) →
        Entry.reaped ∈ (if reaped then a.give .reaped else a).log.since) := by
    cases reaped with
    | true =>
      refine ⟨.single (.reap a.view a.log), fun _ => ?_⟩
      show Entry.reaped ∈ Log.since (a.log ++ [.reaped])
      rw [Log.since_concat a.log (by intros; nofun)]
      exact List.mem_append_right _ List.mem_cons_self
    | false => exact ⟨.refl a, fun hopen => absurd (ho hopen) nofun⟩
  unfold finishActor
  dsimp only
  generalize (if reaped then a.give .reaped else a) = b at hreap
  have hopen : Traces a
      (finishOpen { b with state := .closed, phase := .finished } error reaped) :=
    Traces.trans (hreap.1.congr rfl rfl)
      (finishOpen_traces { b with state := .closed, phase := .finished } hreap.2 error reaped)
  split
  · exact hopen.trans (reply_traces _ _)
  · exact hopen

theorem loop_traces {parseUuid : String → Option Uuid} (hquiet : a.Quiet) (closing : Bool)
    {input : Input} (ho : a.Orderly input) : Traces a (a.loop parseUuid closing input) := by
  cases input with
  | handle request now io => exact startTurn_traces ho closing
  | cancel requestId reason now io => exact cancelTurn_traces a closing requestId reason now io
  | close now io => exact closeActor_traces a closing now io
  | disconnected => exact (Traces.refl a).congr rfl rfl
  | wire event now io =>
    have htraces := handleWireEvent_traces parseUuid hquiet event now io
    unfold loop
    dsimp only
    split
    · next e a' heq =>
      rw [heq] at htraces
      exact htraces.congr rfl rfl
    · next a' heq =>
      rw [heq] at htraces
      exact htraces
  | requestDeadline now io =>
    unfold loop
    dsimp only
    split
    · exact .refl a
    · next turn hdue =>
      obtain ⟨hactive, -⟩ := Option.filter_eq_some_iff.mp hdue
      have htraces : Traces a (a.handleRequestTimeout turn now io).2 :=
        endTurn_traces (view_of_active hactive) _ _ now io
      split
      · next e a' heq =>
        rw [heq] at htraces
        exact htraces.congr rfl rfl
      · next a' heq =>
        rw [heq] at htraces
        exact htraces
  | closeDeadline now =>
    unfold loop
    dsimp only
    split
    · exact (Traces.refl a).congr rfl rfl
    · exact .refl a
  | childExited => exact (Traces.refl a).congr rfl rfl
  | reap reaped => exact .refl a

/-- The entry checks of a command pass. -/
def Accepts (a : Claude) (request : SessionRequest) (now : Instant) : Prop :=
  (∃ closing, a.phase = .running closing) ∧ a.active = none ∧ a.state = .idle ∧
    now < request.deadline

theorem refuse_taken (a : Claude) (error : ProviderError) :
    a.log ++ [.command a.log.commands] <+: (a.refuse error).log :=
  ⟨[.result a.log.commands (.failure error)], List.append_assoc _ _ _⟩

theorem dropClose_extends (a : Claude) (closing : Bool) :
    a.log <+: (a.dropClose closing).log := by
  unfold dropClose
  split
  · exact List.prefix_append _ _
  · exact List.prefix_rfl

/-- Every command to handle a request is taken. -/
theorem handle_taken (a : Claude) (parseUuid : String → Option Uuid) (request : SessionRequest)
    (now : Instant) (io : Io) :
    a.log ++ [.command a.log.commands] <+:
      (a.step parseUuid (.handle request now io)).log := by
  unfold step
  cases a.phase with
  | running closing =>
    show _ <+: (a.startTurn closing request now io).log
    unfold startTurn
    split_ifs
    · exact refuse_taken a _
    · exact refuse_taken a _
    · exact refuse_taken a _
    · dsimp only
      split
      · refine List.IsPrefix.trans ?_ (dropClose_extends _ closing)
        exact ⟨[.turn a.log.commands request.requestId a.nextRpcId,
          .result a.log.commands (.failure .providerDisconnected)], by simp [give]⟩
      · exact ⟨[.turn a.log.commands request.requestId a.nextRpcId], by simp⟩
  | stopping error close graceful => exact refuse_taken a _
  | finished => exact refuse_taken a _

/-- The turn of a command that passes the entry checks is written. -/
theorem handle_written {request : SessionRequest} {now : Instant} {io : Io}
    (h : a.Accepts request now) (ho : a.Orderly (.handle request now io))
    (parseUuid : String → Option Uuid) : (a.step parseUuid (.handle request now io)).log =
      a.log ++ [.command a.log.commands, .turn a.log.commands request.requestId a.nextRpcId] := by
  obtain ⟨⟨closing, hrunning⟩, hactive, hidle, hdue⟩ := h
  have hwritten := ho hactive hidle hdue
  unfold step
  rw [hrunning]
  show (a.startTurn closing request now io).log = _
  unfold startTurn
  rw [if_neg (by simp [hactive]), if_neg (not_not.mpr hidle), if_neg (not_le.mpr hdue)]
  dsimp only
  rw [hwritten]

/-- What the actor is like after a turn of its loop. -/
def Sound (a : Claude) : Prop :=
  a.phase ≠ .finished ∧ ((∃ closing, a.phase = .running closing) → a.Quiet)

theorem stop_sound (a : Claude) (error : ProviderError) (close : Bool) :
    Sound (a.stop error close) := by
  refine ⟨nofun, ?_⟩
  rintro ⟨closing, hrunning⟩
  cases hrunning

theorem running_sound {closing : Bool} (hphase : a.phase = .running closing) (hquiet : a.Quiet) :
    a.Sound := by
  refine ⟨?_, fun _ => hquiet⟩
  rw [hphase]
  nofun

/-- A bridge that was asked to close has a deadline. -/
theorem beginClose_spec {now : Instant} {io : Io} {result : Except ProviderError Unit}
    (h : a.beginClose turn now io = (result, a')) :
    a'.phase = a.phase ∧ (result = .ok () → ∃ next, a'.active = some next ∧
      next.closeDeadline = some (now + providerTerminalGrace)) := by
  unfold beginClose at h
  cases io with
  | error e =>
    cases h
    exact ⟨rfl, nofun⟩
  | ok _ =>
    cases h
    exact ⟨rfl, fun _ => ⟨_, rfl, rfl⟩⟩

theorem quiet_of_deadline {next : ClaudeTurn} {deadline : Instant}
    (hactive : a.active = some next) (hdeadline : next.closeDeadline = some deadline) :
    a.Quiet := by
  intro turn hturn hnone
  rw [hactive] at hturn
  cases hturn
  rw [hdeadline] at hnone
  cases hnone

theorem beginClose_sound {closing : Bool} (hphase : a.phase = .running closing) {now : Instant}
    {io : Io} (h : a.beginClose turn now io = (.ok (), a')) :
    a'.phase = .running closing ∧ a'.Quiet := by
  obtain ⟨hsame, hnext⟩ := beginClose_spec h
  obtain ⟨next, hactive, hdeadline⟩ := hnext rfl
  exact ⟨hsame.trans hphase, quiet_of_deadline hactive hdeadline⟩

theorem processTurn_sound {parseUuid : String → Option Uuid} {closing : Bool}
    (hphase : a.phase = .running closing) (hactive : a.active = some turn) {value : Value}
    {now : Instant} {io : Io}
    (h : a.processTurn parseUuid turn value now io = (.ok (), a')) :
    a'.phase = .running closing ∧ a'.Quiet := by
  unfold processTurn at h
  split at h
  · cases h
  · split at h
    · cases h
    · dsimp only at h
      split at h
      · next hclosing =>
        obtain ⟨deadline, hdeadline⟩ := Option.isSome_iff_exists.mp hclosing
        split at h
        · cases h
          exact ⟨hphase, quiet_of_deadline hactive hdeadline⟩
        · cases h
          exact ⟨hphase, quiet_of_deadline rfl hdeadline⟩
      · split at h
        · split at h
          · exact beginClose_sound (by exact hphase) h
          · cases h
            exact ⟨hphase, nofun⟩
        · cases h
          exact ⟨hphase, nofun⟩

theorem processAnswer_sound {closing : Bool} (hphase : a.phase = .running closing)
    (hquiet : a.Quiet) (hactive : a.active = some turn) {next : ClaudeTurn}
    (hdeadline : next.closeDeadline = turn.closeDeadline)
    (hsent : next.terminalSent = turn.terminalSent) {value : Value} {id : ℕ}
    {accepts : Value → Bool} (h : a.processAnswer turn next value id accepts = (.ok (), a')) :
    a'.phase = .running closing ∧ a'.Quiet := by
  unfold processAnswer at h
  split at h
  · cases h
  · split at h
    · cases h
      refine ⟨hphase, ?_⟩
      intro turn' hturn' hnone
      cases hturn'
      rw [hsent]
      exact hquiet turn hactive (hdeadline ▸ hnone)
    · cases h

theorem handleWireEvent_sound {parseUuid : String → Option Uuid} {closing : Bool}
    (hphase : a.phase = .running closing) (hquiet : a.Quiet) {event : WireEvent} {now : Instant}
    {io : Io} (h : a.handleWireEvent parseUuid event now io = (.ok (), a')) :
    a'.phase = .running closing ∧ a'.Quiet := by
  cases event with
  | protocolError => cases h
  | eof => cases h
  | message value =>
    replace h : processResponse parseUuid (a.give (.message value)) value now io = (.ok (), a') := h
    unfold processResponse at h
    split at h
    · next turn id hactive _ =>
      split_ifs at h
      · exact processTurn_sound (a := a.give (.message value)) hphase hactive h
      · refine processAnswer_sound (a := a.give (.message value)) hphase hquiet hactive ?_ ?_ h
        · rfl
        · rfl
      · refine processAnswer_sound (a := a.give (.message value)) hphase hquiet hactive ?_ ?_ h
        · rfl
        · rfl
      · cases h
    · cases h

theorem dropClose_active (a : Claude) (closing : Bool) :
    (a.dropClose closing).active = a.active := by
  unfold dropClose
  split <;> rfl

theorem endTurn_sound {closing : Bool} (hphase : a.phase = .running closing)
    {error : ProviderError} {reason : TerminalReason} {now : Instant} {io : Io}
    (h : a.endTurn turn error reason now io = (.ok (), a')) :
    a'.phase = .running closing ∧ a'.Quiet :=
  beginClose_sound (a := a.settle turn (.failure error)) hphase h

theorem loop_sound {closing : Bool} (hphase : a.phase = .running closing) (hquiet : a.Quiet)
    (parseUuid : String → Option Uuid) (input : Input) :
    (a.loop parseUuid closing input).Sound := by
  have hsame : a.Sound := running_sound hphase hquiet
  cases input with
  | handle request now io =>
    show (a.startTurn closing request now io).Sound
    unfold startTurn
    split_ifs
    · exact hsame
    · exact hsame
    · exact hsame
    · dsimp only
      split
      · exact stop_sound _ _ _
      · refine running_sound hphase ?_
        intro turn hturn _
        cases hturn
        rfl
  | cancel requestId reason now io =>
    show (a.cancelTurn closing requestId reason now io).Sound
    unfold cancelTurn
    split
    · exact hsame
    · split
      · exact hsame
      · split
        · dsimp only
          split
          · exact stop_sound _ _ _
          · next a' heq =>
            obtain ⟨hphase', hquiet'⟩ := endTurn_sound hphase heq
            exact running_sound (a := a'.give (.reply (.ok ()))) hphase' hquiet'
        · exact hsame
  | close now io =>
    show (a.closeActor closing now io).Sound
    unfold closeActor
    split
    · split
      · exact stop_sound _ _ _
      · next a' heq =>
        obtain ⟨-, hquiet'⟩ := endTurn_sound hphase heq
        refine running_sound rfl ?_
        intro turn hturn
        exact hquiet' turn ((dropClose_active a' closing).symm.trans hturn)
    · refine ⟨nofun, ?_⟩
      rintro ⟨closing', hrunning⟩
      cases hrunning
  | disconnected => exact stop_sound _ _ _
  | wire event now io =>
    unfold loop
    dsimp only
    split
    · exact stop_sound _ _ _
    · next a' heq =>
      obtain ⟨hphase', hquiet'⟩ := handleWireEvent_sound hphase hquiet heq
      exact running_sound hphase' hquiet'
  | requestDeadline now io =>
    unfold loop
    dsimp only
    split
    · exact hsame
    · split
      · exact stop_sound _ _ _
      · next a' heq =>
        obtain ⟨hphase', hquiet'⟩ := endTurn_sound hphase heq
        exact running_sound hphase' hquiet'
  | closeDeadline now =>
    unfold loop
    dsimp only
    split
    · exact stop_sound _ _ _
    · exact hsame
  | childExited => exact stop_sound _ _ _
  | reap reaped => exact hsame

theorem finishActor_spec (a : Claude) (error : ProviderError) (close reaped : Bool) :
    (a.finishActor error close reaped).phase = .finished ∧
      (a.finishActor error close reaped).active = none := by
  have hopen (b : Claude) : (b.finishOpen error reaped).phase = b.phase ∧
      (b.finishOpen error reaped).active = none := by
    unfold finishOpen
    split
    · next hnone => exact ⟨rfl, hnone⟩
    · dsimp only
      split <;> exact ⟨rfl, rfl⟩
  unfold finishActor
  dsimp only
  split
  · exact hopen _
  · exact hopen _

section

variable (parseUuid : String → Option Uuid)

/-- All inputs of a run are orderly. -/
def OrderlyRun (a : Claude) : List Input → Prop
  | [] => True
  | input :: inputs => a.Orderly input ∧ OrderlyRun (a.step parseUuid input) inputs

/-- The invariant of orderly runs. -/
structure Inv (a : Claude) : Prop where
  balanced : Balanced ended a.view a.log
  quiet : (∃ closing, a.phase = .running closing) → a.Quiet
  finished : a.phase = .finished → a.active = none

/-- An input that comes by itself when time passes. -/
def Input.timed : Input → Bool
  | .requestDeadline .. | .closeDeadline .. | .reap .. => true
  | _ => false

/-- The passing of time alone ends the actor. -/
def Drains (a : Claude) : Prop :=
  ∃ inputs : List Input, (∀ input ∈ inputs, input.timed = true) ∧
    OrderlyRun parseUuid a inputs ∧ (a.run parseUuid inputs).phase = .finished

end

theorem Inv.initial : Inv {} := by
  refine ⟨.empty, fun _ => ?_, nofun⟩
  intro turn hturn
  cases hturn

/-- The step lemma. -/
theorem step_traces {parseUuid : String → Option Uuid}
    (hquiet : (∃ closing, a.phase = .running closing) → a.Quiet) {input : Input}
    (ho : a.Orderly input) : Traces a (a.step parseUuid input) := by
  unfold Claude.step
  split
  · next closing hphase => exact loop_traces (hquiet ⟨closing, hphase⟩) closing ho
  · exact finishActor_traces ho _ _
  · exact refuse_traces a _
  · exact reply_traces a _
  · exact reply_traces a _
  · exact .refl a

theorem Inv.step {parseUuid : String → Option Uuid} (h : a.Inv) {input : Input}
    (ho : a.Orderly input) : (a.step parseUuid input).Inv := by
  have htraces : Traces a (a.step parseUuid input) := step_traces h.quiet ho
  have hbalanced := h.balanced.moves htraces
  suffices hrest : ((∃ closing, (a.step parseUuid input).phase = .running closing) →
      (a.step parseUuid input).Quiet) ∧ ((a.step parseUuid input).phase = .finished →
        (a.step parseUuid input).active = none) from ⟨hbalanced, hrest.1, hrest.2⟩
  unfold Claude.step
  split
  · next closing hphase =>
    obtain ⟨hnot, hquiet'⟩ := loop_sound hphase (h.quiet ⟨closing, hphase⟩) parseUuid _
    exact ⟨hquiet', fun hfinished => absurd hfinished hnot⟩
  · next error close graceful reaped hphase =>
    obtain ⟨hphase', hactive⟩ := finishActor_spec a error close reaped
    refine ⟨?_, fun _ => hactive⟩
    rintro ⟨closing, hrunning⟩
    rw [hphase'] at hrunning
    cases hrunning
  · exact ⟨h.quiet, h.finished⟩
  · exact ⟨h.quiet, h.finished⟩
  · exact ⟨h.quiet, h.finished⟩
  · exact ⟨h.quiet, h.finished⟩

theorem Inv.run {parseUuid : String → Option Uuid} (h : a.Inv) {inputs : List Input}
    (ho : OrderlyRun parseUuid a inputs) : (a.run parseUuid inputs).Inv := by
  induction inputs generalizing a with
  | nil => exact h
  | cons input inputs ih => exact ih (h.step ho.1) ho.2

section

variable {parseUuid : String → Option Uuid}

theorem OrderlyRun.split {before after : List Input}
    (ho : OrderlyRun parseUuid a (before ++ after)) :
    OrderlyRun parseUuid a before ∧ OrderlyRun parseUuid (a.run parseUuid before) after := by
  induction before generalizing a with
  | nil => exact ⟨trivial, ho⟩
  | cons input before ih =>
    obtain ⟨hbefore, hafter⟩ := ih ho.2
    exact ⟨⟨ho.1, hbefore⟩, hafter⟩

theorem Inv.run_extends (h : a.Inv) {inputs : List Input} (ho : OrderlyRun parseUuid a inputs) :
    a.log <+: (a.run parseUuid inputs).log := by
  induction inputs generalizing a with
  | nil => exact List.prefix_rfl
  | cons input inputs ih =>
    have hstep : a.log <+: (a.step parseUuid input).log :=
      Move.extends_all (step_traces h.quiet ho.1)
    exact hstep.trans (ih (h.step ho.1) ho.2)

/-- What becomes of every command of a run. -/
theorem Inv.handled (h : a.Inv) {before after : List Input} {request : SessionRequest}
    {now : Instant} {io : Io}
    (ho : OrderlyRun parseUuid a (before ++ .handle request now io :: after)) :
    let past := a.run parseUuid before
    let last := a.run parseUuid (before ++ .handle request now io :: after)
    Handled last.view past.log last.log request.requestId (past.Accepts request now) := by
  intro past last
  obtain ⟨hbefore, hhandle, hafter⟩ := ho.split
  have hpast : past.Inv := h.run hbefore
  have hlast : last = (past.step parseUuid (.handle request now io)).run parseUuid after :=
    List.foldl_append ..
  have hrest : (past.step parseUuid (.handle request now io)).log <+: last.log := by
    rw [hlast]
    exact (hpast.step hhandle).run_extends hafter
  apply (h.run ho).balanced.handled
  · exact (handle_taken past parseUuid request now io).trans hrest
  · intro haccepts
    rw [handle_written haccepts hhandle parseUuid] at hrest
    exact ⟨past.nextRpcId, hrest⟩

theorem Drains.cons {i : Input} (htimed : i.timed = true) (ho : a.Orderly i)
    (h : Drains parseUuid (a.step parseUuid i)) : Drains parseUuid a := by
  obtain ⟨inputs, hinputs, hos, hfinished⟩ := h
  exact ⟨i :: inputs, List.forall_mem_cons.mpr ⟨htimed, hinputs⟩, ⟨ho, hos⟩, hfinished⟩

theorem drains_stopped {error : ProviderError} {close graceful : Bool}
    (hstopped : a.phase = .stopping error close graceful) : Drains parseUuid a := by
  refine ⟨[.reap true], by simp [Input.timed], ⟨fun _ => rfl, trivial⟩, ?_⟩
  show (a.step parseUuid (.reap true)).phase = _
  unfold Claude.step
  rw [hstopped]
  exact (finishActor_spec ..).1

theorem drains_closing {closing : Bool} {deadline : Instant} (hphase : a.phase = .running closing)
    (hactive : a.active = some turn) (hclose : turn.closeDeadline = some deadline) :
    Drains parseUuid a := by
  have hstep : a.step parseUuid (.closeDeadline deadline) = a.stop .requestTimeout closing := by
    unfold Claude.step
    rw [hphase]
    show (if a.closeDue deadline then _ else _) = _
    rw [if_pos (by simp [closeDue, hactive, hclose])]
  apply Drains.cons (i := .closeDeadline deadline) rfl trivial
  rw [hstep]
  exact drains_stopped rfl

/-- An open turn cannot last: its deadlines end the actor. -/
theorem drains_of_open {closing : Bool} (hphase : a.phase = .running closing)
    (hopen : a.active.isSome) : Drains parseUuid a := by
  obtain ⟨turn, hactive⟩ := Option.isSome_iff_exists.mp hopen
  cases hclose : turn.closeDeadline with
  | some deadline => exact drains_closing hphase hactive hclose
  | none =>
    have hdue : a.requestDue turn.deadline = some turn := by
      simp [requestDue, hactive, hclose, Option.filter]
    have hstep : a.step parseUuid (.requestDeadline turn.deadline (.ok ())) =
        (a.handleRequestTimeout turn turn.deadline (.ok ())).2 := by
      unfold Claude.step
      rw [hphase]
      show Claude.loop parseUuid a closing (.requestDeadline turn.deadline (.ok ())) = _
      unfold Claude.loop
      dsimp only
      rw [hdue]
      rfl
    apply Drains.cons (i := .requestDeadline turn.deadline (.ok ())) rfl trivial
    rw [hstep]
    exact drains_closing hphase rfl rfl

end

end Claude

end SessionRouter.Providers
