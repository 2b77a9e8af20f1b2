import SessionRouter.Lib.Reservation
import SessionRouter.Router.Executions
import SessionRouter.Router.Routine

/-!
The places and the slots of the external requests. A handler takes a place for a worker it spawns,
and the report of the worker gives it back; every other handler, every refusal and every failure on
the way leaves the ledger as it was.
-/

namespace SessionRouter

/-- What a worker gives back when it reports: its task, if it works on one. -/
def Worker.slot : Worker → Option (WorkspaceName × ℕ × ExternalProvider)
  | .check .. => none
  | .operation prepared _ => Router.operationSlot prepared
  | .resolution _ _ _ prepared => Router.resolutionSlot prepared

/-- The ledger of the external requests in flight. -/
def RouterState.ledger (s : RouterState) : Ledger (WorkspaceName × ℕ × ExternalProvider) :=
  { count := s.integrationRequests, taken := s.integrationTaskSlots,
    holders := s.workers.map Worker.slot }

/-- The external requests are left alone. -/
def SameDesk (s s' : RouterState) : Prop := s'.desk = s.desk

/-- The ledger changes by workers that come and go. -/
def Booked (s s' : RouterState) : Prop :=
  Ledger.Turns integrationRequestLimit s.ledger s'.ledger

theorem SameDesk.booked {s s' : RouterState} (h : SameDesk s s') : Booked s s' := by
  have hledger : s'.ledger = s.ledger := by
    have hparts := h
    simp only [SameDesk, RouterState.desk, Desk.mk.injEq] at hparts
    obtain ⟨-, -, hrequests, hslots, hworkers⟩ := hparts
    simp only [RouterState.ledger, hrequests, hslots, hworkers]
  show Ledger.Turns _ _ _
  rw [hledger]
  exact .refl

instance : Std.Refl SameDesk := ⟨fun _ => rfl⟩

instance : IsTrans RouterState SameDesk := ⟨fun _ _ _ hab hbc => hbc.trans hab⟩

instance : Std.Refl Booked := ⟨fun _ => .refl⟩

instance : IsTrans RouterState Booked :=
  ⟨fun _ _ _ hab hbc => Relation.ReflTransGen.trans hab hbc⟩

section

variable [World]

instance : Routine SameDesk where
  draw _ := rfl
  call _ _ := rfl
  memory _ hdesk _ := hdesk
  forget _ _ := rfl

instance : Routine Booked where
  draw _ := .refl
  call _ _ := .refl
  memory _ hdesk _ := SameDesk.booked hdesk
  forget _ _ := .refl

end

namespace Router

section

variable {ε α : Type} {s : RouterState}

theorem inSession_sameDesk (x : Session ε α) : (inSession x).Moves SameDesk := fun _ => rfl

theorem inStore_sameDesk [World] (x : Store ε α) : (inStore x).Moves SameDesk :=
  inSession_sameDesk _

/-- A computation that leaves the external requests alone changes no ledger. -/
theorem booked_of_sameDesk {x : Router ε α} (h : x.Moves SameDesk) : x.Moves Booked :=
  fun s => (h s).booked

end

section handlers

variable [World] {s s' : RouterState} {slot : Option (WorkspaceName × ℕ × ExternalProvider)}

omit [World] in
/-- A worker that is spawned takes a place and the slot it will give back. -/
theorem booked_of_spawn (worker : Worker) (hslot : worker.slot = slot)
    (hroom : s.integrationRequests < integrationRequestLimit)
    (hfree : ∀ key, slot = some key → key ∉ s.integrationTaskSlots)
    (hdesk : s'.desk = { s.desk with
      requests := s.integrationRequests + 1
      slots := Ledger.mark s.integrationTaskSlots slot
      workers := s.workers ++ [worker] }) : Booked s s' := by
  simp only [RouterState.desk, Desk.mk.injEq] at hdesk
  obtain ⟨-, -, hrequests, hslots, hworkers⟩ := hdesk
  have hledger : s'.ledger =
      { count := s.ledger.count + 1, taken := Ledger.mark s.ledger.taken slot,
        holders := s.ledger.holders ++ [slot] } := by
    simp only [RouterState.ledger, hrequests, hslots, hworkers, List.map_append, List.map_cons,
      List.map_nil, hslot]
  show Ledger.Turns _ _ _
  rw [hledger]
  exact .single (.take slot hroom hfree)

omit [World] in
/-- A worker that reports gives its place and its slot back. -/
theorem booked_of_report {worker : Worker} {index : ℕ} (hworker : s.workers[index]? = some worker)
    (hdesk : s'.desk = { s.desk with
      requests := s.integrationRequests - 1
      slots := Ledger.clear s.integrationTaskSlots worker.slot
      workers := s.workers.eraseIdx index }) : Booked s s' := by
  simp only [RouterState.desk, Desk.mk.injEq] at hdesk
  obtain ⟨-, -, hrequests, hslots, hworkers⟩ := hdesk
  obtain ⟨hlt, rfl⟩ := List.getElem?_eq_some_iff.mp hworker
  have hholders : s.ledger.holders = (s.workers.take index).map Worker.slot ++
      s.workers[index].slot :: (s.workers.drop (index + 1)).map Worker.slot := by
    rw [← List.map_cons, ← List.map_append, List.getElem_cons_drop, List.take_append_drop]
    rfl
  have hledger : s'.ledger =
      { count := s.ledger.count - 1, taken := Ledger.clear s.ledger.taken s.workers[index].slot,
        holders := (s.workers.take index).map Worker.slot ++
          (s.workers.drop (index + 1)).map Worker.slot } := by
    simp only [RouterState.ledger, hrequests, hslots, hworkers, List.eraseIdx_eq_take_drop_succ,
      List.map_append]
  show Ledger.Turns _ _ _
  rw [hledger]
  exact .single (.giveBack hholders)

omit [World] in
/-- A handler gets past the check only when there is room and the slot is free. -/
theorem requireIntegrationSlot_free {Q : Unit → RouterState → Prop}
    (hQ : s.integrationRequests < integrationRequestLimit →
      (∀ key, slot = some key → key ∉ s.integrationTaskSlots) → Q () s) :
    Actor.wp (requireIntegrationSlot slot) Q (fun _ s' => Booked s s') s := by
  unfold requireIntegrationSlot requireThat
  simp only [Actor.wp_bind, Actor.wp_get, Actor.wp_require]
  refine ⟨fun hroom => ⟨fun hfree => ⟨fun _ => ?_, fun _ => ?_⟩, fun _ => ?_⟩, fun _ => ?_⟩
  · apply hQ
    · exact of_decide_eq_true hroom
    · rintro key rfl
      simpa using hfree
  all_goals exact refl_of Booked s

theorem integrationCheck_booked (id : Uuid) (generation : ℕ) (requestId : String)
    (workspace : WorkspaceName) (provider : ExternalProvider) :
    (integrationCheck id generation requestId workspace provider).Moves Booked := by
  refine .bind (requireOperator_moves _) fun _ => .bind (authorizeWorkspace_moves _ _) fun _ =>
    .of_wp fun s => ?_
  unfold requireThat activeBinding
  simp only [Actor.wp_bind, Actor.wp_get, Actor.wp_require]
  refine ⟨fun hroom => ?_, fun _ => refl_of Booked s⟩
  rw [wp_ask]
  refine ⟨fun _ _ => ⟨fun _ => ?_, fun _ => refl_of Booked s⟩, fun _ _ => refl_of Booked s⟩
  apply booked_of_spawn (.check id generation requestId workspace provider) rfl
  · exact of_decide_eq_true hroom
  · rintro key ⟨⟩
  · rfl

omit [World] in
/-- Whatever comes of the disconnects, all of them are tried. -/
theorem dropFailed_succeeds (disconnect : Uuid → ℕ → Router StoreError Unit)
    (failed : List (Uuid × ℕ)) :
    Actor.wp (dropFailed disconnect failed) (fun _ _ => True) (fun _ _ => False) s := by
  induction failed generalizing s with
  | nil => exact trivial
  | cons x failed ih =>
    obtain ⟨id, generation⟩ := x
    simp only [dropFailed, Actor.wp_bind, Actor.wp_outcome]
    refine Actor.wp_of (fun _ s₁ _ => ih) fun _ s₁ _ => ?_
    change Actor.wp (dropFailed disconnect failed) _ _ _
    exact ih

/-- Publishing an event does not fail. -/
theorem fanoutDepth_succeeds (depth : ℕ) (event : WorkspaceEvent) :
    Actor.wp (fanoutDepth depth event) (fun _ _ => True) (fun _ _ => False) s := by
  cases depth with
  | zero => exact trivial
  | succ depth =>
    simp only [fanoutDepth, fanoutWith, Actor.wp_bind, Actor.wp_read]
    refine traverse_spec fun recipients s₁ _ _ => publish_spec fun failed s₂ _ => ?_
    exact dropFailed_succeeds _ failed

theorem send_sameDesk {ε : Type} (id : Uuid) (generation : ℕ) (message : ServerMessage) :
    Actor.wp (send id generation message : Router ε Bool) (fun _ s' => SameDesk s s')
      (fun _ _ => False) s := by
  unfold Actor.wp send
  cases s.connections.get? id with
  | none => exact rfl
  | some c =>
    by_cases hg : c.generation = generation
    · simp only [hg, if_true]
      exact rfl
    · simp only [hg, if_false]
      exact rfl

theorem fanoutAll_sameDesk (events : List WorkspaceEvent) :
    Actor.wp (lift (Actor.forEach Router.fanout events)) (fun _ s' => SameDesk s s')
      (fun _ _ => False) s := by
  rw [wp_lift]
  refine Actor.wp_forEach (I := fun s' => SameDesk s s') rfl fun event _ s₁ h₁ => ?_
  have hmoves : SameDesk s₁ (Router.fanout event s₁).2 := fanout_moves event s₁
  have hok := fanoutDepth_succeeds (s := s₁) (s₁.connections.size + 1) event
  change Actor.wp (Router.fanout event) (fun _ _ => True) (fun _ _ => False) s₁ at hok
  refine Actor.wp_of (fun _ s₂ hs₂ => ?_) fun _ s₂ hs₂ => ?_
  · rw [hs₂] at hmoves
    exact IsTrans.trans _ _ _ h₁ hmoves
  · rw [Actor.wp, hs₂] at hok
    exact hok

/-- An operation is written down under its reservation, or nothing is reserved. -/
theorem prepareReserved_slot {caller : CallerContext} {active : ActiveIntegration}
    {command : ExternalCommand}
    (hnew : replayExternalOperation s.db caller command = .ok none)
    (hfree : ∀ key, slot = some key → key ∉ s.integrationTaskSlots)
    (hslot : slot = command.taskId.map fun id => (caller.workspace, id, command.provider)) :
    Actor.wp (prepareReserved caller active command slot)
      (fun prepared s' => prepared.payload.isNone = false ∧ operationSlot prepared = slot ∧
        s'.desk = { s.desk with
          requests := s.integrationRequests + 1
          slots := Ledger.mark s.integrationTaskSlots slot })
      (fun _ s' => SameDesk s s') s := by
  unfold prepareReserved
  simp only [Actor.wp_bind, Actor.wp_outcome]
  change Actor.wp (inStore _) _ _ _
  rw [wp_inStore]
  refine Txn.wp_mono (prepareExternalOperation_target hnew) ?_ ?_
  · rintro prepared t ⟨hworkspace, htask, hprovider, hpayload⟩
    refine ⟨hpayload, ?_, rfl⟩
    rw [operationSlot, hworkspace, htask, hprovider, hslot]
  · intro code _
    have hslots : Ledger.clear (Ledger.mark s.integrationTaskSlots slot) slot =
        s.integrationTaskSlots := Ledger.clear_mark hfree
    show { s.desk with slots := Ledger.clear (Ledger.mark s.integrationTaskSlots slot) slot } = _
    rw [hslots]
    rfl

omit [World] in
theorem callerOf_workspace {id : Uuid} {workspace : WorkspaceName} {caller : CallerContext}
    {reservation : Option ReservationFence}
    (h : callerOf s id workspace reservation = .ok caller) : caller.workspace = workspace := by
  unfold callerOf at h
  dsimp only at h
  split at h
  · cases h
  · split at h
    · cases h
    · cases hactor : s.actorId id with
      | error e =>
        rw [hactor] at h
        cases h
      | ok actorId =>
        rw [hactor] at h
        cases h
        rfl

theorem externalStart_booked (id : Uuid) (generation : ℕ) (requestId : String)
    (workspace : WorkspaceName) (command : ExternalCommand) :
    (externalStart id generation requestId workspace command).Moves Booked := by
  refine .bind (requireWorkspaceMatch_moves _ _) fun _ => .of_wp fun s => ?_
  unfold externalCallerContext activeBinding
  rw [Actor.wp_bind, wp_ask]
  refine ⟨fun caller hcaller => ?_, fun _ _ => refl_of Booked s⟩
  rw [Actor.wp_bind, wp_ask]
  refine ⟨fun replayed hreplayed => ?_, fun _ _ => refl_of Booked s⟩
  cases replayed with
  | some operation =>
    refine Actor.wp_state.mpr (Actor.Moves.bind (send_moves _ _ _) (fun _ => ?_) s)
    exact .pure _
  | none =>
    rw [Actor.wp_bind, wp_ask]
    refine ⟨fun active _ => ?_, fun _ _ => refl_of Booked s⟩
    rw [Actor.wp_bind]
    refine requireIntegrationSlot_free fun hroom hfree => ?_
    obtain rfl := callerOf_workspace hcaller
    have hnew : replayExternalOperation s.db caller command = .ok none := by
      cases h : replayExternalOperation s.db caller command with
      | error code => simp [h, Except.mapError] at hreplayed
      | ok found =>
        rw [h] at hreplayed
        exact congrArg _ (Except.ok.inj hreplayed)
    rw [Actor.wp_bind]
    refine Actor.wp_mono (prepareReserved_slot hnew hfree rfl) ?_ fun _ _ h => h.booked
    rintro prepared s₁ ⟨hpayload, hslot, hdesk⟩
    rw [Actor.wp_bind]
    refine Actor.wp_mono (send_sameDesk _ _ _) (fun _ s₂ h₂ => ?_) fun _ _ h => h.elim
    rw [Actor.wp_bind]
    refine Actor.wp_mono (fanoutAll_sameDesk _) (fun _ s₃ h₃ => ?_) fun _ _ h => h.elim
    rw [hpayload]
    apply booked_of_spawn (.operation prepared false) hslot hroom hfree
    have hsame : s₃.desk = s₁.desk := h₃.trans h₂
    rw [hdesk] at hsame
    simp only [RouterState.desk, Desk.mk.injEq] at hsame ⊢
    obtain ⟨hintegrations, hclient, hrequests, hslots, hworkers⟩ := hsame
    exact ⟨hintegrations, hclient, hrequests, hslots, congrArg (· ++ _) hworkers⟩

theorem externalResolve_booked (id : Uuid) (generation : ℕ) (requestId : String)
    (workspace : WorkspaceName) (operationId resolutionId : Uuid)
    (outcome : ExternalResolutionOutcome) (externalId : Option String) (note : String) :
    (externalResolve id generation requestId workspace operationId resolutionId outcome externalId
      note).Moves Booked := by
  refine .bind (requireOperator_moves _) fun _ => .bind (authorizeWorkspace_moves _ _) fun _ =>
    .bind (.read _) fun _ => .bind (.orFail _ _) fun _ => .bind (activeBinding_moves _ _ _) fun _ =>
    .of_wp fun s => ?_
  unfold externalCallerContext
  rw [Actor.wp_bind, wp_ask]
  refine ⟨fun caller hcaller => ?_, fun _ _ => refl_of Booked s⟩
  obtain rfl := callerOf_workspace hcaller
  rw [Actor.wp_bind, Actor.wp_mapError, wp_inStore]
  refine Txn.wp_mono prepareExternalResolution_workspace ?_ fun _ _ => refl_of Booked s
  intro preparation t hworkspace
  cases preparation with
  | replay operation resolution =>
    refine Actor.wp_state.mpr (?_ : Booked (s.commit t) _)
    exact Actor.Moves.bind (send_moves _ _ _) (fun _ => .pure _) _
  | completed completion =>
    refine Actor.wp_state.mpr (?_ : Booked (s.commit t) _)
    exact Actor.Moves.bind (send_moves _ _ _)
      (fun _ => .bind (fanoutAll_moves _) fun _ => lift_moves (fanout_moves _)) _
  | verify prepared =>
    dsimp only
    rw [Actor.wp_bind]
    refine requireIntegrationSlot_free (s := s.commit t) fun hroom hfree => ?_
    apply booked_of_spawn (.resolution id generation requestId prepared) ?_ hroom hfree rfl
    rw [← hworkspace prepared rfl]
    rfl

theorem integrationReload_booked (id : Uuid) (generation : ℕ) (requestId : String) :
    (integrationReload id generation requestId).Moves Booked := by
  have hkept : ∀ f : RouterState → RouterState, (∀ s, (f s).ledger = s.ledger) →
      (Actor.modify f : Router ActorError Unit).Moves Booked := by
    intro f hf s
    show Ledger.Turns _ s.ledger (f s).ledger
    rw [hf]
    exact .refl
  have hreload : reloadRegistry.Moves Booked := by
    refine .bind (.mapError (booked_of_sameDesk (inSession_sameDesk _)) _) fun _ => ?_
    exact .bind (hkept _ fun _ => rfl) fun _ => .bind (.read _) fun _ => .pure _
  have hrenew : renewClient.Moves Booked := by
    refine .bind (.read _) fun _ => .ite ?_ (hkept _ fun _ => rfl)
    exact .bind drawTick_moves fun _ => .bind (requireThat_moves _ _) fun _ => hkept _ fun _ => rfl
  exact .bind (requireAdmin_moves _) fun _ => .bind hreload fun _ => .bind hrenew fun _ =>
    .bind (send_moves _ _ _) fun _ => fanoutAll_moves _

end handlers

section reports

variable [World] {ε α : Type} {s : RouterState}

omit [World] in
/-- A report that gives back what its worker holds, and then leaves the external requests alone. -/
theorem report_booked {worker : Worker} {index : ℕ} {f : RouterState → RouterState}
    {rest : Unit → Router ε α} (hworker : s.workers[index]? = some worker)
    (hrest : (rest ()).Moves SameDesk)
    (hdesk : (f { s with workers := s.workers.eraseIdx index }).desk = { s.desk with
      requests := s.integrationRequests - 1
      slots := Ledger.clear s.integrationTaskSlots worker.slot
      workers := s.workers.eraseIdx index }) :
    Booked s ((Actor.modify f >>= rest) { s with workers := s.workers.eraseIdx index }).2 := by
  apply booked_of_report hworker
  exact Eq.trans (hrest _) hdesk

theorem integrationCheckFinished_booked {index : ℕ} {id : Uuid} {generation : ℕ}
    {requestId : String} {workspace : WorkspaceName} {provider : ExternalProvider}
    (result : Except IntegrationClientError Unit)
    (hworker : s.workers[index]? = some (.check id generation requestId workspace provider)) :
    Booked s (integrationCheckFinished id generation requestId workspace provider result
      { s with workers := s.workers.eraseIdx index }).2 := by
  apply report_booked hworker
  · refine .bind .get fun s => ?_
    dsimp only
    split
    · exact .bind (send_moves _ _ _) fun _ => .pure _
    · exact sendError_moves _ _ _ _
  · have hclear : Ledger.clear s.integrationTaskSlots none = s.integrationTaskSlots := by
      simp [Ledger.clear]
    simp only [Worker.slot, hclear]
    rfl

theorem externalFinished_booked {index : ℕ} {prepared : PreparedExternalOperation} {gated : Bool}
    (result : ExternalWorkerResult)
    (hworker : s.workers[index]? = some (.operation prepared gated)) :
    Booked s (Router.externalFinished prepared result
      { s with workers := s.workers.eraseIdx index }).2 := by
  have hrecord : (recordResult prepared result).Moves SameDesk := by
    cases result with
    | read issue =>
      exact .bind (ask_moves _) fun _ => .bind (inStore_sameDesk _) fun _ => inStore_sameDesk _
    | mutation mutation => exact inStore_sameDesk _
    | clientError error => exact inStore_sameDesk _
    | gateDenied code => exact inStore_sameDesk _
  have htail : ∀ completion : ExternalCompletion,
      ((Actor.forEach Router.fanout completion.taskEvent.toList) >>= fun _ =>
        Router.fanout completion.event).Moves SameDesk :=
    fun _ => .bind (.forEach fanout_moves _) fun _ => fanout_moves _
  apply report_booked hworker
  · refine .bind (.outcome hrecord) fun recorded => ?_
    cases recorded with
    | ok completion => exact htail completion
    | error code => exact .bind (.mapError (inStore_sameDesk _) _) htail
  · rfl

theorem resolutionFinished_booked {index : ℕ} {id : Uuid} {generation : ℕ} {requestId : String}
    {prepared : PreparedExternalResolution}
    (result : Except IntegrationClientError ExternalMutation)
    (hworker : s.workers[index]? = some (.resolution id generation requestId prepared)) :
    Booked s (Router.resolutionFinished id generation requestId prepared result
      { s with workers := s.workers.eraseIdx index }).2 := by
  have happly : ∀ mutation, (applyResolution prepared mutation).Moves SameDesk := fun _ =>
    .bind (ask_moves _) fun _ => .bind (inStore_sameDesk _) fun _ => inStore_sameDesk _
  apply report_booked hworker
  · cases result with
    | error error => exact sendError_moves _ _ _ _
    | ok mutation =>
      refine .bind (.outcome (happly _)) fun applied => ?_
      cases applied with
      | error code => exact sendError_moves _ _ _ _
      | ok completion =>
        exact .bind (send_moves _ _ _) fun _ => .bind (.forEach fanout_moves _) fun _ =>
          fanout_moves _
  · rfl

omit [World] in
/-- A report counts only for a worker in flight that can make it. -/
theorem finishWorker_booked (index : ℕ) {handle : Worker → Option (Router StoreError Unit)}
    (h : ∀ s worker report, s.workers[index]? = some worker → handle worker = some report →
      Booked s (report { s with workers := s.workers.eraseIdx index }).2) :
    (finishWorker index handle).Moves Booked := by
  intro s
  unfold finishWorker
  cases hfound : (s.workers[index]?).bind handle with
  | none =>
    refine Actor.wp_state.mp ?_
    rw [Actor.wp_bind, Actor.wp_read, hfound]
    exact refl_of Booked s
  | some report =>
    obtain ⟨worker, hworker, hreport⟩ := Option.bind_eq_some_iff.mp hfound
    refine Actor.wp_state.mp ?_
    rw [Actor.wp_bind, Actor.wp_read, hfound]
    exact Actor.wp_state.mpr (h s worker report hworker hreport)

/-- The answer to a worker that asks to publish is noted with the worker. -/
theorem answerGate_booked (index : ℕ) : (answerGate index).Moves Booked := by
  have hpass : ∀ prepared, (passGate prepared).Moves SameDesk := fun _ =>
    .bind (.read _) fun _ => .bind (.require _ _) fun _ => .bind nowInstant_moves fun _ =>
      .bind (.require _ _) fun _ => .bind (ask_moves _) fun _ => .bind (inStore_sameDesk _) fun _ =>
      inStore_sameDesk _
  have hgate : ∀ prepared, (externalGate prepared).Moves SameDesk := by
    refine fun prepared => .bind (.outcome (hpass prepared)) fun passed => ?_
    cases passed with
    | ok event => exact .bind (fanout_moves _) fun _ => .pure _
    | error _ => exact .pure _
  refine .of_wp fun s => ?_
  unfold answerGate
  rw [Actor.wp_bind, Actor.wp_read]
  split
  · next prepared hworker =>
    rw [Actor.wp_ite]
    refine ⟨fun _ => ?_, fun _ => refl_of Booked s⟩
    rw [Actor.wp_bind]
    refine Actor.wp_mono (hgate prepared).wp (fun passed s₁ h₁ => ?_) fun _ _ h => h.booked
    have hworkers : s₁.workers = s.workers := congrArg Desk.workers h₁
    have hset : (s₁.workers.set index (.operation prepared passed)).map Worker.slot =
        s₁.workers.map Worker.slot := by
      have hslot : (s₁.workers.map Worker.slot)[index]? = some (operationSlot prepared) := by
        rw [List.getElem?_map, hworkers, hworker]
        rfl
      obtain ⟨hlt, hget⟩ := List.getElem?_eq_some_iff.mp hslot
      rw [List.map_set]
      show (s₁.workers.map Worker.slot).set index (operationSlot prepared) = _
      rw [← hget, List.set_getElem_self]
    have hledger : RouterState.ledger { s₁ with
        workers := s₁.workers.set index (.operation prepared passed) } = s₁.ledger := by
      simp only [RouterState.ledger, hset]
    show Ledger.Turns _ _ _
    rw [hledger]
    exact h₁.booked
  · exact refl_of Booked s

instance : Handled Booked where
  enroll _ _ := .bind (.read _) fun _ => .ite (.pure _) (.bind nowMillis_moves fun _ =>
    .bind (.outcome (booked_of_sameDesk (inStore_sameDesk _))) fun _ => .pure _)
  check := integrationCheck_booked
  reload := integrationReload_booked
  start := externalStart_booked
  resolve := externalResolve_booked
  checkFinished index result := by
    refine .bind (finishWorker_booked _ fun s worker report hworker hreport => ?_) fun _ => .pure _
    cases worker with
    | check => exact Option.some.inj hreport ▸ integrationCheckFinished_booked result hworker
    | operation => cases hreport
    | resolution => cases hreport
  gate index := .bind (answerGate_booked _) fun _ => .pure _
  finished index result := by
    refine .bind (finishWorker_booked _ fun s worker report hworker hreport => ?_) fun _ => .pure _
    cases worker with
    | check => cases hreport
    | operation prepared gated =>
      dsimp only at hreport
      split at hreport
      · exact Option.some.inj hreport ▸ externalFinished_booked result hworker
      · cases hreport
    | resolution => cases hreport
  resolved index result := by
    refine .bind (finishWorker_booked _ fun s worker report hworker hreport => ?_) fun _ => .pure _
    cases worker with
    | check => cases hreport
    | operation => cases hreport
    | resolution => exact Option.some.inj hreport ▸ resolutionFinished_booked result hworker

instance : Charged Booked where
  charge _ := .bind nowInstant_moves fun _ => .bind (.read _) fun _ =>
    .bind (booked_of_sameDesk fun _ => rfl) fun _ => .pure _

end reports

end Router

section runs

variable [World]

/-- Whatever the router handles, its ledger changes only by workers that come and go. -/
theorem step_booked (s : RouterState) (input : Input) : Booked s (step s input).2 := by
  have hround := Router.round_moves (T := Booked) input s.resume
  have hresume : Booked s.resume (step s input).2 := by
    unfold step
    rcases hr : Router.round input s.resume with ⟨result, s'⟩
    rw [hr] at hround
    cases result with
    | ok stop => exact hround
    | error e => exact hround
  exact hresume

/-- The invariant of the ledger, over every run. -/
theorem Reachable.ledger_exact {p : Process} (h : Reachable p) :
    ∀ s, p = .up s → Ledger.Exact integrationRequestLimit s.ledger := by
  induction h with
  | start _ _ _ =>
    rintro _ ⟨⟩
    exact .empty
  | @step s s' input _ _ hstep ih =>
    rintro _ ⟨⟩
    have hbooked := step_booked s input
    rw [hstep] at hbooked
    exact Ledger.Turns.exact hbooked (ih s rfl)
  | _ => rintro _ ⟨⟩

/-- The requests that are counted are those of the workers in flight, the slots that are taken are
those the workers will give back, and no input changes either but by a worker that takes a free
place and a free slot or by a report that gives them back. -/
theorem external_slots_exact {s : RouterState} (h : Reachable (.up s)) :
    s.integrationRequests = s.workers.length ∧
      s.integrationRequests ≤ integrationRequestLimit ∧
      (∀ key, key ∈ s.integrationTaskSlots ↔ ∃ worker ∈ s.workers, worker.slot = some key) ∧
      (s.workers.filterMap Worker.slot).Nodup ∧
      ∀ input, Ledger.Turns integrationRequestLimit s.ledger (step s input).2.ledger := by
  have hexact := h.ledger_exact s rfl
  refine ⟨?_, hexact.bound, fun key => ?_, ?_, step_booked s⟩
  · simpa [RouterState.ledger] using hexact.count
  · exact (hexact.taken key).trans List.mem_map
  · have hapart := hexact.apart
    simp only [RouterState.ledger, List.reduceOption, List.filterMap_map] at hapart
    exact hapart

end runs

namespace Tracked

def connection : IntegrationConnection :=
  { workspace := Sample.workspace, access := .write, target := .github "o/r", token := "t" }

/-- The world of the other samples, with an issue tracker. -/
scoped instance world : World := { Sample.world with
  catalog := fun _ => some [connection]
  catalog_nodup := by
    rintro t connections ⟨⟩
    decide }

/-- The router just after it was started for the first time. -/
def started : RouterState :=
  match boot (openStore initialDb 1) with
  | (.ok (integrations, client), store) => { store, integrations, integrationClient := client }
  | (.error _, store) => {
      store, integrations := { configurationInvalid := true, active := ∅ },
      integrationClient := false }

/-- The administrator creates a task and links it to an issue. -/
def linking : List Input :=
  [.opened 1, Sample.fromAdmin (.registerOperator 2 (Sample.token 3)),
    Sample.fromAdmin (.workspaceCreate "r1" Sample.workspace),
    Sample.fromAdmin (.workspaceJoin "r2" Sample.workspace),
    Sample.fromAdmin (.integrationReload "r3"),
    Sample.fromAdmin (.taskCreate "r4" Sample.workspace ⟨100⟩ "t" ""),
    Sample.fromAdmin (.taskLink "r5" Sample.workspace ⟨101⟩ 1 1 .github "7" false)]

/-- The state in which the worker that looks the issue up is in flight. -/
def linked : RouterState := (runInputs started linking).getD started

theorem linked_checked : (boot (openStore initialDb 1)).1.isOk = true ∧
    (runInputs started linking).isSome = true ∧ linked.workers.length = 1 ∧
    linked.integrationTaskSlots = [(Sample.workspace, 1, .github)] := by
  decide +kernel

theorem linked_reachable : Reachable (.up linked) := by
  have hok := linked_checked.1
  have hstarted : Reachable (.up started) := by
    unfold started
    rcases hboot : boot (openStore initialDb 1) with ⟨result, store⟩
    rw [hboot] at hok
    cases result with
    | error e => cases hok
    | ok r => exact .start .create hboot
  obtain ⟨s', hs'⟩ := Option.isSome_iff_exists.mp linked_checked.2.1
  unfold linked
  rw [hs']
  exact Runs.inputs hstarted (fun _ _ _ => trivial) hs'

end Tracked

open Tracked in
theorem external_slots_exact_linked :
    linked.workers.length = 1 ∧
      linked.integrationTaskSlots = [(Sample.workspace, 1, .github)] ∧
      linked.integrationRequests = linked.workers.length ∧
      ∃ worker ∈ linked.workers, worker.slot = some (Sample.workspace, 1, .github) := by
  have hexact := external_slots_exact linked_reachable
  obtain ⟨-, -, hone, hslots⟩ := linked_checked
  refine ⟨hone, hslots, hexact.1, (hexact.2.2.1 _).mp ?_⟩
  rw [hslots]
  exact List.mem_singleton_self _

end SessionRouter
