import SessionRouter.Router.SingleFlight

/-!
Which messages make the store fail, and with it the router: besides a counter that has run out and
a token drawn twice, exactly those that bring a title to the database that begins with NUL.
-/

namespace SessionRouter

section

variable [World] {s : RouterState} {F : Prop} {id : Uuid} {generation : ℕ}
  {workspace : WorkspaceName} {command : TaskCommand}

omit [World] in
theorem callerOf_ok {actor : String} (hactor : s.actorId id = .ok actor)
    (workspace : WorkspaceName) (reservation : Option ReservationFence) :
    (∃ c, s.connections.get? (s.effective id) = some c) ∧
      ∃ caller, Router.callerOf s id workspace reservation = .ok caller := by
  have hrole := hactor
  unfold RouterState.actorId RouterState.effectiveConnection at hrole
  cases hc : s.connections.get? (s.effective id) with
  | none => simp [hc] at hrole
  | some c =>
    rw [hc, Option.bind_some] at hrole
    have hacting : ∃ acting, c.acting? (s.effective id = id) = some acting := by
      unfold ConnectionState.acting?
      cases hr : c.role with
      | none => simp [hr] at hrole
      | some role => cases role <;> simp [hr] at hrole ⊢
    obtain ⟨acting, hacting⟩ := hacting
    refine ⟨⟨c, rfl⟩, ?_⟩
    unfold Router.callerOf
    simp only [hc, hacting, hactor]
    exact ⟨_, rfl⟩

omit [World] in
theorem validateCommand_hidden (h : command.hidesTitle = true) (caller caller' : CallerContext) :
    validateCommand caller command = validateCommand caller' command := by
  cases command <;> first | rfl | cases h

/-- Nothing but the database refuses such a title, and the store fails. -/
theorem taskMutate_titled (generation : ℕ) (requestId : String) (h : Good (.rest F) s)
    (hrun : s.shuttingDown = false) (htitled : Titled s id workspace command) :
    Actor.wp (Router.taskMutate id generation requestId workspace command) (fun _ _ => False)
      (fun e _ => e.code = .storageError) s := by
  obtain ⟨hw, hfree, caller₀, hworkspace, hactor, hhides⟩ := htitled
  have hplain : command.isBegin = false ∧ command.interrupts? = none := by
    have hhidden := hhides.hidden
    cases command <;> first | exact ⟨rfl, rfl⟩ | cases hhidden
  obtain ⟨⟨c, hc⟩, caller, hcaller⟩ := callerOf_ok hactor workspace
    (Router.reservation s (s.effective id) workspace command)
  have hpresented := callerOf_spec h hrun hw hcaller
  have hhides' : command.HidesTitle s.db caller :=
    { hidden := hhides.hidden
      valid := by
        rw [validateCommand_hidden hhides.hidden caller caller₀]
        exact hhides.valid
      unused := by
        rw [hpresented.workspace, ← hworkspace]
        exact hhides.unused
      editable := by
        rw [hpresented.workspace, ← hworkspace]
        exact hhides.editable }
  unfold Router.taskMutate Router.requireWorkspaceMatch
  simp only [Actor.wp_bind]
  refine Router.wp_ask.mpr ⟨fun current hcurrent => ?_, fun e he => ?_⟩
  rotate_left
  · rw [hw] at he
    cases he
  rw [hw, Except.ok.injEq] at hcurrent
  subst hcurrent
  rw [Actor.wp_require]
  refine ⟨fun _ => ?_, fun hne => absurd hne (by simp)⟩
  rw [Actor.wp_read]
  refine Router.wp_requireThat.mpr ⟨fun _ => ?_, fun hguard => ?_⟩
  rotate_left
  · cases htask : command.taskId? with
    | none => simp [htask] at hguard
    | some taskId =>
      cases hallowed : command.allowedWhileDispatched with
      | true => simp [hallowed] at hguard
      | false => simp [htask, hfree taskId htask hallowed] at hguard
  have hnone : Router.interruptedRequest workspace command = pure none := by
    cases command <;> first | rfl | cases hplain.2
  rw [hnone, Actor.wp_pure, Actor.wp_read]
  unfold Router.callerContext
  simp only [Actor.wp_bind, Actor.wp_read, hc, hplain.1]
  refine Router.wp_requireThat.mpr ⟨fun _ => ?_, fun hmissing => by simp at hmissing⟩
  rw [if_neg (by decide)]
  refine Router.wp_ask.mpr ⟨fun caller' hcaller' => ?_, fun e he => ?_⟩
  rotate_left
  · rw [hcaller] at he
    cases he
  rw [hcaller, Except.ok.injEq] at hcaller'
  subst hcaller'
  rw [Actor.wp_mapError, Router.wp_inStore]
  refine Txn.wp_mono (applyTask_hidden h.base.store.db hpresented.sound hhides.hidden)
    (fun _ _ hnot => absurd hhides' hnot) fun e he => ?_
  exact he.mpr hhides'

/-- A message makes the store fail only if it brings such a title to the database, if a counter
has run out or if a drawn token is in use already. -/
theorem storage_error_causes (h : Reachable (.up s)) (hrun : s.shuttingDown = false)
    {c : ConnectionState} (hc : s.connections.get? id = some c) (hgen : c.generation = generation)
    (message : ClientMessage)
    (hcounters : ¬ Exhausted (Router.dispatch id generation message s).2.db)
    (hdraw : ¬ message.clashes s) :
    (∀ e, (Router.dispatch id generation message s).1 = .error e → e.code ≠ .storageError) ↔
      ¬ message.titled s id := by
  have hgood := h.good
  constructor
  · rintro hfine ⟨workspace, command, hcommand, htitled⟩
    have hdispatch : ∃ requestId, Router.dispatch id generation message =
        Router.taskMutate id generation requestId workspace command := by
      cases message <;> first
        | cases hcommand
          exact ⟨_, rfl⟩
        | cases hcommand
    obtain ⟨requestId, hdispatch⟩ := hdispatch
    have hfails := taskMutate_titled generation requestId hgood hrun htitled
    unfold Actor.wp at hfails
    rw [hdispatch] at hfine
    rcases hresult : Router.taskMutate id generation requestId workspace command s with ⟨r, s'⟩
    rw [hresult] at hfails hfine
    cases r with
    | ok _ => exact hfails
    | error e => exact hfine e rfl hfails
  · intro htitled e he hcode
    have hspec := @dispatch_spec _ _ _ _ _ message _ hgood hrun hc hgen
    unfold Handles Actor.wp at hspec
    rcases hresult : Router.dispatch id generation message s with ⟨r, s'⟩
    rw [hresult] at hspec he hcounters
    change r = _ at he
    subst he
    rcases hspec.excused hcode with hx | hclash | htitle
    · exact hcounters hx
    · exact hdraw hclash
    · exact htitled htitle

end

/-- No counter is about to run out. -/
theorem not_exhausted {db : Db}
    (hworkspaces : db.workspaces.toList.all (fun e =>
      e.2.nextSeq + 1 < maxSafeInteger && e.2.nextTaskId < maxSafeInteger) = true)
    (htasks : db.tasks.toList.all (fun e => e.2.version < maxSafeInteger) = true) :
    ¬ Exhausted db := by
  rw [List.all_eq_true] at hworkspaces htasks
  rintro (⟨w, row, hrow, hlimit⟩ | ⟨key, r, hr, hlimit⟩)
  · have hfine := hworkspaces (w, row) ((Table.mem_toList _ _ _).mpr hrow)
    simp only [Bool.and_eq_true, decide_eq_true_eq] at hfine
    omega
  · have hfine := htasks (key, r) ((Table.mem_toList _ _ _).mpr hr)
    simp only [decide_eq_true_eq] at hfine
    omega

namespace Sample

/-- The administrator may create a task; a title with a null character fails in the store. -/
theorem creation_checked :
    ((runInputs started joining).isSome = true ∧ (after joining).shuttingDown = false ∧
      ((after joining).connections.get? admin).any (fun c => c.generation = 1) = true) ∧
    (((Router.dispatch admin 1 (.taskCreate "r4" workspace ⟨100⟩ "t" "")
        (after joining)).2.db.workspaces.toList.all fun e =>
          e.2.nextSeq + 1 < maxSafeInteger && e.2.nextTaskId < maxSafeInteger) = true ∧
      ((Router.dispatch admin 1 (.taskCreate "r4" workspace ⟨100⟩ "t" "")
        (after joining)).2.db.tasks.toList.all fun e => e.2.version < maxSafeInteger) = true) ∧
    (ClientMessage.taskCreate "r4" workspace ⟨100⟩ "\x00t" "").accepted = true ∧
      (step (after joining) (fromAdmin (.taskCreate "r4" workspace ⟨100⟩ "\x00t" ""))).1 = false ∧
      (match (Router.dispatch admin 1 (.taskCreate "r4" workspace ⟨100⟩ "\x00t" "")
          (after joining)).1 with
        | .ok _ => false
        | .error e => decide (e.code = .storageError)) = true := by
  decide +kernel

theorem title_fails : ∃ e s', Router.dispatch admin 1
    (.taskCreate "r4" workspace ⟨100⟩ "\x00t" "") (after joining) = (.error e, s') ∧
      e.code = .storageError := by
  have hfails := creation_checked.2.2.2.2
  generalize Router.dispatch admin 1 (.taskCreate "r4" workspace ⟨100⟩ "\x00t" "")
    (after joining) = result at hfails ⊢
  obtain ⟨r, s'⟩ := result
  cases r with
  | ok _ => cases hfails
  | error e => exact ⟨e, s', rfl, of_decide_eq_true hfails⟩

end Sample

open Sample in
theorem storage_error_causes_created :
    let s := after joining
    Reachable (.up s) ∧ ∀ e, (Router.dispatch admin 1
      (.taskCreate "r4" workspace ⟨100⟩ "t" "") s).1 = .error e → e.code ≠ .storageError := by
  intro s
  obtain ⟨hsome, hrun, hadmin⟩ := creation_checked.1
  have hreach : Reachable (.up s) := after_reachable joining hsome
  obtain ⟨c, hc, hgeneration⟩ := (Option.any_eq_true _ _).mp hadmin
  have hcounters : ¬ Exhausted (Router.dispatch admin 1
      (.taskCreate "r4" workspace ⟨100⟩ "t" "") s).2.db :=
    not_exhausted creation_checked.2.1.1 creation_checked.2.1.2
  refine ⟨hreach, (storage_error_causes hreach hrun hc (of_decide_eq_true hgeneration)
    (.taskCreate "r4" workspace ⟨100⟩ "t" "") hcounters id).mpr ?_⟩
  rintro ⟨w, command, hcommand, -, -, caller, -, -, hhides⟩
  cases hcommand
  exact absurd hhides.hidden (by decide)

open Sample in
theorem storage_error_title :
    let s := after joining
    let message : ClientMessage := .taskCreate "r4" workspace ⟨100⟩ "\x00t" ""
    Reachable (.up s) ∧ message.accepted = true ∧
      (∃ e s', Router.dispatch admin 1 message s = (.error e, s') ∧ e.code = .storageError) ∧
      (step s (fromAdmin message)).1 = false := by
  intro s message
  have hreach : Reachable (.up s) := after_reachable joining creation_checked.1.1
  exact ⟨hreach, creation_checked.2.2.1, title_fails, creation_checked.2.2.2.1⟩

end SessionRouter
