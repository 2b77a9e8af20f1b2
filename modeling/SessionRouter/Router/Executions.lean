import SessionRouter.Router.RunSpec

/-!
Executions of tasks in every reachable state: a task has one live attempt at most, the row of the
task fits its attempts, and an execution never starts while an earlier one may still run.
-/

namespace SessionRouter

section

variable [World] {s : RouterState} {p : Process}

theorem Reachable.dbInv (h : Reachable p) : DbInv p.db p.tick := by
  cases p with
  | down db tick => exact Reachable.db h
  | up s => exact (Reachable.good h).base.store.db

/-- The states a list of inputs leads to, as long as the loop goes on. -/
def runInputs (s : RouterState) : List Input → Option RouterState
  | [] => some s
  | input :: inputs =>
    match step s input with
    | (true, s') => runInputs s' inputs
    | (false, _) => none

theorem Runs.inputs {allowed : RouterState → Input → Prop} {inputs : List Input} {s' : RouterState}
    (h : Runs allowed (.up s)) (hall : ∀ input ∈ inputs, ∀ s, allowed s input)
    (hrun : runInputs s inputs = some s') : Runs allowed (.up s') := by
  induction inputs generalizing s with
  | nil =>
    cases hrun
    exact h
  | cons input inputs ih =>
    unfold runInputs at hrun
    split at hrun
    · next s₁ hstep =>
      exact ih (.step h (hall input (by simp) s) hstep) (fun i hi => hall i (by simp [hi])) hrun
    · cases hrun

/-- A `Begin` is refused while an attempt of its task may still run. -/
theorem begin_refused {F : Prop} {taskId : ℕ} {workspace : WorkspaceName}
    (id operationId : Uuid) (generation version : ℕ) (requestId work note : String)
    (checkpoint : Option Uuid) (h : Good (.rest F) s) (hrun : s.shuttingDown = false)
    (hun : ∃ i a, s.db.attempts.get? i = some a ∧ a.isOf workspace taskId ∧
      a.unconfirmed = true) :
    Actor.wp (Router.taskMutate id generation requestId workspace
        (.begin operationId taskId work version checkpoint note))
      (fun _ _ => False) (Refused F True) s := by
  obtain ⟨i, a, ha, hof, hun⟩ := hun
  unfold Router.taskMutate
  simp only [Actor.wp_bind]
  refine requireWorkspaceMatch_spec h fun hw => ?_
  rw [Actor.wp_read]
  refine guard_requireThat h (by simp) fun _ => ?_
  refine interruptedRequest_spec fun interrupted tick htick _ => ?_
  have hq : Quiet s { s with store := { s.store with tick } } :=
    ⟨rfl, rfl, htick, rfl, rfl, rfl, rfl, rfl, fun hs => hs⟩
  have h₁ := h.quiet hq
  rw [Actor.wp_read]
  refine callerContext_spec h₁ hrun hw fun caller hcaller => ?_
  rw [Actor.wp_mapError, Router.wp_inStore]
  refine Txn.wp_mono (applyTask_spec h₁.base.store.db hcaller.sound) ?_ ?_
  · rintro result t (⟨-, happlied⟩ | ⟨receipt, rfl, hreplayed⟩)
    · -- The request it would run under proves that the last stop is confirmed.
      obtain ⟨_, _, _, _, hbegun⟩ := happlied.begun work rfl
      obtain ⟨r, hr, -, -⟩ := hbegun.reservation
      have hreserved := hcaller.sound.reserved r hr
      rw [hcaller.reservation] at hr
      obtain ⟨_, _, rfl⟩ := Option.map_eq_some_iff.mp hr
      rw [hcaller.workspace] at hreserved
      have hfound : stopUnconfirmed s.db workspace taskId = true := by
        simp only [AttemptRow.unconfirmed, Bool.and_eq_true, decide_eq_true_eq] at hun
        unfold stopUnconfirmed
        rw [List.any_eq_true]
        exact ⟨(i, a), (Table.mem_toList _ _ _).mpr ha, by simp [hof.1, hof.2, hun.1, hun.2]⟩
      exact absurd (hfound.symm.trans hreserved) (by decide)
    · -- The attempt of the receipt runs, so it would be a second live one.
      obtain ⟨j, b, hb, hbof, hrunning, -, htask⟩ :=
        hreplayed.running h₁.base.store.db.tasks rfl
      cases htask
      rw [hcaller.workspace] at hbof
      obtain ⟨r, hr, -⟩ := hreplayed.task
      rw [hcaller.workspace] at hr
      have hfit := (h.base.store.db.tasks.locals _ _ r hr).fit
      have h₁ := hfit.live i a ha hof ((AttemptRow.barrier_iff a).mpr (.inr hun))
      have h₂ := hfit.live j b hb hbof ((AttemptRow.barrier_iff b).mpr (.inl hrunning))
      rw [h₁, Option.some.injEq] at h₂
      subst h₂
      have hb : s.db.attempts.get? i = some b := hb
      rw [ha, Option.some.injEq] at hb
      subst hb
      simp [AttemptRow.unconfirmed, hrunning] at hun
  · intro e _
    exact .of_exhausted h₁ fun _ => .inr trivial

end

namespace Sample

/-- A token whose first characters spell the binary digits of `t`. -/
def token (t : ℕ) : String :=
  String.ofList ((List.range 42).map (fun i => if t.testBit i then 'B' else 'A') ++ ['A'])

theorem token_toList (t : ℕ) : (token t).toList =
    (List.range 42).map (fun i => if t.testBit i then 'B' else 'A') ++ ['A'] :=
  String.toList_ofList

theorem token_canonical (t : ℕ) : canonicalToken (token t) = true := by
  have hchar : ∀ c ∈ (token t).toList, c = 'A' ∨ c = 'B' := by
    intro c hc
    rw [token_toList, List.mem_append, List.mem_map] at hc
    rcases hc with ⟨i, -, rfl⟩ | hc
    · split
      · exact .inr rfl
      · exact .inl rfl
    · exact .inl (List.mem_singleton.mp hc)
  have hlength : (token t).toList.length = 43 := by
    rw [token_toList, List.length_append, List.length_map, List.length_range]
    rfl
  have hsizes : (token t).toList.map Char.utf8Size = List.replicate 43 1 := by
    rw [List.eq_replicate_iff, List.length_map]
    refine ⟨hlength, fun n hn => ?_⟩
    obtain ⟨c, hc, rfl⟩ := List.mem_map.mp hn
    rcases hchar c hc with rfl | rfl <;> decide
  have hsize : (token t).utf8ByteSize = 43 := by
    rw [← JsonValue.byteLen_toList, JsonValue.byteLen, hsizes]
    decide
  have hall : (token t).toList.all isBearerChar = true := by
    rw [List.all_eq_true]
    intro c hc
    rcases hchar c hc with rfl | rfl <;> decide
  have hlast : (token t).toList.getLast? = some 'A' := by
    rw [token_toList, List.getLast?_concat]
  have hallowed : 'A' ∈ tokenLastChars := by decide
  simp only [canonicalToken, validBearer, hsize, hall, hlast, Option.any_some, hallowed]
  rfl

/-- A world whose clocks count the ticks and whose queues take every message. -/
scoped instance world : World where
  uuid t := ⟨t + 1⟩
  uuid_injective := by
    intro a b h
    simpa using h
  uuid_ne_nil := by
    intro t h
    cases h
  token := token
  token_canonical := token_canonical
  now t := t % 1000
  now_le := by
    intro t
    unfold maxSafeInteger
    omega
  instant t := t * 1000000000
  instant_mono := fun a b h => Nat.mul_le_mul_right _ h
  accepts _ := true
  arrange _ _ l := l
  arrange_perm := fun _ _ _ => .refl _
  catalog _ := none
  catalog_nodup := by
    intro t connections h
    cases h
  clientReady _ := true

theorem workspace_valid : isWorkspaceName "w" = true := by decide

def workspace : WorkspaceName := ⟨"w", workspace_valid⟩

/-- The router just after it was started for the first time. -/
def started : RouterState :=
  match boot (openStore initialDb 1) with
  | (.ok (integrations, client), store) => { store, integrations, integrationClient := client }
  | (.error _, store) => {
      store, integrations := { configurationInvalid := true, active := ∅ },
      integrationClient := false }

theorem started_runs {allowed : RouterState → Input → Prop} : Runs allowed (.up started) := by
  have hok : (boot (openStore initialDb 1)).1.isOk = true := by decide +kernel
  unfold started
  rcases hboot : boot (openStore initialDb 1) with ⟨result, store⟩
  rw [hboot] at hok
  cases result with
  | error e => cases hok
  | ok r => exact .start .create hboot

/-- The connections of the administrator and of the agent. -/
def admin : Uuid := ⟨9⟩

def agent : Uuid := ⟨10⟩

def fromAdmin (message : ClientMessage) : Input := .message admin 1 message

def fromAgent (message : ClientMessage) : Input := .message agent 2 message

/-- An agent and the administrator join a workspace. -/
def joining : List Input :=
  [.opened 1, .opened 2,
    fromAdmin (.registerOperator 2 (token 3)),
    fromAdmin (.workspaceCreate "r1" workspace),
    fromAdmin (.credentialIssue "r2" .agent "a" (some .claude) (some .claudeCode) [workspace]),
    fromAgent (.register 2 ⟨"a", .claude, .claudeCode, none, .push⟩ (token 15) none),
    fromAdmin (.workspaceJoin "r3" workspace),
    fromAgent (.workspaceJoin "r1" workspace)]

/-- A task is created, assigned and dispatched, and the agent begins it. -/
def beginning : List Input :=
  [fromAdmin (.taskCreate "r4" workspace ⟨100⟩ "t" ""),
    fromAdmin (.taskAssign "r5" workspace ⟨101⟩ 1 1 (some "a")),
    fromAdmin (.taskRequest "r6" workspace 1 2 none none),
    fromAgent (.taskBegin "r2" workspace ⟨102⟩ 1 "r6" 2 none "go")]

/-- The attempt that `beginning` starts. -/
def attempt : Uuid := ⟨48⟩

/-- The administrator interrupts the task. -/
def interrupting : List Input := [fromAdmin (.taskInterrupt "r7" workspace ⟨103⟩ 1 3 "stop")]

/-- The state after some inputs, or the first one when the loop ends on the way. -/
def after (inputs : List Input) : RouterState := (runInputs started inputs).getD started

theorem after_runs {allowed : RouterState → Input → Prop} {inputs : List Input}
    (hall : ∀ input ∈ inputs, ∀ s, allowed s input)
    (hsome : (runInputs started inputs).isSome = true) : Runs allowed (.up (after inputs)) := by
  obtain ⟨s', hs'⟩ := Option.isSome_iff_exists.mp hsome
  unfold after
  rw [hs']
  exact started_runs.inputs hall hs'

theorem after_reachable (inputs : List Input) (hsome : (runInputs started inputs).isSome = true) :
    Reachable (.up (after inputs)) := after_runs (fun _ _ _ => trivial) hsome

end Sample

section

variable [World] {p : Process}

/-- An attempt that runs, or whose stop is not known, is the last of its task and the only one. -/
theorem live_attempt_unique (h : Reachable p) :
    (∀ w taskId id id' a a', p.db.attempts.get? id = some a → p.db.attempts.get? id' = some a' →
      a.isOf w taskId → a'.isOf w taskId → a.barrier = true → a'.barrier = true → id = id') ∧
    (∀ w taskId id a, p.db.attempts.get? id = some a → a.isOf w taskId → a.barrier = true →
      ∃ r, p.db.tasks.get? (w, taskId) = some r ∧ r.lastAttemptId = some id) ∧
    ∀ s, p = .up s → s.shuttingDown = false → ∀ id generation requestId w operationId taskId work
      version checkpoint note,
      (∃ i a, s.db.attempts.get? i = some a ∧ a.isOf w taskId ∧ a.unconfirmed = true) →
      (Router.dispatch id generation (.taskBegin requestId w operationId taskId work version
        checkpoint note) s).1 ≠ .ok () := by
  have hinv := Reachable.dbInv h
  have hlast : ∀ w taskId id a, p.db.attempts.get? id = some a → a.isOf w taskId →
      a.barrier = true → ∃ r, p.db.tasks.get? (w, taskId) = some r ∧ r.lastAttemptId = some id := by
    intro w taskId id a ha hof hbarrier
    obtain ⟨r, hr⟩ := (hinv.tasks.attempts id a ha).task
    rw [hof.1, hof.2] at hr
    exact ⟨r, hr, (hinv.tasks.locals w taskId r hr).fit.live id a ha hof hbarrier⟩
  refine ⟨?_, hlast, ?_⟩
  · intro w taskId id id' a a' ha ha' hof hof' hbarrier hbarrier'
    obtain ⟨r, hr, hid⟩ := hlast w taskId id a ha hof hbarrier
    obtain ⟨r', hr', hid'⟩ := hlast w taskId id' a' ha' hof' hbarrier'
    rw [hr, Option.some.injEq] at hr'
    subst hr'
    rw [hid, Option.some.injEq] at hid'
    exact hid'
  · rintro s rfl hrun id generation requestId w operationId taskId work version checkpoint note hun
      hok
    have hrefused := begin_refused id operationId generation version requestId work note
      checkpoint (Reachable.good h) hrun hun
    unfold Actor.wp at hrefused
    have heq : Router.dispatch id generation (.taskBegin requestId w operationId taskId work version
        checkpoint note) s = Router.taskMutate id generation requestId w
        (.begin operationId taskId work version checkpoint note) s := rfl
    rw [heq] at hok
    rcases hresult : Router.taskMutate id generation requestId w
      (.begin operationId taskId work version checkpoint note) s with ⟨result, s'⟩
    rw [hresult] at hok hrefused
    cases hok
    exact hrefused

end

open Sample in
theorem live_attempt_unique_interrupted :
    let s := after (joining ++ beginning ++ interrupting)
    Reachable (.up s) ∧ s.shuttingDown = false ∧
      (∃ i a, s.db.attempts.get? i = some a ∧ a.isOf workspace 1 ∧ a.unconfirmed = true) ∧
      (Router.dispatch agent 2 (.taskBegin "r9" workspace ⟨105⟩ 1 "r6" 4 none "again") s).1 ≠
        .ok () := by
  intro s
  have hreach : Reachable (.up s) :=
    after_reachable (joining ++ beginning ++ interrupting) (by decide +kernel)
  have hrun : s.shuttingDown = false := by decide +kernel
  have hattempt : (s.db.attempts.get? attempt).any (fun a =>
      a.workspace = workspace && a.taskId = 1 && a.unconfirmed) = true := by decide +kernel
  obtain ⟨a, ha, hprops⟩ := (Option.any_eq_true _ _).mp hattempt
  simp only [Bool.and_eq_true, decide_eq_true_eq] at hprops
  have hun : ∃ i a, s.db.attempts.get? i = some a ∧ a.isOf workspace 1 ∧ a.unconfirmed = true :=
    ⟨attempt, a, ha, hprops.1, hprops.2⟩
  exact ⟨hreach, hrun, hun,
    (live_attempt_unique hreach).2.2 s rfl hrun agent 2 "r9" workspace ⟨105⟩ 1 "r6" 4 none
    "again" hun⟩

section

variable [World] {p : Process}

/-- The row of every task fits the attempts of the task, every attempt has a known shape, and so
the store operations that stop an attempt find the row they expect. -/
theorem task_rows_fit (h : Reachable p) :
    (∀ w taskId r, p.db.tasks.get? (w, taskId) = some r →
      (r.state = .inProgress ↔ r.currentAttemptId.isSome = true) ∧
      (∀ id, r.currentAttemptId = some id → r.lastAttemptId = some id ∧
        ∃ a, p.db.attempts.get? id = some a ∧ a.isOf w taskId ∧ a.status = .running) ∧
      (r.state = .done ∨ r.state = .cancelled → r.assignedAgentId = none ∧
        ∀ id a, p.db.attempts.get? id = some a → a.isOf w taskId → a.unconfirmed = false)) ∧
    (∀ id a, p.db.attempts.get? id = some a →
      (a.status = .running → ∃ r, p.db.tasks.get? (a.workspace, a.taskId) = some r ∧
        r.currentAttemptId = some id) ∧
      a.wellFormed = true ∧ (a.endedAt.isSome = true ↔ a.status ≠ .running)) ∧
    (∀ tick, p.tick ≤ tick → ∀ id reason,
      interruptAttempt id reason { db := p.db, tick } ≠ .error .invalidData) ∧
    ∀ tick, p.tick ≤ tick → ∀ w taskId attemptId sessionId agentId credentialId reason,
      ValidActor agentId → recordExecutionStopped w taskId attemptId sessionId agentId credentialId
        reason { db := p.db, tick } ≠ .error (.ofStore .invalidData) := by
  have hinv := Reachable.dbInv h
  refine ⟨?_, ?_, ?_, ?_⟩
  · intro w taskId r hr
    have hlocal := hinv.tasks.locals w taskId r hr
    obtain ⟨-, -, -, -, -, hstate, hassigned⟩ := TaskRow.check_iff.mp hlocal.check
    refine ⟨hstate, fun id hid => ?_, fun hterminal => ?_⟩
    · obtain ⟨hlast, a, ha, hrun⟩ := hlocal.fit.current id hid
      obtain ⟨b, hb, hof⟩ := hlocal.fit.last id hlast
      rw [ha, Option.some.injEq] at hb
      subst hb
      exact ⟨hlast, a, ha, hof, hrun⟩
    · have hterminal : r.state.isTerminal = true := by
        rcases hterminal with hs | hs <;> rw [hs] <;> rfl
      refine ⟨hassigned hterminal, fun id a ha hof => ?_⟩
      have hbarrier := hlocal.fit.terminal hterminal id a ha hof
      by_contra hun
      rw [Bool.not_eq_false] at hun
      rw [(AttemptRow.barrier_iff a).mpr (.inr hun)] at hbarrier
      cases hbarrier
  · intro id a ha
    have hattempt := hinv.tasks.attempts id a ha
    refine ⟨fun hrun => ?_, hattempt.wellFormed, ?_⟩
    · obtain ⟨r, hr⟩ := hattempt.task
      exact ⟨r, hr, (hinv.tasks.locals _ _ r hr).fit.running id a ha ⟨rfl, rfl⟩ hrun⟩
    · obtain ⟨-, -, -, -, hended⟩ := AttemptRow.check_iff.mp hattempt.check
      rcases hended with ⟨hrun, hnone, -⟩ | ⟨hstop, hsome⟩
      · simp [hrun, hnone]
      · simp [hstop, hsome]
  · intro tick htick id reason hfail
    have := Txn.wp_error (interruptAttempt_spec (t := { db := p.db, tick }) (hinv.mono htick)) hfail
    cases this.1
  · intro tick htick w taskId attemptId sessionId agentId credentialId reason hactor hfail
    rcases Txn.wp_error (recordExecutionStopped_spec (t := { db := p.db, tick }) (hinv.mono htick)
      hactor) hfail with hcode | ⟨heq, -⟩
    · cases hcode
    · cases heq

end

open Sample in
theorem task_rows_fit_interrupted :
    let s := after (joining ++ beginning ++ interrupting)
    Reachable (.up s) ∧ s.db.tasks.size = 1 ∧ s.db.attempts.size = 1 ∧
      ∀ reason, interruptAttempt attempt reason { db := s.db, tick := s.tick } ≠
        .error .invalidData := by
  intro s
  have hreach : Reachable (.up s) :=
    after_reachable (joining ++ beginning ++ interrupting) (by decide +kernel)
  have htasks : s.db.tasks.size = 1 := by decide +kernel
  have hattempts : s.db.attempts.size = 1 := by decide +kernel
  exact ⟨hreach, htasks, hattempts, (task_rows_fit hreach).2.2.1 s.tick le_rfl attempt⟩

end SessionRouter
