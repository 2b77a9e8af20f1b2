import SessionRouter.Tasks.AttemptSpec

/-!
A title that begins with NUL passes the checks of its command and fails the one of the database,
which counts the characters before the first NUL.
-/

namespace SessionRouter

/-- A title the database does not take gets as far as the row of its task. -/
structure TaskCommand.HidesTitle (command : TaskCommand) (db : Db) (caller : CallerContext) :
    Prop where
  hidden : command.hidesTitle = true
  valid : validateCommand caller command = none
  unused : db.mutations.get? (caller.workspace, command.operationId) = none
  editable : ∀ operationId taskId version title description,
    command = .edit operationId taskId version title description →
    ∃ r, db.tasks.get? (caller.workspace, taskId) = some r ∧ r.version = version ∧
      r.state.isTerminal = false ∧ r.state ≠ .inProgress

section

variable [World] {t : Tx} {caller : CallerContext} {command : TaskCommand}

omit [World] in
theorem TaskRow.check_hidden {taskId : ℕ} {r : TaskRow} (h : sqlLength r.title = 0) :
    r.check taskId = false := by
  by_contra hcheck
  rw [Bool.not_eq_false, TaskRow.check_iff] at hcheck
  omega

theorem applyCreate_hidden {operationId : Uuid} {title description : String}
    (h : DbInv t.db t.tick) (hcaller : caller.Sound t.db) (hhidden : sqlLength title = 0)
    {Q : TaskApplyResult → Tx → Prop} {E : TaskError → Prop}
    (hE : ∀ e : TaskError, e.code = .storageError → E e) :
    Txn.wp (applyCreate caller (.create operationId title description) title
    description) Q E t := by
  obtain ⟨wrow, hwrow⟩ := hcaller.workspace
  unfold applyCreate liftStore
  simp only [Txn.wp_bind, Store.wp_nowMillis, Txn.wp_mapError]
  refine takeTaskId_spec hwrow (h.journal.row _ wrow hwrow) (fun _ => ?_) fun _ => hE _ rfl
  simp only [Txn.orFail, Txn.wp_pure]
  refine Store.wp_insertRow (fun _ hok => ?_) fun _ => hE _ rfl
  rw [taskOk, Bool.and_eq_true] at hok
  exact absurd (hok.1.symm.trans (TaskRow.check_hidden hhidden)) (by decide)

theorem applyEdit_hidden {operationId : Uuid} {taskId version : ℕ} {title : String}
    {description : Option String} (hcaller : caller.Sound t.db) (hhidden : sqlLength title = 0)
    {Q : TaskApplyResult → Tx → Prop} {E : TaskError → Prop}
    (hE : ∀ r, t.db.tasks.get? (caller.workspace, taskId) = some r → r.version = version →
      r.state.isTerminal = false → r.state ≠ .inProgress →
      ∀ e : TaskError, e.code = .storageError → E e)
    (hother : (∀ r, t.db.tasks.get? (caller.workspace, taskId) = some r → r.version = version →
      ¬(r.state.isTerminal = false ∧ r.state ≠ .inProgress)) →
      ∀ e : TaskError, e.code ≠ .storageError → E e) :
    Txn.wp (applyEdit caller (.edit operationId taskId version (some title) description) taskId
      version (some title) description) Q E t := by
  unfold applyEdit liftStore
  simp only [Txn.wp_bind, Txn.wp_mapError, Store.wp_nowMillis]
  refine Txn.wp_mono (Q := fun r t' => t' = t ∧
    t.db.tasks.get? (caller.workspace, taskId) = some r) (E := E) ?_ ?_ fun _ he => he
  · unfold taskStateVersion
    simp only [Txn.wp_bind, Store.wp_read, Txn.wp_orFail]
    refine ⟨fun r hr => ⟨trivial, hr⟩, fun hnone => hother (fun r hr => ?_) _ (by simp)⟩
    rw [hnone] at hr
    cases hr
  rintro r _ ⟨rfl, hr⟩
  unfold checkVersion
  rw [Txn.wp_require]
  refine ⟨fun hversion => ?_, fun hversion => hother (fun r' hr' hv => ?_) _ (by simp)⟩
  rotate_left
  · rw [hr, Option.some.injEq] at hr'
    subst hr'
    exact absurd hv (of_decide_eq_false hversion)
  unfold requireTask
  rw [Txn.wp_require]
  refine ⟨fun hstate => ?_, fun hstate => hother (fun r' hr' hv => ?_) _ (by simp)⟩
  rotate_left
  · rw [hr, Option.some.injEq] at hr'
    subst hr'
    rintro ⟨hterminal, hprogress⟩
    simp [hterminal, hprogress] at hstate
  simp only [Bool.not_eq_true', Bool.or_eq_false_iff, decide_eq_false_iff_not] at hstate
  refine updateTask_spec hr rfl hcaller.workspace (fun hcheck => ?_) fun _ =>
    hE r hr (of_decide_eq_true hversion) hstate.1 hstate.2 _ rfl
  exact absurd (hcheck.symm.trans (TaskRow.check_hidden hhidden)) (by decide)

/-- A command with such a title fails in the store exactly when it gets as far as the row. -/
theorem applyTask_hidden (h : DbInv t.db t.tick) (hcaller : caller.Sound t.db)
    (hhidden : command.hidesTitle = true) :
    Txn.wp (applyTask caller command) (fun _ _ => ¬ command.HidesTitle t.db caller)
      (fun e => e.code = .storageError ↔ command.HidesTitle t.db caller) t := by
  unfold applyTask
  cases hvalid : validateCommand caller command with
  | some code =>
    simp only [failTask, Txn.wp_fail]
    constructor
    · rintro rfl
      cases command <;> simp [validateCommand, Option.or_eq_some_iff] at hvalid
    · intro hhides
      rw [hhides.valid] at hvalid
      cases hvalid
  | none =>
    simp only [Txn.wp_bind, Store.wp_read]
    cases hreceipt : t.db.mutations.get? (caller.workspace, command.operationId) with
    | some receipt =>
      have hnot : ¬ command.HidesTitle t.db caller := by
        intro hhides
        rw [hhides.unused] at hreceipt
        cases hreceipt
      exact Txn.wp_mono (replayReceipt_spec h hreceipt) (fun _ _ _ => hnot)
        fun e he => ⟨fun hcode => absurd hcode he.not_storageError,
          fun hhides => absurd hhides hnot⟩
    | none =>
      simp only [Txn.wp_bind, Txn.wp_pure]
      refine Txn.wp_mono (Q := fun _ _ => False) ?_ (fun _ _ hfalse => hfalse.elim) fun _ he => he
      cases command with
      | create operationId title description =>
        have hlength : sqlLength title = 0 := by simpa [TaskCommand.hidesTitle] using hhidden
        refine applyCreate_hidden h hcaller hlength fun e he => ?_
        exact ⟨fun _ => ⟨hhidden, hvalid, hreceipt, by simp⟩, fun _ => he⟩
      | edit operationId taskId version title description =>
        obtain ⟨value, rfl, hlength⟩ : ∃ value, title = some value ∧ sqlLength value = 0 := by
          simpa [TaskCommand.hidesTitle, Option.any_eq_true] using hhidden
        refine applyEdit_hidden hcaller hlength (fun r hr hversion hterminal hprogress e he => ?_)
          fun hnone e he => ?_
        · refine ⟨fun _ => ⟨hhidden, hvalid, hreceipt, ?_⟩, fun _ => he⟩
          intro _ _ _ _ _ heq
          cases heq
          exact ⟨r, hr, hversion, hterminal, hprogress⟩
        · refine ⟨fun hcode => absurd hcode he, fun hhides => ?_⟩
          obtain ⟨r, hr, hversion, hstate⟩ := hhides.editable _ _ _ _ _ rfl
          exact absurd hstate (hnone r hr hversion)
      | _ => cases hhidden

/-- Besides a counter that has run out, only such a title makes a command fail in the store. -/
theorem applyTask_outcome (h : DbInv t.db t.tick) (hcaller : caller.Sound t.db) :
    Txn.wp (applyTask caller command)
      (fun result t' => (t.db.mutations.get? (caller.workspace, command.operationId) = none ∧
          Applied caller command t result t') ∨
        ∃ receipt, t' = t ∧ Replayed caller command t result receipt)
      (fun e => e.code = .storageError → Exhausted t.db ∨ command.HidesTitle t.db caller) t := by
  by_cases hhidden : command.hidesTitle = true
  · refine Txn.wp_mono (Txn.wp_and (applyTask_spec h hcaller) (applyTask_hidden h hcaller hhidden))
      (fun _ _ hq => hq.1) fun e he hcode => .inr (he.2.mp hcode)
  · refine Txn.wp_mono (applyTask_spec h hcaller) (fun _ _ hq => hq) fun e he hcode => ?_
    exact .inl ((he hcode).resolve_right hhidden)

end

end SessionRouter
