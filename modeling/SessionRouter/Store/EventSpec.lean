import SessionRouter.Store.Invariant

/-!
Appending an event: when it succeeds, what it does to the database, and why the invariant of the
other tables does not depend on it.
-/

namespace SessionRouter

/-- A workspace after one of its sequence numbers was taken. -/
def WorkspaceRow.bumped (r : WorkspaceRow) : WorkspaceRow := { r with nextSeq := r.nextSeq + 1 }

/-- Append a numbered event to the journal of its workspace. -/
def Db.append (db : Db) (e : WorkspaceEvent) : Db :=
  { db with
    workspaces := db.workspaces.adjust e.workspace WorkspaceRow.bumped
    events := db.events ++ [e] }

/-- The columns of a new event satisfy the constraints that do not depend on other rows. -/
structure EventInsert.Valid (insert : EventInsert) : Prop where
  actor : 1 ≤ sqlLength insert.actorId ∧ sqlLength insert.actorId ≤ 128
  task : ∀ id, insert.taskId = some id → 1 ≤ id ∧ id ≤ maxSafeInteger
  shape : eventShape (insert.toEvent 0 0) = true

def EventInsert.key (insert : EventInsert) : Option EventKey := eventKey (insert.toEvent 0 0)

@[simp] theorem EventInsert.eventKey_toEvent (insert : EventInsert) (seq now : ℕ) :
    eventKey (insert.toEvent seq now) = insert.key := rfl

/-- The key of a new event is free. -/
def KeyFree (db : Db) (key : Option EventKey) : Prop :=
  key = none ∨ ∀ e ∈ db.events, eventKey e ≠ key

theorem WorkspaceRow.check_iff {r : WorkspaceRow} : r.check = true ↔
    r.createdAt ≤ maxSafeInteger ∧ (1 ≤ r.nextSeq ∧ r.nextSeq ≤ maxSafeInteger) ∧
    (1 ≤ r.nextTaskId ∧ r.nextTaskId ≤ maxSafeInteger) := by
  simp only [WorkspaceRow.check, safeTime, Bool.and_eq_true, decide_eq_true_eq, and_assoc]

namespace Journal

variable {db : Db}

theorem seq_lt (h : Journal db) {w : WorkspaceName} {row : WorkspaceRow}
    (hrow : db.workspaces.get? w = some row) {e : WorkspaceEvent} (he : e ∈ db.events)
    (hw : e.workspace = w) : 1 ≤ e.seq ∧ e.seq < row.nextSeq := by
  have hmem : e.seq ∈ (db.events.filter fun e => e.workspace = w).map WorkspaceEvent.seq :=
    List.mem_map.mpr ⟨e, by simp [he, hw], rfl⟩
  rw [h.numbered w row hrow, List.mem_range'_1] at hmem
  omega

theorem nextSeq_pos (h : Journal db) {w : WorkspaceName} {row : WorkspaceRow}
    (hrow : db.workspaces.get? w = some row) : 1 ≤ row.nextSeq := by
  exact (WorkspaceRow.check_iff.mp (h.row w row hrow)).2.1.1

end Journal

@[simp] theorem Db.append_events (db : Db) (e : WorkspaceEvent) :
    (db.append e).events = db.events ++ [e] := rfl

theorem Db.append_workspace (db : Db) (e : WorkspaceEvent) (w : WorkspaceName) :
    (db.append e).workspaces.get? w =
      if w = e.workspace then (db.workspaces.get? w).map WorkspaceRow.bumped
      else db.workspaces.get? w := by
  simp only [Db.append, Table.get?_adjust]
  split
  · next h => rw [h]
  · rfl

/-- A workspace row survives an append, with the same task counter. -/
theorem Db.append_workspace_some {db : Db} (e : WorkspaceEvent) {w : WorkspaceName}
    {row : WorkspaceRow} (h : db.workspaces.get? w = some row) :
    ∃ row', (db.append e).workspaces.get? w = some row' ∧ row'.nextTaskId = row.nextTaskId ∧
      row.nextSeq ≤ row'.nextSeq := by
  rw [Db.append_workspace, h]
  split
  · exact ⟨_, rfl, rfl, Nat.le_succ _⟩
  · exact ⟨row, rfl, rfl, le_rfl⟩

section

variable [World]

/-- The event an insert becomes. -/
def EventInsert.next (insert : EventInsert) (row : WorkspaceRow) (tick : ℕ) : WorkspaceEvent :=
  insert.toEvent row.nextSeq (World.now tick)

@[simp] theorem EventInsert.next_workspace (insert : EventInsert) (row : WorkspaceRow) (tick : ℕ) :
    (insert.next row tick).workspace = insert.workspace := rfl

@[simp] theorem EventInsert.next_seq (insert : EventInsert) (row : WorkspaceRow) (tick : ℕ) :
    (insert.next row tick).seq = row.nextSeq := rfl

@[simp] theorem EventInsert.next_kind (insert : EventInsert) (row : WorkspaceRow) (tick : ℕ) :
    (insert.next row tick).kind = insert.kind := rfl

@[simp] theorem EventInsert.eventKey_next (insert : EventInsert) (row : WorkspaceRow) (tick : ℕ) :
    eventKey (insert.next row tick) = insert.key := rfl

omit [World] in
theorem EventInsert.Valid.check {insert : EventInsert} (h : insert.Valid) {seq now : ℕ}
    (hpos : 1 ≤ seq) (hseq : seq ≤ maxSafeInteger) (hnow : now ≤ maxSafeInteger) :
    eventCheck (insert.toEvent seq now) = true := by
  have hshape : eventShape (insert.toEvent seq now) = true := h.shape
  have hactor := h.actor
  have htask : (insert.toEvent seq now).taskId.all
      (fun id => 1 ≤ id && id ≤ maxSafeInteger) = true := by
    change insert.taskId.all _ = true
    cases hid : insert.taskId with
    | none => rfl
    | some id => simpa using h.task id hid
  simp only [eventCheck, htask, hshape, Bool.and_true, Bool.and_eq_true, decide_eq_true_eq]
  exact ⟨⟨⟨⟨hpos, hseq⟩, hactor.1⟩, hactor.2⟩, decide_eq_true hnow⟩

omit [World] in
theorem takeSeq_spec {name : WorkspaceName} {t : Tx} {Q : Option ℕ → Tx → Prop}
    {E : StoreError → Prop} {row : WorkspaceRow} (hj : Journal t.db)
    (hrow : t.db.workspaces.get? name = some row)
    (hQ : row.nextSeq + 1 ≤ maxSafeInteger → Q (some row.nextSeq) { t with
      db := setWorkspaces (t.db.workspaces.adjust name WorkspaceRow.bumped) t.db })
    (hE : maxSafeInteger ≤ row.nextSeq → E (.sqlite .constraint)) :
    Txn.wp (takeSeq name) Q E t := by
  have hc := WorkspaceRow.check_iff.mp (hj.row name row hrow)
  unfold takeSeq
  simp only [Txn.wp_bind, Store.wp_read, Txn.wp_pure, hrow, Option.map_some]
  refine Store.wp_updateRow ?_ ?_ ?_
  · intro h
    simpa [hc] using h row hrow
  · intro r hr _ hok
    rw [hrow] at hr
    cases hr
    have := hQ (WorkspaceRow.check_iff.mp hok).2.1.2
    simpa [Table.adjust, hrow, setWorkspaces] using! this
  · intro r hr _ hok
    rw [hrow] at hr
    cases hr
    refine hE ?_
    by_contra hlt
    have : workspaceOk t.db name row.bumped = true :=
      WorkspaceRow.check_iff.mpr ⟨hc.1, ⟨Nat.le_add_left 1 _, Nat.lt_of_not_le hlt⟩, hc.2.2⟩
    exact absurd (this.symm.trans hok) (by decide)

theorem appendEventInTransaction_spec {insert : EventInsert} {t : Tx}
    {Q : WorkspaceEvent → Tx → Prop} {E : StoreError → Prop} {row : WorkspaceRow}
    (hj : Journal t.db) (hrow : t.db.workspaces.get? insert.workspace = some row)
    (hvalid : insert.Valid) (hkey : KeyFree t.db insert.key)
    (hQ : row.nextSeq + 1 ≤ maxSafeInteger →
      Q (insert.next row t.tick) { db := t.db.append (insert.next row t.tick), tick := t.tick + 1 })
    (hE : maxSafeInteger ≤ row.nextSeq → E (.sqlite .constraint)) :
    Txn.wp (appendEventInTransaction insert) Q E t := by
  unfold appendEventInTransaction
  simp only [Txn.wp_bind]
  refine takeSeq_spec hj hrow (fun hseq => ?_) hE
  have hpos := hj.nextSeq_pos hrow
  simp only [Txn.orFail, Txn.wp_pure, Store.wp_nowMillis, insertEvent]
  rw [Store.wp_execute]
  refine ⟨fun _ => hQ hseq, fun hfalse => ?_⟩
  -- The insert cannot fail: the number is new and the key is free.
  exfalso
  have hcheck : eventCheck (insert.next row t.tick) = true :=
    hvalid.check hpos (by omega) (World.now_le t.tick)
  have hunused : (t.db.events.all fun e' =>
      !(e'.workspace = insert.workspace && e'.seq = row.nextSeq) &&
      (insert.key = none || eventKey e' ≠ insert.key)) = true := by
    rw [List.all_eq_true]
    intro e he
    have hne : ¬(e.workspace = insert.workspace ∧ e.seq = row.nextSeq) := by
      rintro ⟨hw, hs⟩
      have := hj.seq_lt hrow he hw
      omega
    have hk : insert.key = none ∨ eventKey e ≠ insert.key := hkey.imp id fun h => h e he
    simpa using ⟨not_and_or.mp hne, hk⟩
  have hws : (t.db.workspaces.adjust insert.workspace WorkspaceRow.bumped).contains
      insert.workspace = true := by
    simp [Table.get?_adjust, hrow]
  have hok : eventOk (setWorkspaces (t.db.workspaces.adjust insert.workspace WorkspaceRow.bumped)
      t.db) (insert.next row t.tick) = true := by
    simp only [eventOk, hcheck, setWorkspaces, EventInsert.next_workspace,
      EventInsert.eventKey_next, EventInsert.next_seq, Bool.true_and, hws]
    exact hunused
  exact absurd (hok.symm.trans hfalse) (by decide)

omit [World] in
/-- What a taken sequence number is, whether or not the workspace exists. -/
theorem takeSeq_any {name : WorkspaceName} {t : Tx} {Q : Option ℕ → Tx → Prop}
    (hnone : Q none t)
    (hsome : ∀ row, t.db.workspaces.get? name = some row → row.nextSeq + 1 ≤ maxSafeInteger →
      Q (some row.nextSeq)
        { t with db := setWorkspaces (t.db.workspaces.adjust name WorkspaceRow.bumped) t.db }) :
    Txn.wp (takeSeq name) Q (fun _ => True) t := by
  unfold takeSeq
  simp only [Txn.wp_bind, Store.wp_read, Txn.wp_pure]
  refine Store.wp_updateRow (fun _ => hnone) ?_ (fun _ _ _ _ => trivial)
  intro row hrow _ hok
  have := hsome row hrow (WorkspaceRow.check_iff.mp hok).2.1.2
  simpa [Table.adjust, hrow, setWorkspaces] using! this

/-- A successful append, whatever was inserted: the row passed every constraint. -/
theorem appendEventInTransaction_any {insert : EventInsert} {t : Tx}
    {Q : WorkspaceEvent → Tx → Prop}
    (hQ : ∀ row, t.db.workspaces.get? insert.workspace = some row →
      row.nextSeq + 1 ≤ maxSafeInteger → eventCheck (insert.next row t.tick) = true →
      KeyFree t.db insert.key →
      Q (insert.next row t.tick)
        { db := t.db.append (insert.next row t.tick), tick := t.tick + 1 }) :
    Txn.wp (appendEventInTransaction insert) Q (fun _ => True) t := by
  unfold appendEventInTransaction
  simp only [Txn.wp_bind]
  refine takeSeq_any trivial (fun row hrow hmax => ?_)
  simp only [Txn.orFail, Txn.wp_pure, Store.wp_nowMillis, insertEvent]
  rw [Store.wp_execute]
  refine ⟨fun hok => ?_, fun _ => trivial⟩
  simp only [eventOk, Bool.and_eq_true, List.all_eq_true, Bool.or_eq_true, decide_eq_true_eq] at hok
  refine hQ row hrow hmax hok.1.1 ?_
  by_cases hnone : insert.key = none
  · exact .inl hnone
  · refine .inr fun e he => ?_
    rcases (hok.2 e he).2 with hkey | hkey
    · exact absurd hkey hnone
    · exact hkey

end

end SessionRouter
