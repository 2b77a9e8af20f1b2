import SessionRouter.Store.TaskDraft

/-!
How a committed transaction moves the database: rows are never deleted, counters grow, events are
appended and an attempt only moves towards its end.
-/

namespace SessionRouter

/-- The same attempt at a later time. -/
structure AttemptRow.Later (a a' : AttemptRow) : Prop where
  origin : a.origin = a'.origin
  running : a'.status = .running → a.status = .running
  barrier : a'.barrier = true → a.barrier = true

namespace AttemptRow.Later

theorem refl (a : AttemptRow) : a.Later a := ⟨rfl, id, id⟩

theorem trans {a b c : AttemptRow} (h : a.Later b) (h' : b.Later c) : a.Later c :=
  ⟨h.origin.trans h'.origin, fun hc => h.running (h'.running hc),
    fun hc => h.barrier (h'.barrier hc)⟩

theorem agentId {a a' : AttemptRow} (h : a.Later a') : a.agentId = a'.agentId :=
  congrArg AttemptOrigin.agentId h.origin

theorem workspace {a a' : AttemptRow} (h : a.Later a') : a.workspace = a'.workspace :=
  congrArg AttemptOrigin.workspace h.origin

theorem workRequestId {a a' : AttemptRow} (h : a.Later a') : a.workRequestId = a'.workRequestId :=
  congrArg AttemptOrigin.workRequestId h.origin

end AttemptRow.Later

/-- `db'` continues `db` with the events `es`. -/
structure Extends (db db' : Db) (es : List WorkspaceEvent) : Prop where
  events : db'.events = db.events ++ es
  workspaces : ∀ w row, db.workspaces.get? w = some row →
    ∃ row', db'.workspaces.get? w = some row' ∧
      row.nextSeq ≤ row'.nextSeq ∧ row.nextTaskId ≤ row'.nextTaskId
  tasks : ∀ key r, db.tasks.get? key = some r →
    ∃ r', db'.tasks.get? key = some r' ∧ r.version ≤ r'.version ∧ (r'.version = r.version → r' = r)
  credentials : ∀ id c, db.credentials.get? id = some c → ∃ c', db'.credentials.get? id = some c'
  attempts : ∀ id a, db.attempts.get? id = some a →
    ∃ a', db'.attempts.get? id = some a' ∧ a.Later a'

namespace Extends

variable {db db' db'' : Db} {es es' : List WorkspaceEvent}

theorem refl (db : Db) : Extends db db [] where
  events := (List.append_nil _).symm
  workspaces := fun _ row h => ⟨row, h, le_rfl, le_rfl⟩
  tasks := fun _ r h => ⟨r, h, le_rfl, fun _ => rfl⟩
  credentials := fun _ c h => ⟨c, h⟩
  attempts := fun _ a h => ⟨a, h, .refl a⟩

theorem trans (h : Extends db db' es) (h' : Extends db' db'' es') :
    Extends db db'' (es ++ es') where
  events := by rw [h'.events, h.events, List.append_assoc]
  workspaces := by
    intro w row hrow
    obtain ⟨row', hrow', hseq, hid⟩ := h.workspaces w row hrow
    obtain ⟨row'', hrow'', hseq', hid'⟩ := h'.workspaces w row' hrow'
    exact ⟨row'', hrow'', hseq.trans hseq', hid.trans hid'⟩
  tasks := by
    intro key r hr
    obtain ⟨r', hr', hv, hsame⟩ := h.tasks key r hr
    obtain ⟨r'', hr'', hv', hsame'⟩ := h'.tasks key r' hr'
    refine ⟨r'', hr'', hv.trans hv', fun heq => ?_⟩
    have hfirst : r' = r := hsame (by omega)
    have hsecond : r'' = r' := hsame' (by omega)
    exact hsecond.trans hfirst
  credentials := by
    intro id c hc
    obtain ⟨c', hc'⟩ := h.credentials id c hc
    exact h'.credentials id c' hc'
  attempts := by
    intro id a ha
    obtain ⟨a', ha', hl⟩ := h.attempts id a ha
    obtain ⟨a'', ha'', hl'⟩ := h'.attempts id a' ha'
    exact ⟨a'', ha'', hl.trans hl'⟩

theorem exhausted (h : Extends db db' es) (hx : Exhausted db) : Exhausted db' := by
  rcases hx with ⟨w, row, hrow, hmax⟩ | ⟨key, r, hr, hmax⟩
  · obtain ⟨row', hrow', hseq, hid⟩ := h.workspaces w row hrow
    exact .inl ⟨w, row', hrow', by omega⟩
  · obtain ⟨r', hr', hv, -⟩ := h.tasks key r hr
    exact .inr ⟨key, r', hr', by omega⟩

theorem append (db : Db) (e : WorkspaceEvent) : Extends db (db.append e) [e] where
  events := rfl
  workspaces := by
    intro w row hrow
    obtain ⟨row', hrow', hid, hseq⟩ := Db.append_workspace_some e hrow
    exact ⟨row', hrow', hseq, hid.ge⟩
  tasks := fun _ r h => ⟨r, h, le_rfl, fun _ => rfl⟩
  credentials := fun _ c h => ⟨c, h⟩
  attempts := fun _ a h => ⟨a, h, .refl a⟩

theorem complete {d : TaskDraft} {e : WorkspaceEvent} {receipt : Option (Uuid × MutationRow)}
    {change : TaskChange} (hkeeps : d.Keeps db) (hfollows : d.follows db change)
    (hlater : ∀ id a a', d.attempt = some (id, a') → db.attempts.get? id = some a → a.Later a') :
    Extends db (db.complete d e receipt) [e] where
  events := rfl
  workspaces := (append (db.draft d) e).workspaces
  tasks := by
    intro key r hr
    change ∃ r', (db.draft d).tasks.get? key = some r' ∧ _
    rw [Db.draft_tasks hkeeps, Table.get?_put]
    split
    · next hk =>
      subst hk
      unfold TaskDraft.follows at hfollows
      simp only [hr] at hfollows
      by_cases hnoted : change = .noted
      · exact ⟨d.row, rfl, by rw [hfollows.2 hnoted], fun _ => hfollows.2 hnoted⟩
      · have hversion := hfollows.1
        rw [if_neg hnoted] at hversion
        exact ⟨d.row, rfl, by omega, fun heq => by omega⟩
    · exact ⟨r, hr, le_rfl, fun _ => rfl⟩
  credentials := fun _ c h => ⟨c, h⟩
  attempts := by
    intro id a ha
    change ∃ a', (db.attempts.putOption d.attempt).get? id = some a' ∧ _
    cases hatt : d.attempt with
    | none => exact ⟨a, ha, .refl a⟩
    | some x =>
      obtain ⟨i, b⟩ := x
      simp only [Table.putOption, Table.get?_put]
      split
      · next hi =>
        subst hi
        exact ⟨b, rfl, hlater id a b hatt ha⟩
      · exact ⟨a, ha, .refl a⟩

end Extends

/-- Every attempt of `db'` is one of `db`, or new and as `new` says. An attempt whose stop became
uncertain is one of `stopped`. -/
def AttemptsFrom (db db' : Db) (new stopped : Uuid → AttemptRow → Prop) : Prop :=
  ∀ id a', db'.attempts.get? id = some a' →
    (∃ a, db.attempts.get? id = some a ∧
      (a'.unconfirmed = true → a.unconfirmed = true ∨ stopped id a')) ∨
    (db.attempts.get? id = none ∧ new id a')

def noAttempt (_ : Uuid) (_ : AttemptRow) : Prop := False

namespace AttemptsFrom

variable {db db' db'' : Db} {new stopped : Uuid → AttemptRow → Prop}

theorem of_eq (h : db'.attempts = db.attempts) : AttemptsFrom db db' new stopped := by
  intro id a ha
  rw [h] at ha
  exact .inl ⟨a, ha, .inl⟩

theorem trans (h : AttemptsFrom db db' noAttempt stopped)
    (h' : AttemptsFrom db' db'' noAttempt stopped)
    (hkeep : ∀ id a a', db'.attempts.get? id = some a → db''.attempts.get? id = some a' →
      stopped id a → stopped id a') : AttemptsFrom db db'' noAttempt stopped := by
  intro id a'' ha''
  rcases h' id a'' ha'' with ⟨a', ha', hun'⟩ | ⟨-, hfalse⟩
  · rcases h id a' ha' with ⟨a, ha, hun⟩ | ⟨-, hfalse⟩
    · refine .inl ⟨a, ha, fun hu => ?_⟩
      rcases hun' hu with hu' | hs
      · exact (hun hu').imp_right (hkeep _ _ _ ha' ha'')
      · exact .inr hs
    · exact hfalse.elim
  · exact hfalse.elim

theorem mono {stopped' : Uuid → AttemptRow → Prop} (h : AttemptsFrom db db' noAttempt stopped)
    (hle : ∀ id a, stopped id a → stopped' id a) : AttemptsFrom db db' noAttempt stopped' := by
  intro id a' ha'
  rcases h id a' ha' with ⟨a, ha, hun⟩ | ⟨-, hfalse⟩
  · exact .inl ⟨a, ha, fun hu => (hun hu).imp_right (hle _ _)⟩
  · exact hfalse.elim

end AttemptsFrom

section

variable [World]

/-- What a committed transaction of the router does when it starts no work. -/
structure Advance (t t' : Tx) (es : List WorkspaceEvent) (stopped : Uuid → AttemptRow → Prop) :
    Prop where
  inv : DbInv t'.db t'.tick
  tick : t.tick ≤ t'.tick
  grows : Extends t.db t'.db es
  attempts : AttemptsFrom t.db t'.db noAttempt stopped

variable {t t' : Tx} {es : List WorkspaceEvent} {stopped : Uuid → AttemptRow → Prop}

theorem Advance.refl (h : DbInv t.db t.tick) : Advance t t [] stopped :=
  ⟨h, le_rfl, .refl _, .of_eq rfl⟩

theorem Advance.append {e : WorkspaceEvent} (h : DbInv (t.db.append e) (t.tick + 1)) :
    Advance t { db := t.db.append e, tick := t.tick + 1 } [e] stopped :=
  ⟨h, Nat.le_succ _, .append _ _, .of_eq rfl⟩

theorem Advance.mono {stopped' : Uuid → AttemptRow → Prop} (h : Advance t t' es stopped)
    (hle : ∀ id a, stopped id a → stopped' id a) : Advance t t' es stopped' :=
  ⟨h.inv, h.tick, h.grows, h.attempts.mono hle⟩

theorem Advance.trans {t'' : Tx} {es' : List WorkspaceEvent} (h : Advance t t' es stopped)
    (h' : Advance t' t'' es' stopped)
    (hkeep : ∀ id a a', t'.db.attempts.get? id = some a → t''.db.attempts.get? id = some a' →
      stopped id a → stopped id a') : Advance t t'' (es ++ es') stopped :=
  ⟨h'.inv, h.tick.trans h'.tick, h.grows.trans h'.grows, h.attempts.trans h'.attempts hkeep⟩

/-- No attempt comes out of nothing. -/
theorem Advance.back (h : Advance t t' es stopped) {id : Uuid} {a' : AttemptRow}
    (ha' : t'.db.attempts.get? id = some a') :
    ∃ a, t.db.attempts.get? id = some a ∧ a.Later a' := by
  rcases h.attempts id a' ha' with ⟨a, ha, -⟩ | ⟨-, hfalse⟩
  · obtain ⟨b, hb, hlater⟩ := h.grows.attempts id a ha
    rw [ha'] at hb
    cases hb
    exact ⟨a, ha, hlater⟩
  · exact hfalse.elim

/-- An append that succeeds keeps the invariant when the event is not about a task. -/
theorem appendEventInTransaction_advance {insert : EventInsert} (h : DbInv t.db t.tick)
    (hkind : insert.kind ≠ .task)
    (hasked : insert.kind = .result → Asked t.db insert.workspace insert.requestId) :
    Txn.wp (appendEventInTransaction insert)
      (fun e t' => Advance t t' [e] stopped ∧ ∃ seq now, e = insert.toEvent seq now)
      (fun _ => True) t := by
  refine appendEventInTransaction_any fun row hrow hmax hcheck hkey => ⟨.append ?_, _, _, rfl⟩
  exact h.append (Nat.le_succ _) hrow rfl hmax hcheck hkey hkind hasked

omit [World] in
theorem commit_any {Q : Unit → Tx → Prop} (hQ : Q () t) : Txn.wp commit Q (fun _ => True) t := by
  unfold commit
  rw [Store.wp_execute]
  exact ⟨fun _ => hQ, fun _ => trivial⟩

theorem appendEvent_advance {insert : EventInsert} (h : DbInv t.db t.tick)
    (hkind : insert.kind ≠ .task)
    (hasked : insert.kind = .result → Asked t.db insert.workspace insert.requestId) :
    Txn.wp (appendEvent insert)
      (fun e t' => Advance t t' [e] stopped ∧ ∃ seq now, e = insert.toEvent seq now)
      (fun _ => True) t := by
  unfold appendEvent
  simp only [Txn.wp_bind, Txn.wp_pure]
  refine Txn.wp_mono
    (Q := fun e t' => Advance t t' [e] stopped ∧ ∃ seq now, e = insert.toEvent seq now)
    (appendEventInTransaction_advance h hkind hasked) (fun e t' ht => ?_) fun _ h => h
  exact commit_any ht

/-- The state of a transaction that begins now. -/
def RouterStore.tx (s : RouterStore) : Tx := { db := s.db, tick := s.tick }

/-- The open database and every state committed since the command began are sound. -/
structure StoreInv (s : RouterStore) : Prop where
  db : DbInv s.db s.tick
  journal : ∀ d ∈ s.journal, DbInv d s.tick

theorem StoreInv.commit {s : RouterStore} (h : StoreInv s) (hinv : DbInv t.db t.tick)
    (hle : s.tick ≤ t.tick) :
    StoreInv { db := t.db, tick := t.tick, journal := t.db :: s.journal } where
  db := hinv
  journal := by
    intro d hd
    rcases List.mem_cons.mp hd with rfl | hd
    · exact hinv
    · exact (h.journal d hd).mono hle

theorem StoreInv.draw {s : RouterStore} (h : StoreInv s) {tick : ℕ} (hle : s.tick ≤ tick) :
    StoreInv { s with tick } where
  db := h.db.mono hle
  journal := fun d hd => (h.journal d hd).mono hle

end

end SessionRouter
