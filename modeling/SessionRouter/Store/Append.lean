import SessionRouter.Store.TaskFrame

/-!
The invariant of the whole database under an append, and what a commit needs of it.
-/

namespace SessionRouter

variable {db db' : Db}

/-- Every workspace of `db` is one of `db'`. -/
def KeepsWorkspaces (db db' : Db) : Prop :=
  ∀ w row, db.workspaces.get? w = some row → ∃ row', db'.workspaces.get? w = some row' ∧
    row.nextTaskId ≤ row'.nextTaskId

theorem keepsWorkspaces_append (db : Db) (e : WorkspaceEvent) :
    KeepsWorkspaces db (db.append e) := by
  intro w row hrow
  obtain ⟨row', hrow', hid, -⟩ := Db.append_workspace_some e hrow
  exact ⟨row', hrow', hid.ge⟩

theorem keepsWorkspaces_of_eq (h : db'.workspaces = db.workspaces) : KeepsWorkspaces db db' := by
  intro w row hrow
  exact ⟨row, by rw [h]; exact hrow, le_rfl⟩

theorem Asked.append {w : WorkspaceName} {requestId : Option String} (h : Asked db w requestId)
    (e : WorkspaceEvent) : Asked (db.append e) w requestId := by
  obtain ⟨r, hr, hkind⟩ := h
  exact ⟨r, List.mem_append_left _ hr, hkind⟩

namespace Journal

theorem of_eq (h : Journal db) (hw : db'.workspaces = db.workspaces)
    (he : db'.events = db.events) : Journal db' := by
  obtain ⟨h1, h2, h3, h4, h5, h6⟩ := h
  constructor <;> simp only [Asked, hw, he] <;> assumption

theorem append {e : WorkspaceEvent} {row : WorkspaceRow} (h : Journal db)
    (hrow : db.workspaces.get? e.workspace = some row) (hseq : e.seq = row.nextSeq)
    (hmax : row.nextSeq + 1 ≤ maxSafeInteger) (hcheck : eventCheck e = true)
    (hkey : KeyFree db (eventKey e))
    (hasked : e.kind = .result → Asked db e.workspace e.requestId) :
    Journal (db.append e) where
  row := by
    intro w row' hrow'
    rw [Db.append_workspace] at hrow'
    split at hrow'
    · next hw =>
      rw [hw, hrow, Option.map_some, Option.some.injEq] at hrow'
      subst hrow'
      have hc := WorkspaceRow.check_iff.mp (h.row e.workspace row hrow)
      exact WorkspaceRow.check_iff.mpr ⟨hc.1, ⟨Nat.le_add_left 1 _, hmax⟩, hc.2.2⟩
    · exact h.row w row' hrow'
  numbered := by
    intro w row' hrow'
    rw [Db.append_workspace] at hrow'
    rw [Db.append_events, List.filter_append, List.map_append]
    split at hrow'
    · next hw =>
      rw [hw, hrow, Option.map_some, Option.some.injEq] at hrow'
      subst hrow'
      have hpos := h.nextSeq_pos hrow
      have hn : row.nextSeq = row.nextSeq - 1 + 1 := by omega
      rw [hw, h.numbered e.workspace row hrow]
      simp only [List.filter_cons, List.filter_nil, decide_true, if_true, List.map_cons,
        List.map_nil, hseq, WorkspaceRow.bumped, Nat.add_sub_cancel]
      conv_rhs => rw [hn, List.range'_concat]
      congr 2
      omega
    · next hw =>
      rw [h.numbered w row' hrow']
      simp [Ne.symm hw]
  workspace := by
    intro e' he'
    rw [Db.append_events, List.mem_append, List.mem_singleton] at he'
    have hold : ∃ row, db.workspaces.get? e'.workspace = some row := by
      rcases he' with he' | rfl
      · exact h.workspace e' he'
      · exact ⟨row, hrow⟩
    obtain ⟨r, hr⟩ := hold
    obtain ⟨r', hr', -⟩ := Db.append_workspace_some e hr
    exact ⟨r', hr'⟩
  check := by
    intro e' he'
    rw [Db.append_events, List.mem_append, List.mem_singleton] at he'
    rcases he' with he' | rfl
    · exact h.check e' he'
    · exact hcheck
  keys := by
    rw [Db.append_events, List.pairwise_append]
    refine ⟨h.keys, List.pairwise_singleton _ _, ?_⟩
    intro e₁ he₁ e₂ he₂
    rw [List.mem_singleton] at he₂
    subst he₂
    exact hkey.imp id fun hfree => hfree e₁ he₁
  asked := by
    intro e' he' hkind
    rw [Db.append_events, List.mem_append, List.mem_singleton] at he'
    have hold : Asked db e'.workspace e'.requestId := by
      rcases he' with he' | rfl
      · exact h.asked e' he' hkind
      · exact hasked hkind
    exact hold.append e

end Journal

section

variable [World] {tick tick' : ℕ}

theorem AdminTables.of_same (h : AdminTables db tick) (hle : tick ≤ tick')
    (hserver : db'.serverId = db.serverId) (hcredentials : db'.credentials = db.credentials)
    (hinvites : db'.invites = db.invites) (hworkspaces : KeepsWorkspaces db db') :
    AdminTables db' tick' where
  server := by rw [hserver]; exact h.server
  credentials := by rw [hcredentials]; exact h.credentials
  tokens := by rw [hcredentials]; exact h.tokens
  invites := by
    intro id r hr
    rw [hinvites] at hr
    have hi := h.invites id r hr
    obtain ⟨row, hrow⟩ := hi.workspace
    obtain ⟨row', hrow', -⟩ := hworkspaces _ row hrow
    exact ⟨hi.check, hi.drawn.mono hle, hi.subject, ⟨row', hrow'⟩,
      by rw [hcredentials]; exact hi.credential⟩
  inviteTokens := by rw [hinvites]; exact h.inviteTokens

omit [World] in
theorem ExternalTables.of_same (h : ExternalTables db)
    (hoperations : db'.operations = db.operations) (hresolutions : db'.resolutions = db.resolutions)
    (hbindings : db'.bindings = db.bindings) (hworkspaces : KeepsWorkspaces db db')
    (htasks : ∀ key r, db.tasks.get? key = some r → ∃ r', db'.tasks.get? key = some r') :
    ExternalTables db' where
  operations := by
    intro key r hr
    rw [hoperations] at hr
    have hi := h.operations key r hr
    obtain ⟨row, hrow⟩ := hi.workspace
    obtain ⟨row', hrow', -⟩ := hworkspaces _ row hrow
    refine ⟨hi.check, hi.phase, hi.marker, ?_, ⟨row', hrow'⟩⟩
    intro t ht
    obtain ⟨x, hx⟩ := hi.task t ht
    exact htasks _ x hx
  resolutions := by
    rw [hresolutions, hoperations]
    exact h.resolutions
  bindings := by
    intro key r hr
    rw [hbindings] at hr
    obtain ⟨hrev, row, hrow⟩ := h.bindings key r hr
    obtain ⟨row', hrow', -⟩ := hworkspaces _ row hrow
    exact ⟨hrev, row', hrow'⟩

/-- Appending an event that is not about a task keeps the invariant. -/
theorem DbInv.append {e : WorkspaceEvent} {row : WorkspaceRow} (h : DbInv db tick)
    (hle : tick ≤ tick') (hrow : db.workspaces.get? e.workspace = some row)
    (hseq : e.seq = row.nextSeq) (hmax : row.nextSeq + 1 ≤ maxSafeInteger)
    (hcheck : eventCheck e = true) (hkey : KeyFree db (eventKey e)) (hkind : e.kind ≠ .task)
    (hasked : e.kind = .result → Asked db e.workspace e.requestId) :
    DbInv (db.append e) tick' where
  tasks := h.tasks.of_same hle rfl rfl rfl rfl (fun _ c hc => ⟨c, hc⟩)
    (keepsWorkspaces_append db e) (Db.append_events db e) (by simpa using hkind)
  journal := h.journal.append hrow hseq hmax hcheck hkey hasked
  admin := h.admin.of_same hle rfl rfl rfl (keepsWorkspaces_append db e)
  external := h.external.of_same rfl rfl rfl (keepsWorkspaces_append db e) fun _ r hr => ⟨r, hr⟩

theorem DbInv.mono (h : DbInv db tick) (hle : tick ≤ tick') : DbInv db tick' where
  tasks := h.tasks.of_same hle rfl rfl rfl rfl (fun _ c hc => ⟨c, hc⟩)
    (keepsWorkspaces_of_eq rfl) (List.append_nil _).symm (by simp)
  journal := h.journal
  admin := h.admin.of_same hle rfl rfl rfl (keepsWorkspaces_of_eq rfl)
  external := h.external

/-- The references that are checked at commit hold. -/
theorem TaskTables.deferredOk (h : TaskTables db tick) : deferredOk db = true := by
  have hcontains : ∀ {κ ν : Type} [DecidableEq κ] (m : Table κ ν) (o : Option κ),
      (∀ k, o = some k → ∃ v, m.get? k = some v) → o.all m.contains = true := by
    intro κ ν _ m o ho
    cases o with
    | none => rfl
    | some k =>
      obtain ⟨v, hv⟩ := ho k rfl
      simpa using ⟨v, hv⟩
  simp only [SessionRouter.deferredOk, Bool.and_eq_true, List.all_eq_true]
  constructor
  · rintro ⟨⟨w, t⟩, r⟩ hr
    rw [Table.mem_toList] at hr
    have hl := h.locals w t r hr
    refine ⟨⟨⟨hcontains _ _ ?_, hcontains _ _ ?_⟩, hcontains _ _ ?_⟩, hcontains _ _ ?_⟩
    · intro id hid
      obtain ⟨-, a, ha, -⟩ := hl.fit.current id hid
      exact ⟨a, ha⟩
    · intro id hid
      obtain ⟨a, ha, -⟩ := hl.fit.last id hid
      exact ⟨a, ha⟩
    · intro id hid
      obtain ⟨p, hp, -⟩ := hl.checkpoint id hid
      exact ⟨p, hp⟩
    · intro id hid
      obtain ⟨p, hp, -⟩ := hl.result id hid
      exact ⟨p, hp⟩
  · rintro ⟨id, a⟩ ha
    rw [Table.mem_toList] at ha
    exact hcontains _ _ (h.attempts id a ha).resumed

theorem commit_spec {t : Tx} {Q : Unit → Tx → Prop} {E : StoreError → Prop}
    (h : TaskTables t.db tick) (hQ : Q () t) : Txn.wp commit Q E t := by
  unfold commit
  rw [Store.wp_execute]
  exact ⟨fun _ => hQ, fun hfalse => absurd (h.deferredOk.symm.trans hfalse) (by decide)⟩

/-- Appending the event of a valid insert keeps the invariant. -/
theorem DbInv.append_next {insert : EventInsert} {row : WorkspaceRow} (h : DbInv db tick)
    (hrow : db.workspaces.get? insert.workspace = some row) (hvalid : insert.Valid)
    (hkey : KeyFree db insert.key) (hmax : row.nextSeq + 1 ≤ maxSafeInteger)
    (hkind : insert.kind ≠ .task)
    (hasked : insert.kind = .result → Asked db insert.workspace insert.requestId) :
    DbInv (db.append (insert.next row tick)) (tick + 1) :=
  h.append (Nat.le_succ _) hrow rfl hmax
    (hvalid.check (h.journal.nextSeq_pos hrow) (by omega) (World.now_le _)) hkey hkind hasked

/-- What an append does, as the caller of `append_event` sees it. -/
theorem appendEvent_spec {insert : EventInsert} {t : Tx} {Q : WorkspaceEvent → Tx → Prop}
    {E : StoreError → Prop} {row : WorkspaceRow} (h : DbInv t.db t.tick)
    (hrow : t.db.workspaces.get? insert.workspace = some row) (hvalid : insert.Valid)
    (hkey : KeyFree t.db insert.key) (hkind : insert.kind ≠ .task)
    (hasked : insert.kind = .result → Asked t.db insert.workspace insert.requestId)
    (hQ : DbInv (t.db.append (insert.next row t.tick)) (t.tick + 1) →
      Q (insert.next row t.tick) { db := t.db.append (insert.next row t.tick), tick := t.tick + 1 })
    (hE : Exhausted t.db → E (.sqlite .constraint)) : Txn.wp (appendEvent insert) Q E t := by
  unfold appendEvent
  simp only [Txn.wp_bind, Txn.wp_pure]
  refine appendEventInTransaction_spec h.journal hrow hvalid hkey (fun hmax => ?_) (fun hmax => ?_)
  · have hinv := h.append_next hrow hvalid hkey hmax hkind hasked
    exact commit_spec hinv.tasks (hQ hinv)
  · exact hE (.inl ⟨_, row, hrow, .inl (by omega)⟩)

end

end SessionRouter
