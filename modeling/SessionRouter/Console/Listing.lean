import SessionRouter.Console.TaskFeed

/-!
List pages: the rows of an applied page, and what every run of the task list keeps.
-/

namespace SessionRouter

/-- The newest summary is one of those compared, and none of them is newer. -/
theorem newestOf_spec (task : TaskSummary) {held : List (Option TaskSummary)}
    (hids : ∀ x, some x ∈ held → x.id = task.id) :
    (newestOf task held).id = task.id ∧ task.version ≤ (newestOf task held).version ∧
      (∀ x, some x ∈ held → x.version ≤ (newestOf task held).version) ∧
      (newestOf task held = task ∨
        some (newestOf task held) ∈ held ∧ task.version < (newestOf task held).version) := by
  induction held generalizing task with
  | nil => exact ⟨rfl, le_rfl, by simp, .inl rfl⟩
  | cons h held ih =>
    have hstep : newestOf task (h :: held) =
        newestOf (if newerThan h task then h.getD task else task) held := rfl
    rw [hstep]
    cases hnewer : newerThan h task with
    | true =>
      obtain ⟨old, rfl, hlt⟩ := newerThan_iff.mp hnewer
      have hold : old.id = task.id := hids old (by simp)
      obtain ⟨hid, hle, hall, hmem⟩ := ih old fun x hx =>
        (hids x (List.mem_cons_of_mem _ hx)).trans hold.symm
      refine ⟨hid.trans hold, hlt.le.trans hle, fun x hx => ?_, ?_⟩
      · rcases List.mem_cons.mp hx with heq | hx
        · exact Option.some.inj heq ▸ hle
        · exact hall x hx
      · refine .inr ⟨?_, hlt.trans_le hle⟩
        rcases hmem with heq | ⟨hmem, -⟩
        · exact List.mem_cons.mpr (.inl (congrArg some heq))
        · exact List.mem_cons_of_mem _ hmem
    | false =>
      obtain ⟨hid, hle, hall, hmem⟩ := ih task fun x hx => hids x (List.mem_cons_of_mem _ hx)
      refine ⟨hid, hle, fun x hx => ?_, ?_⟩
      · rcases List.mem_cons.mp hx with heq | hx
        · exact (newerThan_false.mp hnewer x heq.symm).trans hle
        · exact hall x hx
      · rcases hmem with heq | hmem
        · exact .inl heq
        · exact .inr ⟨List.mem_cons_of_mem _ hmem.1, hmem.2⟩

namespace TaskPage

variable {p : TaskPage}

/-- What the page holds of a task. -/
def held (p : TaskPage) (id : ℕ) : List (Option TaskSummary) :=
  [p.rows.get? id, p.overlays.get? id, p.selectedOf id]

/-- Everything held under an id is a summary of that task. -/
structure Keyed (p : TaskPage) : Prop where
  rows : ∀ id row, p.rows.get? id = some row → row.id = id
  overlays : ∀ id o, p.overlays.get? id = some o → o.id = id

theorem Keyed.held (h : Keyed p) {id : ℕ} {x : TaskSummary} (hx : some x ∈ p.held id) :
    x.id = id := by
  simp only [TaskPage.held, List.mem_cons, List.not_mem_nil, or_false] at hx
  rcases hx with hx | hx | hx
  · exact h.rows id x hx.symm
  · exact h.overlays id x hx.symm
  · have hsel := hx.symm
    simp only [selectedOf, Option.filter_eq_some_iff, decide_eq_true_eq] at hsel
    exact hsel.2

/-- The rows of the listed tasks. -/
theorem addListed_rows (hkeyed : Keyed p) {tasks : List TaskSummary} {rows : Table ℕ TaskSummary}
    {id : ℕ} {row : TaskSummary} (h : (tasks.foldl p.addListed rows).get? id = some row) :
    rows.get? id = some row ∨ ∃ task ∈ tasks, task.id = id ∧ row = newestOf task (p.held id) ∧
      p.filter.accepts row = true := by
  induction tasks generalizing rows with
  | nil => exact .inl h
  | cons task tasks ih =>
    rcases ih h with hrow | ⟨t, ht, hrest⟩
    · unfold addListed at hrow
      dsimp only at hrow
      split at hrow
      · next haccepts =>
        rw [Table.get?_put] at hrow
        split at hrow
        · next heq =>
          have hid : (newestOf task (p.held task.id)).id = task.id :=
            (newestOf_spec task fun _ => hkeyed.held).1
          obtain rfl := Option.some.inj hrow
          have hkey : task.id = id := (heq.trans hid).symm
          subst hkey
          exact .inr ⟨task, List.mem_cons_self, rfl, rfl, haccepts⟩
        · exact .inl hrow
      · exact .inl hrow
    · exact .inr ⟨t, List.mem_cons_of_mem _ ht, hrest⟩

theorem addListed_keeps {tasks : List TaskSummary} {rows : Table ℕ TaskSummary} {id : ℕ}
    (h : ∃ row, rows.get? id = some row) :
    ∃ row, (tasks.foldl p.addListed rows).get? id = some row := by
  induction tasks generalizing rows with
  | nil => exact h
  | cons task tasks ih =>
    refine ih ?_
    unfold addListed
    dsimp only
    split
    · rw [Table.get?_put]
      split
      · exact ⟨_, rfl⟩
      · exact h
    · exact h

theorem addListed_contains (hkeyed : Keyed p) {tasks : List TaskSummary}
    {rows : Table ℕ TaskSummary} {task : TaskSummary} (hmem : task ∈ tasks)
    (haccepts : p.filter.accepts (newestOf task (p.held task.id)) = true) :
    ∃ row, (tasks.foldl p.addListed rows).get? task.id = some row := by
  induction tasks generalizing rows with
  | nil => cases hmem
  | cons t tasks ih =>
    rcases List.mem_cons.mp hmem with rfl | hmem
    · rw [List.foldl_cons]
      refine addListed_keeps ⟨newestOf task (p.held task.id), ?_⟩
      have hid : (newestOf task (p.held task.id)).id = task.id :=
        (newestOf_spec task fun _ => hkeyed.held).1
      have hstep : p.addListed rows task =
          rows.put (newestOf task (p.held task.id)).id (newestOf task (p.held task.id)) :=
        if_pos haccepts
      rw [hstep, hid]
      exact Table.get?_put_self _ _ _
    · exact ih hmem

/-- The overlay belongs to the page. -/
def inRange (p : TaskPage) (nextCursor : ℕ) (hasMore : Bool) (task : TaskSummary) : Prop :=
  p.pagination.after.getD 0 < task.id ∧ (task.id ≤ nextCursor ∨ hasMore = false) ∧
    p.filter.accepts task = true

theorem addOverlay_cases (p : TaskPage) (nextCursor : ℕ) (hasMore : Bool)
    (rows : Table ℕ TaskSummary) (task : TaskSummary) :
    (p.addOverlay nextCursor hasMore rows task = rows ∧
      (p.inRange nextCursor hasMore task → ∃ row, rows.get? task.id = some row)) ∨
    (p.addOverlay nextCursor hasMore rows task = rows.put task.id task ∧
      p.inRange nextCursor hasMore task) := by
  unfold addOverlay
  split
  · next h =>
    simp only [Bool.and_eq_true, Bool.or_eq_true, decide_eq_true_eq, Bool.not_eq_true'] at h
    exact .inr ⟨rfl, h.1.1.1, h.1.1.2, h.1.2⟩
  · next h =>
    refine .inl ⟨rfl, fun ⟨hafter, hrange, haccepts⟩ => ?_⟩
    simp only [Bool.and_eq_true, Bool.or_eq_true, decide_eq_true_eq, Bool.not_eq_true',
      hafter, hrange, haccepts, true_and] at h
    cases hrow : rows.get? task.id with
    | some row => exact ⟨row, rfl⟩
    | none => simp [hrow] at h

theorem addOverlays_rows {nextCursor : ℕ} {hasMore : Bool} {overlays : List TaskSummary}
    {rows : Table ℕ TaskSummary} {id : ℕ} {row : TaskSummary}
    (h : (overlays.foldl (p.addOverlay nextCursor hasMore) rows).get? id = some row) :
    rows.get? id = some row ∨ row ∈ overlays ∧ row.id = id ∧ p.filter.accepts row = true := by
  induction overlays generalizing rows with
  | nil => exact .inl h
  | cons o overlays ih =>
    rcases ih h with hrow | ⟨hmem, hid, haccepts⟩
    · rcases p.addOverlay_cases nextCursor hasMore rows o with ⟨hsame, -⟩ | ⟨hput, hrange⟩
      · exact .inl (hsame ▸ hrow)
      · rw [hput, Table.get?_put] at hrow
        split at hrow
        · next heq =>
          obtain rfl := Option.some.inj hrow
          exact .inr ⟨List.mem_cons_self, heq.symm, hrange.2.2⟩
        · exact .inl hrow
    · exact .inr ⟨List.mem_cons_of_mem _ hmem, hid, haccepts⟩

theorem addOverlays_keeps {nextCursor : ℕ} {hasMore : Bool} {overlays : List TaskSummary}
    {rows : Table ℕ TaskSummary} {id : ℕ} (h : ∃ row, rows.get? id = some row) :
    ∃ row, (overlays.foldl (p.addOverlay nextCursor hasMore) rows).get? id = some row := by
  induction overlays generalizing rows with
  | nil => exact h
  | cons o overlays ih =>
    refine ih ?_
    rcases p.addOverlay_cases nextCursor hasMore rows o with ⟨hsame, -⟩ | ⟨hput, -⟩
    · rw [hsame]
      exact h
    · rw [hput, Table.get?_put]
      split
      · exact ⟨_, rfl⟩
      · exact h

theorem addOverlays_contains {nextCursor : ℕ} {hasMore : Bool} {overlays : List TaskSummary}
    {rows : Table ℕ TaskSummary} {o : TaskSummary} (hmem : o ∈ overlays)
    (hrange : p.inRange nextCursor hasMore o) :
    ∃ row, (overlays.foldl (p.addOverlay nextCursor hasMore) rows).get? o.id = some row := by
  induction overlays generalizing rows with
  | nil => cases hmem
  | cons t overlays ih =>
    rcases List.mem_cons.mp hmem with rfl | hmem
    · rw [List.foldl_cons]
      refine addOverlays_keeps ?_
      rcases p.addOverlay_cases nextCursor hasMore rows o with ⟨hsame, hrow⟩ | ⟨hput, -⟩
      · rw [hsame]
        exact hrow hrange
      · exact ⟨o, by rw [hput]; exact Table.get?_put_self _ _ _⟩
    · exact ih hmem

theorem mem_overlays {o : TaskSummary} :
    o ∈ p.overlays.toList.map Prod.snd ↔ ∃ id, p.overlays.get? id = some o := by
  simp [Table.mem_toList]

end TaskPage

namespace TaskFeed

variable {f : TaskFeed} {revision : ℕ} {reply : ListReply}

theorem Tracked.keyed (h : Tracked f) : f.page.Keyed :=
  ⟨fun id row hrow => (h.rows id row hrow).1, fun id o ho => (h.overlays id o ho).1⟩

theorem Tracked.held_origin (h : Tracked f) {id : ℕ} {x : TaskSummary}
    (hx : some x ∈ f.page.held id) : x ∈ f.seen ∨ x ∈ f.listed := by
  simp only [TaskPage.held, List.mem_cons, List.not_mem_nil, or_false] at hx
  rcases hx with hx | hx | hx
  · exact h.origin x (.inr ⟨id, hx.symm⟩)
  · exact .inl (h.overlays id x hx.symm).2
  · have hsel := hx.symm
    simp only [TaskPage.selectedOf, Option.filter_eq_some_iff] at hsel
    exact h.origin x (.inl hsel.1)

/-- The stored tasks account for all that the request was begun with. -/
theorem Tracked.knows (h : Tracked f) (hflight : f.page.listInFlight = true)
    (hanswer : (f.requests f.page.listRevision).Answered reply)
    (hearlier : reply.Knows (f.requests f.page.listRevision).listed) {s : TaskSummary}
    (hs : s ∈ (f.requests f.page.listRevision).seen ∨ s ∈ f.listed) :
    ∃ task, reply.snapshot.get? s.id = some task ∧ s.version ≤ task.version := by
  rcases hs with hs | hs
  · exact hanswer.current s hs
  · rw [h.listed hflight] at hearlier
    exact hearlier s hs

/-- A listed task is at least as new as what its page was begun with. -/
theorem Tracked.listed_current (h : Tracked f) (hflight : f.page.listInFlight = true)
    (hanswer : (f.requests f.page.listRevision).Answered reply)
    (hearlier : reply.Knows (f.requests f.page.listRevision).listed) {task : TaskSummary}
    (htask : task ∈ reply.tasks) {s : TaskSummary}
    (hs : s ∈ (f.requests f.page.listRevision).seen ∨ s ∈ f.listed) (hid : s.id = task.id) :
    s.version ≤ task.version := by
  obtain ⟨stored, hstored, hle⟩ := h.knows hflight hanswer hearlier hs
  have hsame := ((hanswer.listed task).mp htask).1
  rw [hid, hsame] at hstored
  exact Option.some.inj hstored ▸ hle

/-- The rows of a page, cut or not, come from the listed tasks and the overlays. -/
theorem Tracked.page_rows (h : Tracked f) (hflight : f.page.listInFlight = true)
    (hanswer : (f.requests f.page.listRevision).Answered reply)
    (hearlier : reply.Knows (f.requests f.page.listRevision).listed) {id : ℕ} {row : TaskSummary}
    (hrow : (f.page.mergedRows reply.tasks reply.nextCursor reply.hasMore).get? id = some row) :
    row.id = id ∧ f.page.filter.accepts row = true ∧ NewestSeen f.seen id row.version ∧
      (∀ x, f.page.selectedSummary = some x → x.id = id → x.version ≤ row.version) ∧
      (row ∈ f.seen ∨ row ∈ reply.tasks ++ f.listed) := by
  unfold TaskPage.mergedRows at hrow
  rw [List.take_of_length_le hanswer.short] at hrow
  rcases TaskPage.addOverlays_rows hrow with hlisted | ⟨hoverlay, hid, haccepts⟩
  · rcases TaskPage.addListed_rows h.keyed hlisted with hnone | ⟨task, htask, hid, rfl, haccepts⟩
    · rw [Table.get?_empty] at hnone
      cases hnone
    · subst hid
      obtain ⟨hid, hle, hheld, hfrom⟩ := newestOf_spec task fun _ => h.keyed.held
      refine ⟨hid, haccepts, fun s hs hsid => ?_, fun x hx hxid => hheld x ?_, ?_⟩
      · rcases h.covered hflight s hs with ⟨o, ho, hso⟩ | ⟨r, hr, hrid, hsr⟩
        · exact hso.trans (hheld o (by simp [TaskPage.held, ← hsid, ho]))
        · have hcurrent := h.listed_current hflight hanswer hearlier htask hr (hrid.trans hsid)
          exact (hsr.trans hcurrent).trans hle
      · have hselected : f.page.selectedOf task.id = some x := by
          simp [TaskPage.selectedOf, hx, hxid]
        simp [TaskPage.held, hselected]
      · rcases hfrom with heq | ⟨hmem, -⟩
        · rw [heq]
          exact .inr (List.mem_append_left _ htask)
        · exact (h.held_origin hmem).imp_right (List.mem_append_right _)
  · obtain ⟨key, ho⟩ := TaskPage.mem_overlays.mp hoverlay
    have hkey : row.id = key := (h.overlays key row ho).1
    have hseen := (h.overlays key row ho).2
    rw [← hkey, hid] at ho
    exact ⟨hid, haccepts, h.fresh hflight id row ho,
      fun x hx hxid => h.topSelected row x hx (hxid ▸ ho), .inl hseen⟩

/-- A task that is wanted in the range of a page is among its rows before they are cut. -/
theorem Tracked.page_contains (h : Tracked f) (hflight : f.page.listInFlight = true)
    (hanswer : (f.requests f.page.listRevision).Answered reply)
    (hearlier : reply.Knows (f.requests f.page.listRevision).listed)
    (hcursor : (f.requests f.page.listRevision).after = f.page.pagination.after) {id : ℕ}
    (hwanted : f.Wanted reply id) (hafter : f.page.pagination.after.getD 0 < id)
    (hrange : id ≤ reply.nextCursor ∨ reply.hasMore = false) :
    ∃ row, (f.page.mergedRows reply.tasks reply.nextCursor reply.hasMore).get? id = some row := by
  obtain ⟨⟨s, hs, rfl⟩, haccepts⟩ := hwanted
  unfold TaskPage.mergedRows
  rw [List.take_of_length_le hanswer.short]
  -- Either an overlay is the newest summary of the task, or the stored one is.
  by_cases hoverlay : ∃ o, f.page.overlays.get? s.id = some o ∧
      ∀ stored, reply.snapshot.get? s.id = some stored → stored.version ≤ o.version
  · obtain ⟨o, ho, hstored⟩ := hoverlay
    obtain ⟨hid, hmem⟩ := h.overlays _ _ ho
    have ok := haccepts o (.inl hmem) hid (h.fresh hflight _ o ho) hstored
    have hin : f.page.inRange reply.nextCursor reply.hasMore o :=
      ⟨hid ▸ hafter, hid ▸ hrange, ok⟩
    exact hid ▸ TaskPage.addOverlays_contains (TaskPage.mem_overlays.mpr ⟨_, ho⟩) hin
  · have hstored : ∃ stored, reply.snapshot.get? s.id = some stored ∧
        ∀ o, f.page.overlays.get? s.id = some o → o.version < stored.version := by
      rcases h.covered hflight s hs with ⟨o, ho, -⟩ | ⟨r, hr, hrid, -⟩
      · simp only [not_exists, not_and, not_forall] at hoverlay
        obtain ⟨stored, hget, hlt⟩ := hoverlay o ho
        refine ⟨stored, hget, fun o' ho' => ?_⟩
        rw [ho] at ho'
        exact Option.some.inj ho' ▸ Nat.lt_of_not_le hlt
      · obtain ⟨stored, hget, -⟩ := h.knows hflight hanswer hearlier hr
        rw [hrid] at hget
        refine ⟨stored, hget, fun o ho => ?_⟩
        by_contra hle
        refine hoverlay ⟨o, ho, fun stored' hget' => ?_⟩
        rw [hget] at hget'
        exact Option.some.inj hget' ▸ Nat.le_of_not_lt hle
    obtain ⟨stored, hget, hnewer⟩ := hstored
    have hid := hanswer.keyed _ _ hget
    have hnewest : NewestSeen f.seen s.id stored.version := by
      intro s' hs' hsid
      rcases h.covered hflight s' hs' with ⟨o, ho, hle⟩ | ⟨r, hr, hrid, hle⟩
      · exact hle.trans (hnewer o (hsid ▸ ho)).le
      · obtain ⟨stored', hget', hle'⟩ := h.knows hflight hanswer hearlier hr
        rw [hrid, hsid, hget] at hget'
        exact hle.trans (Option.some.inj hget' ▸ hle')
    have ok := haccepts stored (.inr hget) hid hnewest fun stored' hget' => by
      rw [hget] at hget'
      exact (Option.some.inj hget' ▸ le_rfl)
    have hlisted : stored ∈ reply.tasks := by
      refine (hanswer.listed stored).mpr ⟨hid ▸ hget, ?_, ?_, ?_⟩
      · rw [h.filter hflight]
        exact ok
      · rw [hcursor, hid]
        exact hafter
      · rw [hid]
        exact hrange
    refine TaskPage.addOverlays_keeps ?_
    rw [← hid]
    refine TaskPage.addListed_contains h.keyed hlisted ?_
    -- Nothing the page holds is newer than the stored task, unless a page brought it.
    rcases (newestOf_spec stored fun _ => h.keyed.held).2.2.2 with heq | ⟨hheld, hlt⟩
    · rw [heq]
      exact ok
    · generalize newestOf stored (f.page.held stored.id) = x at hheld hlt ⊢
      have hxid := h.keyed.held hheld
      simp only [TaskPage.held, List.mem_cons, List.not_mem_nil, or_false] at hheld
      rcases hheld with hrow | hover | hselected
      · exact (h.rows _ _ hrow.symm).2.1
      · exact absurd (hnewer x (by rw [← hid]; exact hover.symm)) hlt.not_gt
      · have hsel := hselected.symm
        simp only [TaskPage.selectedOf, Option.filter_eq_some_iff] at hsel
        rcases h.known x hsel.1 with hseen | haccepts
        · exact absurd (hnewest x hseen (hxid.trans hid)) hlt.not_ge
        · exact haccepts

/-- Only the selection and what belongs to it changed. -/
theorem Tracked.of_selection (h : Tracked f) {f' : TaskFeed}
    (hsame : TaskPage.SameList f.page f'.page) (hseen : f'.seen = f.seen)
    (hlisted : f'.listed = f.listed) (hrequests : f'.requests = f.requests)
    (hid : f'.page.selectedId = f.page.selectedId)
    (hsummary : f'.page.selectedSummary = f.page.selectedSummary) : Tracked f' := by
  refine h.of_sameList hsame hseen hlisted hrequests (fun x hx => ?_) fun id row hsel hrow => ?_
  · rw [hsummary] at hx
    exact ⟨hid ▸ h.selection x hx, .inl hx⟩
  · rw [hsummary]
    exact h.selectedRow id row (hid ▸ hsel) hrow

theorem Tracked.select (h : Tracked f) (id : Option ℕ) :
    Tracked { f with page := f.page.select id } := by
  by_cases hsame : f.page.selectedId = id
  · have heq : f.page.select id = f.page := by simp [TaskPage.select, hsame]
    rw [heq]
    exact h
  · have hid : (f.page.select id).selectedId = id := by simp [TaskPage.select, hsame]
    have hsummary : (f.page.select id).selectedSummary = id.bind f.page.rows.get? := by
      simp [TaskPage.select, hsame]
    refine h.of_sameList (TaskPage.select_sameList _ _) rfl rfl rfl (fun x hx => ?_)
      fun i row hsel hrow => ?_
    · dsimp only at hx ⊢
      rw [hsummary] at hx
      obtain ⟨i, rfl, hrow⟩ := Option.bind_eq_some_iff.mp hx
      have hx := (h.rows i x hrow).1
      exact ⟨by rw [hid, hx], .inr (by rw [hx]; exact hrow)⟩
    · dsimp only at hsel ⊢
      rw [hid] at hsel
      rw [hsummary, hsel]
      exact hrow

theorem Tracked.beginLoad (h : Tracked f) (stamp : WorkspaceStamp) :
    Tracked (f.step (.beginLoad stamp)) where
  rows := h.rows
  origin := h.origin
  overlays id o ho := by
    simp only [step, TaskPage.perform, TaskPage.beginLoad, Table.get?_empty] at ho
    cases ho
  selection := h.selection
  selectedRow := h.selectedRow
  filter _ := by
    simp [step, TaskPage.perform, TaskPage.beginLoad]
  listed _ := by
    simp [step, TaskPage.perform, TaskPage.beginLoad, listedAfter]
  covered _ s hs := .inr ⟨s, .inl (by
    simpa [step, TaskPage.perform, TaskPage.beginLoad, TaskOp.observed] using hs), rfl, le_rfl⟩
  fresh _ id o ho := by
    simp only [step, TaskPage.perform, TaskPage.beginLoad, Table.get?_empty] at ho
    cases ho
  topRow id o row ho := by
    simp only [step, TaskPage.perform, TaskPage.beginLoad, Table.get?_empty] at ho
    cases ho
  topSelected o x _ ho := by
    simp only [step, TaskPage.perform, TaskPage.beginLoad, Table.get?_empty] at ho
    cases ho
  idle hoff := by
    cases hoff
  known := h.known

theorem applyPage_cases (p : TaskPage) (revision : ℕ) (reply : ListReply) :
    (p.awaits revision = false ∧
      p.applyPage revision reply.tasks reply.nextCursor reply.hasMore = (false, p)) ∨
    (revision = p.listRevision ∧ p.listInFlight = true ∧
      p.applyPage revision reply.tasks reply.nextCursor reply.hasMore =
        (true, (p.withRows reply.tasks reply.nextCursor reply.hasMore).followSelection)) := by
  unfold TaskPage.applyPage
  split
  · next hcond =>
    refine .inl ⟨?_, rfl⟩
    simp only [Bool.or_eq_true, decide_eq_true_eq, Bool.not_eq_true'] at hcond
    simpa [TaskPage.awaits, imp_iff_not_or] using hcond
  · next hcond =>
    simp only [Bool.or_eq_true, decide_eq_true_eq, Bool.not_eq_true', not_or, not_not,
      Bool.not_eq_false] at hcond
    exact .inr ⟨hcond.1, hcond.2, rfl⟩

/-- A page that is applied: its rows are current and the selection follows them. -/
theorem Tracked.applyPage (h : Tracked f) (hanswer : (f.requests revision).Answered reply)
    (hearlier : f.page.awaits revision = true → reply.Knows (f.requests revision).listed) :
    Tracked { f with
      page := (f.page.applyPage revision reply.tasks reply.nextCursor reply.hasMore).2
      listed := f.listedAfter (.applyPage revision reply) } := by
  rcases applyPage_cases f.page revision reply with ⟨hidle, heq⟩ | ⟨rfl, hflight, heq⟩
  · rw [heq]
    simp only [listedAfter, hidle, Bool.false_eq_true, ↓reduceIte]
    exact h
  have hawaits : f.page.awaits f.page.listRevision = true := by
    simp [TaskPage.awaits, hflight]
  have hearlier := hearlier hawaits
  rw [heq]
  simp only [listedAfter, hawaits, ↓reduceIte]
  generalize hq : f.page.withRows reply.tasks reply.nextCursor reply.hasMore = q
  have hrows : ∀ id row, q.rows.get? id = some row → row.id = id ∧
      f.page.filter.accepts row = true ∧ NewestSeen f.seen id row.version ∧
      (∀ x, f.page.selectedSummary = some x → x.id = id → x.version ≤ row.version) ∧
      (row ∈ f.seen ∨ row ∈ reply.tasks ++ f.listed) := by
    intro id row hrow
    rw [← hq] at hrow
    exact h.page_rows hflight hanswer hearlier (Table.get?_of_trim hrow)
  have hfilter : q.filter = f.page.filter := by rw [← hq]; rfl
  have hid : q.selectedId = f.page.selectedId := by rw [← hq]; rfl
  have hsummary : q.selectedSummary = f.page.selectedSummary := by rw [← hq]; rfl
  have hoff : q.listInFlight = false := by rw [← hq]; rfl
  have hoverlays : q.overlays = ∅ := by rw [← hq]; rfl
  have hcurrent : ∀ id row, q.rows.get? id = some row → row.id = id ∧
      q.filter.accepts row = true ∧ NewestSeen f.seen id row.version := by
    intro id row hrow
    obtain ⟨hrid, haccepts, hnewest, -⟩ := hrows id row hrow
    exact ⟨hrid, hfilter ▸ haccepts, hnewest⟩
  have hselection : ∀ x, q.selectedSummary = some x → q.selectedId = some x.id := by
    rw [hsummary, hid]
    exact h.selection
  have hknown : ∀ x, q.selectedSummary = some x → x ∈ f.seen ∨ q.filter.accepts x = true := by
    rw [hsummary, hfilter]
    exact h.known
  have horigin : ∀ x, q.selectedSummary = some x ∨ (∃ id, q.rows.get? id = some x) →
      x ∈ f.seen ∨ x ∈ reply.tasks ++ f.listed := by
    rintro x (hx | ⟨id, hx⟩)
    · exact (h.origin x (.inl (hsummary ▸ hx))).imp_right (List.mem_append_right _)
    · exact (hrows id x hx).2.2.2.2
  cases hsel : q.selectedId with
  | none =>
    have hfollow : q.followSelection = q.select q.rows.firstKey? := by
      simp [TaskPage.followSelection, hsel]
    rw [hfollow]
    refine Tracked.select (f := { f with page := q, listed := reply.tasks ++ f.listed }) ?_ _
    refine .of_idle hcurrent horigin hoff hoverlays hselection (fun id row hid' => ?_) hknown
    rw [hsel] at hid'
    cases hid'
  | some id =>
    cases hrow : q.rows.get? id with
    | none =>
      have hfollow : q.followSelection = q := by
        simp [TaskPage.followSelection, hsel, hrow]
      rw [hfollow]
      refine .of_idle hcurrent horigin hoff hoverlays hselection (fun id' row hid' hrow' => ?_)
        hknown
      dsimp only at hid' hrow'
      rw [hsel] at hid'
      obtain rfl := Option.some.inj hid'
      rw [hrow] at hrow'
      cases hrow'
    | some task =>
      have hfollow : q.followSelection = q.observeSelected task := by
        simp [TaskPage.followSelection, hsel, hrow]
      obtain ⟨htask, haccepts, -, hold, -⟩ := hrows id task hrow
      have hset : (q.observeSelected task).selectedSummary = some task := by
        refine TaskPage.observeSelected_summary fun old hold' hsame => ?_
        exact hold old (hsummary ▸ hold') (hsame.trans htask)
      have hsame := TaskPage.observeSelected_sameList q task
      have hkept := TaskPage.observeSelected_selectedId q task
      rw [hfollow]
      refine .of_idle ?_ ?_ ?_ ?_ ?_ ?_ ?_
      · intro id' row hrow'
        dsimp only at hrow' ⊢
        rw [hsame.rows] at hrow'
        rw [hsame.filter]
        exact hcurrent id' row hrow'
      · rintro x (hx | ⟨id', hx⟩)
        · dsimp only at hx
          rw [hset] at hx
          obtain rfl := Option.some.inj hx
          exact horigin _ (.inr ⟨id, hrow⟩)
        · dsimp only at hx
          rw [hsame.rows] at hx
          exact horigin x (.inr ⟨id', hx⟩)
      · exact hsame.inFlight.trans hoff
      · exact hsame.overlays.trans hoverlays
      · intro x hx
        dsimp only at hx ⊢
        rw [hset] at hx
        obtain rfl := Option.some.inj hx
        rw [hkept, hsel, htask]
      · intro id' row hid' hrow'
        dsimp only at hid' hrow' ⊢
        rw [hkept, hsel] at hid'
        obtain rfl := Option.some.inj hid'
        rw [hsame.rows, hrow] at hrow'
        rw [hset, hrow']
      · intro x hx
        dsimp only at hx ⊢
        rw [hset] at hx
        obtain rfl := Option.some.inj hx
        exact .inr (by rw [hsame.filter, hfilter]; exact haccepts)

theorem Tracked.failLoad (h : Tracked f) (revision : ℕ) :
    Tracked { f with page := f.page.failLoad revision } := by
  unfold TaskPage.failLoad
  split
  · exact .of_idle h.rows h.origin rfl rfl h.selection h.selectedRow h.known
  · exact h

theorem Tracked.invalidateReads (h : Tracked f) :
    Tracked { f with page := f.page.invalidateReads } :=
  .of_idle h.rows h.origin rfl rfl h.selection h.selectedRow h.known

/-- A new filter starts without rows and without a selection. -/
theorem Tracked.setFilter (h : Tracked f) (filter : TaskFilter) :
    Tracked { f with page := f.page.setFilter filter } := by
  have hsame := TaskPage.select_sameList { f.page with filter, pagination := {}, rows := ∅ } none
  have hrows : (f.page.setFilter filter).rows = ∅ := hsame.rows
  have hselected : (f.page.setFilter filter).selectedId = none ∧
      (f.page.setFilter filter).selectedSummary = none := by
    unfold TaskPage.setFilter TaskPage.select TaskPage.invalidateReads
    dsimp only
    split
    · next hnone =>
      refine ⟨hnone, ?_⟩
      cases hsummary : f.page.selectedSummary with
      | none => rfl
      | some x =>
        have hid := h.selection x hsummary
        rw [hnone] at hid
        cases hid
    · exact ⟨rfl, rfl⟩
  refine .of_idle (fun id row hrow => ?_) (fun x hx => ?_) rfl rfl (fun x hx => ?_)
    (fun id row hid => ?_) fun x hx => ?_
  · dsimp only at hrow
    rw [hrows, Table.get?_empty] at hrow
    cases hrow
  · rcases hx with hx | ⟨id, hx⟩
    · rw [hselected.2] at hx
      cases hx
    · rw [hrows, Table.get?_empty] at hx
      cases hx
  · rw [hselected.2] at hx
    cases hx
  · rw [hselected.1] at hid
    cases hid
  · rw [hselected.2] at hx
    cases hx

theorem applyDetail_taken {p : TaskPage} {detail : TaskDetail}
    (h : p.takesDetail revision detail = true) : (p.applyDetail revision detail).2 =
      { (p.observe detail.summary).2 with detail := some detail, detailStale := false } := by
  simp only [TaskPage.takesDetail, Bool.and_eq_true, decide_eq_true_eq, Bool.not_eq_true'] at h
  obtain ⟨⟨⟨hrevision, hid⟩, hsummary⟩, hrow⟩ := h
  simp [TaskPage.applyDetail, hrevision, hid, hsummary, hrow]

theorem applyDetail_refused {p : TaskPage} {detail : TaskDetail}
    (h : p.takesDetail revision detail = false) : (p.applyDetail revision detail).2 = p ∨
      (p.applyDetail revision detail).2 = { p with detailStale := true } := by
  unfold TaskPage.applyDetail
  split
  · exact .inl rfl
  · next hsel =>
    split
    · exact .inr rfl
    · next hnewer =>
      simp only [Bool.or_eq_true, decide_eq_true_eq, not_or, not_not] at hsel
      simp only [Bool.or_eq_true, not_or, Bool.not_eq_true] at hnewer
      simp [TaskPage.takesDetail, hsel, hnewer] at h

theorem Tracked.applyDetail (h : Tracked f) {detail : TaskDetail}
    (horder : f.Orderly (.applyDetail revision detail)) :
    Tracked (f.step (.applyDetail revision detail)) := by
  cases htakes : f.page.takesDetail revision detail with
  | true =>
    have hobserved : (TaskOp.applyDetail revision detail).observed f.page = [detail.summary] := by
      simp [TaskOp.observed, htakes]
    have hnext := h.observe (horder.1 detail.summary (by rw [hobserved]; simp))
    refine hnext.of_selection ?_ ?_ rfl rfl ?_ ?_
    · rw [show (f.step (.applyDetail revision detail)).page =
        (f.page.applyDetail revision detail).2 from rfl, applyDetail_taken htakes]
      exact ⟨rfl, rfl, rfl, rfl, rfl⟩
    · rw [show (f.step (.applyDetail revision detail)).seen =
        (TaskOp.applyDetail revision detail).observed f.page ++ f.seen from rfl, hobserved]
      rfl
    · rw [show (f.step (.applyDetail revision detail)).page =
        (f.page.applyDetail revision detail).2 from rfl, applyDetail_taken htakes]
    · rw [show (f.step (.applyDetail revision detail)).page =
        (f.page.applyDetail revision detail).2 from rfl, applyDetail_taken htakes]
  | false =>
    have hobserved : (TaskOp.applyDetail revision detail).observed f.page = [] := by
      simp [TaskOp.observed, htakes]
    have hpage : TaskPage.SameList f.page (f.page.applyDetail revision detail).2 ∧
        (f.page.applyDetail revision detail).2.selectedId = f.page.selectedId ∧
        (f.page.applyDetail revision detail).2.selectedSummary = f.page.selectedSummary := by
      rcases applyDetail_refused htakes with heq | heq
      all_goals rw [heq]
      all_goals exact ⟨⟨rfl, rfl, rfl, rfl, rfl⟩, rfl, rfl⟩
    refine h.of_selection hpage.1 ?_ rfl rfl hpage.2.1 hpage.2.2
    rw [show (f.step (.applyDetail revision detail)).seen =
      (TaskOp.applyDetail revision detail).observed f.page ++ f.seen from rfl, hobserved]
    rfl

theorem Tracked.step (h : Tracked f) {op : TaskOp} (hfair : f.Fair op) (horder : f.Orderly op) :
    Tracked (f.step op) := by
  cases op with
  | observe task =>
    exact h.observe (horder.1 task (by simp [TaskOp.observed]))
  | beginLoad stamp => exact h.beginLoad stamp
  | applyPage revision reply => exact h.applyPage hfair (horder.2 revision reply rfl)
  | failLoad revision => exact h.failLoad revision
  | applyDetail revision detail => exact h.applyDetail horder
  | select id => exact h.select id
  | selectRelative delta =>
    have hselect : ∃ id, f.page.selectRelative delta = f.page.select id := by
      unfold TaskPage.selectRelative
      dsimp only
      split
      · exact ⟨_, rfl⟩
      · exact ⟨_, rfl⟩
    obtain ⟨id, hid⟩ := hselect
    have hnext := h.select id
    rw [← hid] at hnext
    exact hnext
  | setFilter filter => exact h.setFilter filter
  | invalidateReads => exact h.invalidateReads
  | applyHistory revision page =>
    have hpage : TaskPage.SameList f.page (f.page.applyHistory revision page).2 ∧
        (f.page.applyHistory revision page).2.selectedId = f.page.selectedId ∧
        (f.page.applyHistory revision page).2.selectedSummary = f.page.selectedSummary := by
      unfold TaskPage.applyHistory
      split
      all_goals exact ⟨⟨rfl, rfl, rfl, rfl, rfl⟩, rfl, rfl⟩
    exact h.of_selection hpage.1 rfl rfl rfl hpage.2.1 hpage.2.2
  | beginDetailLoad stamp | beginHistoryLoad stamp | nextPage | previousPage =>
    exact h.of_selection ⟨rfl, rfl, rfl, rfl, rfl⟩ rfl rfl rfl rfl rfl

theorem Run.tracked (h : Run Orderly f) : Tracked f := by
  induction h with
  | start =>
    refine .of_idle (fun id row hrow => ?_) (fun x hx => ?_) rfl rfl (fun x hx => ?_)
      (fun id row hid => ?_) fun x hx => ?_
    · rw [Table.get?_empty] at hrow
      cases hrow
    · rcases hx with hx | ⟨id, hx⟩
      · cases hx
      · rw [Table.get?_empty] at hx
        cases hx
    · cases hx
    · cases hid
    · cases hx
  | step _ hfair horder ih => exact ih.step hfair horder

theorem Tracked.pageComplete (h : Tracked f) (hfair : f.Fair (.applyPage revision reply))
    (horder : f.Orderly (.applyPage revision reply))
    (hcursor : (f.requests revision).after = f.page.pagination.after) :
    f.PageComplete revision reply := by
  intro haccepted id hwanted hafter hrange
  rcases applyPage_cases f.page revision reply with ⟨-, heq⟩ | ⟨rfl, hflight, heq⟩
  · rw [heq] at haccepted
    cases haccepted
  have hearlier := horder.2 _ _ rfl (by simp [TaskPage.awaits, hflight])
  have hpage : (f.step (.applyPage f.page.listRevision reply)).page =
      (f.page.withRows reply.tasks reply.nextCursor reply.hasMore).followSelection := by
    rw [show (f.step (.applyPage f.page.listRevision reply)).page = (f.page.applyPage
      f.page.listRevision reply.tasks reply.nextCursor reply.hasMore).2 from rfl, heq]
  obtain ⟨row, hrow⟩ :=
    h.page_contains hflight hfair hearlier hcursor hwanted (hcursor ▸ hafter) hrange
  rw [hpage]
  generalize hm : f.page.mergedRows reply.tasks reply.nextCursor reply.hasMore = merged at hrow
  have hrows : (f.page.withRows reply.tasks reply.nextCursor reply.hasMore).followSelection.rows =
      merged.trim maxPageLimit merged.size := by
    rw [(TaskPage.followSelection_sameList _).rows, ← hm]
    rfl
  cases hkept : (merged.trim maxPageLimit merged.size).get? id with
  | some kept =>
    refine .inl ((Table.contains_iff _ _).mpr ⟨kept, ?_⟩)
    rw [hrows]
    exact hkept
  | none =>
    -- The row was cut off, so the page overflowed and its cursor is the last row it kept.
    have hoverflow : maxPageLimit < merged.size := by
      by_contra hle
      rw [Table.trim_eq_self (Nat.le_of_not_lt hle), hrow] at hkept
      cases hkept
    obtain ⟨k', v', hk'⟩ : ∃ k' v', (merged.trim maxPageLimit merged.size).get? k' = some v' :=
      Table.trim_nonempty (by decide) hrow
    obtain ⟨last, hlast⟩ := Table.lastKey?_of_get? hk'
    obtain ⟨v, hv⟩ := Table.get?_lastKey hlast
    refine .inr ⟨last, ?_, Table.trim_dropped hrow hkept hv⟩
    rw [TaskPage.followSelection_pagination]
    simp only [TaskPage.withRows, hm, hoverflow, ↓reduceIte, hlast, Option.getD_some]

/-- In every run in which no late summary finds its task forgotten, and no page goes back behind an
earlier one, the list is current. A page applied under the cursor it was asked for is complete. -/
theorem rows_current_of_orderly (h : Run Orderly f) :
    f.RowsCurrent ∧ ∀ revision reply, f.Fair (.applyPage revision reply) →
      f.Orderly (.applyPage revision reply) →
      (f.requests revision).after = f.page.pagination.after → f.PageComplete revision reply :=
  ⟨h.tracked.rows, fun _ _ hfair horder hcursor => h.tracked.pageComplete hfair horder hcursor⟩

theorem sampleTeam_valid : isWorkspaceName "team" = true := by decide

/-- A task of the examples below. -/
def sampleTask (id version : ℕ) (state : TaskState) : TaskSummary where
  id := id
  workspace := ⟨"team", sampleTeam_valid⟩
  title := "task"
  state := state
  version := version
  assignedAgentId := none
  currentAttemptId := none
  lastExecutorId := none
  executionSessionId := none
  lastCheckpointAt := none
  pauseReason := none
  stopEvidence := none
  createdAt := 0
  updatedAt := 0

def sampleStamp : WorkspaceStamp := ⟨1, ⟨"team", sampleTeam_valid⟩⟩

/-- Only what is still to be done is listed. -/
def todoOnly : TaskFilter := { states := [.todo] }

/-- The reply when the second task is the only one stored. -/
def sampleReply (task : TaskSummary) (tasks : List TaskSummary) : ListReply where
  snapshot := Table.put ∅ 2 task
  tasks := tasks
  nextCursor := 2
  hasMore := false

theorem sampleReply_answered {request : ListRequest} {task : TaskSummary}
    {tasks : List TaskSummary} (hid : task.id = 2)
    (hseen : ∀ s ∈ request.seen, s.id = 2 ∧ s.version ≤ task.version)
    (hafter : request.after = none)
    (htasks : tasks = if request.filter.accepts task then [task] else []) :
    request.Answered (sampleReply task tasks) where
  keyed id t h := by
    simp only [sampleReply, Table.get?_put, Table.get?_empty] at h
    split at h
    · next heq =>
      obtain rfl := Option.some.inj h
      rw [hid, heq]
    · cases h
  current s hs := by
    obtain ⟨hsid, hle⟩ := hseen s hs
    exact ⟨task, by simp [sampleReply, hsid], hle⟩
  listed t := by
    simp only [sampleReply, htasks, Table.get?_put, Table.get?_empty, hafter]
    constructor
    · intro h
      split at h
      · next haccepts =>
        obtain rfl := List.mem_singleton.mp h
        simp [hid, haccepts]
      · cases h
    · rintro ⟨h, haccepts, -, -⟩
      split at h
      · obtain rfl := Option.some.inj h
        simp [haccepts]
      · cases h
  short := by
    simp only [sampleReply, htasks]
    split <;> simp [maxPageLimit]

/-- A list load during which the second task is observed at a version. -/
def observedDuring (before : List TaskSummary) (during : TaskSummary) : TaskFeed :=
  (((before.map TaskOp.observe).foldl step (step {} (.setFilter todoOnly))).step
    (.beginLoad sampleStamp)).step (.observe during)

theorem orderly_of_quiet {f : TaskFeed} {op : TaskOp} (hnone : op.observed f.page = [])
    (hearlier : ∀ revision reply, op = .applyPage revision reply → f.page.awaits revision = true →
      reply.Knows (f.requests revision).listed) : f.Orderly op := by
  refine ⟨fun task htask => ?_, hearlier⟩
  rw [hnone] at htask
  cases htask

/-- A page lists an older version than the one observed meanwhile. -/
def listedLate : TaskFeed :=
  (observedDuring [] (sampleTask 2 2 .todo)).step
    (.applyPage 2 (sampleReply (sampleTask 2 1 .todo) [sampleTask 2 1 .todo]))

theorem listedLate_run : Run Orderly listedLate := by
  refine .step (.step (.step (.step .start trivial ?_) trivial ?_) trivial ?_) ?_ ?_
  · exact orderly_of_quiet rfl nofun
  · exact orderly_of_quiet rfl nofun
  · refine ⟨fun task _ _ hlate => ?_, nofun⟩
    obtain ⟨s, hs, -⟩ := hlate
    cases hs
  · exact sampleReply_answered rfl (by decide) (by decide) (by decide)
  · refine orderly_of_quiet rfl fun revision reply heq _ s hs => ?_
    cases heq
    have hnone : ((observedDuring [] (sampleTask 2 2 .todo)).requests 2).listed = [] := by decide
    rw [hnone] at hs
    cases hs

/-- A copy of the older version comes late under the next load, which another one supersedes. -/
def superseded : TaskFeed :=
  (((listedLate.step (.beginLoad sampleStamp)).step (.observe (sampleTask 2 1 .todo))).step
    (.beginLoad sampleStamp)).step
      (.applyPage 3 (sampleReply (sampleTask 2 2 .todo) [sampleTask 2 2 .todo]))

theorem superseded_run : Run Orderly superseded := by
  refine .step (.step (.step (.step listedLate_run trivial ?_) trivial ?_) trivial ?_) ?_ ?_
  · exact orderly_of_quiet rfl nofun
  · refine ⟨fun task htask _ _ => ?_, nofun⟩
    obtain rfl := List.mem_singleton.mp htask
    have hrow : (listedLate.step (.beginLoad sampleStamp)).page.rows.get? 2 =
        some (sampleTask 2 2 .todo) := by decide
    exact ⟨sampleTask 2 2 .todo, .inl hrow, by decide⟩
  · exact orderly_of_quiet rfl nofun
  · exact sampleReply_answered rfl (by decide) (by decide) (by decide)
  · refine orderly_of_quiet rfl fun revision reply heq hawaits => ?_
    cases heq
    exact absurd hawaits (by decide)

/-- The late copy and the superseded page change nothing, and the page that is awaited still is
complete. -/
theorem rows_current_sample :
    superseded.RowsCurrent ∧ superseded.page.rows.get? 2 = some (sampleTask 2 2 .todo) ∧
      superseded.PageComplete 4 (sampleReply (sampleTask 2 3 .todo) [sampleTask 2 3 .todo]) := by
  obtain ⟨hrows, hcomplete⟩ := rows_current_of_orderly superseded_run
  refine ⟨hrows, by decide, hcomplete _ _ ?_ ?_ (by decide)⟩
  · exact sampleReply_answered rfl (by decide) (by decide) (by decide)
  · refine orderly_of_quiet rfl fun revision reply heq _ s hs => ?_
    cases heq
    have hlisted : (superseded.requests 4).listed = [sampleTask 2 1 .todo] := by decide
    rw [hlisted] at hs
    obtain rfl := List.mem_singleton.mp hs
    exact ⟨sampleTask 2 3 .todo, by decide, by decide⟩

/-- The task was seen done at version five. Its third version arrives late, while a list is on its
way that no longer names the task, and becomes a row. -/
theorem rows_current_fails :
    ∃ f, Run (fun _ _ => True) f ∧ ¬ f.RowsCurrent := by
  refine ⟨(observedDuring [sampleTask 2 5 .done] (sampleTask 2 3 .todo)).step
    (.applyPage 2 (sampleReply (sampleTask 2 5 .done) [])), ?_, fun hcurrent => ?_⟩
  · refine .step (.step (.step (.step (.step .start trivial trivial) trivial trivial)
      trivial trivial) trivial trivial) ?_ trivial
    refine sampleReply_answered rfl ?_ ?_ ?_
    · decide
    · decide
    · decide
  · obtain ⟨-, -, hnewest⟩ := hcurrent 2 (sampleTask 2 3 .todo) (by decide)
    exact absurd (hnewest (sampleTask 2 5 .done) (by decide) rfl) (by decide)

end TaskFeed

end SessionRouter
