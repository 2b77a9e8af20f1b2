import SessionRouter.Console.Listing
import SessionRouter.Console.State

/-!
The detail of the selected task: what is shown as fresh against what was observed, with the
receipts of mutations arriving in any order beside the live events.
-/

namespace SessionRouter

namespace TaskFeed

/-- The selected summary is the newest one observed, and a detail that counts as fresh is not older
than it. -/
structure Fresh (f : TaskFeed) : Prop where
  tracked : Tracked f
  newest : ∀ id, f.page.selectedId = some id → ∃ x, f.page.selectedSummary = some x ∧
    NewestSeen f.seen id x.version
  owner : ∀ d, f.page.detail = some d → f.page.selectedId = some d.summary.id
  shown : f.page.detailStale = false → ∀ d x, f.page.detail = some d →
    f.page.selectedSummary = some x → x.version ≤ d.summary.version

/-- A detail shown as fresh is at least as new as every observed version of its task. -/
def DetailCurrent (f : TaskFeed) : Prop :=
  f.page.detailStale = false → ∀ d, f.page.detail = some d →
    NewestSeen f.seen d.summary.id d.summary.version

variable {f : TaskFeed}

theorem Fresh.detailCurrent (h : Fresh f) : f.DetailCurrent := by
  intro hstale d hd
  obtain ⟨x, hx, hnewest⟩ := h.newest _ (h.owner d hd)
  exact hnewest.mono (h.shown hstale d x hd hx)

/-- The selection and the detail are as they were. -/
theorem Fresh.of_frame (h : Fresh f) {f' : TaskFeed} (htracked : Tracked f')
    (hseen : f'.seen = f.seen) (hid : f'.page.selectedId = f.page.selectedId)
    (hsummary : f'.page.selectedSummary = f.page.selectedSummary)
    (hdetail : f'.page.detail = f.page.detail)
    (hstale : f'.page.detailStale = false → f.page.detailStale = false ∨
      f.page.selectedId = none) : Fresh f' where
  tracked := htracked
  newest := by
    rw [hid, hsummary, hseen]
    exact h.newest
  owner := by
    rw [hdetail, hid]
    exact h.owner
  shown hfresh d x hd hx := by
    rw [hdetail] at hd
    rw [hsummary] at hx
    rcases hstale hfresh with hold | hnone
    · exact h.shown hold d x hd hx
    · have howner := h.owner d hd
      rw [hnone] at howner
      cases howner

/-- Nothing is selected and there is no detail. -/
theorem Fresh.of_none (htracked : Tracked f) (hid : f.page.selectedId = none)
    (hdetail : f.page.detail = none) : Fresh f where
  tracked := htracked
  newest id h := by
    rw [hid] at h
    cases h
  owner d h := by
    rw [hdetail] at h
    cases h
  shown _ d _ h := by
    rw [hdetail] at h
    cases h

theorem observeSelected_detail (p : TaskPage) (task : TaskSummary) :
    (p.observeSelected task).detail = p.detail := by
  unfold TaskPage.observeSelected
  split <;> rfl

theorem observeSelected_shown {p : TaskPage} {task : TaskSummary}
    (h : ∀ old, p.selectedSummary = some old → old.id = task.id → old.version ≤ task.version)
    (hstale : (p.observeSelected task).detailStale = false) {d : TaskDetail}
    (hd : p.detail = some d) : task.version ≤ d.summary.version := by
  have hnot : newerThan (p.selectedOf task.id) task = false := by
    rw [newerThan_false]
    intro old hold
    simp only [TaskPage.selectedOf, Option.filter_eq_some_iff, decide_eq_true_eq] at hold
    exact h old hold.1 hold.2
  simp only [TaskPage.observeSelected, hnot, Bool.false_eq_true, ↓reduceIte, hd, Option.all_some,
    Bool.or_eq_false_iff, decide_eq_false_iff_not, not_lt] at hstale
  exact hstale.2

/-- An observation that is not stale leaves the detail alone and marks it if it is older. -/
theorem observe_detail {p : TaskPage} {task : TaskSummary} (h : p.stale task = false) :
    (p.observe task).2.detail = p.detail ∧
      (p.selectedId ≠ some task.id → (p.observe task).2.detailStale = p.detailStale) ∧
      (p.selectedId = some task.id → (p.observe task).2.detailStale = false →
        ∀ d, p.detail = some d → task.version ≤ d.summary.version) := by
  have hoverlay : (p.keepOverlay task).detail = p.detail ∧
      (p.keepOverlay task).detailStale = p.detailStale ∧
      (p.keepOverlay task).selectedId = p.selectedId ∧
      (p.keepOverlay task).selectedSummary = p.selectedSummary := by
    unfold TaskPage.keepOverlay
    split
    · split <;> exact ⟨rfl, rfl, rfl, rfl⟩
    · exact ⟨rfl, rfl, rfl, rfl⟩
  have hrow : ∀ q : TaskPage, (q.keepRow task).detail = q.detail ∧
      (q.keepRow task).detailStale = q.detailStale := by
    intro q
    unfold TaskPage.keepRow
    split
    · split <;> exact ⟨rfl, rfl⟩
    · exact ⟨rfl, rfl⟩
  obtain ⟨hdetail, hstale, hid, hsummary⟩ := hoverlay
  simp only [TaskPage.observe, h, Bool.false_eq_true, ↓reduceIte]
  rw [(hrow _).1, (hrow _).2]
  unfold TaskPage.keepSelected
  rw [hid]
  by_cases hsel : p.selectedId = some task.id
  · rw [if_pos hsel]
    refine ⟨(observeSelected_detail _ _).trans hdetail, fun hne => absurd hsel hne,
      fun _ hfresh d hd => observeSelected_shown ?_ hfresh (hdetail.trans hd)⟩
    rw [hsummary]
    exact (TaskPage.stale_false.mp h).2.1
  · rw [if_neg hsel]
    exact ⟨hdetail, fun _ => hstale, fun heq => absurd heq hsel⟩

/-- A stale summary is older than the selected one of its task. -/
theorem Fresh.stale_selected (h : Fresh f) {task x : TaskSummary}
    (hstale : f.page.stale task = true) (hid : f.page.selectedId = some task.id)
    (hx : f.page.selectedSummary = some x) (hnewest : NewestSeen f.seen task.id x.version) :
    task.version ≤ x.version := by
  obtain ⟨old, hold | ⟨hold, -⟩ | hold, hlt⟩ := TaskPage.stale_true.mp hstale
  · have hsame := h.tracked.selectedRow _ old hid hold
    rw [hx] at hsame
    exact Option.some.inj hsame ▸ hlt.le
  · rw [hx] at hold
    exact Option.some.inj hold ▸ hlt.le
  · obtain ⟨hoid, hmem⟩ := h.tracked.overlays _ _ hold
    exact hlt.le.trans (hnewest old hmem hoid)

/-- An observation keeps the selected summary newest. The task may just have been selected without
being listed. -/
theorem Fresh.of_observed (htracked : Tracked f) {task : TaskSummary}
    (hafter : Tracked { f with page := (f.page.observe task).2, seen := task :: f.seen })
    (howner : ∀ d, f.page.detail = some d → f.page.selectedId = some d.summary.id)
    (hshown : f.page.detailStale = false → ∀ d x, f.page.detail = some d →
      f.page.selectedSummary = some x → x.version ≤ d.summary.version)
    (hstale : f.page.stale task = false)
    (hnewest : ∀ id, f.page.selectedId = some id → (∃ x, f.page.selectedSummary = some x ∧
        NewestSeen f.seen id x.version) ∨ (id = task.id ∧ NewestSeen f.seen id task.version)) :
    Fresh { f with page := (f.page.observe task).2, seen := task :: f.seen } := by
  obtain ⟨-, -, hid, hsummary, -, -, -⟩ := TaskPage.observe_fresh hstale
  obtain ⟨hdetail, hkept, hmarked⟩ := observe_detail hstale
  refine ⟨hafter, fun id hsel => ?_, fun d hd => ?_, fun hfresh d x hd hx => ?_⟩
  · dsimp only at hsel ⊢
    rw [hid] at hsel
    rw [hsummary]
    by_cases heq : f.page.selectedId = some task.id
    · rw [if_pos heq]
      obtain rfl := Option.some.inj (hsel.symm.trans heq)
      refine ⟨task, rfl, NewestSeen.cons ?_ fun _ => le_rfl⟩
      rcases hnewest _ heq with ⟨x, hx, hall⟩ | ⟨-, hall⟩
      · have hxid := Option.some.inj ((htracked.selection x hx).symm.trans heq)
        exact hall.mono ((TaskPage.stale_false.mp hstale).2.1 x hx hxid)
      · exact hall
    · rw [if_neg heq]
      rcases hnewest id hsel with ⟨x, hx, hall⟩ | ⟨rfl, -⟩
      · exact ⟨x, hx, hall.cons fun htask => absurd (htask ▸ hsel) heq⟩
      · exact absurd hsel heq
  · dsimp only at hd ⊢
    rw [hdetail] at hd
    rw [hid]
    exact howner d hd
  · dsimp only at hfresh hd hx
    rw [hdetail] at hd
    rw [hsummary] at hx
    by_cases heq : f.page.selectedId = some task.id
    · rw [if_pos heq] at hx
      obtain rfl := Option.some.inj hx
      exact hmarked heq hfresh d hd
    · rw [if_neg heq] at hx
      exact hshown (hkept heq ▸ hfresh) d x hd hx

theorem Fresh.observe (h : Fresh f) {task : TaskSummary}
    (hafter : Tracked { f with page := (f.page.observe task).2, seen := task :: f.seen }) :
    Fresh { f with page := (f.page.observe task).2, seen := task :: f.seen } := by
  cases hstale : f.page.stale task with
  | false =>
    exact .of_observed h.tracked hafter h.owner h.shown hstale fun id hid => .inl (h.newest id hid)
  | true =>
    rw [TaskPage.observe_stale hstale] at hafter ⊢
    refine ⟨hafter, fun id hsel => ?_, h.owner, h.shown⟩
    obtain ⟨x, hx, hall⟩ := h.newest id hsel
    refine ⟨x, hx, hall.cons fun htask => ?_⟩
    subst htask
    exact h.stale_selected hstale hsel hx hall

theorem select_other {p : TaskPage} {id : Option ℕ} (h : p.selectedId ≠ id) :
    (p.select id).selectedId = id ∧ (p.select id).selectedSummary = id.bind p.rows.get? ∧
      (p.select id).detail = none := by
  simp [TaskPage.select, h]

theorem Fresh.select (h : Fresh f) {id : Option ℕ}
    (hlisted : ∀ i, id = some i → ∃ row, f.page.rows.get? i = some row) :
    Fresh { f with page := f.page.select id } := by
  by_cases hsame : f.page.selectedId = id
  · have heq : f.page.select id = f.page := by simp [TaskPage.select, hsame]
    rw [heq]
    exact h
  · obtain ⟨hid, hsummary, hdetail⟩ := select_other hsame
    refine ⟨h.tracked.select id, fun i hi => ?_, fun d hd => ?_, fun _ d x hd => ?_⟩
    · dsimp only at hi ⊢
      rw [hid] at hi
      obtain ⟨row, hrow⟩ := hlisted i hi
      refine ⟨row, by rw [hsummary, hi]; exact hrow, (h.tracked.rows i row hrow).2.2⟩
    · rw [hdetail] at hd
      cases hd
    · rw [hdetail] at hd
      cases hd

theorem Fresh.applyPage (h : Fresh f) {revision : ℕ} {reply : ListReply}
    (hanswer : (f.requests revision).Answered reply)
    (hearlier : f.page.awaits revision = true → reply.Knows (f.requests revision).listed) :
    Fresh { f with
      page := (f.page.applyPage revision reply.tasks reply.nextCursor reply.hasMore).2
      listed := f.listedAfter (.applyPage revision reply) } := by
  have htracked := h.tracked.applyPage hanswer hearlier
  rcases applyPage_cases f.page revision reply with ⟨-, heq⟩ | ⟨rfl, hflight, heq⟩
  · rw [heq] at htracked ⊢
    exact h.of_frame htracked rfl rfl rfl rfl .inl
  rw [heq] at htracked ⊢
  dsimp only at htracked ⊢
  generalize hq : f.page.withRows reply.tasks reply.nextCursor reply.hasMore = q at htracked ⊢
  have hid : q.selectedId = f.page.selectedId := by rw [← hq]; rfl
  have hsummary : q.selectedSummary = f.page.selectedSummary := by rw [← hq]; rfl
  have hdetail : q.detail = f.page.detail := by rw [← hq]; rfl
  have hstale : q.detailStale = f.page.detailStale := by rw [← hq]; rfl
  have hrows : q.followSelection.rows = q.rows := (TaskPage.followSelection_sameList q).rows
  cases hsel : q.selectedId with
  | none =>
    have hnone : f.page.detail = none := by
      cases hd : f.page.detail with
      | none => rfl
      | some d =>
        have howner := h.owner d hd
        rw [← hid, hsel] at howner
        cases howner
    have hfollow : q.followSelection = q.select q.rows.firstKey? := by
      simp [TaskPage.followSelection, hsel]
    by_cases hfirst : q.rows.firstKey? = none
    · refine .of_none htracked ?_ ?_
      all_goals
        dsimp only
        rw [hfollow, hfirst]
        simp [TaskPage.select, hsel, hdetail, hnone]
    · have hother : q.selectedId ≠ q.rows.firstKey? := by
        rw [hsel]
        exact Ne.symm hfirst
      obtain ⟨hid', hsummary', hdetail'⟩ := select_other hother
      refine ⟨htracked, fun i hi => ?_, fun d hd => ?_, fun _ d x hd => ?_⟩
      · dsimp only at hi ⊢
        rw [hfollow, hid'] at hi
        obtain ⟨row, hrow⟩ := Table.get?_firstKey hi
        refine ⟨row, by rw [hfollow, hsummary', hi]; exact hrow, ?_⟩
        exact (htracked.rows i row (hrows ▸ hrow)).2.2
      · dsimp only at hd
        rw [hfollow, hdetail'] at hd
        cases hd
      · dsimp only at hd
        rw [hfollow, hdetail'] at hd
        cases hd
  | some id =>
    cases hrow : q.rows.get? id with
    | none =>
      have hfollow : q.followSelection = q := by
        simp [TaskPage.followSelection, hsel, hrow]
      refine h.of_frame htracked rfl ?_ ?_ ?_ fun hfresh => .inl ?_
      · exact (congrArg TaskPage.selectedId hfollow).trans hid
      · exact (congrArg TaskPage.selectedSummary hfollow).trans hsummary
      · exact (congrArg TaskPage.detail hfollow).trans hdetail
      · rw [← hstale, ← hfollow]
        exact hfresh
    | some task =>
      have hfollow : q.followSelection = q.observeSelected task := by
        simp [TaskPage.followSelection, hsel, hrow]
      have hkept := TaskPage.observeSelected_selectedId q task
      have hset : (q.observeSelected task).selectedSummary = some task := by
        have hselected := htracked.selectedRow id task
        dsimp only at hselected
        rw [hfollow, hkept] at hselected
        exact hselected hsel (by rw [← hrow, ← hrows, hfollow])
      have hold : ∀ old, q.selectedSummary = some old → old.id = task.id →
          old.version ≤ task.version := by
        intro old hold _
        by_contra hlt
        have hnewer : newerThan (q.selectedOf task.id) task = true := by
          refine newerThan_iff.mpr ⟨old, ?_, Nat.lt_of_not_le hlt⟩
          simp only [TaskPage.selectedOf, Option.filter_eq_some_iff, decide_eq_true_eq]
          exact ⟨hold, ‹_›⟩
        simp only [TaskPage.observeSelected, hnewer, ↓reduceIte] at hset
        rw [hold] at hset
        exact hlt (Option.some.inj hset ▸ le_rfl)
      refine ⟨htracked, fun i hi => ?_, fun d hd => ?_, fun hfresh d x hd hx => ?_⟩
      · dsimp only at hi ⊢
        rw [hfollow, hkept, hsel] at hi
        obtain rfl := Option.some.inj hi
        exact ⟨task, by rw [hfollow, hset], (htracked.rows id task (hrows ▸ hrow)).2.2⟩
      · dsimp only at hd ⊢
        rw [hfollow, observeSelected_detail, hdetail] at hd
        rw [hfollow, hkept, hid]
        exact h.owner d hd
      · dsimp only at hfresh hd hx
        rw [hfollow, observeSelected_detail] at hd
        rw [hfollow] at hfresh
        rw [hfollow, hset] at hx
        obtain rfl := Option.some.inj hx
        exact observeSelected_shown hold hfresh hd

/-- A detail that is taken becomes the newest summary of the selected task. -/
theorem Fresh.taken (h : Fresh f) {revision : ℕ} {detail : TaskDetail}
    (htakes : f.page.takesDetail revision detail = true)
    (hafter : Tracked { f with page := (f.page.observe detail.summary).2
                               seen := detail.summary :: f.seen }) :
    Fresh { f with page := (f.page.applyDetail revision detail).2
                   seen := detail.summary :: f.seen } := by
  have hobserved := h.observe hafter
  rw [applyDetail_taken htakes]
  simp only [TaskPage.takesDetail, Bool.and_eq_true, decide_eq_true_eq, Bool.not_eq_true',
    newerThan_false] at htakes
  obtain ⟨⟨⟨-, hid⟩, hsummary⟩, hrow⟩ := htakes
  obtain ⟨x, hx, hnewest⟩ := h.newest _ hid
  have hstale : f.page.stale detail.summary = false := by
    refine TaskPage.stale_false.mpr ⟨hrow, fun old hold _ => hsummary old hold, fun o ho => ?_⟩
    obtain ⟨hoid, hmem⟩ := h.tracked.overlays _ _ ho
    exact (hnewest o hmem hoid).trans (hsummary x hx)
  obtain ⟨-, -, hid', hsummary', -, -, -⟩ := TaskPage.observe_fresh hstale
  refine ⟨hafter.of_selection ⟨rfl, rfl, rfl, rfl, rfl⟩ rfl rfl rfl rfl rfl, hobserved.newest,
    fun d hd => ?_, fun _ d x hd hx => ?_⟩
  · obtain rfl := Option.some.inj hd
    exact hid'.trans hid
  · obtain rfl := Option.some.inj hd
    dsimp only at hx
    rw [hsummary', if_pos hid] at hx
    exact Option.some.inj hx ▸ le_rfl

/-- What was observed matters, not how often. -/
theorem Tracked.of_seen (h : Tracked f) {seen : List TaskSummary}
    (hseen : ∀ s, s ∈ seen ↔ s ∈ f.seen) : Tracked { f with seen } where
  rows id row hrow := by
    obtain ⟨hid, haccepts, hnewest⟩ := h.rows id row hrow
    exact ⟨hid, haccepts, fun s hs => hnewest s ((hseen s).mp hs)⟩
  origin x hx := (h.origin x hx).imp_left (hseen x).mpr
  overlays id o ho := ⟨(h.overlays id o ho).1, (hseen o).mpr (h.overlays id o ho).2⟩
  selection := h.selection
  selectedRow := h.selectedRow
  filter := h.filter
  listed := h.listed
  covered hflight s hs := h.covered hflight s ((hseen s).mp hs)
  fresh hflight id o ho s hs := h.fresh hflight id o ho s ((hseen s).mp hs)
  topRow := h.topRow
  topSelected := h.topSelected
  idle := h.idle
  known x hx := (h.known x hx).imp_left (hseen x).mpr

theorem Fresh.of_seen (h : Fresh f) {seen : List TaskSummary} (hseen : ∀ s, s ∈ seen ↔ s ∈ f.seen) :
    Fresh { f with seen } where
  tracked := h.tracked.of_seen hseen
  newest id hid := by
    obtain ⟨x, hx, hnewest⟩ := h.newest id hid
    exact ⟨x, hx, fun s hs => hnewest s ((hseen s).mp hs)⟩
  owner := h.owner
  shown := h.shown

theorem observe_inFlight {p : TaskPage} {task : TaskSummary}
    (h : (p.observe task).2.listInFlight = true) : p.listInFlight = true := by
  cases hstale : p.stale task with
  | true => rwa [TaskPage.observe_stale hstale] at h
  | false =>
    rw [(TaskPage.observe_fresh hstale).2.2.2.2.2.1] at h
    rcases TaskPage.keepOverlay_cases p task with ⟨hoff, -⟩ | ⟨hon, -, -, -⟩ | ⟨-, hsame⟩
    · rw [hoff] at h
      cases h
    · exact hon
    · rwa [hsame] at h

/-- A summary observed a second time. -/
theorem Tracked.observe_again {task : TaskSummary}
    (h : Tracked { f with page := (f.page.observe task).2, seen := task :: f.seen })
    (horder : f.Remembers task) :
    Tracked { f with page := ((f.page.observe task).2.observe task).2
                     seen := task :: task :: f.seen } := by
  refine h.observe fun hflight hlate => ?_
  have hbefore : ∃ s ∈ f.seen, s.id = task.id ∧ task.version < s.version := by
    obtain ⟨s, hs, hid, hlt⟩ := hlate
    rcases List.mem_cons.mp hs with rfl | hs
    · exact absurd hlt (lt_irrefl _)
    · exact ⟨s, hs, hid, hlt⟩
  -- The page held a newer summary already, so the first observation left it as it was.
  have hheld := horder (observe_inFlight hflight) hbefore
  dsimp only
  rw [TaskPage.observe_stale (TaskPage.stale_true.mpr hheld)]
  exact hheld

theorem Fresh.setFilter (h : Fresh f) (filter : TaskFilter) :
    Fresh { f with page := f.page.setFilter filter } := by
  refine .of_none (h.tracked.setFilter filter) ?_ ?_
  all_goals
    unfold TaskPage.setFilter TaskPage.select TaskPage.invalidateReads
    dsimp only
    split
  · assumption
  · rfl
  · next hnone =>
    cases hd : f.page.detail with
    | none => rfl
    | some d =>
      have howner := h.owner d hd
      rw [hnone] at howner
      cases howner
  · rfl

theorem Fresh.step (h : Fresh f) {op : TaskOp} (hfair : f.Fair op) (horder : f.Orderly op) :
    Fresh (f.step op) := by
  have htracked := h.tracked.step hfair horder
  cases op with
  | observe task => exact h.observe htracked
  | applyPage revision reply => exact h.applyPage hfair (horder.2 revision reply rfl)
  | failLoad revision =>
    have hpage : (f.page.failLoad revision).selectedId = f.page.selectedId ∧
        (f.page.failLoad revision).selectedSummary = f.page.selectedSummary ∧
        (f.page.failLoad revision).detail = f.page.detail ∧
        (f.page.failLoad revision).detailStale = f.page.detailStale := by
      unfold TaskPage.failLoad
      split <;> exact ⟨rfl, rfl, rfl, rfl⟩
    exact h.of_frame htracked rfl hpage.1 hpage.2.1 hpage.2.2.1
      fun hfresh => .inl (hpage.2.2.2 ▸ hfresh)
  | applyDetail revision detail =>
    cases htakes : f.page.takesDetail revision detail with
    | true =>
      have hseen : (TaskOp.applyDetail revision detail).observed f.page = [detail.summary] := by
        simp [TaskOp.observed, htakes]
      have hafter := h.tracked.observe (horder.1 detail.summary (by rw [hseen]; simp))
      have htaken := h.taken htakes hafter
      have hstep : f.step (.applyDetail revision detail) =
          { f with page := (f.page.applyDetail revision detail).2
                   seen := detail.summary :: f.seen } := by
        simp [TaskFeed.step, TaskPage.perform, TaskFeed.listedAfter, hseen]
      rw [hstep]
      exact htaken
    | false =>
      have hseen : (TaskOp.applyDetail revision detail).observed f.page = [] := by
        simp [TaskOp.observed, htakes]
      have hpage : (f.page.applyDetail revision detail).2.selectedId = f.page.selectedId ∧
          (f.page.applyDetail revision detail).2.selectedSummary = f.page.selectedSummary ∧
          (f.page.applyDetail revision detail).2.detail = f.page.detail ∧
          ((f.page.applyDetail revision detail).2.detailStale = false →
            f.page.detailStale = false) := by
        rcases applyDetail_refused htakes with heq | heq
        all_goals rw [heq]
        · exact ⟨rfl, rfl, rfl, fun hfresh => hfresh⟩
        · exact ⟨rfl, rfl, rfl, fun hfresh => by cases hfresh⟩
      refine h.of_frame htracked ?_ hpage.1 hpage.2.1 hpage.2.2.1
        fun hfresh => .inl (hpage.2.2.2 hfresh)
      simp [TaskFeed.step, hseen]
  | select id =>
    refine h.select fun i hi => ?_
    exact (Table.contains_iff _ _).mp (hfair i hi)
  | selectRelative delta =>
    have hselect : ∃ id, f.page.selectRelative delta = f.page.select id ∧
        ∀ i, id = some i → ∃ row, f.page.rows.get? i = some row := by
      unfold TaskPage.selectRelative
      dsimp only
      split
      · exact ⟨none, rfl, fun i hi => by cases hi⟩
      · refine ⟨_, rfl, fun i hi => ?_⟩
        exact (Table.mem_sortedKeys _ _).mp (List.mem_of_getElem? hi)
    obtain ⟨id, hid, hlisted⟩ := hselect
    have hnext := h.select hlisted
    rw [← hid] at hnext
    exact hnext
  | setFilter filter => exact h.setFilter filter
  | invalidateReads =>
    refine h.of_frame htracked rfl rfl rfl rfl fun hfresh => .inr ?_
    exact Option.isSome_eq_false_iff.mp hfresh |> Option.isNone_iff_eq_none.mp
  | applyHistory revision page =>
    have hpage : (f.page.applyHistory revision page).2.selectedId = f.page.selectedId ∧
        (f.page.applyHistory revision page).2.selectedSummary = f.page.selectedSummary ∧
        (f.page.applyHistory revision page).2.detail = f.page.detail ∧
        (f.page.applyHistory revision page).2.detailStale = f.page.detailStale := by
      unfold TaskPage.applyHistory
      split <;> exact ⟨rfl, rfl, rfl, rfl⟩
    exact h.of_frame htracked rfl hpage.1 hpage.2.1 hpage.2.2.1
      fun hfresh => .inl (hpage.2.2.2 ▸ hfresh)
  | beginLoad stamp | beginDetailLoad stamp | beginHistoryLoad stamp | nextPage | previousPage =>
    exact h.of_frame htracked rfl rfl rfl rfl .inl

end TaskFeed

/-- The console with the record of what it observed of the tasks. -/
structure ConsoleFeed where
  ui : UiState := {}
  seen : List TaskSummary := []
  listed : List TaskSummary := []
  requests : ℕ → ListRequest := fun _ => {}
  details : ℕ → List TaskSummary := fun _ => []

/-- The operations on the task list, the receipts of mutations, and the mutations themselves as
the forms change them. -/
inductive ConsoleOp where
  | task (op : TaskOp)
  | receipt (stamp : WorkspaceStamp) (receipt : TaskMutationResult)
  | mutation (mutation : Option PreparedMutation)

namespace ConsoleFeed

def tasks (f : ConsoleFeed) : TaskFeed :=
  { page := f.ui.tasks
    seen := f.seen
    listed := f.listed
    requests := f.requests
    details := f.details }

/-- The receipt is for the mutation of the console. -/
def takesReceipt (f : ConsoleFeed) (stamp : WorkspaceStamp) (receipt : TaskMutationResult) : Bool :=
  match (f.ui.applyReceipt stamp receipt).1 with
  | .ok taken => taken
  | .error _ => false

def created (f : ConsoleFeed) : Bool := f.ui.mutation.any fun m => m.kind = .taskCreate

def step (f : ConsoleFeed) : ConsoleOp → ConsoleFeed
  | .task op =>
    { ui := { f.ui with tasks := (f.tasks.step op).page }
      seen := (f.tasks.step op).seen
      listed := (f.tasks.step op).listed
      requests := (f.tasks.step op).requests
      details := (f.tasks.step op).details }
  | .receipt stamp receipt =>
    { f with
      ui := (f.ui.applyReceipt stamp receipt).2
      seen := if f.takesReceipt stamp receipt then receipt.task.summary :: f.seen else f.seen }
  | .mutation mutation => { f with ui := { f.ui with mutation } }

def Fair (f : ConsoleFeed) : ConsoleOp → Prop
  | .task op => f.tasks.Fair op
  | _ => True

/-- The list before the summary of a receipt is observed. -/
def receiving (f : ConsoleFeed) (task : TaskDetail) : TaskPage :=
  if f.created then f.ui.tasks.select (some task.summary.id) else f.ui.tasks

/-- No late summary finds its task forgotten by the list, no page goes back behind an earlier one,
and the receipt of a creation selects a task that is selected, listed or not known at a newer
version. -/
def Timely (f : ConsoleFeed) : ConsoleOp → Prop
  | .task op => f.tasks.Orderly op
  | .receipt stamp receipt => f.takesReceipt stamp receipt = true →
    TaskFeed.Remembers { f.tasks with page := f.receiving receipt.task } receipt.task.summary ∧
    (f.created = true → f.ui.tasks.selectedId ≠ some receipt.task.summary.id →
      f.ui.tasks.rows.contains receipt.task.summary.id = false →
      NewestSeen f.seen receipt.task.summary.id receipt.task.summary.version)
  | .mutation _ => True

/-- The states of one workspace generation that fair operations lead to, when every operation is
also `allowed`. -/
inductive Run (allowed : ConsoleFeed → ConsoleOp → Prop) : ConsoleFeed → Prop
  | start {ui : UiState} (h : ui.tasks = {}) : Run allowed { ui }
  | step {f : ConsoleFeed} {op : ConsoleOp} (h : Run allowed f) (hfair : f.Fair op)
      (hallowed : allowed f op) : Run allowed (f.step op)

variable {f : ConsoleFeed}

/-- A receipt is refused and changes nothing, or it is taken into the list. -/
theorem applyReceipt_cases (s : UiState) (stamp : WorkspaceStamp) (receipt : TaskMutationResult) :
    (∃ r, s.applyReceipt stamp receipt = (r, s) ∧ r ≠ .ok true) ∨
    ∃ s', s.applyReceipt stamp receipt = (.ok true, s') ∧
      s'.tasks = UiState.receiveTask s.tasks (s.mutation.any fun m => m.kind = .taskCreate)
        receipt.task := by
  unfold UiState.applyReceipt
  split
  · exact .inl ⟨_, rfl, by simp⟩
  · split
    · exact .inl ⟨_, rfl, by simp⟩
    · next mutation hmutation =>
      cases hreceipt : mutation.receipt receipt with
      | error e => exact .inl ⟨_, rfl, by simp⟩
      | ok mutation' =>
        have hkind : mutation'.kind = mutation.kind := by
          unfold PreparedMutation.receipt at hreceipt
          split at hreceipt
          · cases hreceipt
          · cases hreceipt
            rfl
        refine .inr ⟨_, rfl, ?_⟩
        simp only [hmutation, Option.any_some, hkind]

theorem applyReceipt_taken {stamp : WorkspaceStamp} {receipt : TaskMutationResult}
    (h : f.takesReceipt stamp receipt = true) :
    (f.ui.applyReceipt stamp receipt).2.tasks =
      UiState.receiveTask f.ui.tasks f.created receipt.task := by
  unfold takesReceipt at h
  rcases applyReceipt_cases f.ui stamp receipt with ⟨r, heq, hne⟩ | ⟨s', heq, htasks⟩
  · rw [heq] at h
    dsimp only at h
    split at h
    · exact absurd (congrArg Except.ok h) hne
    · cases h
  · rw [heq]
    exact htasks

theorem applyReceipt_refused {stamp : WorkspaceStamp} {receipt : TaskMutationResult}
    (h : f.takesReceipt stamp receipt = false) :
    (f.ui.applyReceipt stamp receipt).2 = f.ui := by
  unfold takesReceipt at h
  rcases applyReceipt_cases f.ui stamp receipt with ⟨r, heq, -⟩ | ⟨s', heq, -⟩
  · rw [heq]
  · rw [heq] at h
    cases h

/-- The summary of a receipt is observed after a created task was selected. -/
theorem fresh_received (h : f.tasks.Fresh) {task : TaskDetail}
    (htracked : TaskFeed.Tracked { f.tasks with
      page := ((f.receiving task).observe task.summary).2
      seen := task.summary :: f.seen })
    (hcreated : f.created = true → f.ui.tasks.selectedId ≠ some task.summary.id →
      f.ui.tasks.rows.contains task.summary.id = false →
      NewestSeen f.seen task.summary.id task.summary.version) :
    TaskFeed.Fresh { f.tasks with
      page := ((f.receiving task).observe task.summary).2
      seen := task.summary :: f.seen } := by
  unfold receiving at htracked ⊢
  by_cases hkind : f.created = true
  swap
  · rw [if_neg hkind] at htracked ⊢
    exact h.observe htracked
  rw [if_pos hkind] at htracked ⊢
  by_cases hsel : f.ui.tasks.selectedId = some task.summary.id
  · have hsame : f.ui.tasks.select (some task.summary.id) = f.ui.tasks := by
      simp [TaskPage.select, hsel]
    rw [hsame] at htracked ⊢
    exact h.observe htracked
  cases hrow : f.ui.tasks.rows.get? task.summary.id with
  | some row =>
    have hlisted : ∀ i, some task.summary.id = some i →
        ∃ row, f.tasks.page.rows.get? i = some row :=
      fun i hi => ⟨row, Option.some.inj hi ▸ hrow⟩
    exact (h.select hlisted).observe htracked
  | none =>
    -- Nothing is held of the task, so only the observations tell how new the receipt is.
    have hnewest := hcreated hkind hsel (by simp [Table.contains, hrow])
    obtain ⟨hid, hsummary, hdetail⟩ := TaskFeed.select_other hsel
    have hsame := TaskPage.select_sameList f.ui.tasks (some task.summary.id)
    have hnone : (f.ui.tasks.select (some task.summary.id)).selectedSummary = none := by
      rw [hsummary]
      exact hrow
    refine .of_observed (h.tracked.select _) htracked (fun d hd => ?_) (fun _ d x hd => ?_) ?_ ?_
    · cases hdetail.symm.trans hd
    · cases hdetail.symm.trans hd
    · refine TaskPage.stale_false.mpr ⟨fun old hold => ?_, fun old hold => ?_, fun o ho => ?_⟩
      · cases hrow.symm.trans ((congrArg (Table.get? · task.summary.id) hsame.rows).symm.trans hold)
      · cases hnone.symm.trans hold
      · obtain ⟨hoid, hmem⟩ := h.tracked.overlays task.summary.id o
          ((congrArg (Table.get? · task.summary.id) hsame.overlays).symm.trans ho)
        exact hnewest o hmem hoid
    · intro id hi
      obtain rfl := Option.some.inj (hid.symm.trans hi)
      exact .inr ⟨rfl, hnewest⟩

/-- A receipt keeps the shown detail current. -/
theorem fresh_receipt (h : f.tasks.Fresh) {stamp : WorkspaceStamp} {receipt : TaskMutationResult}
    (htimely : f.Timely (.receipt stamp receipt)) :
    (f.step (.receipt stamp receipt)).tasks.Fresh := by
  cases htakes : f.takesReceipt stamp receipt with
  | false =>
    have heq : (f.step (.receipt stamp receipt)).tasks = f.tasks := by
      simp [step, tasks, htakes, applyReceipt_refused htakes]
    rw [heq]
    exact h
  | true =>
    obtain ⟨horder, hcreated⟩ := htimely htakes
    generalize htask : receipt.task = task at horder hcreated
    have heq : (f.step (.receipt stamp receipt)).tasks =
        { f.tasks with page := UiState.receiveTask f.ui.tasks f.created task
                       seen := task.summary :: f.seen } := by
      simp [step, tasks, htakes, applyReceipt_taken htakes, htask]
    rw [heq]
    have hselected : TaskFeed.Tracked { f.tasks with page := f.receiving task } := by
      unfold receiving
      split
      · exact h.tracked.select _
      · exact h.tracked
    have htracked := hselected.observe horder
    have hagain := htracked.observe_again horder
    have hfresh := fresh_received h htracked hcreated
    have hreceived : UiState.receiveTask f.ui.tasks f.created task =
        if ((f.receiving task).observe task.summary).2.selectedId = some task.summary.id then
          (((f.receiving task).observe task.summary).2.applyDetail
            ((f.receiving task).observe task.summary).2.detailRevision task).2
        else ((f.receiving task).observe task.summary).2 := rfl
    rw [hreceived]
    generalize hp : ((f.receiving task).observe task.summary).2 = p at hfresh hagain
    split
    · cases htaken : p.takesDetail p.detailRevision task with
      | true =>
        refine (hfresh.taken htaken hagain).of_seen fun s => ?_
        simp
      | false =>
        rcases TaskFeed.applyDetail_refused htaken with hnext | hnext
        · rw [hnext]
          exact hfresh
        · rw [hnext]
          refine hfresh.of_frame (hfresh.tracked.of_selection ⟨rfl, rfl, rfl, rfl, rfl⟩ rfl rfl rfl
            rfl rfl) rfl rfl rfl rfl fun hstale => by cases hstale
    · exact hfresh

theorem Run.fresh (h : Run Timely f) : f.tasks.Fresh := by
  induction h with
  | @start ui hui =>
    refine .of_none ?_ (by simp [tasks, hui]) (by simp [tasks, hui])
    refine .of_idle (fun id row hrow => ?_) (fun x hx => ?_) (by simp [tasks, hui])
      (by simp [tasks, hui]) (fun x hx => ?_) (fun id row hid => ?_) fun x hx => ?_
    · simp only [tasks, hui, Table.get?_empty] at hrow
      cases hrow
    · simp [tasks, hui, Table.get?_empty] at hx
    · simp only [tasks, hui] at hx
      cases hx
    · simp only [tasks, hui] at hid
      cases hid
    · simp only [tasks, hui] at hx
      cases hx
  | @step f op _ hfair htimely ih =>
    cases op with
    | task op => exact ih.step hfair htimely
    | receipt stamp receipt => exact fresh_receipt ih htimely
    | mutation m => exact ih

/-- In every run in which the receipt of a creation does not come after a newer version of an
unlisted task, what is shown as fresh is the newest version observed. -/
theorem detail_current_of_timely (h : Run Timely f) : f.tasks.DetailCurrent :=
  h.fresh.detailCurrent

/-- The detail of a created task. -/
def sampleDetail (version : ℕ) : TaskDetail where
  summary := TaskFeed.sampleTask 7 version .todo
  description := ""
  createdBy := "admin"
  updatedBy := "admin"
  currentAttempt := none
  lastAttempt := none
  checkpoint := none
  result := none
  links := []
  externalOperations := []

/-- The receipt of the creation of a task, at its first version. -/
def sampleReceipt : TaskMutationResult where
  operationId := ⟨5⟩
  appliedVersion := 1
  reportId := none
  task := sampleDetail 1

/-- A console that waits for the receipt. -/
def creating : ConsoleFeed where
  ui :=
    { workspace := some TaskFeed.sampleStamp.workspace
      generation := 1
      mutation := some
        { stamp := TaskFeed.sampleStamp
          kind := .taskCreate
          requestId := "r"
          operationId := some ⟨5⟩
          message := .taskCreate "r" TaskFeed.sampleStamp.workspace ⟨5⟩ "task" ""
          baseline := none
          stage := .inFlight
          currentVersion := none } }

/-- The receipt comes between the two events of its task, under a list that is on its way. -/
def edited : ConsoleFeed :=
  (((creating.step (.task (.beginLoad TaskFeed.sampleStamp))).step
    (.task (.observe (TaskFeed.sampleTask 7 1 .todo)))).step
      (.receipt TaskFeed.sampleStamp sampleReceipt)).step
        (.task (.observe (TaskFeed.sampleTask 7 2 .todo)))

theorem edited_run : Run Timely edited := by
  have hfirst : ∀ {f : TaskFeed} {task : TaskSummary}, (∀ s ∈ f.seen, s.version ≤ task.version) →
      f.Remembers task := by
    rintro f task hold - ⟨s, hs, -, hlt⟩
    exact absurd hlt (Nat.not_lt_of_le (hold s hs))
  refine .step (.step (.step (.step (.start rfl) trivial ?_) trivial ?_) trivial ?_) trivial ?_
  · exact TaskFeed.orderly_of_quiet rfl nofun
  · refine ⟨fun task htask => hfirst ?_, nofun⟩
    obtain rfl := List.mem_singleton.mp htask
    decide
  · refine fun _ => ⟨hfirst (by decide), fun _ _ _ => ?_⟩
    unfold NewestSeen
    decide
  · refine ⟨fun task htask => hfirst ?_, nofun⟩
    obtain rfl := List.mem_singleton.mp htask
    decide

/-- The second event makes the detail of the receipt stale, and the next one loaded is fresh. -/
theorem detail_current_sample :
    edited.tasks.page.detailStale = true ∧
      let f := (edited.step (.task (.beginDetailLoad TaskFeed.sampleStamp))).step
        (.task (.applyDetail 2 (sampleDetail 2)))
      f.tasks.DetailCurrent ∧ f.tasks.page.detail = some (sampleDetail 2) ∧
        f.tasks.page.detailStale = false := by
  refine ⟨by decide, detail_current_of_timely (.step (.step edited_run trivial ?_) ?_ ?_),
    by decide, by decide⟩
  · exact TaskFeed.orderly_of_quiet rfl nofun
  · show NewestSeen _ _ _
    unfold NewestSeen
    decide
  · refine ⟨fun task htask _ hlate => ?_, nofun⟩
    obtain ⟨s, hs, -, hlt⟩ := hlate
    have hseen : ∀ s ∈ edited.seen, s.version ≤ 2 := by decide
    have htaken : TaskOp.observed (edited.step
        (.task (.beginDetailLoad TaskFeed.sampleStamp))).tasks.page
        (.applyDetail 2 (sampleDetail 2)) = [TaskFeed.sampleTask 7 2 .todo] := by decide
    rw [htaken, List.mem_singleton] at htask
    subst htask
    exact absurd hlt (Nat.not_lt_of_le (hseen s hs))

/-- The task is created and edited by another operator. Both events are applied before the receipt
of the creation, whose first version is then shown as fresh. -/
theorem detail_current_fails :
    ∃ f, Run (fun _ _ => True) f ∧ ¬ f.tasks.DetailCurrent := by
  refine ⟨((creating.step (.task (.observe (TaskFeed.sampleTask 7 1 .todo)))).step
    (.task (.observe (TaskFeed.sampleTask 7 2 .todo)))).step
    (.receipt TaskFeed.sampleStamp sampleReceipt), ?_, fun hcurrent => ?_⟩
  · exact .step (.step (.step (.start rfl) trivial trivial) trivial trivial) trivial trivial
  · have hnewest := hcurrent (by decide) sampleReceipt.task (by decide)
    exact absurd (hnewest (TaskFeed.sampleTask 7 2 .todo) (by decide) rfl) (by decide)

end ConsoleFeed

end SessionRouter
