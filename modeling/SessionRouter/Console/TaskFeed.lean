import SessionRouter.Console.Tasks

/-!
What the console shows of the tasks against what it has observed of them. A list page and the
summaries that arrive beside it are ordered by the versions of the tasks alone, so every row is
followed through the operations of the page together with the record of the observations.
-/

namespace SessionRouter

/-- What a list load was begun with: the versions observed until then, those that earlier pages
listed, and the page asked for. -/
structure ListRequest where
  seen : List TaskSummary := []
  listed : List TaskSummary := []
  filter : TaskFilter := {}
  after : Option ℕ := none

/-- The reply to a list load: the tasks as they were stored at one moment, and the page cut from
them. -/
structure ListReply where
  snapshot : Table ℕ TaskSummary
  tasks : List TaskSummary
  nextCursor : ℕ
  hasMore : Bool

/-- The stored tasks are not older than these summaries. -/
def ListReply.Knows (reply : ListReply) (known : List TaskSummary) : Prop :=
  ∀ s ∈ known, ∃ task, reply.snapshot.get? s.id = some task ∧ s.version ≤ task.version

/-- The stored tasks are not older than what was observed before the request, and the page lists
those of them that the request asks for. -/
structure ListRequest.Answered (request : ListRequest) (reply : ListReply) : Prop where
  keyed : ∀ id task, reply.snapshot.get? id = some task → task.id = id
  current : reply.Knows request.seen
  listed : ∀ task, task ∈ reply.tasks ↔ reply.snapshot.get? task.id = some task ∧
    request.filter.accepts task = true ∧ request.after.getD 0 < task.id ∧
    (task.id ≤ reply.nextCursor ∨ reply.hasMore = false)
  short : reply.tasks.length ≤ maxPageLimit

/-- The operations on the task list. -/
inductive TaskOp where
  | observe (task : TaskSummary)
  | beginLoad (stamp : WorkspaceStamp)
  | applyPage (revision : ℕ) (reply : ListReply)
  | failLoad (revision : ℕ)
  | beginDetailLoad (stamp : WorkspaceStamp)
  | applyDetail (revision : ℕ) (detail : TaskDetail)
  | beginHistoryLoad (stamp : WorkspaceStamp)
  | applyHistory (revision : ℕ) (page : TaskHistoryPage)
  | select (id : Option ℕ)
  | selectRelative (delta : ℤ)
  | setFilter (filter : TaskFilter)
  | invalidateReads
  | nextPage
  | previousPage

/-- The page, everything observed and listed so far, and what the tickets of the loads stand
for. -/
structure TaskFeed where
  page : TaskPage := {}
  seen : List TaskSummary := []
  listed : List TaskSummary := []
  requests : ℕ → ListRequest := fun _ => {}
  details : ℕ → List TaskSummary := fun _ => []

/-- Every observed summary of the task is at most as new as this version. -/
def NewestSeen (seen : List TaskSummary) (id version : ℕ) : Prop :=
  ∀ s ∈ seen, s.id = id → s.version ≤ version

namespace TaskPage

/-- One operation on the page. -/
def perform (p : TaskPage) : TaskOp → TaskPage
  | .observe task => (p.observe task).2
  | .beginLoad stamp => (p.beginLoad stamp).2
  | .applyPage revision reply =>
    (p.applyPage revision reply.tasks reply.nextCursor reply.hasMore).2
  | .failLoad revision => p.failLoad revision
  | .beginDetailLoad stamp => (p.beginDetailLoad stamp).2
  | .applyDetail revision detail => (p.applyDetail revision detail).2
  | .beginHistoryLoad stamp => (p.beginHistoryLoad stamp).2
  | .applyHistory revision page => (p.applyHistory revision page).2
  | .select id => p.select id
  | .selectRelative delta => p.selectRelative delta
  | .setFilter filter => p.setFilter filter
  | .invalidateReads => p.invalidateReads
  | .nextPage => { p with pagination := p.pagination.nextPage }
  | .previousPage => { p with pagination := p.pagination.previousPage }

/-- The reply to this load is still wanted. -/
def awaits (p : TaskPage) (revision : ℕ) : Bool := revision = p.listRevision && p.listInFlight

/-- The page holds a newer summary of the task: its row, the selected one or an overlay. -/
def HoldsNewer (p : TaskPage) (task : TaskSummary) : Prop :=
  ∃ held, (p.rows.get? task.id = some held ∨ p.selectedSummary = some held ∧ held.id = task.id ∨
    p.overlays.get? task.id = some held) ∧ task.version < held.version

/-- A detail is for the selected task and not older than its summary and row. -/
def takesDetail (p : TaskPage) (revision : ℕ) (detail : TaskDetail) : Bool :=
  revision = p.detailRevision && p.selectedId = some detail.summary.id &&
    !newerThan p.selectedSummary detail.summary &&
    !newerThan (p.rows.get? detail.summary.id) detail.summary

end TaskPage

/-- The summaries an operation observes. -/
def TaskOp.observed (p : TaskPage) : TaskOp → List TaskSummary
  | .observe task => [task]
  | .applyDetail revision detail => if p.takesDetail revision detail then [detail.summary] else []
  | _ => []

namespace TaskFeed

/-- What the pages have listed after an operation. -/
def listedAfter (f : TaskFeed) : TaskOp → List TaskSummary
  | .applyPage revision reply =>
    if f.page.awaits revision then reply.tasks ++ f.listed else f.listed
  | _ => f.listed

/-- One operation, with the record of what it observes and of the ticket it draws. -/
def step (f : TaskFeed) (op : TaskOp) : TaskFeed :=
  { page := f.page.perform op
    seen := op.observed f.page ++ f.seen
    listed := f.listedAfter op
    requests := match op with
      | .beginLoad _ => Function.update f.requests (wrappingSucc f.page.listRevision)
          { seen := f.seen
            listed := f.listed
            filter := f.page.filter
            after := f.page.pagination.after }
      | _ => f.requests
    details := match op with
      | .beginDetailLoad _ =>
        Function.update f.details (wrappingSucc f.page.detailRevision) f.seen
      | _ => f.details }

/-- What a run may rely on: replies are current, and only listed tasks are selected. -/
def Fair (f : TaskFeed) : TaskOp → Prop
  | .applyPage revision reply => (f.requests revision).Answered reply
  | .applyDetail revision detail =>
    NewestSeen (f.details revision) detail.summary.id detail.summary.version
  | .select id => ∀ i, id = some i → f.page.rows.contains i = true
  | _ => True

/-- A summary that comes late while a list is on its way, after a newer one of its task, is of a
task the page still holds a newer summary of. -/
def Remembers (f : TaskFeed) (task : TaskSummary) : Prop :=
  f.page.listInFlight = true → (∃ s ∈ f.seen, s.id = task.id ∧ task.version < s.version) →
    f.page.HoldsNewer task

/-- No late summary finds its task forgotten, and no page goes back behind an earlier one. -/
def Orderly (f : TaskFeed) (op : TaskOp) : Prop :=
  (∀ task ∈ op.observed f.page, f.Remembers task) ∧
  ∀ revision reply, op = .applyPage revision reply → f.page.awaits revision = true →
    reply.Knows (f.requests revision).listed

/-- The feeds that fair operations lead to, when every operation is also `allowed`. -/
inductive Run (allowed : TaskFeed → TaskOp → Prop) : TaskFeed → Prop
  | start : Run allowed {}
  | step {f : TaskFeed} {op : TaskOp} (h : Run allowed f) (hfair : f.Fair op)
      (hallowed : allowed f op) : Run allowed (f.step op)

/-- Every row is accepted by the filter and at least as new as what was observed of its task. -/
def RowsCurrent (f : TaskFeed) : Prop :=
  ∀ id row, f.page.rows.get? id = some row → row.id = id ∧
    f.page.filter.accepts row = true ∧ NewestSeen f.seen id row.version

/-- The task, as the newest summary known of it has it, is accepted by the filter. -/
def Wanted (f : TaskFeed) (reply : ListReply) (id : ℕ) : Prop :=
  (∃ s ∈ f.seen, s.id = id) ∧ ∀ task, task ∈ f.seen ∨ reply.snapshot.get? id = some task →
    task.id = id → NewestSeen f.seen id task.version →
    (∀ s, reply.snapshot.get? id = some s → s.version ≤ task.version) →
    f.page.filter.accepts task = true

/-- Every observed task the filter accepts in the range of an applied page is one of its rows or
lies after its cursor. -/
def PageComplete (f : TaskFeed) (revision : ℕ) (reply : ListReply) : Prop :=
  (f.page.applyPage revision reply.tasks reply.nextCursor reply.hasMore).1 = true →
  ∀ id, f.Wanted reply id → (f.requests revision).after.getD 0 < id →
    (id ≤ reply.nextCursor ∨ reply.hasMore = false) →
    (f.step (.applyPage revision reply)).page.rows.contains id = true ∨
      ∃ cursor, (f.step (.applyPage revision reply)).page.pagination.nextCursor = some cursor ∧
        cursor < id

/-- What the operations keep. While a list is on its way, its overlays and its request together
account for everything observed, and no overlay is older than an observation. -/
structure Tracked (f : TaskFeed) : Prop where
  rows : f.RowsCurrent
  origin : ∀ x, f.page.selectedSummary = some x ∨ (∃ id, f.page.rows.get? id = some x) →
    x ∈ f.seen ∨ x ∈ f.listed
  overlays : ∀ id o, f.page.overlays.get? id = some o → o.id = id ∧ o ∈ f.seen
  selection : ∀ x, f.page.selectedSummary = some x → f.page.selectedId = some x.id
  selectedRow : ∀ id row, f.page.selectedId = some id → f.page.rows.get? id = some row →
    f.page.selectedSummary = some row
  filter : f.page.listInFlight = true →
    (f.requests f.page.listRevision).filter = f.page.filter
  listed : f.page.listInFlight = true → (f.requests f.page.listRevision).listed = f.listed
  covered : f.page.listInFlight = true → ∀ s ∈ f.seen,
    (∃ o, f.page.overlays.get? s.id = some o ∧ s.version ≤ o.version) ∨
      ∃ r, (r ∈ (f.requests f.page.listRevision).seen ∨ r ∈ f.listed) ∧ r.id = s.id ∧
        s.version ≤ r.version
  fresh : f.page.listInFlight = true → ∀ id o, f.page.overlays.get? id = some o →
    NewestSeen f.seen id o.version
  topRow : ∀ id o row, f.page.overlays.get? id = some o → f.page.rows.get? id = some row →
    row.version ≤ o.version
  topSelected : ∀ o x, f.page.selectedSummary = some x → f.page.overlays.get? x.id = some o →
    x.version ≤ o.version
  idle : f.page.listInFlight = false → f.page.overlays = ∅
  known : ∀ x, f.page.selectedSummary = some x → x ∈ f.seen ∨ f.page.filter.accepts x = true

end TaskFeed

theorem newerThan_iff {held : Option TaskSummary} {task : TaskSummary} :
    newerThan held task = true ↔ ∃ old, held = some old ∧ task.version < old.version := by
  simp [newerThan, Option.any_eq_true]

theorem newerThan_false {held : Option TaskSummary} {task : TaskSummary} :
    newerThan held task = false ↔ ∀ old, held = some old → old.version ≤ task.version := by
  rw [← Bool.not_eq_true, newerThan_iff]
  constructor
  · intro h old hold
    exact Nat.le_of_not_lt fun hlt => h ⟨old, hold, hlt⟩
  · rintro h ⟨old, hold, hlt⟩
    exact absurd (h old hold) (Nat.not_le_of_lt hlt)

theorem NewestSeen.cons {seen : List TaskSummary} {id version : ℕ} {task : TaskSummary}
    (h : NewestSeen seen id version) (htask : task.id = id → task.version ≤ version) :
    NewestSeen (task :: seen) id version := by
  intro s hs hid
  rcases List.mem_cons.mp hs with rfl | hs
  · exact htask hid
  · exact h s hs hid

theorem NewestSeen.mono {seen : List TaskSummary} {id version version' : ℕ}
    (h : NewestSeen seen id version) (hle : version ≤ version') : NewestSeen seen id version' :=
  fun s hs hid => (h s hs hid).trans hle

namespace TaskPage

variable {p : TaskPage} {task : TaskSummary}

/-- Not stale: nothing the page holds of the task is newer. -/
theorem stale_false : p.stale task = false ↔
    (∀ old, p.rows.get? task.id = some old → old.version ≤ task.version) ∧
    (∀ old, p.selectedSummary = some old → old.id = task.id → old.version ≤ task.version) ∧
    ∀ old, p.overlays.get? task.id = some old → old.version ≤ task.version := by
  simp only [stale, Bool.or_eq_false_iff, newerThan_false, selectedOf, Option.filter_eq_some_iff,
    decide_eq_true_eq, and_imp, and_assoc]

theorem stale_true : p.stale task = true ↔ p.HoldsNewer task := by
  simp only [stale, HoldsNewer, Bool.or_eq_true, newerThan_iff, selectedOf,
    Option.filter_eq_some_iff, decide_eq_true_eq, or_and_right, exists_or, or_assoc]

/-- The fields the list depends on. -/
structure SameList (p p' : TaskPage) : Prop where
  rows : p'.rows = p.rows
  overlays : p'.overlays = p.overlays
  filter : p'.filter = p.filter
  inFlight : p'.listInFlight = p.listInFlight
  revision : p'.listRevision = p.listRevision

theorem select_sameList (p : TaskPage) (id : Option ℕ) : SameList p (p.select id) := by
  unfold select
  split <;> exact ⟨rfl, rfl, rfl, rfl, rfl⟩

theorem observeSelected_sameList (p : TaskPage) (task : TaskSummary) :
    SameList p (p.observeSelected task) := by
  unfold observeSelected
  split <;> exact ⟨rfl, rfl, rfl, rfl, rfl⟩

theorem keepSelected_sameList (p : TaskPage) (task : TaskSummary) :
    SameList p (p.keepSelected task) := by
  unfold keepSelected
  split
  · exact observeSelected_sameList p task
  · exact ⟨rfl, rfl, rfl, rfl, rfl⟩

theorem SameList.trans {p p' p'' : TaskPage} (h : SameList p p') (h' : SameList p' p'') :
    SameList p p'' :=
  ⟨h'.rows.trans h.rows, h'.overlays.trans h.overlays, h'.filter.trans h.filter,
    h'.inFlight.trans h.inFlight, h'.revision.trans h.revision⟩

theorem followSelection_sameList (p : TaskPage) : SameList p p.followSelection := by
  unfold followSelection
  split
  · exact select_sameList p _
  · split
    · exact observeSelected_sameList p _
    · exact ⟨rfl, rfl, rfl, rfl, rfl⟩

theorem followSelection_pagination (p : TaskPage) :
    p.followSelection.pagination = p.pagination := by
  unfold followSelection
  split
  · unfold select
    split <;> rfl
  · split
    · unfold observeSelected
      split <;> rfl
    · rfl

theorem observeSelected_selectedId (p : TaskPage) (task : TaskSummary) :
    (p.observeSelected task).selectedId = p.selectedId := by
  unfold observeSelected
  split <;> rfl

theorem observeSelected_summary
    (h : ∀ old, p.selectedSummary = some old → old.id = task.id → old.version ≤ task.version) :
    (p.observeSelected task).selectedSummary = some task := by
  have hnot : newerThan (p.selectedOf task.id) task = false := by
    rw [newerThan_false]
    intro old hold
    simp only [selectedOf, Option.filter_eq_some_iff, decide_eq_true_eq] at hold
    exact h old hold.1 hold.2
  simp [observeSelected, hnot]

/-- What an observation that is not stale leaves behind. -/
theorem observe_fresh (h : p.stale task = false) :
    (p.observe task).2.rows = (if p.rows.contains task.id then
        if p.filter.accepts task then p.rows.put task.id task else p.rows.remove task.id
      else p.rows) ∧
    (p.observe task).2.filter = p.filter ∧
    (p.observe task).2.selectedId = p.selectedId ∧
    (p.observe task).2.selectedSummary =
      (if p.selectedId = some task.id then some task else p.selectedSummary) ∧
    (p.observe task).2.overlays = (p.keepOverlay task).overlays ∧
    (p.observe task).2.listInFlight = (p.keepOverlay task).listInFlight ∧
    (p.observe task).2.listRevision = (p.keepOverlay task).listRevision := by
  have hoverlay : (p.keepOverlay task).rows = p.rows ∧ (p.keepOverlay task).filter = p.filter ∧
      (p.keepOverlay task).selectedId = p.selectedId ∧
      (p.keepOverlay task).selectedSummary = p.selectedSummary := by
    unfold keepOverlay
    split
    · split <;> exact ⟨rfl, rfl, rfl, rfl⟩
    · exact ⟨rfl, rfl, rfl, rfl⟩
  obtain ⟨hrows, hfilter, hid, hsummary⟩ := hoverlay
  have hsame := keepSelected_sameList (p.keepOverlay task) task
  have hselected : ((p.keepOverlay task).keepSelected task).selectedId = p.selectedId ∧
      ((p.keepOverlay task).keepSelected task).selectedSummary =
        (if p.selectedId = some task.id then some task else p.selectedSummary) := by
    unfold keepSelected
    rw [hid]
    split
    · refine ⟨by rw [observeSelected_selectedId, hid], observeSelected_summary fun old hold => ?_⟩
      rw [hsummary] at hold
      exact (stale_false.mp h).2.1 old hold
    · exact ⟨hid, hsummary⟩
  have hrow : ∀ q : TaskPage, (q.keepRow task).rows = (if q.rows.contains task.id then
      if q.filter.accepts task then q.rows.put task.id task else q.rows.remove task.id
      else q.rows) ∧ (q.keepRow task).filter = q.filter ∧
      (q.keepRow task).selectedId = q.selectedId ∧
      (q.keepRow task).selectedSummary = q.selectedSummary ∧
      (q.keepRow task).overlays = q.overlays ∧
      (q.keepRow task).listInFlight = q.listInFlight ∧
      (q.keepRow task).listRevision = q.listRevision := by
    intro q
    unfold keepRow
    split
    · split <;> exact ⟨rfl, rfl, rfl, rfl, rfl, rfl, rfl⟩
    · exact ⟨rfl, rfl, rfl, rfl, rfl, rfl, rfl⟩
  simp only [observe, h, Bool.false_eq_true, ↓reduceIte]
  obtain ⟨h₁, h₂, h₃, h₄, h₅, h₆, h₇⟩ := hrow ((p.keepOverlay task).keepSelected task)
  refine ⟨?_, ?_, ?_, ?_, ?_, ?_, ?_⟩
  · rw [h₁, hsame.rows, hsame.filter, hrows, hfilter]
  · rw [h₂, hsame.filter, hfilter]
  · rw [h₃, hselected.1]
  · rw [h₄, hselected.2]
  · rw [h₅, hsame.overlays]
  · rw [h₆, hsame.inFlight]
  · rw [h₇, hsame.revision]

theorem observe_stale (h : p.stale task = true) : (p.observe task).2 = p := by
  simp [observe, h]

/-- Overlays are kept under the load that is on its way, or the load is given up. -/
theorem keepOverlay_cases (p : TaskPage) (task : TaskSummary) :
    ((p.keepOverlay task).listInFlight = false ∧ (p.keepOverlay task).overlays = ∅) ∨
    (p.listInFlight = true ∧ (p.keepOverlay task).listInFlight = true ∧
      (p.keepOverlay task).listRevision = p.listRevision ∧
      (p.keepOverlay task).overlays = p.overlays.put task.id task) ∨
    (p.listInFlight = false ∧ p.keepOverlay task = p) := by
  unfold keepOverlay
  split
  · next h =>
    split
    · exact .inl ⟨rfl, rfl⟩
    · exact .inr (.inl ⟨h, h, rfl, rfl⟩)
  · next h => exact .inr (.inr ⟨Bool.not_eq_true _ ▸ h, rfl⟩)

end TaskPage

namespace TaskFeed

variable {f : TaskFeed}

/-- An operation that leaves the list alone and observes nothing. -/
theorem Tracked.of_sameList (h : Tracked f) {f' : TaskFeed}
    (hsame : TaskPage.SameList f.page f'.page) (hseen : f'.seen = f.seen)
    (hlisted : f'.listed = f.listed) (hrequests : f'.requests = f.requests)
    (hselection : ∀ x, f'.page.selectedSummary = some x → f'.page.selectedId = some x.id ∧
      (f.page.selectedSummary = some x ∨ f.page.rows.get? x.id = some x))
    (hrow : ∀ id row, f'.page.selectedId = some id → f.page.rows.get? id = some row →
      f'.page.selectedSummary = some row) : Tracked f' where
  rows id row hget := by
    rw [hsame.rows] at hget
    rw [hsame.filter, hseen]
    exact h.rows id row hget
  origin x hx := by
    rw [hsame.rows] at hx
    rw [hseen, hlisted]
    rcases hx with hx | hx
    · exact h.origin x ((hselection x hx).2.imp id fun hrow => ⟨x.id, hrow⟩)
    · exact h.origin x (.inr hx)
  overlays id o hget := by
    rw [hsame.overlays] at hget
    rw [hseen]
    exact h.overlays id o hget
  selection x hx := (hselection x hx).1
  selectedRow id row hid hget := hrow id row hid (by rw [← hsame.rows]; exact hget)
  filter hflight := by
    rw [hsame.inFlight] at hflight
    rw [hrequests, hsame.revision, hsame.filter]
    exact h.filter hflight
  listed hflight := by
    rw [hsame.inFlight] at hflight
    rw [hrequests, hsame.revision, hlisted]
    exact h.listed hflight
  covered hflight := by
    rw [hsame.inFlight] at hflight
    rw [hrequests, hsame.revision, hsame.overlays, hseen, hlisted]
    exact h.covered hflight
  fresh hflight := by
    rw [hsame.inFlight] at hflight
    rw [hsame.overlays, hseen]
    exact h.fresh hflight
  topRow := by
    rw [hsame.overlays, hsame.rows]
    exact h.topRow
  topSelected o x hx ho := by
    rw [hsame.overlays] at ho
    rcases (hselection x hx).2 with hselected | hlisted
    · exact h.topSelected o x hselected ho
    · exact h.topRow x.id o x ho hlisted
  idle := by
    rw [hsame.inFlight, hsame.overlays]
    exact h.idle
  known x hx := by
    rw [hsame.filter, hseen]
    rcases (hselection x hx).2 with hselected | hlisted
    · exact h.known x hselected
    · exact .inr (h.rows x.id x hlisted).2.1

/-- A feed whose list is not on its way. -/
theorem Tracked.of_idle {f : TaskFeed} (hrows : f.RowsCurrent)
    (horigin : ∀ x, f.page.selectedSummary = some x ∨ (∃ id, f.page.rows.get? id = some x) →
      x ∈ f.seen ∨ x ∈ f.listed)
    (hflight : f.page.listInFlight = false) (hoverlays : f.page.overlays = ∅)
    (hselection : ∀ x, f.page.selectedSummary = some x → f.page.selectedId = some x.id)
    (hrow : ∀ id row, f.page.selectedId = some id → f.page.rows.get? id = some row →
      f.page.selectedSummary = some row)
    (hknown : ∀ x, f.page.selectedSummary = some x → x ∈ f.seen ∨ f.page.filter.accepts x = true) :
    Tracked f where
  rows := hrows
  origin := horigin
  overlays id o hget := by
    rw [hoverlays, Table.get?_empty] at hget
    cases hget
  selection := hselection
  selectedRow := hrow
  filter h := absurd h (by rw [hflight]; decide)
  listed h := absurd h (by rw [hflight]; decide)
  covered h := absurd h (by rw [hflight]; decide)
  fresh h := absurd h (by rw [hflight]; decide)
  topRow id o row hget := by
    rw [hoverlays, Table.get?_empty] at hget
    cases hget
  topSelected o x _ hget := by
    rw [hoverlays, Table.get?_empty] at hget
    cases hget
  idle _ := hoverlays
  known := hknown

/-- A stale summary is older than the row of its task, if there is one. -/
theorem Tracked.stale_row (h : Tracked f) {task row : TaskSummary}
    (hstale : f.page.stale task = true) (hrow : f.page.rows.get? task.id = some row) :
    task.version < row.version := by
  obtain ⟨old, hheld | ⟨hheld, hid⟩ | hheld, hlt⟩ := TaskPage.stale_true.mp hstale
  · rw [hrow] at hheld
    obtain rfl := Option.some.inj hheld
    exact hlt
  · have hsel := h.selectedRow task.id row (hid ▸ h.selection old hheld) hrow
    rw [hheld] at hsel
    obtain rfl := Option.some.inj hsel
    exact hlt
  · obtain ⟨hid, hmem⟩ := h.overlays _ _ hheld
    exact lt_of_lt_of_le hlt ((h.rows _ _ hrow).2.2 old hmem hid)

/-- A stale summary is older than the overlay of its task, if there is one. -/
theorem Tracked.stale_overlay (h : Tracked f) {task o : TaskSummary}
    (hstale : f.page.stale task = true) (ho : f.page.overlays.get? task.id = some o) :
    task.version < o.version := by
  obtain ⟨old, hheld | ⟨hheld, hid⟩ | hheld, hlt⟩ := TaskPage.stale_true.mp hstale
  · exact hlt.trans_le (h.topRow _ o old ho hheld)
  · exact hlt.trans_le (h.topSelected o old hheld (hid ▸ ho))
  · rw [ho] at hheld
    exact Option.some.inj hheld ▸ hlt

/-- What the page holds of a task was observed or listed. -/
theorem Tracked.held_known (h : Tracked f) {task : TaskSummary}
    (hstale : f.page.stale task = true) :
    ∃ x, (x ∈ f.seen ∨ x ∈ f.listed) ∧ x.id = task.id ∧ task.version < x.version := by
  obtain ⟨old, hheld | ⟨hheld, hid⟩ | hheld, hlt⟩ := TaskPage.stale_true.mp hstale
  · exact ⟨old, h.origin old (.inr ⟨_, hheld⟩), (h.rows _ _ hheld).1, hlt⟩
  · exact ⟨old, h.origin old (.inl hheld), hid, hlt⟩
  · obtain ⟨hid, hmem⟩ := h.overlays _ _ hheld
    exact ⟨old, .inl hmem, hid, hlt⟩

theorem Tracked.observe_stale (h : Tracked f) {task : TaskSummary}
    (hstale : f.page.stale task = true) : Tracked { f with seen := task :: f.seen } where
  rows id row hget := by
    obtain ⟨hid, haccepts, hnewest⟩ := h.rows id row hget
    refine ⟨hid, haccepts, hnewest.cons fun htask => ?_⟩
    exact (h.stale_row hstale (htask ▸ hget)).le
  origin x hx := (h.origin x hx).imp_left (List.mem_cons_of_mem _)
  overlays id o hget := ⟨(h.overlays id o hget).1, List.mem_cons_of_mem _ (h.overlays id o hget).2⟩
  selection := h.selection
  selectedRow := h.selectedRow
  filter := h.filter
  listed := h.listed
  covered hflight s hs := by
    rcases List.mem_cons.mp hs with rfl | hs
    · obtain ⟨x, hx | hx, hid, hlt⟩ := h.held_known hstale
      · rcases h.covered hflight x hx with ⟨o, ho, hle⟩ | ⟨r, hr, hrid, hle⟩
        · exact .inl ⟨o, hid ▸ ho, hlt.le.trans hle⟩
        · exact .inr ⟨r, hr, hrid.trans hid, hlt.le.trans hle⟩
      · exact .inr ⟨x, .inr hx, hid, hlt.le⟩
    · exact h.covered hflight s hs
  fresh hflight id o hget := by
    refine (h.fresh hflight id o hget).cons fun htask => ?_
    exact (h.stale_overlay hstale (htask ▸ hget)).le
  topRow := h.topRow
  topSelected := h.topSelected
  idle := h.idle
  known x hx := (h.known x hx).imp (List.mem_cons_of_mem _) id

theorem Tracked.observe_fresh (h : Tracked f) {task : TaskSummary}
    (hstale : f.page.stale task = false)
    (horder : f.page.listInFlight = true → NewestSeen f.seen task.id task.version) :
    Tracked { f with page := (f.page.observe task).2, seen := task :: f.seen } := by
  obtain ⟨hrows, hfilter, hid, hsummary, hoverlays, hflight, hrevision⟩ :=
    TaskPage.observe_fresh hstale
  obtain ⟨hnorow, -, -⟩ := TaskPage.stale_false.mp hstale
  have hget : ∀ id row, (f.page.observe task).2.rows.get? id = some row →
      (id = task.id ∧ row = task ∧ f.page.filter.accepts task = true ∧
        ∃ old, f.page.rows.get? task.id = some old) ∨
      (id ≠ task.id ∧ f.page.rows.get? id = some row) := by
    intro id row hrow
    rw [hrows] at hrow
    split at hrow
    · next hcontains =>
      split at hrow
      · next haccepts =>
        rw [Table.get?_put] at hrow
        split at hrow
        · next heq =>
          exact .inl ⟨heq, (Option.some.inj hrow).symm, haccepts,
            (Table.contains_iff _ _).mp hcontains⟩
        · next hne => exact .inr ⟨hne, hrow⟩
      · rw [Table.get?_remove] at hrow
        split at hrow
        · cases hrow
        · next hne => exact .inr ⟨hne, hrow⟩
    · next hcontains =>
      refine .inr ⟨?_, hrow⟩
      rintro rfl
      exact hcontains ((Table.contains_iff _ _).mpr ⟨row, hrow⟩)
  have hkept : ∀ id o, (f.page.observe task).2.overlays.get? id = some o →
      (id = task.id ∧ o = task) ∨ (id ≠ task.id ∧ f.page.overlays.get? id = some o) := by
    intro id o ho
    rw [hoverlays] at ho
    rcases TaskPage.keepOverlay_cases f.page task with ⟨-, hempty⟩ | ⟨-, -, -, hput⟩ | ⟨hoff, hsame⟩
    · rw [hempty, Table.get?_empty] at ho
      cases ho
    · rw [hput, Table.get?_put] at ho
      split at ho
      · next heq => exact .inl ⟨heq, (Option.some.inj ho).symm⟩
      · next hne => exact .inr ⟨hne, ho⟩
    · rw [hsame, h.idle hoff, Table.get?_empty] at ho
      cases ho
  have hlive : (f.page.observe task).2.listInFlight = true → f.page.listInFlight = true ∧
      (f.page.keepOverlay task).listRevision = f.page.listRevision ∧
      (f.page.keepOverlay task).overlays = f.page.overlays.put task.id task := by
    intro hon
    rw [hflight] at hon
    rcases TaskPage.keepOverlay_cases f.page task with ⟨hoff, -⟩ | ⟨hbefore, -, hrev, hput⟩ |
      ⟨hoff, hsame⟩
    · rw [hoff] at hon
      cases hon
    · exact ⟨hbefore, hrev, hput⟩
    · rw [hsame, hoff] at hon
      cases hon
  constructor
  · intro id row hrow
    rcases hget id row hrow with ⟨rfl, rfl, haccepts, old, hold⟩ | ⟨hne, hrow⟩
    · refine ⟨rfl, by rw [hfilter]; exact haccepts, ?_⟩
      exact (((h.rows _ _ hold).2.2).mono (hnorow old hold)).cons fun _ => le_rfl
    · obtain ⟨hrid, haccepts, hnewest⟩ := h.rows id row hrow
      exact ⟨hrid, by rw [hfilter]; exact haccepts,
        hnewest.cons fun htask => absurd htask.symm hne⟩
  · rintro x (hx | ⟨id, hx⟩)
    · rw [hsummary] at hx
      split at hx
      · obtain rfl := Option.some.inj hx
        exact .inl List.mem_cons_self
      · exact (h.origin x (.inl hx)).imp_left (List.mem_cons_of_mem _)
    · rcases hget id x hx with ⟨-, rfl, -, -⟩ | ⟨-, hrow⟩
      · exact .inl List.mem_cons_self
      · exact (h.origin x (.inr ⟨id, hrow⟩)).imp_left (List.mem_cons_of_mem _)
  · intro id o ho
    rcases hkept id o ho with ⟨rfl, rfl⟩ | ⟨-, ho⟩
    · exact ⟨rfl, List.mem_cons_self⟩
    · exact ⟨(h.overlays id o ho).1, List.mem_cons_of_mem _ (h.overlays id o ho).2⟩
  · intro x hx
    rw [hsummary] at hx
    rw [hid]
    split at hx
    · next heq =>
      obtain rfl := Option.some.inj hx
      exact heq
    · exact h.selection x hx
  · intro id row hsel hrow
    rw [hid] at hsel
    rw [hsummary]
    rcases hget id row hrow with ⟨rfl, rfl, -, -⟩ | ⟨hne, hrow⟩
    · rw [if_pos hsel]
    · rw [if_neg fun heq => hne (Option.some.inj (hsel.symm.trans heq))]
      exact h.selectedRow id row hsel hrow
  · intro hon
    obtain ⟨hbefore, hrev, -⟩ := hlive hon
    dsimp only
    rw [hrevision, hrev, hfilter]
    exact h.filter hbefore
  · intro hon
    obtain ⟨hbefore, hrev, -⟩ := hlive hon
    dsimp only
    rw [hrevision, hrev]
    exact h.listed hbefore
  · intro hon s hs
    obtain ⟨hbefore, hrev, hput⟩ := hlive hon
    dsimp only
    rw [hrevision, hrev, hoverlays, hput]
    rcases List.mem_cons.mp hs with rfl | hs
    · exact .inl ⟨s, Table.get?_put_self _ _ _, le_rfl⟩
    · rcases h.covered hbefore s hs with ⟨o, ho, hle⟩ | hrequest
      · by_cases heq : s.id = task.id
        · exact .inl ⟨task, by rw [heq]; exact Table.get?_put_self _ _ _,
            horder hbefore s hs heq⟩
        · exact .inl ⟨o, by rw [Table.get?_put_ne _ _ heq]; exact ho, hle⟩
      · exact .inr hrequest
  · intro hon id o ho
    obtain ⟨hbefore, -, hput⟩ := hlive hon
    rw [hoverlays, hput, Table.get?_put] at ho
    split at ho
    · next heq =>
      obtain rfl := Option.some.inj ho
      subst heq
      exact (horder hbefore).cons fun _ => le_rfl
    · next hne => exact (h.fresh hbefore id o ho).cons fun htask => absurd htask.symm hne
  · intro id o row ho hrow
    rcases hkept id o ho with ⟨rfl, rfl⟩ | ⟨hne, ho⟩
    · rcases hget _ row hrow with ⟨-, rfl, -, -⟩ | ⟨hne, -⟩
      · exact le_rfl
      · exact absurd rfl hne
    · rcases hget id row hrow with ⟨heq, -, -, -⟩ | ⟨-, hrow⟩
      · exact absurd heq hne
      · exact h.topRow id o row ho hrow
  · intro o x hx ho
    rw [hsummary] at hx
    split at hx
    · obtain rfl := Option.some.inj hx
      rcases hkept _ o ho with ⟨-, rfl⟩ | ⟨hne, -⟩
      · exact le_rfl
      · exact absurd rfl hne
    · next hsel =>
      rcases hkept _ o ho with ⟨heq, -⟩ | ⟨-, ho⟩
      · exact absurd (heq ▸ h.selection x hx) hsel
      · exact h.topSelected o x hx ho
  · intro hoff
    dsimp only at hoff ⊢
    rw [hflight] at hoff
    rw [hoverlays]
    rcases TaskPage.keepOverlay_cases f.page task with ⟨-, hempty⟩ | ⟨-, hon, -, -⟩ | ⟨hoff', hsame⟩
    · exact hempty
    · rw [hon] at hoff
      cases hoff
    · rw [hsame]
      exact h.idle hoff'
  · intro x hx
    rw [hsummary] at hx
    rw [hfilter]
    split at hx
    · obtain rfl := Option.some.inj hx
      exact .inl List.mem_cons_self
    · exact (h.known x hx).imp (List.mem_cons_of_mem _) fun haccepts => haccepts

theorem Tracked.observe (h : Tracked f) {task : TaskSummary} (horder : f.Remembers task) :
    Tracked { f with page := (f.page.observe task).2, seen := task :: f.seen } := by
  cases hstale : f.page.stale task with
  | true =>
    rw [TaskPage.observe_stale hstale]
    exact h.observe_stale hstale
  | false =>
    refine h.observe_fresh hstale fun hflight s hs hid => Nat.le_of_not_lt fun hlt => ?_
    have hcontra := TaskPage.stale_true.mpr (horder hflight ⟨s, hs, hid, hlt⟩)
    rw [hstale] at hcontra
    cases hcontra

end TaskFeed

end SessionRouter
