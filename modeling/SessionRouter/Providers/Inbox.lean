import SessionRouter.Lib.Justified
import SessionRouter.Protocol.Names
import SessionRouter.Providers.Ledger

/-!
The inbox of a provider managed for the router: one request at a time, from its begin to the
confirmation that its execution has stopped.
-/

namespace SessionRouter.Providers

inductive InboxPhase where
  | idle | running | cancelling | stopPending | closed
  deriving DecidableEq

/-- The `ProviderError`s of the inbox. -/
inductive InboxError where
  | executionFenceChanged | providerNotReady | sessionBusy
  deriving DecidableEq

/-- What the inbox reads of a `SessionRequest`. -/
structure InboxRequest where
  workspace : Option WorkspaceName
  requestId : String
  task : Option TaskDispatch
  deriving DecidableEq

/-- `Active`. -/
structure ActiveRequest where
  workspace : WorkspaceName
  requestId : String
  task : Option TaskDispatch
  fence : Option TaskFence
  resultSettled : Bool
  cancelReason : Option CancelReason
  deriving DecidableEq

structure PendingStop where
  active : ActiveRequest
  evidence : TerminalEvidence
  actionIssued : Bool
  deriving DecidableEq

structure InboxTerminalAction where
  workspace : WorkspaceName
  evidence : TerminalEvidence
  fence : Option TaskFence
  cancelled : Bool
  deriving DecidableEq

/-- The state under the lock of a `ProviderInbox`. -/
inductive ProviderInbox where
  | idle
  | active (active : ActiveRequest)
  | stopPending (pending : PendingStop)
  | closed
  deriving DecidableEq

def validateFence (active : ActiveRequest) (requestId : String) (fence : TaskFence) : Bool :=
  !(active.requestId ≠ requestId || active.task.map TaskDispatch.id ≠ some fence.taskId ||
    active.fence.any fun current => current ≠ fence)

def validateCancelFence (active : ActiveRequest) (fence : Option TaskFence) : Bool :=
  match active.task, active.fence, fence with
  | some task, some bound, some cancelled => task.id = cancelled.taskId && bound = cancelled
  | none, none, none => true
  | some _, none, _ => false
  | some _, some _, none => false
  | none, _, _ => false

def takeTerminalAction (pending : PendingStop) : Option InboxTerminalAction × PendingStop :=
  if pending.actionIssued || (pending.active.task.isSome && pending.active.fence.isNone) then
    (none, pending)
  else
    (some { workspace := pending.active.workspace
            evidence := pending.evidence
            fence := pending.active.fence
            cancelled := pending.active.cancelReason.isSome },
      { pending with actionIssued := true })

namespace ProviderInbox

def isIdle : ProviderInbox → Bool
  | idle => true
  | _ => false

def phase : ProviderInbox → InboxPhase
  | idle => .idle
  | active a => if a.cancelReason.isSome then .cancelling else .running
  | stopPending _ => .stopPending
  | closed => .closed

def begin (s : ProviderInbox) (request : InboxRequest) : Except InboxError Unit × ProviderInbox :=
  match request.workspace with
  | none => (.error .executionFenceChanged, s)
  | some workspace =>
    match s with
    | idle =>
      (.ok (), active { workspace := workspace
                        requestId := request.requestId
                        task := request.task
                        fence := none
                        resultSettled := false
                        cancelReason := none })
    | closed => (.error .providerNotReady, s)
    | active _ | stopPending _ => (.error .sessionBusy, s)

def bindTaskFence (s : ProviderInbox) (requestId : String) (fence : TaskFence) :
    Except InboxError (Option InboxTerminalAction) × ProviderInbox :=
  match s with
  | active a =>
    if validateFence a requestId fence then (.ok none, active { a with fence := some fence })
    else (.error .executionFenceChanged, s)
  | stopPending p =>
    if validateFence p.active requestId fence then
      let (action, p) := takeTerminalAction { p with active.fence := some fence }
      (.ok action, stopPending p)
    else (.error .executionFenceChanged, s)
  | idle | closed => (.error .providerNotReady, s)

def resultSettled (s : ProviderInbox) (requestId : String) : Bool × ProviderInbox :=
  match s with
  | active a =>
    if a.requestId ≠ requestId || a.resultSettled then (false, s)
    else (true, active { a with resultSettled := true })
  | stopPending p =>
    if p.active.requestId ≠ requestId || p.active.resultSettled then (false, s)
    else (true, stopPending { p with active.resultSettled := true })
  | idle | closed => (false, s)

def requestCancel (s : ProviderInbox) (workspace : WorkspaceName) (requestId : String)
    (fence : Option TaskFence) (reason : CancelReason) : Except InboxError Bool × ProviderInbox :=
  match s with
  | active a =>
    if a.workspace ≠ workspace || a.requestId ≠ requestId then
      (.error .executionFenceChanged, s)
    else if !validateCancelFence a fence then (.error .executionFenceChanged, s)
    else if a.cancelReason.isSome then (.ok false, s)
    else (.ok true, active { a with cancelReason := some reason })
  | stopPending _ => (.ok false, s)
  | idle | closed => (.error .providerNotReady, s)

def acknowledgeCancel (s : ProviderInbox) (requestId : String) : Bool :=
  match s with
  | active a => a.requestId = requestId && a.cancelReason.isSome
  | idle | stopPending _ | closed => false

def observeTerminal (s : ProviderInbox) (evidence : TerminalEvidence) :
    Option InboxTerminalAction × ProviderInbox :=
  match s with
  | active a =>
    if a.requestId ≠ evidence.requestId then (none, s)
    else
      let (action, p) :=
        takeTerminalAction { active := a, evidence := evidence, actionIssued := false }
      (action, stopPending p)
  | idle | stopPending _ | closed => (none, s)

def confirmStopped (s : ProviderInbox) (workspace : WorkspaceName) (requestId : String)
    (fence : Option TaskFence) : Bool × ProviderInbox :=
  match s with
  | stopPending p =>
    if p.active.workspace ≠ workspace || p.active.requestId ≠ requestId ||
        p.active.fence ≠ fence || (p.active.task.isSome && fence.isNone) || !p.actionIssued then
      (false, s)
    else (true, idle)
  | idle | active _ | closed => (false, s)

def close (s : ProviderInbox) : Except InboxError Unit × ProviderInbox :=
  match s with
  | idle | closed => (.ok (), closed)
  | active _ | stopPending _ => (.error .sessionBusy, s)

end ProviderInbox

/-- A call of the inbox, with its arguments. -/
inductive InboxCall where
  | begin (request : InboxRequest)
  | bindTaskFence (requestId : String) (fence : TaskFence)
  | resultSettled (requestId : String)
  | requestCancel (workspace : WorkspaceName) (requestId : String) (fence : Option TaskFence)
      (reason : CancelReason)
  | observeTerminal (evidence : TerminalEvidence)
  | confirmStopped (workspace : WorkspaceName) (requestId : String) (fence : Option TaskFence)
  | close

/-- A call that was answered. -/
inductive InboxEntry where
  | begin (request : InboxRequest) (reply : Except InboxError Unit)
  | bindTaskFence (requestId : String) (fence : TaskFence)
      (reply : Except InboxError (Option InboxTerminalAction))
  | resultSettled (requestId : String) (reply : Bool)
  | requestCancel (workspace : WorkspaceName) (requestId : String) (fence : Option TaskFence)
      (reason : CancelReason) (reply : Except InboxError Bool)
  | observeTerminal (evidence : TerminalEvidence) (reply : Option InboxTerminalAction)
  | confirmStopped (workspace : WorkspaceName) (requestId : String) (fence : Option TaskFence)
      (reply : Bool)
  | close (reply : Except InboxError Unit)

def ProviderInbox.call (s : ProviderInbox) : InboxCall → InboxEntry × ProviderInbox
  | .begin request => ((.begin request (s.begin request).1), (s.begin request).2)
  | .bindTaskFence requestId fence =>
    (.bindTaskFence requestId fence (s.bindTaskFence requestId fence).1,
      (s.bindTaskFence requestId fence).2)
  | .resultSettled requestId =>
    (.resultSettled requestId (s.resultSettled requestId).1, (s.resultSettled requestId).2)
  | .requestCancel workspace requestId fence reason =>
    (.requestCancel workspace requestId fence reason
        (s.requestCancel workspace requestId fence reason).1,
      (s.requestCancel workspace requestId fence reason).2)
  | .observeTerminal evidence =>
    (.observeTerminal evidence (s.observeTerminal evidence).1, (s.observeTerminal evidence).2)
  | .confirmStopped workspace requestId fence =>
    (.confirmStopped workspace requestId fence (s.confirmStopped workspace requestId fence).1,
      (s.confirmStopped workspace requestId fence).2)
  | .close => (.close s.close.1, s.close.2)

/-- The log of a sequence of calls and the state it leaves. -/
def ProviderInbox.serve (s : ProviderInbox) : List InboxCall → List InboxEntry × ProviderInbox
  | [] => ([], s)
  | call :: calls =>
    let (entry, s) := s.call call
    let (log, s) := s.serve calls
    (entry :: log, s)

namespace InboxEntry

/-- The request that the entry begins. -/
def begins : InboxEntry → Option InboxRequest
  | .begin request (.ok ()) => some request
  | _ => none

/-- The terminal action that the entry gives out. -/
def action : InboxEntry → Option InboxTerminalAction
  | .bindTaskFence _ _ (.ok action) => action
  | .observeTerminal _ action => action
  | _ => none

/-- The fence that the entry binds. -/
def binds : InboxEntry → Option TaskFence
  | .bindTaskFence _ fence (.ok _) => some fence
  | _ => none

/-- The entry is a cancellation that is to be passed on. -/
def cancels : InboxEntry → Bool
  | .requestCancel _ _ _ _ (.ok true) => true
  | _ => false

/-- The entry confirms that the execution has stopped. -/
def stops : InboxEntry → Bool
  | .confirmStopped _ _ _ true => true
  | _ => false

end InboxEntry

/-- The request begun last, with what happened since. -/
structure Spell where
  request : InboxRequest
  since : List InboxEntry := []

namespace Spell

def actions (sp : Spell) : List InboxTerminalAction := sp.since.filterMap InboxEntry.action

/-- The fence bound first. -/
def bound (sp : Spell) : Option TaskFence := (sp.since.filterMap InboxEntry.binds).head?

def cancelled (sp : Spell) : Bool := sp.since.any InboxEntry.cancels

def stopped (sp : Spell) : Bool := sp.since.any InboxEntry.stops

def add (sp : Spell) (entry : InboxEntry) : Spell := { sp with since := sp.since ++ [entry] }

/-- The spell after one more entry. -/
def next : Option Spell → InboxEntry → Option Spell
  | current, entry =>
    match entry.begins with
    | some request => some { request := request }
    | none => current.map (·.add entry)

def ofLog (log : List InboxEntry) : Option Spell := log.foldl next none

theorem ofLog_concat (log : List InboxEntry) (entry : InboxEntry) :
    ofLog (log ++ [entry]) = next (ofLog log) entry := by
  simp [ofLog]

end Spell

/-- What an entry relies on in the log before it. -/
structure Sound (past : List InboxEntry) (entry : InboxEntry) : Prop where
  /-- A request is begun when the one before it was confirmed to have stopped. -/
  begun : ∀ request, entry.begins = some request →
    request.workspace.isSome = true ∧
      ∀ sp, Spell.ofLog past = some sp → sp.stopped = true
  /-- The fence of a request fits its task and does not change. -/
  bound : ∀ fence, entry.binds = some fence →
    ∃ sp reply, Spell.ofLog past = some sp ∧
      entry = .bindTaskFence sp.request.requestId fence reply ∧
      sp.request.task.map TaskDispatch.id = some fence.taskId ∧
      ∀ before, sp.bound = some before → before = fence
  /-- A request is canceled once, by its own workspace, id and fence. -/
  canceled : entry.cancels = true →
    ∃ sp workspace reason, Spell.ofLog past = some sp ∧ sp.cancelled = false ∧
      sp.actions = [] ∧ sp.request.workspace = some workspace ∧
      entry = .requestCancel workspace sp.request.requestId sp.bound reason (.ok true) ∧
      sp.bound.isSome = sp.request.task.isSome
  /-- A request yields one action, with its fence bound, that tells of its cancellation. -/
  issued : ∀ action, entry.action = some action →
    ∃ sp, Spell.ofLog past = some sp ∧ sp.actions = [] ∧
      sp.request.workspace = some action.workspace ∧
      sp.request.requestId = action.evidence.requestId ∧
      action.fence = (sp.add entry).bound ∧
      action.fence.isSome = sp.request.task.isSome ∧
      action.cancelled = sp.cancelled
  /-- The execution is confirmed to have stopped by the fields of the action. -/
  confirmed : entry.stops = true →
    ∃ sp action, Spell.ofLog past = some sp ∧ sp.actions = [action] ∧ sp.stopped = false ∧
      entry = .confirmStopped action.workspace action.evidence.requestId action.fence true

/-- The log tells of the request that the inbox holds. -/
structure ActiveRequest.Told (a : ActiveRequest) (sp : Spell) : Prop where
  workspace : sp.request.workspace = some a.workspace
  requestId : sp.request.requestId = a.requestId
  task : sp.request.task = a.task
  fence : sp.bound = a.fence
  fits : ∀ fence, a.fence = some fence → a.task.map TaskDispatch.id = some fence.taskId
  cancelled : sp.cancelled = a.cancelReason.isSome
  running : sp.stopped = false

/-- The log tells of the action that was issued, or of none. -/
structure PendingStop.Told (p : PendingStop) (sp : Spell) : Prop where
  active : p.active.Told sp
  evidence : p.active.requestId = p.evidence.requestId
  issued : p.actionIssued = true →
    sp.actions = [{ workspace := p.active.workspace
                    evidence := p.evidence
                    fence := p.active.fence
                    cancelled := p.active.cancelReason.isSome }] ∧
      p.active.fence.isSome = p.active.task.isSome
  waiting : p.actionIssued = false → sp.actions = []

/-- The state that the log leaves. -/
def ProviderInbox.Told (log : List InboxEntry) : ProviderInbox → Prop
  | idle | closed => ∀ sp, Spell.ofLog log = some sp → sp.stopped = true
  | active a => ∃ sp, Spell.ofLog log = some sp ∧ a.Told sp ∧ sp.actions = []
  | stopPending p => ∃ sp, Spell.ofLog log = some sp ∧ p.Told sp

section

variable {sp : Spell} {entry : InboxEntry}

theorem Spell.ofLog_add {log : List InboxEntry} (hsp : Spell.ofLog log = some sp)
    (hentry : entry.begins = none) : Spell.ofLog (log ++ [entry]) = some (sp.add entry) := by
  rw [Spell.ofLog_concat, hsp]
  simp [Spell.next, hentry]

theorem Spell.actions_add : (sp.add entry).actions = sp.actions ++ entry.action.toList := by
  cases h : entry.action <;> simp [Spell.actions, Spell.add, h]

theorem Spell.bound_add : (sp.add entry).bound = sp.bound.or entry.binds := by
  cases h : entry.binds <;> simp [Spell.bound, Spell.add, h]

theorem Spell.cancelled_add : (sp.add entry).cancelled = (sp.cancelled || entry.cancels) := by
  simp [Spell.cancelled, Spell.add]

theorem Spell.stopped_add : (sp.add entry).stopped = (sp.stopped || entry.stops) := by
  simp [Spell.stopped, Spell.add]

/-- An entry that does nothing of what the log is asked for. -/
structure InboxEntry.Silent (entry : InboxEntry) : Prop where
  begins : entry.begins = none
  action : entry.action = none
  binds : entry.binds = none
  cancels : entry.cancels = false
  stops : entry.stops = false

theorem InboxEntry.Silent.sound (h : entry.Silent) (past : List InboxEntry) : Sound past entry := by
  constructor
  · intro request heq
    rw [h.begins] at heq
    cases heq
  · intro fence heq
    rw [h.binds] at heq
    cases heq
  · intro heq
    rw [h.cancels] at heq
    cases heq
  · intro action heq
    rw [h.action] at heq
    cases heq
  · intro heq
    rw [h.stops] at heq
    cases heq

theorem InboxEntry.Silent.next (h : entry.Silent) (log : List InboxEntry) :
    Spell.ofLog (log ++ [entry]) = (Spell.ofLog log).map (·.add entry) := by
  rw [Spell.ofLog_concat]
  simp [Spell.next, h.begins]

theorem ActiveRequest.Told.add {a : ActiveRequest} (h : a.Told sp) (hentry : entry.Silent) :
    a.Told (sp.add entry) := by
  obtain ⟨hworkspace, hid, htask, hfence, hfits, hcancelled, hrunning⟩ := h
  refine ⟨hworkspace, hid, htask, ?_, hfits, ?_, ?_⟩
  · rw [Spell.bound_add, hentry.binds, Option.or_none, hfence]
  · rw [Spell.cancelled_add, hentry.cancels, Bool.or_false, hcancelled]
  · rw [Spell.stopped_add, hentry.stops, Bool.or_false, hrunning]

theorem Spell.actions_add_silent (hentry : entry.Silent) :
    (sp.add entry).actions = sp.actions := by
  rw [Spell.actions_add, hentry.action, Option.toList_none, List.append_nil]

theorem PendingStop.Told.add {p : PendingStop} (h : p.Told sp) (hentry : entry.Silent) :
    p.Told (sp.add entry) := by
  refine ⟨h.active.add hentry, h.evidence, ?_, ?_⟩
  · rw [Spell.actions_add_silent hentry]
    exact h.issued
  · rw [Spell.actions_add_silent hentry]
    exact h.waiting

theorem ProviderInbox.Told.add {s : ProviderInbox} {log : List InboxEntry} (h : s.Told log)
    (hentry : entry.Silent) : s.Told (log ++ [entry]) := by
  have hover : (∀ sp, Spell.ofLog log = some sp → sp.stopped = true) →
      ∀ sp, Spell.ofLog (log ++ [entry]) = some sp → sp.stopped = true := by
    intro h sp hsp
    rw [hentry.next] at hsp
    obtain ⟨old, hold, rfl⟩ := Option.map_eq_some_iff.mp hsp
    rw [Spell.stopped_add, h old hold, Bool.true_or]
  cases s with
  | idle => exact hover h
  | closed => exact hover h
  | active a =>
    obtain ⟨sp, hsp, htold, hactions⟩ := h
    refine ⟨_, Spell.ofLog_add hsp hentry.begins, htold.add hentry, ?_⟩
    rw [Spell.actions_add_silent hentry, hactions]
  | stopPending p =>
    obtain ⟨sp, hsp, htold⟩ := h
    exact ⟨_, Spell.ofLog_add hsp hentry.begins, htold.add hentry⟩

end

/-- What one call must show: its entry is sound, the log still tells of the state, and only a
confirmation makes the inbox idle. -/
def ProviderInbox.Step (log : List InboxEntry) (s : ProviderInbox)
    (r : InboxEntry × ProviderInbox) : Prop :=
  Sound log r.1 ∧ r.2.Told (log ++ [r.1]) ∧
    (s.isIdle = false → r.2.isIdle = true → r.1.stops = true)

namespace ProviderInbox

variable {log : List InboxEntry} {s : ProviderInbox} {entry : InboxEntry}

theorem Told.silent (h : s.Told log) (hentry : entry.Silent) : Step log s (entry, s) := by
  refine ⟨hentry.sound log, h.add hentry, ?_⟩
  intro hbusy hidle
  rw [hbusy] at hidle
  cases hidle

theorem Told.begin (h : s.Told log) (request : InboxRequest) :
    Step log s (s.call (.begin request)) := by
  obtain ⟨workspace, requestId, task⟩ := request
  cases workspace with
  | none => exact h.silent ⟨rfl, rfl, rfl, rfl, rfl⟩
  | some workspace =>
    cases s with
    | closed => exact h.silent ⟨rfl, rfl, rfl, rfl, rfl⟩
    | active a => exact h.silent ⟨rfl, rfl, rfl, rfl, rfl⟩
    | stopPending p => exact h.silent ⟨rfl, rfl, rfl, rfl, rfl⟩
    | idle =>
      refine ⟨⟨?_, nofun, nofun, nofun, nofun⟩, ?_, nofun⟩
      · rintro request ⟨⟩
        exact ⟨rfl, h⟩
      · refine ⟨_, Spell.ofLog_concat _ _, ?_, rfl⟩
        exact ⟨rfl, rfl, rfl, rfl, nofun, rfl, rfl⟩

theorem Told.close (h : s.Told log) : Step log s (s.call .close) := by
  have hentry : ∀ reply, (InboxEntry.close reply).Silent := fun _ => ⟨rfl, rfl, rfl, rfl, rfl⟩
  cases s with
  | idle => exact ⟨(hentry _).sound log, Told.add (s := .idle) h (hentry _), nofun⟩
  | closed => exact h.silent (hentry _)
  | active a => exact h.silent (hentry _)
  | stopPending p => exact h.silent (hentry _)

theorem Told.resultSettled (h : s.Told log) (requestId : String) :
    Step log s (s.call (.resultSettled requestId)) := by
  have hentry : ∀ reply, (InboxEntry.resultSettled requestId reply).Silent :=
    fun _ => ⟨rfl, rfl, rfl, rfl, rfl⟩
  unfold call ProviderInbox.resultSettled
  cases s with
  | idle => exact h.silent (hentry _)
  | closed => exact h.silent (hentry _)
  | active a =>
    dsimp only
    split
    · exact h.silent (hentry _)
    · refine ⟨(hentry _).sound log, ?_, nofun⟩
      obtain ⟨sp, hsp, ⟨hworkspace, hid, htask, hfence, hfits, hcancelled, hrunning⟩, hactions⟩ := h
      apply Told.add (s := .active { a with resultSettled := true }) ?_ (hentry true)
      exact ⟨sp, hsp, ⟨hworkspace, hid, htask, hfence, hfits, hcancelled, hrunning⟩, hactions⟩
  | stopPending p =>
    dsimp only
    split
    · exact h.silent (hentry _)
    · refine ⟨(hentry _).sound log, ?_, nofun⟩
      obtain ⟨sp, hsp, ⟨⟨hworkspace, hid, htask, hfence, hfits, hcancelled, hrunning⟩, hevidence,
        hissued, hwaiting⟩⟩ := h
      apply Told.add (s := .stopPending { p with active.resultSettled := true }) ?_ (hentry true)
      exact ⟨sp, hsp, ⟨⟨hworkspace, hid, htask, hfence, hfits, hcancelled, hrunning⟩, hevidence,
        hissued, hwaiting⟩⟩

end ProviderInbox

theorem validateFence_iff {a : ActiveRequest} {requestId : String} {fence : TaskFence} :
    validateFence a requestId fence = true ↔ a.requestId = requestId ∧
      a.task.map TaskDispatch.id = some fence.taskId ∧ ∀ before, a.fence = some before →
        before = fence := by
  unfold validateFence
  cases a.fence with
  | none => simp
  | some before => simp [and_assoc]

theorem validateCancelFence_spec {a : ActiveRequest} {fence : Option TaskFence}
    (h : validateCancelFence a fence = true) :
    fence = a.fence ∧ a.fence.isSome = a.task.isSome := by
  unfold validateCancelFence at h
  split at h
  · next htask hbound =>
    simp only [Bool.and_eq_true, decide_eq_true_eq] at h
    rw [htask, hbound, h.2]
    exact ⟨rfl, rfl⟩
  · next htask hbound =>
    rw [htask, hbound]
    exact ⟨rfl, rfl⟩
  · cases h
  · cases h
  · cases h

theorem takeTerminalAction_issued {p : PendingStop} (h : p.actionIssued = true) :
    takeTerminalAction p = (none, p) := by
  simp [takeTerminalAction, h]

theorem takeTerminalAction_waits {p : PendingStop} (htask : p.active.task.isSome = true)
    (hfence : p.active.fence.isSome = false) : takeTerminalAction p = (none, p) := by
  have hnone : p.active.fence.isNone = true := by simpa using hfence
  simp [takeTerminalAction, htask, hnone]

theorem takeTerminalAction_takes {p : PendingStop} (hissued : p.actionIssued = false)
    (h : p.active.fence.isSome = p.active.task.isSome) :
    takeTerminalAction p =
      (some { workspace := p.active.workspace
              evidence := p.evidence
              fence := p.active.fence
              cancelled := p.active.cancelReason.isSome },
        { p with actionIssued := true }) := by
  have hb : (p.active.task.isSome && p.active.fence.isNone) = false := by
    rw [← h]
    cases p.active.fence <;> rfl
  simp [takeTerminalAction, hissued, hb]

/-- A fence is bound for a request with a task only. -/
theorem ActiveRequest.Told.isSome {a : ActiveRequest} {sp : Spell} (h : a.Told sp)
    (hfence : a.fence.isSome = true) : a.task.isSome = true := by
  obtain ⟨fence, hfence⟩ := Option.isSome_iff_exists.mp hfence
  have hmap := h.fits fence hfence
  obtain ⟨task, htask, -⟩ := Option.map_eq_some_iff.mp hmap
  rw [htask]
  rfl

/-- A request that gets its fence. -/
theorem ActiveRequest.Told.bind {a : ActiveRequest} {sp : Spell} {requestId : String}
    {fence : TaskFence} (h : a.Told sp) (hvalid : validateFence a requestId fence = true)
    (reply : Option InboxTerminalAction) :
    { a with fence := some fence }.Told (sp.add (.bindTaskFence requestId fence (.ok reply))) := by
  obtain ⟨hid, htask, hsame⟩ := validateFence_iff.mp hvalid
  refine ⟨h.workspace, h.requestId, h.task, ?_, ?_, ?_, ?_⟩
  · rw [Spell.bound_add, h.fence]
    show a.fence.or (some fence) = some fence
    cases hfence : a.fence with
    | none => rfl
    | some before => rw [hsame before hfence]; rfl
  · rintro fence' ⟨⟩
    exact htask
  · rw [Spell.cancelled_add, h.cancelled]
    exact Bool.or_false _
  · rw [Spell.stopped_add, h.running]
    rfl

namespace ProviderInbox

variable {log : List InboxEntry} {s : ProviderInbox}

theorem Told.requestCancel (h : s.Told log) (workspace : WorkspaceName) (requestId : String)
    (fence : Option TaskFence) (reason : CancelReason) :
    Step log s (s.call (.requestCancel workspace requestId fence reason)) := by
  have herror : ∀ e,
      (InboxEntry.requestCancel workspace requestId fence reason (.error e)).Silent :=
    fun _ => ⟨rfl, rfl, rfl, rfl, rfl⟩
  have hfalse : (InboxEntry.requestCancel workspace requestId fence reason (.ok false)).Silent :=
    ⟨rfl, rfl, rfl, rfl, rfl⟩
  unfold call ProviderInbox.requestCancel
  cases s with
  | idle => exact h.silent (herror _)
  | closed => exact h.silent (herror _)
  | stopPending p => exact h.silent hfalse
  | active a =>
    dsimp only
    split
    · exact h.silent (herror _)
    · next hother =>
      simp only [Bool.or_eq_true, decide_eq_true_eq, not_or, not_not] at hother
      obtain ⟨hworkspace, hid⟩ := hother
      split
      · exact h.silent (herror _)
      · next hfence =>
        obtain ⟨rfl, hsome⟩ := validateCancelFence_spec (by simpa using hfence)
        split
        · exact h.silent hfalse
        · next hfirst =>
          have hfirst : a.cancelReason.isSome = false := by simpa using hfirst
          obtain ⟨sp, hsp, htold, hactions⟩ := h
          refine ⟨⟨nofun, nofun, fun _ => ?_, nofun, nofun⟩, ?_, nofun⟩
          · refine ⟨sp, workspace, reason, hsp, ?_, hactions, ?_, ?_, ?_⟩
            · rw [htold.cancelled, hfirst]
            · rw [htold.workspace, hworkspace]
            · rw [htold.requestId, htold.fence, hid]
            · rw [htold.fence, htold.task, hsome]
          · refine ⟨_, Spell.ofLog_add hsp rfl, ⟨htold.workspace, htold.requestId, htold.task, ?_,
              htold.fits, ?_, ?_⟩, ?_⟩
            · rw [Spell.bound_add, htold.fence]
              exact Option.or_none
            · rw [Spell.cancelled_add]
              exact Bool.or_true _
            · rw [Spell.stopped_add, htold.running]
              rfl
            · rw [Spell.actions_add, hactions]
              rfl

theorem Told.bindTaskFence (h : s.Told log) (requestId : String) (fence : TaskFence) :
    Step log s (s.call (.bindTaskFence requestId fence)) := by
  have herror : ∀ e, (InboxEntry.bindTaskFence requestId fence (.error e)).Silent :=
    fun _ => ⟨rfl, rfl, rfl, rfl, rfl⟩
  -- what holds of a fence that is bound in either phase
  have hbound : ∀ {a : ActiveRequest} {sp : Spell} reply, Spell.ofLog log = some sp →
      a.Told sp → validateFence a requestId fence = true →
      ∀ fence', (InboxEntry.bindTaskFence requestId fence (.ok reply)).binds = some fence' →
        ∃ sp reply', Spell.ofLog log = some sp ∧
          InboxEntry.bindTaskFence requestId fence (.ok reply) =
            .bindTaskFence sp.request.requestId fence' reply' ∧
          sp.request.task.map TaskDispatch.id = some fence'.taskId ∧
          ∀ before, sp.bound = some before → before = fence' := by
    rintro a sp reply hsp htold hvalid fence' ⟨⟩
    obtain ⟨hid, htask, hsame⟩ := validateFence_iff.mp hvalid
    refine ⟨sp, .ok reply, hsp, ?_, ?_, ?_⟩
    · rw [htold.requestId, hid]
    · rw [htold.task, htask]
    · rw [htold.fence]
      exact hsame
  unfold call ProviderInbox.bindTaskFence
  cases s with
  | idle => exact h.silent (herror _)
  | closed => exact h.silent (herror _)
  | active a =>
    dsimp only
    split
    · next hvalid =>
      obtain ⟨sp, hsp, htold, hactions⟩ := h
      refine ⟨⟨nofun, hbound none hsp htold hvalid, nofun, nofun, nofun⟩, ?_, nofun⟩
      refine ⟨_, Spell.ofLog_add hsp rfl, htold.bind hvalid none, ?_⟩
      rw [Spell.actions_add, hactions]
      rfl
    · exact h.silent (herror _)
  | stopPending p =>
    dsimp only
    split
    · next hvalid =>
      obtain ⟨sp, hsp, htold⟩ := h
      obtain ⟨hid, htask, hsame⟩ := validateFence_iff.mp hvalid
      have hsome : p.active.task.isSome = true := by
        obtain ⟨task, htask, -⟩ := Option.map_eq_some_iff.mp htask
        rw [htask]
        rfl
      cases hissued : p.actionIssued with
      | true =>
        obtain ⟨hactions, hfence⟩ := htold.issued hissued
        have hsame : p.active.fence = some fence := by
          rw [hsome] at hfence
          obtain ⟨before, hbefore⟩ := Option.isSome_iff_exists.mp hfence
          rw [hbefore, hsame before hbefore]
        rw [takeTerminalAction_issued rfl]
        refine ⟨⟨nofun, hbound none hsp htold.active hvalid, nofun, nofun, nofun⟩, ?_, nofun⟩
        refine ⟨_, Spell.ofLog_add hsp rfl, htold.active.bind hvalid none, htold.evidence,
          ?_, nofun⟩
        intro _
        rw [Spell.actions_add, hactions, hsame]
        exact ⟨rfl, hsome.symm⟩
      | false =>
        have hactions := htold.waiting hissued
        rw [takeTerminalAction_takes (by rfl) (by rw [hsome]; rfl)]
        refine ⟨⟨nofun, hbound _ hsp htold.active hvalid, nofun, ?_, nofun⟩, ?_, nofun⟩
        · rintro action ⟨⟩
          have hbind := htold.active.bind hvalid (some
            { workspace := p.active.workspace
              evidence := p.evidence
              fence := some fence
              cancelled := p.active.cancelReason.isSome })
          refine ⟨sp, hsp, hactions, htold.active.workspace, ?_, hbind.fence.symm, ?_,
            htold.active.cancelled.symm⟩
          · rw [htold.active.requestId, htold.evidence]
          · rw [htold.active.task, hsome]
            rfl
        · refine ⟨_, Spell.ofLog_add hsp rfl, htold.active.bind hvalid _, htold.evidence, ?_, nofun⟩
          intro _
          rw [Spell.actions_add, hactions]
          exact ⟨rfl, hsome.symm⟩
    · exact h.silent (herror _)

theorem Told.observeTerminal (h : s.Told log) (evidence : TerminalEvidence) :
    Step log s (s.call (.observeTerminal evidence)) := by
  have hnone : (InboxEntry.observeTerminal evidence none).Silent := ⟨rfl, rfl, rfl, rfl, rfl⟩
  unfold call ProviderInbox.observeTerminal
  cases s with
  | idle => exact h.silent hnone
  | closed => exact h.silent hnone
  | stopPending p => exact h.silent hnone
  | active a =>
    dsimp only
    split
    · exact h.silent hnone
    · next hid =>
      have hid : a.requestId = evidence.requestId := by simpa using hid
      obtain ⟨sp, hsp, htold, hactions⟩ := h
      by_cases hready : a.fence.isSome = a.task.isSome
      · rw [takeTerminalAction_takes rfl hready]
        refine ⟨⟨nofun, nofun, nofun, ?_, nofun⟩, ?_, nofun⟩
        · rintro action ⟨⟩
          refine ⟨sp, hsp, hactions, htold.workspace, ?_, ?_, ?_, htold.cancelled.symm⟩
          · rw [htold.requestId, hid]
          · rw [Spell.bound_add, htold.fence]
            exact Option.or_none.symm
          · rw [htold.task]
            exact hready
        · refine ⟨_, Spell.ofLog_add hsp rfl, ⟨htold.workspace, htold.requestId, htold.task, ?_,
            htold.fits, ?_, ?_⟩, hid, ?_, nofun⟩
          · rw [Spell.bound_add, htold.fence]
            exact Option.or_none
          · rw [Spell.cancelled_add, htold.cancelled]
            exact Bool.or_false _
          · rw [Spell.stopped_add, htold.running]
            rfl
          · intro _
            rw [Spell.actions_add, hactions]
            exact ⟨rfl, hready⟩
      · -- a request with a task whose fence is still to come
        have hfence : a.fence.isSome = false := by
          cases hfence : a.fence.isSome with
          | false => rfl
          | true => exact absurd (hfence.trans (htold.isSome hfence).symm) hready
        have htask : a.task.isSome = true := by
          cases htask : a.task.isSome with
          | true => rfl
          | false => exact absurd (hfence.trans htask.symm) hready
        rw [takeTerminalAction_waits htask hfence]
        refine ⟨hnone.sound log, ?_, nofun⟩
        apply Told.add (s := .stopPending _) ?_ hnone
        exact ⟨sp, hsp, htold, hid, nofun, fun _ => hactions⟩

theorem Told.confirmStopped (h : s.Told log) (workspace : WorkspaceName) (requestId : String)
    (fence : Option TaskFence) :
    Step log s (s.call (.confirmStopped workspace requestId fence)) := by
  have hfalse : (InboxEntry.confirmStopped workspace requestId fence false).Silent :=
    ⟨rfl, rfl, rfl, rfl, rfl⟩
  unfold call ProviderInbox.confirmStopped
  cases s with
  | idle => exact h.silent hfalse
  | closed => exact h.silent hfalse
  | active a => exact h.silent hfalse
  | stopPending p =>
    dsimp only
    split
    · exact h.silent hfalse
    · next hsame =>
      simp only [Bool.or_eq_true, Bool.and_eq_true, decide_eq_true_eq, not_or, not_not,
        Bool.not_eq_true', Bool.not_eq_false] at hsame
      obtain ⟨⟨⟨⟨rfl, rfl⟩, rfl⟩, -⟩, hissued⟩ := hsame
      obtain ⟨sp, hsp, htold⟩ := h
      obtain ⟨hactions, -⟩ := htold.issued hissued
      refine ⟨⟨nofun, nofun, nofun, nofun, fun _ => ?_⟩, ?_, fun _ _ => rfl⟩
      · refine ⟨sp, _, hsp, hactions, htold.active.running, ?_⟩
        rw [htold.evidence]
      · intro sp' hsp'
        rw [Spell.ofLog_concat, hsp] at hsp'
        cases hsp'
        rw [Spell.stopped_add]
        exact Bool.or_true _

theorem Told.call (h : s.Told log) (c : InboxCall) : Step log s (s.call c) := by
  cases c with
  | begin request => exact h.begin request
  | bindTaskFence requestId fence => exact h.bindTaskFence requestId fence
  | resultSettled requestId => exact h.resultSettled requestId
  | requestCancel workspace requestId fence reason =>
    exact h.requestCancel workspace requestId fence reason
  | observeTerminal evidence => exact h.observeTerminal evidence
  | confirmStopped workspace requestId fence => exact h.confirmStopped workspace requestId fence
  | close => exact h.close

theorem Told.serve (h : s.Told log) (hsound : List.Justified Sound log) (calls : List InboxCall) :
    List.Justified Sound (log ++ (s.serve calls).1) ∧
      (s.serve calls).2.Told (log ++ (s.serve calls).1) := by
  induction calls generalizing log s with
  | nil =>
    simp only [ProviderInbox.serve, List.append_nil]
    exact ⟨hsound, h⟩
  | cons c calls ih =>
    obtain ⟨hentry, htold, -⟩ := h.call c
    have hrest := ih htold (List.justified_concat.mpr ⟨hsound, hentry⟩)
    simpa [ProviderInbox.serve] using hrest

end ProviderInbox

/-- Every answer of the inbox is sound whatever is called, and nothing but a confirmation makes
it idle again. -/
theorem inbox_single_flight (calls : List InboxCall) :
    List.Justified Sound (ProviderInbox.idle.serve calls).1 ∧
      ((ProviderInbox.idle.serve calls).2.isIdle = true →
        ∀ sp, Spell.ofLog (ProviderInbox.idle.serve calls).1 = some sp → sp.stopped = true) ∧
      ∀ call, (ProviderInbox.idle.serve calls).2.isIdle = false →
        ((ProviderInbox.idle.serve calls).2.call call).2.isIdle = true →
        ((ProviderInbox.idle.serve calls).2.call call).1.stops = true := by
  have hinitial : ProviderInbox.idle.Told [] := nofun
  obtain ⟨hsound, htold⟩ := hinitial.serve List.justified_nil calls
  rw [List.nil_append] at hsound htold
  refine ⟨hsound, ?_, ?_⟩
  · intro hidle
    cases hstate : (ProviderInbox.idle.serve calls).2 with
    | idle =>
      rw [hstate] at htold
      exact htold
    | closed => rw [hstate] at hidle; cases hidle
    | active a => rw [hstate] at hidle; cases hidle
    | stopPending p => rw [hstate] at hidle; cases hidle
  · intro call
    exact (htold.call call).2.2

end SessionRouter.Providers
