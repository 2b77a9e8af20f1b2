import SessionRouter.Lib.Recorded
import SessionRouter.Lib.TokenBucket
import SessionRouter.Router.Commits
import SessionRouter.Router.Executions

/-!
The rate of a credential's messages over whole runs: its budget is one token bucket for all of its
connections, until the router forgets it.
-/

namespace SessionRouter

namespace CredentialBucket

def bucket (b : CredentialBucket) : TokenBucket := ⟨b.availableUnits, b.updatedAt⟩

def capacity : ℕ := credentialMessageBurst * unit

/-- What the bucket holds when a message arrives, before it is charged. -/
def refilled (b : CredentialBucket) (now : ℕ) : ℕ :=
  min (b.availableUnits + (now - b.updatedAt) * credentialMessagesPerSecond) capacity

/-- The arithmetic of `allow` stays within its words, a message is paid for, and it is refused
only for want of a whole one. -/
structure Exact (b : CredentialBucket) (now : ℕ) : Prop where
  elapsed : (now - b.updatedAt) * credentialMessagesPerSecond < 2 ^ 128
  sum : b.availableUnits + (now - b.updatedAt) * credentialMessagesPerSecond < 2 ^ 128
  level : b.refilled now < 2 ^ 64
  bounded : (b.allow now).2.availableUnits ≤ capacity
  refused : (b.allow now).1 = false ↔ b.refilled now < unit
  paid : (b.allow now).2.availableUnits + (if (b.allow now).1 then unit else 0) = b.refilled now

theorem allow_eq (b : CredentialBucket) (now : ℕ) :
    b.allow now = if b.refilled now < unit then (false, ⟨b.refilled now, now⟩)
      else (true, ⟨b.refilled now - unit, now⟩) := rfl

/-- The budget is a token bucket. -/
theorem allow_bucket (b : CredentialBucket) (now : ℕ) :
    (b.allow now).1 = (b.bucket.take capacity credentialMessagesPerSecond unit now).1 ∧
      (b.allow now).2.bucket =
        (b.bucket.take capacity credentialMessagesPerSecond unit now).2 := by
  have hsame : b.bucket.refill capacity credentialMessagesPerSecond now = b.refilled now := rfl
  rw [allow_eq, TokenBucket.take, hsame]
  split_ifs with hlow
  · exact ⟨rfl, rfl⟩
  · exact ⟨rfl, rfl⟩

theorem capacity_lt : capacity < 2 ^ 64 := by decide

/-- A duration has less than `2 ^ 64` seconds. -/
theorem exact {b : CredentialBucket} {now : ℕ} (hb : b.availableUnits ≤ capacity)
    (hspan : now - b.updatedAt < 2 ^ 64 * 1000000000) : b.Exact now := by
  obtain ⟨hallowed, hbucket⟩ := b.allow_bucket now
  have hcapacity := capacity_lt
  have hlevel : (b.allow now).2.availableUnits = (b.allow now).2.bucket.level := rfl
  refine ⟨?_, ?_, ?_, ?_, ?_, ?_⟩
  · unfold credentialMessagesPerSecond
    omega
  · unfold credentialMessagesPerSecond
    omega
  · exact (Nat.min_le_right _ _).trans_lt hcapacity
  · rw [hlevel, hbucket]
    exact TokenBucket.take_level_le
  · rw [hallowed]
    exact TokenBucket.take_refused_iff
  · rw [hlevel, hbucket, hallowed]
    exact TokenBucket.take_level

end CredentialBucket

/-- No budget is changed; each is kept or forgotten. -/
def BudgetsKept (s s' : RouterState) : Prop :=
  ∀ id b, s'.credentialBuckets.get? id = some b → s.credentialBuckets.get? id = some b

instance : Std.Refl BudgetsKept := ⟨fun _ _ _ h => h⟩

instance : IsTrans RouterState BudgetsKept := ⟨fun _ _ _ hab hbc id b h => hab id b (hbc id b h)⟩

theorem BudgetsKept.of_eq {s s' : RouterState}
    (h : s'.credentialBuckets = s.credentialBuckets) : BudgetsKept s s' := by
  intro id b hb
  rw [← h]
  exact hb

section

variable [World]

instance : Routine BudgetsKept where
  draw _ := .of_eq rfl
  call _ _ := .of_eq rfl
  memory _ _ h := .of_eq h
  forget s credentialId := by
    intro id b hb
    rw [Table.get?_remove] at hb
    split_ifs at hb with hid
    exact hb

omit [World] in
theorem inSession_budgetsKept {ε α : Type} (x : Session ε α) :
    (Router.inSession x).Moves BudgetsKept := fun _ => .of_eq rfl

instance : Working BudgetsKept where
  beside _ h := .of_eq h
  plain _ := inSession_budgetsKept _
  redeem _ _ := inSession_budgetsKept _
  reload := inSession_budgetsKept _
  pass _ := .bind (.read _) fun _ => .bind (.require _ _) fun _ =>
    .bind Router.nowInstant_moves fun _ => .bind (.require _ _) fun _ =>
    .bind (Router.ask_moves _) fun _ => .bind (inSession_budgetsKept _) fun _ =>
    inSession_budgetsKept _

end

/-- The credential that an input is charged to. -/
def Input.charges (s : RouterState) : Input → Option Uuid
  | .message id generation sent =>
    if s.shuttingDown || !sent.accepted then none
    else match s.connections.get? id with
      | none => none
      | some c => if c.generation ≠ generation then none else s.connectionCredentialId id
  | _ => none

section

variable [World]

omit [World] in
/-- What the rest of a program does is seen from an earlier state. -/
theorem bind_from {ε α β : Type} {R : RouterState → RouterState → Prop}
    [IsTrans RouterState R] {x : Router ε α} {f : α → Router ε β} {s₀ s : RouterState}
    (hx : R s₀ (x s).2) (hf : ∀ a, (f a).Moves R) : R s₀ ((x >>= f) s).2 := by
  rw [← Actor.wp_state (P := fun s' => R s₀ s'), Actor.wp_bind]
  rw [← Actor.wp_state (P := fun s' => R s₀ s')] at hx
  refine Actor.wp_mono hx (fun a s₁ h₁ => ?_) fun _ _ h₁ => h₁
  rw [Actor.wp_state (P := fun s' => R s₀ s')]
  exact IsTrans.trans _ _ _ h₁ (hf a s₁)

theorem handleMessage_charged {s : RouterState} {id : Uuid} {generation : ℕ}
    {message : ClientMessage} {c : ConnectionState} {credentialId : Uuid}
    (hc : s.connections.get? id = some c) (hgeneration : c.generation = generation)
    (hcredential : s.connectionCredentialId id = some credentialId) :
    BudgetsKept (Router.chargeCredential credentialId s).2
      (Router.handleMessage id generation message s).2 := by
  have hrun : Router.handleMessage id generation message s =
      (Router.chargeCredential credentialId >>= fun allowed =>
        if allowed then Router.dispatchReported id generation message
        else Router.sendError id generation message.requestId? { code := .rateLimited }) s := by
    unfold Router.handleMessage
    rw [Actor.bind_of_ok (a := some c) (t := s) (by rw [← hc]; rfl)]
    dsimp only
    rw [if_neg (not_not_intro hgeneration),
      Actor.bind_of_ok (a := some credentialId) (t := s) (by rw [← hcredential]; rfl)]
  rw [hrun]
  exact bind_from (refl_of BudgetsKept _) fun allowed => .ite (Router.dispatchReported_moves _ _ _)
    (Router.sendError_moves _ _ _ _)

/-- A message that is not charged leaves the budgets. -/
theorem handleMessage_uncharged {s : RouterState} {id : Uuid} {generation : ℕ}
    {message : ClientMessage}
    (h : ∀ c, s.connections.get? id = some c → c.generation = generation →
      s.connectionCredentialId id = none) :
    BudgetsKept s (Router.handleMessage id generation message s).2 := by
  unfold Router.handleMessage
  cases hc : s.connections.get? id with
  | none =>
    rw [Actor.bind_of_ok (a := none) (t := s) (by rw [← hc]; rfl)]
    exact refl_of BudgetsKept s
  | some c =>
    rw [Actor.bind_of_ok (a := some c) (t := s) (by rw [← hc]; rfl)]
    dsimp only
    by_cases hgeneration : c.generation = generation
    · rw [if_neg (not_not_intro hgeneration),
        Actor.bind_of_ok (a := none) (t := s) (by rw [← h c hc hgeneration]; rfl)]
      exact Router.dispatchReported_moves id generation message s
    · rw [if_pos hgeneration]
      exact refl_of BudgetsKept s

/-- What the round does after its message. -/
theorem messageRound_from {s₀ s : RouterState} {id : Uuid} {generation : ℕ}
    {message : ClientMessage} (hopen : (s.shuttingDown || !message.accepted) = false)
    (h : BudgetsKept s₀ (Router.handleMessage id generation message s).2) :
    BudgetsKept s₀ (Router.messageRound id generation message s).2 := by
  unfold Router.messageRound
  show BudgetsKept s₀ ((if s.shuttingDown || !message.accepted then _ else _ :
    Router StoreError Bool) s).2
  rw [if_neg (by simp [hopen])]
  exact bind_from h fun _ => .bind (.read _) fun _ =>
    .ite (.bind (.outcome Router.shutdownPending_moves) fun _ =>
      .bind Router.closeAll_moves fun _ => .pure _) (.pure _)

theorem charges_none {s : RouterState} {input : Input} (h : input.charges s = none) :
    BudgetsKept s (Router.round input s).2 := by
  cases input with
  | message id generation message =>
    unfold Input.charges at h
    dsimp only at h
    by_cases hopen : (s.shuttingDown || !message.accepted) = true
    · show BudgetsKept s (Router.messageRound id generation message s).2
      unfold Router.messageRound
      show BudgetsKept s ((if s.shuttingDown || !message.accepted then _ else _ :
        Router StoreError Bool) s).2
      rw [if_pos hopen]
      exact refl_of BudgetsKept s
    · rw [if_neg hopen] at h
      refine messageRound_from (by simpa using hopen) (handleMessage_uncharged fun c hc hgen => ?_)
      rw [hc] at h
      dsimp only at h
      rw [if_neg (not_not_intro hgen)] at h
      exact h
  | _ => exact Router.controlRound_moves _ s

theorem charges_some {s : RouterState} {input : Input} {credentialId : Uuid}
    (h : input.charges s = some credentialId) :
    BudgetsKept (Router.chargeCredential credentialId s).2 (Router.round input s).2 := by
  cases input with
  | message id generation message =>
    unfold Input.charges at h
    dsimp only at h
    by_cases hopen : (s.shuttingDown || !message.accepted) = true
    · rw [if_pos hopen] at h
      cases h
    · rw [if_neg hopen] at h
      cases hc : s.connections.get? id with
      | none =>
        rw [hc] at h
        cases h
      | some c =>
        rw [hc] at h
        dsimp only at h
        by_cases hgeneration : c.generation = generation
        · rw [if_neg (not_not_intro hgeneration)] at h
          exact messageRound_from (by simpa using hopen) (handleMessage_charged hc hgeneration h)
        · rw [if_pos hgeneration] at h
          cases h
  | _ => cases h

/-- The budget of a credential in a process; a process that is down has none. -/
def Process.budget (credentialId : Uuid) : Process → Option TokenBucket
  | .down _ _ => none
  | .up s => (s.credentialBuckets.get? credentialId).map CredentialBucket.bucket

/-- Something that may touch the budgets: an input is handled, or the process ends. -/
inductive Moment where
  | handled (s : RouterState) (input : Input)
  | ended (s : RouterState)

namespace Moment

/-- The reading of the clock for a message that is handled first. -/
def time : Moment → ℕ
  | handled s _ => World.instant s.tick
  | ended s => World.instant s.tick

/-- A message of the credential arrives and is admitted. -/
def admits (credentialId : Uuid) : Moment → Bool
  | handled s input => input.charges s = some credentialId &&
    match (Router.chargeCredential credentialId s.resume).1 with
    | .ok allowed => allowed
    | .error _ => false
  | ended _ => false

/-- The budget of the credential is forgotten. -/
def drops (credentialId : Uuid) : Moment → Bool
  | handled s input =>
    ((step s input).2.credentialBuckets.get? credentialId).isNone &&
      (input.charges s = some credentialId || (s.credentialBuckets.get? credentialId).isSome)
  | ended s => (s.credentialBuckets.get? credentialId).isSome

def events (credentialId : Uuid) : Moment → List TokenBucket.Event
  | handled s input =>
    (if input.charges s = some credentialId then [.ask (World.instant s.tick)] else []) ++
      if (handled s input).drops credentialId then [.lose (World.instant s.tick)] else []
  | ended s => if (ended s).drops credentialId then [.lose (World.instant s.tick)] else []

end Moment

/-- The messages of a credential that are admitted from one time to another. -/
def admitted (credentialId : Uuid) (a z : ℕ) (moments : List Moment) : ℕ :=
  moments.countP fun m => a ≤ m.time && m.time ≤ z && m.admits credentialId

/-- How often the budget of a credential is forgotten from one time to another. -/
def dropped (credentialId : Uuid) (a z : ℕ) (moments : List Moment) : ℕ :=
  moments.countP fun m => a ≤ m.time && m.time ≤ z && m.drops credentialId

/-- One step of the life of a process, with its moments. -/
inductive Passage : Process → List Moment → Process → Prop
  | start {db : Db} {tick : ℕ} {integrations : IntegrationRegistry} {client : Bool}
      {store : RouterStore}
      (hboot : boot (openStore db tick) = (.ok (integrations, client), store)) :
      Passage (.down db tick) [] (.up { store, integrations, integrationClient := client })
  | startCrash {db db' : Db} {tick : ℕ} (hdb : db' ∈ commits (boot (openStore db tick)).2) :
      Passage (.down db tick) [] (.down db' (boot (openStore db tick)).2.tick)
  | step {s s' : RouterState} {input : Input} (hstep : step s input = (true, s')) :
      Passage (.up s) [.handled s input] (.up s')
  | halt {s : RouterState} : Passage (.up s) [.ended s] (.down s.db s.tick)
  | crash {s : RouterState} {input : Input} {db : Db}
      (hdb : db ∈ commits (step s input).2.store) :
      Passage (.up s) [.handled s input, .ended (SessionRouter.step s input).2]
        (.down db (SessionRouter.step s input).2.tick)
  | stop {s s' : RouterState} {input : Input} {db : Db}
      (hstep : SessionRouter.step s input = (false, s'))
      (hdb : db ∈ commits (Router.epilogue s').2.store) :
      Passage (.up s) [.handled s input, .ended s'] (.down db (Router.epilogue s').2.tick)

/-- The moments of a whole run. -/
inductive Trail : List Moment → Process → Prop
  | create : Trail [] (.down initialDb 1)
  | next {ms ms' : List Moment} {p q : Process} (h : Trail ms p) (last : Passage p ms' q) :
      Trail (ms ++ ms') q

/-- Every process that can be reached has a trail. -/
theorem Reachable.trail {p : Process} (h : Reachable p) : ∃ ms, Trail ms p := by
  induction h with
  | create => exact ⟨[], .create⟩
  | start _ hboot ih => exact ⟨_, ih.choose_spec.next (.start hboot)⟩
  | startCrash _ hdb ih => exact ⟨_, ih.choose_spec.next (.startCrash hdb)⟩
  | step _ _ hstep ih => exact ⟨_, ih.choose_spec.next (.step hstep)⟩
  | halt _ ih => exact ⟨_, ih.choose_spec.next .halt⟩
  | crash _ _ hdb ih => exact ⟨_, ih.choose_spec.next (.crash hdb)⟩
  | stop _ _ hstep hdb ih => exact ⟨_, ih.choose_spec.next (.stop hstep hdb)⟩

/-- The moments of handling inputs one after the other, when the loop does not end on the way. -/
def moments : List Input → RouterState → Option (List Moment × RouterState)
  | [], s => some ([], s)
  | input :: inputs, s =>
    match step s input with
    | (true, s') => (moments inputs s').map fun r => (.handled s input :: r.1, r.2)
    | (false, _) => none

theorem Trail.inputs {inputs : List Input} {ms ms' : List Moment} {s s' : RouterState}
    (h : Trail ms (.up s)) (hmoments : moments inputs s = some (ms', s')) :
    Trail (ms ++ ms') (.up s') := by
  induction inputs generalizing ms ms' s with
  | nil =>
    obtain ⟨rfl, rfl⟩ := Prod.mk.inj (Option.some.inj hmoments)
    rw [List.append_nil]
    exact h
  | cons input inputs ih =>
    rw [moments] at hmoments
    rcases hstep : step s input with ⟨again, s₁⟩
    rw [hstep] at hmoments
    cases again with
    | false => cases hmoments
    | true =>
      obtain ⟨⟨ms₁, s₂⟩, hrest, hsame⟩ := Option.map_eq_some_iff.mp hmoments
      obtain ⟨rfl, rfl⟩ := Prod.mk.inj hsame
      rw [List.append_cons]
      exact ih (h.next (.step hstep)) hrest

theorem step_state (s : RouterState) (input : Input) :
    (step s input).2 = (Router.round input s.resume).2 := by
  unfold step
  cases Router.round input s.resume with
  | mk result s' => cases result <;> rfl

/-- The budgets of a state after the message of an input was charged. -/
def RouterState.charged (s : RouterState) (input : Input) : RouterState :=
  match input.charges s with
  | none => s.resume
  | some credentialId => (Router.chargeCredential credentialId s.resume).2

theorem step_budgetsKept (s : RouterState) (input : Input) :
    BudgetsKept (s.charged input) (step s input).2 := by
  rw [step_state]
  unfold RouterState.charged
  cases hcharges : input.charges s with
  | none => exact charges_none (s := s.resume) hcharges
  | some credentialId => exact charges_some (s := s.resume) hcharges

section budgets

variable (credentialId : Uuid) (s : RouterState) (input : Input)

omit [World] in
theorem orFull_budget (now : ℕ) :
    TokenBucket.orFull CredentialBucket.capacity (Process.budget credentialId (.up s)) now =
      ((s.credentialBuckets.get? credentialId).getD (CredentialBucket.new now)).bucket := by
  show ((s.credentialBuckets.get? credentialId).map CredentialBucket.bucket).getD
    (CredentialBucket.new now).bucket = _
  cases s.credentialBuckets.get? credentialId with
  | none => rfl
  | some b => rfl

/-- Whether a message is admitted is what its bucket allows. -/
theorem admits_handled : Moment.admits credentialId (.handled s input) =
    (decide (input.charges s = some credentialId) &&
      (((s.credentialBuckets.get? credentialId).getD
        (CredentialBucket.new (World.instant s.tick))).allow (World.instant s.tick)).1) := rfl

/-- A message charged to the credential asks its bucket. -/
theorem charged_budget (h : input.charges s = some credentialId) :
    Process.budget credentialId (.up (s.charged input)) =
        TokenBucket.next CredentialBucket.capacity credentialMessagesPerSecond
          CredentialBucket.unit (Process.budget credentialId (.up s))
          (.ask (World.instant s.tick)) ∧
      Moment.admits credentialId (.handled s input) =
        TokenBucket.passes CredentialBucket.capacity credentialMessagesPerSecond
          CredentialBucket.unit (Process.budget credentialId (.up s))
          (.ask (World.instant s.tick)) := by
  obtain ⟨hallowed, hbucket⟩ := CredentialBucket.allow_bucket
    ((s.credentialBuckets.get? credentialId).getD (CredentialBucket.new (World.instant s.tick)))
    (World.instant s.tick)
  constructor
  · have hcharged : (s.charged input).credentialBuckets.get? credentialId =
        some (((s.credentialBuckets.get? credentialId).getD
          (CredentialBucket.new (World.instant s.tick))).allow (World.instant s.tick)).2 := by
      unfold RouterState.charged
      rw [h]
      exact Table.get?_put_self _ _ _
    show ((s.charged input).credentialBuckets.get? credentialId).map _ = some _
    rw [hcharged, orFull_budget, Option.map_some, hbucket]
  · rw [admits_handled, h, decide_eq_true rfl, Bool.true_and]
    show _ = (TokenBucket.take _ _ _ (TokenBucket.orFull _ _ _) _).1
    rw [orFull_budget]
    exact hallowed

/-- Other credentials keep their budgets. -/
theorem uncharged_budget (h : input.charges s ≠ some credentialId) :
    Process.budget credentialId (.up (s.charged input)) = Process.budget credentialId (.up s) ∧
      Moment.admits credentialId (.handled s input) = false := by
  constructor
  · unfold RouterState.charged
    cases hcharges : input.charges s with
    | none => rfl
    | some other =>
      have hne : credentialId ≠ other := fun heq => h (heq ▸ hcharges)
      exact congrArg (Option.map CredentialBucket.bucket) (Table.get?_put_ne _ _ hne)
  · rw [admits_handled, decide_eq_false h, Bool.false_and]

end budgets

section moments

variable (credentialId : Uuid) (a z : ℕ)

/-- The events of a moment lead from the budget before it to the budget after it, and count its
admission and its loss. -/
structure Tells (before : Option TokenBucket) (m : Moment) (after : Option TokenBucket) : Prop where
  after : TokenBucket.after CredentialBucket.capacity credentialMessagesPerSecond
    CredentialBucket.unit before (m.events credentialId) = after
  passed : TokenBucket.passed CredentialBucket.capacity credentialMessagesPerSecond
    CredentialBucket.unit a z before (m.events credentialId) =
      if a ≤ m.time && m.time ≤ z && m.admits credentialId then 1 else 0
  losses : TokenBucket.losses a z (m.events credentialId) =
    if a ≤ m.time && m.time ≤ z && m.drops credentialId then 1 else 0

theorem drops_handled (s : RouterState) (input : Input) :
    Moment.drops credentialId (.handled s input) =
      (((step s input).2.credentialBuckets.get? credentialId).isNone &&
        (decide (input.charges s = some credentialId) ||
          (s.credentialBuckets.get? credentialId).isSome)) := rfl

theorem events_handled (s : RouterState) (input : Input) :
    Moment.events credentialId (.handled s input) =
      (if input.charges s = some credentialId then [.ask (World.instant s.tick)] else []) ++
        if Moment.drops credentialId (.handled s input) then [.lose (World.instant s.tick)]
        else [] := rfl

theorem tells_handled (s : RouterState) (input : Input) :
    Tells credentialId a z (Process.budget credentialId (.up s)) (.handled s input)
      (Process.budget credentialId (.up (step s input).2)) := by
  have hkept := step_budgetsKept s input credentialId
  have hdrops := drops_handled credentialId s input
  -- the budget that was charged is kept or gone
  have hlast : ∀ x, (step s input).2.credentialBuckets.get? credentialId = some x →
      Process.budget credentialId (.up (s.charged input)) =
        Process.budget credentialId (.up (step s input).2) := by
    intro x hx
    exact congrArg (Option.map CredentialBucket.bucket) ((hkept x hx).trans hx.symm)
  have hgone : (step s input).2.credentialBuckets.get? credentialId = none →
      Process.budget credentialId (.up (step s input).2) = none :=
    fun hnone => congrArg (Option.map CredentialBucket.bucket) hnone
  by_cases hcharges : input.charges s = some credentialId
  · obtain ⟨hnext, hadmits⟩ := charged_budget credentialId s input hcharges
    have hevents := events_handled credentialId s input
    rw [if_pos hcharges] at hevents
    constructor
    · rw [hevents, TokenBucket.after_append]
      have hasked : TokenBucket.after CredentialBucket.capacity credentialMessagesPerSecond
          CredentialBucket.unit (Process.budget credentialId (.up s))
          [.ask (World.instant s.tick)] = Process.budget credentialId (.up (s.charged input)) :=
        hnext.symm
      rw [hasked]
      cases hthere : (step s input).2.credentialBuckets.get? credentialId with
      | none =>
        rw [hthere, hcharges, decide_eq_true rfl] at hdrops
        rw [hdrops, hgone hthere]
        rfl
      | some x =>
        rw [hthere] at hdrops
        rw [hdrops, ← hlast x hthere]
        rfl
    · rw [hevents, TokenBucket.passed_ask, hadmits]
      rfl
    · rw [hevents, TokenBucket.losses_ask, TokenBucket.losses_lose]
      rfl
  · obtain ⟨hsame, hadmits⟩ := uncharged_budget credentialId s input hcharges
    have hevents := events_handled credentialId s input
    rw [if_neg hcharges, List.nil_append] at hevents
    constructor
    · rw [hevents]
      cases hthere : (step s input).2.credentialBuckets.get? credentialId with
      | none =>
        rw [hgone hthere]
        rw [hthere, decide_eq_false hcharges] at hdrops
        cases hbefore : s.credentialBuckets.get? credentialId with
        | none =>
          rw [hbefore] at hdrops
          rw [hdrops]
          exact congrArg (Option.map CredentialBucket.bucket) hbefore
        | some b =>
          rw [hbefore] at hdrops
          rw [hdrops]
          rfl
      | some x =>
        rw [hthere] at hdrops
        rw [hdrops, ← hlast x hthere, hsame]
        rfl
    · rw [hevents, TokenBucket.passed_lose, hadmits, Bool.and_false]
      rfl
    · rw [hevents, TokenBucket.losses_lose]
      rfl

theorem tells_ended (s : RouterState) :
    Tells credentialId a z (Process.budget credentialId (.up s)) (.ended s) none := by
  have hevents : Moment.events credentialId (.ended s) =
      if Moment.drops credentialId (.ended s) then [.lose (World.instant s.tick)] else [] := rfl
  constructor
  · have hdrops : Moment.drops credentialId (.ended s) =
        (s.credentialBuckets.get? credentialId).isSome := rfl
    rw [hevents, hdrops]
    cases hbefore : s.credentialBuckets.get? credentialId with
    | none => exact congrArg (Option.map CredentialBucket.bucket) hbefore
    | some b => rfl
  · rw [hevents, TokenBucket.passed_lose]
    simp [Moment.admits]
  · rw [hevents, TokenBucket.losses_lose]
    rfl

/-- The moments of a passage tell the budget of the credential. -/
structure Told (before : Option TokenBucket) (ms : List Moment) (after : Option TokenBucket) :
    Prop where
  after : TokenBucket.after CredentialBucket.capacity credentialMessagesPerSecond
    CredentialBucket.unit before (ms.flatMap (Moment.events credentialId)) = after
  passed : TokenBucket.passed CredentialBucket.capacity credentialMessagesPerSecond
    CredentialBucket.unit a z before (ms.flatMap (Moment.events credentialId)) =
      admitted credentialId a z ms
  losses : TokenBucket.losses a z (ms.flatMap (Moment.events credentialId)) =
    dropped credentialId a z ms

variable {credentialId a z}

theorem Told.nil (b : Option TokenBucket) : Told credentialId a z b [] b := ⟨rfl, rfl, rfl⟩

theorem Told.append {b b' b'' : Option TokenBucket} {ms ms' : List Moment}
    (h : Told credentialId a z b ms b') (h' : Told credentialId a z b' ms' b'') :
    Told credentialId a z b (ms ++ ms') b'' := by
  constructor
  · rw [List.flatMap_append, TokenBucket.after_append, h.after, h'.after]
  · rw [List.flatMap_append, TokenBucket.passed_append, h.after, h.passed, h'.passed, admitted,
      admitted, admitted, List.countP_append]
  · rw [List.flatMap_append, TokenBucket.losses_append, h.losses, h'.losses, dropped, dropped,
      dropped, List.countP_append]

theorem Tells.told {b b' : Option TokenBucket} {m : Moment} (h : Tells credentialId a z b m b') :
    Told credentialId a z b [m] b' := by
  constructor
  · rw [List.flatMap_singleton, h.after]
  · rw [List.flatMap_singleton, h.passed, admitted, List.countP_singleton]
  · rw [List.flatMap_singleton, h.losses, dropped, List.countP_singleton]

theorem Passage.told {p q : Process} {ms : List Moment} (h : Passage p ms q) :
    Told credentialId a z (p.budget credentialId) ms (q.budget credentialId) := by
  cases h with
  | start hboot => exact .nil _
  | startCrash hdb => exact .nil _
  | @step s s' input hstep =>
    have htells := tells_handled credentialId a z s input
    rw [hstep] at htells
    exact htells.told
  | halt => exact (tells_ended credentialId a z _).told
  | crash hdb =>
    exact (tells_handled credentialId a z _ _).told.append (tells_ended credentialId a z _).told
  | @stop s s' input db hstep hdb =>
    have htells := tells_handled credentialId a z s input
    rw [hstep] at htells
    exact htells.told.append (tells_ended credentialId a z _).told

theorem Trail.told {p : Process} {ms : List Moment} (h : Trail ms p) :
    Told credentialId a z none ms (p.budget credentialId) := by
  induction h with
  | create => exact .nil none
  | next _ last ih => exact ih.append last.told

theorem events_time {m : Moment} {e : TokenBucket.Event} (h : e ∈ m.events credentialId) :
    e.time = m.time := by
  cases m with
  | handled s input =>
    rw [events_handled, List.mem_append] at h
    rcases h with h | h
    · split_ifs at h with hcharges
      · rw [List.mem_singleton.mp h]
        rfl
      · cases h
    · split_ifs at h with hdrops
      · rw [List.mem_singleton.mp h]
        rfl
      · cases h
  | ended s =>
    change e ∈ (if Moment.drops credentialId (.ended s) then
      [TokenBucket.Event.lose (World.instant s.tick)] else []) at h
    split_ifs at h with hdrops
    · rw [List.mem_singleton.mp h]
      rfl
    · cases h

/-- A passage reads the clock in order. -/
structure Passage.Clocked (p : Process) (ms : List Moment) (q : Process) : Prop where
  tick : p.tick ≤ q.tick
  sorted : ms.Pairwise fun m m' => m.time ≤ m'.time
  reads : ∀ m ∈ ms, World.instant p.tick ≤ m.time ∧ m.time ≤ World.instant q.tick

theorem Passage.Clocked.nil {p q : Process} (h : p.tick ≤ q.tick) : Passage.Clocked p [] q :=
  ⟨h, .nil, List.forall_mem_nil _⟩

theorem Passage.Clocked.one {p q : Process} {m : Moment} (h : p.tick ≤ q.tick)
    (htime : m.time = World.instant p.tick) : Passage.Clocked p [m] q := by
  refine ⟨h, List.pairwise_singleton _ _, fun m' hm' => ?_⟩
  rw [List.mem_singleton.mp hm', htime]
  exact ⟨le_rfl, World.instant_mono h⟩

theorem Passage.Clocked.append {p p' q : Process} {ms ms' : List Moment}
    (h : Passage.Clocked p ms p') (h' : Passage.Clocked p' ms' q) :
    Passage.Clocked p (ms ++ ms') q where
  tick := h.tick.trans h'.tick
  sorted := List.pairwise_append.mpr ⟨h.sorted, h'.sorted, fun m hm m' hm' =>
    (h.reads m hm).2.trans (h'.reads m' hm').1⟩
  reads m hm := by
    rcases List.mem_append.mp hm with hm | hm
    · exact ⟨(h.reads m hm).1, (h.reads m hm).2.trans (World.instant_mono h'.tick)⟩
    · exact ⟨(World.instant_mono h.tick).trans (h'.reads m hm).1, (h'.reads m hm).2⟩

theorem step_clocked (s : RouterState) (input : Input) :
    Passage.Clocked (.up s) [.handled s input] (.up (step s input).2) :=
  .one (step_commits s input).tick rfl

theorem Passage.clocked {p q : Process} {ms : List Moment} (h : Passage p ms q) :
    Passage.Clocked p ms q := by
  cases h with
  | @start db tick integrations client store hboot =>
    have htick := (boot_moves (openStore db tick)).tick
    rw [hboot] at htick
    exact .nil htick
  | @startCrash db _ tick hdb => exact .nil (boot_moves (openStore db tick)).tick
  | @step s s' input hstep =>
    have hclocked := step_clocked s input
    rw [hstep] at hclocked
    exact hclocked
  | halt => exact .one le_rfl rfl
  | @crash s input db hdb =>
    exact (step_clocked s input).append (.one (q := .down db _) le_rfl rfl)
  | @stop s s' input db hstep hdb =>
    have hclocked := step_clocked s input
    rw [hstep] at hclocked
    exact hclocked.append (.one (q := .down db _) (Router.epilogue_moves s').tick rfl)

theorem Trail.clocked {p : Process} {ms : List Moment} (h : Trail ms p) :
    Passage.Clocked (.down initialDb 1) ms p := by
  induction h with
  | create => exact .nil le_rfl
  | next _ last ih => exact ih.append last.clocked

/-- The events of moments in order are in order. -/
theorem events_sorted {ms : List Moment} (h : ms.Pairwise fun m m' => m.time ≤ m'.time) :
    (ms.flatMap (Moment.events credentialId)).Pairwise fun e e' => e.time ≤ e'.time := by
  rw [List.pairwise_flatMap]
  constructor
  · intro m hm
    refine List.pairwise_of_forall_mem_list fun e he e' he' => ?_
    rw [events_time he, events_time he']
  · exact h.imp fun {m m'} hle e he e' he' => by
      rw [events_time he, events_time he']
      exact hle

end moments

/-- In every run the messages of a credential that are admitted from one time to another are paid
for by a full bucket, another one for each time its budget was forgotten, and the rate. Its bucket
never exceeds its capacity, and `allow` computes exactly and refuses only for want of a token. -/
theorem credential_rate {ms : List Moment} {p : Process} (h : Trail ms p) (credentialId : Uuid)
    (a z : ℕ) :
    admitted credentialId a z ms * CredentialBucket.unit ≤
      credentialMessageBurst * CredentialBucket.unit * (dropped credentialId a z ms + 1) +
        (z - a) * credentialMessagesPerSecond ∧
      ∀ s, p = .up s → ∀ b, s.credentialBuckets.get? credentialId = some b →
        b.availableUnits ≤ credentialMessageBurst * CredentialBucket.unit ∧
          ∀ now, now - b.updatedAt < 2 ^ 64 * 1000000000 → b.Exact now := by
  have htold := @Trail.told _ credentialId a z p ms h
  constructor
  · have hpaid := @TokenBucket.passed_le CredentialBucket.capacity credentialMessagesPerSecond
      CredentialBucket.unit a z _ (@events_sorted _ credentialId ms h.clocked.sorted) none 0
      (fun _ hnone => by cases hnone) fun _ _ => Nat.zero_le _
    have hbudget := TokenBucket.budget_le CredentialBucket.capacity credentialMessagesPerSecond a z
      none 0
    rw [htold.passed, htold.losses] at hpaid
    show _ ≤ CredentialBucket.capacity * (dropped credentialId a z ms + 1) + _
    rw [Nat.mul_add, Nat.mul_one, Nat.mul_comm CredentialBucket.capacity]
    omega
  · rintro s rfl b hb
    have hafter : TokenBucket.after CredentialBucket.capacity credentialMessagesPerSecond
        CredentialBucket.unit none (ms.flatMap (Moment.events credentialId)) = some b.bucket :=
      htold.after.trans (congrArg (Option.map CredentialBucket.bucket) hb)
    have hlevel : b.bucket.level ≤ CredentialBucket.capacity :=
      TokenBucket.after_level_le _ _ _ (fun _ hnone => by cases hnone) hafter
    exact ⟨hlevel, fun now hspan => CredentialBucket.exact hlevel hspan⟩

end

namespace Sample

/-- The world of the samples with a clock that stands still. -/
@[reducible] def frozen : World :=
  { world with instant := fun _ => 0, instant_mono := fun _ _ _ => Nat.le_refl 0 }

def begun : RouterState :=
  match @boot frozen (openStore initialDb 1) with
  | (.ok (integrations, client), store) => { store, integrations, integrationClient := client }
  | (.error _, store) => {
      store, integrations := { configurationInvalid := true, active := ∅ },
      integrationClient := false }

theorem begun_trail (hok : (@boot frozen (openStore initialDb 1)).1.isOk = true) :
    @Trail frozen [] (.up begun) := by
  unfold begun
  rcases hboot : @boot frozen (openStore initialDb 1) with ⟨result, store⟩
  rw [hboot] at hok
  cases result with
  | error e => cases hok
  | ok r =>
    exact @Trail.next frozen _ _ _ _ (@Trail.create frozen) (@Passage.start frozen _ _ _ _ _ hboot)

/-- The operator connects and sends messages as fast as it can. -/
def rush (id : Uuid) (generation : ℕ) : List Input :=
  [.opened generation, .message id generation (.registerOperator 2 (token 3))] ++
    List.replicate 40 (.message id generation (.ping "p"))

/-- The operator disconnects when its budget is used up, and connects again. -/
def hurry : List Input := rush ⟨9⟩ 1 ++ [.closed ⟨9⟩ 1] ++ rush ⟨92⟩ 2

def hurried : List Moment × RouterState := (@moments frozen hurry begun).getD ([], begun)

theorem hurried_counts : (@boot frozen (openStore initialDb 1)).1.isOk = true ∧
    (@moments frozen hurry begun).isSome = true ∧
    @admitted frozen ⟨5⟩ 0 0 hurried.1 = 80 ∧ @dropped frozen ⟨5⟩ 0 0 hurried.1 = 1 := by
  decide +kernel

theorem hurried_trail : @Trail frozen hurried.1 (.up hurried.2) := by
  obtain ⟨r, hr⟩ := Option.isSome_iff_exists.mp hurried_counts.2.1
  unfold hurried
  rw [hr]
  exact @Trail.inputs frozen _ _ _ _ _ (begun_trail hurried_counts.1) hr

theorem credential_rate_hurried :
    @admitted frozen ⟨5⟩ 0 0 hurried.1 * CredentialBucket.unit ≤
      credentialMessageBurst * CredentialBucket.unit * (@dropped frozen ⟨5⟩ 0 0 hurried.1 + 1) +
        (0 - 0) * credentialMessagesPerSecond :=
  (@credential_rate frozen _ _ hurried_trail ⟨5⟩ 0 0).1

/-- With a reconnection more messages are admitted than one bucket pays for. -/
theorem credential_rate_forgotten :
    @Trail frozen hurried.1 (.up hurried.2) ∧
      ¬@admitted frozen ⟨5⟩ 0 0 hurried.1 * CredentialBucket.unit ≤
        credentialMessageBurst * CredentialBucket.unit + (0 - 0) * credentialMessagesPerSecond := by
  refine ⟨hurried_trail, ?_⟩
  rw [hurried_counts.2.2.1]
  decide

end Sample

end SessionRouter
