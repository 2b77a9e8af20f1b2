import SessionRouter.Lib.Recorded
import SessionRouter.Router.Consistency

/-!
Agents work on one request at a time and are ready only when they are free, in every run in which
no stop is confirmed once more while its agent works. A confirmation that is answered from its
receipt frees the agent all the same, and these runs break both.
-/

namespace SessionRouter

section

variable [World] {s : RouterState} {F : Prop} {id : Uuid} {generation : ℕ}

theorem Runs.truthful (h : Runs (fun s input => input.calm s) (.up s)) :
    Good (.rest True) s ∧ Truthful s := by
  have hgood : Good (.rest True) s :=
    Runs.invariant h (F := True) fun _ _ _ hcalm => hcalm
  exact ⟨hgood, hgood.base.truthful trivial⟩

/-- The input is a message that confirms a stop. -/
def Input.confirms : Input → Bool
  | .message _ _ m => m.command?.any fun c => c.2.confirms?.isSome
  | _ => false

omit [World] in
theorem Input.calm_of_confirms {input : Input} (h : input.confirms = false) : input.calm s := by
  cases input with
  | message id generation m =>
    intro workspace command hcommand receipt attemptId a i _ _ _ _ _ hconfirms _ _
    simp [Input.confirms, hcommand, hconfirms] at h
  | _ => trivial

/-- A request that is started finds its recipient without one. -/
theorem startRequest_free (h : Good (.rest True) s) (htruthful : Truthful s) (id : Uuid)
    (generation : ℕ) (requestId recipientId content : String) (timeoutMs : Option ℕ)
    (task : Option TaskDispatch) :
    Actor.wp (Router.startRequest id generation requestId recipientId content timeoutMs task)
      (fun _ _ => ∀ recipient, s.primaries.get? recipientId = some recipient →
        ∀ key p, s.pending.get? key = some p → p.recipient ≠ recipient) (fun _ _ => True) s := by
  unfold Router.startRequest
  simp only [Actor.wp_bind]
  refine Router.wp_ask.mpr ⟨fun workspace _ => ?_, fun _ _ => trivial⟩
  simp only [Actor.wp_read]
  refine Actor.wp_mono (requireUnblocked_spec (X := True) h fun _ => ?_) (fun _ _ hq => hq)
    fun _ _ _ => trivial
  refine Router.wp_requireThat.mpr ⟨fun _ => ?_, fun _ => trivial⟩
  refine Router.wp_requireThat.mpr ⟨fun _ => ?_, fun _ => trivial⟩
  refine Actor.wp_mono (findRecipient_spec (X := True) h
    (Q := fun _ s' => s' = s ∧ ∀ recipient, s.primaries.get? recipientId = some recipient →
      ∀ key p, s.pending.get? key = some p → p.recipient ≠ recipient) ?_) ?_ fun _ _ _ => trivial
  · refine fun recipient c d hc _ hd hagent hidle _ _ => ⟨rfl, fun i hi key p hp => ?_⟩
    rintro rfl
    have hprimary := (h.base.registry.primary_iff recipientId recipient).mpr
      ⟨c, hc, by rw [ConnectionState.agentId?, hd, Option.map_some, hagent]⟩
    rw [hi, Option.some.injEq] at hprimary
    subst hprimary
    rw [(htruthful.working key p c d hp hc hd).1] at hidle
    cases hidle
  · -- What is left has no part in the choice of the recipient.
    rintro found _ ⟨rfl, hfree⟩
    exact Actor.wp_of (fun _ _ _ => Actor.wp_of (fun _ _ _ => Actor.wp_of (fun _ _ _ =>
      Actor.wp_of (fun _ _ _ => hfree) fun _ _ _ => trivial) fun _ _ _ => trivial)
      fun _ _ _ => trivial) fun _ _ _ => trivial

/-- No two requests wait for one connection. -/
theorem single_flight (h : Runs (fun s input => input.calm s) (.up s)) :
    (∀ key key' p p', s.pending.get? key = some p → s.pending.get? key' = some p' →
      p.recipient = p'.recipient → key = key') ∧
    ∀ id generation requestId recipientId content timeoutMs task s' recipient,
      Router.startRequest id generation requestId recipientId content timeoutMs task s =
        (.ok (), s') → s.primaries.get? recipientId = some recipient →
      ∀ key p, s.pending.get? key = some p → p.recipient ≠ recipient := by
  obtain ⟨hgood, htruthful⟩ := h.truthful
  refine ⟨htruthful.single, ?_⟩
  intro id generation requestId recipientId content timeoutMs task s' recipient hok
  have hfree := startRequest_free hgood htruthful id generation requestId recipientId content
    timeoutMs task
  unfold Actor.wp at hfree
  rw [hok] at hfree
  exact hfree recipient

end

namespace Sample

/-- The stop of the attempt is confirmed, the agent is idle again and gets a request; the same
confirmation comes once more, and then another request. -/
def confirming : List Input :=
  [fromAdmin (.taskConfirmStopped "r8" workspace ⟨104⟩ 1 attempt 4 "gone"),
    fromAgent (.workIdle "r9" workspace "r6" (some ⟨1, attempt⟩) true),
    fromAdmin (.send "r10" "a" "hello" none),
    fromAdmin (.taskConfirmStopped "r11" workspace ⟨104⟩ 1 attempt 4 "gone")]

theorem calm_runs (inputs : List Input)
    (hall : ∀ input ∈ inputs, input.confirms = false)
    (hsome : (runInputs started inputs).isSome = true) :
    Runs (fun s input => input.calm s) (.up (after inputs)) :=
  after_runs (fun input hinput _ => Input.calm_of_confirms (hall input hinput)) hsome

/-- The agent is ready when it has joined, cancels work when it is interrupted, and is ready again
when it was confirmed twice that it stopped, though a request waits for it from in between. -/
theorem confirming_checked :
    ((runInputs started joining).isSome = true ∧ ((after joining).connections.get? agent).any
      (fun c => c.descriptor?.any fun d => d.ready) = true) ∧
    ((runInputs started (joining ++ beginning)).isSome = true ∧
      (after (joining ++ beginning)).primaries.get? "a" = some agent ∧
      ((after (joining ++ beginning)).pending.get? (workspace, "r6")).any
        (fun p => p.recipient = agent) = true) ∧
    ((runInputs started (joining ++ beginning ++ interrupting)).isSome = true ∧
      ((after (joining ++ beginning ++ interrupting)).connections.get? agent).any
        (fun c => c.canceling.isSome) = true) ∧
    ((runInputs started (joining ++ beginning ++ interrupting ++ confirming)).isSome = true ∧
      ((after (joining ++ beginning ++ interrupting ++ confirming)).connections.get? agent).any
        (fun c => c.descriptor?.any fun d => d.ready) = true ∧
      ((after (joining ++ beginning ++ interrupting ++ confirming)).pending.get?
        (workspace, "r10")).any (fun p => p.recipient = agent) = true) ∧
    (runInputs started (joining ++ beginning ++ interrupting ++ confirming ++
        [fromAdmin (.send "r12" "a" "again" none)])).isSome = true ∧
      ((after (joining ++ beginning ++ interrupting ++ confirming ++
        [fromAdmin (.send "r12" "a" "again" none)])).pending.get? (workspace, "r10")).any
          (fun p => p.recipient = agent) = true ∧
      ((after (joining ++ beginning ++ interrupting ++ confirming ++
        [fromAdmin (.send "r12" "a" "again" none)])).pending.get? (workspace, "r12")).any
          (fun p => p.recipient = agent) = true := by
  decide +kernel

end Sample

open Sample in
theorem single_flight_working :
    let s := after (joining ++ beginning)
    Runs (fun s input => input.calm s) (.up s) ∧ s.primaries.get? "a" = some agent ∧
      (s.pending.get? (workspace, "r6")).any (fun p => p.recipient = agent) = true ∧
      ∀ s', Router.startRequest admin 1 "r7" "a" "hello" none none s ≠ (.ok (), s') := by
  intro s
  have hruns : Runs (fun s input => input.calm s) (.up s) :=
    calm_runs (joining ++ beginning) (by decide) confirming_checked.2.1.1
  have hprimary : s.primaries.get? "a" = some agent := confirming_checked.2.1.2.1
  have hpending : (s.pending.get? (workspace, "r6")).any (fun p => p.recipient = agent) = true :=
    confirming_checked.2.1.2.2
  refine ⟨hruns, hprimary, hpending, fun s' hok => ?_⟩
  obtain ⟨p, hp, hrecipient⟩ := (Option.any_eq_true _ _).mp hpending
  exact (single_flight hruns).2 admin 1 "r7" "a" "hello" none none s' agent hok hprimary
    (workspace, "r6") p hp (of_decide_eq_true hrecipient)

open Sample in
theorem single_flight_broken :
    let s := after (joining ++ beginning ++ interrupting ++ confirming ++
      [fromAdmin (.send "r12" "a" "again" none)])
    Reachable (.up s) ∧ ∃ p p', s.pending.get? (workspace, "r10") = some p ∧
      s.pending.get? (workspace, "r12") = some p' ∧ p.recipient = p'.recipient := by
  intro s
  have hreach : Reachable (.up s) := after_reachable (joining ++ beginning ++ interrupting ++
    confirming ++ [fromAdmin (.send "r12" "a" "again" none)]) confirming_checked.2.2.2.2.1
  have hfirst : (s.pending.get? (workspace, "r10")).any (fun p => p.recipient = agent) = true :=
    confirming_checked.2.2.2.2.2.1
  have hsecond : (s.pending.get? (workspace, "r12")).any (fun p => p.recipient = agent) = true :=
    confirming_checked.2.2.2.2.2.2
  obtain ⟨p, hp, hrecipient⟩ := (Option.any_eq_true _ _).mp hfirst
  obtain ⟨p', hp', hrecipient'⟩ := (Option.any_eq_true _ _).mp hsecond
  exact ⟨hreach, p, p', hp, hp',
    (of_decide_eq_true hrecipient).trans (of_decide_eq_true hrecipient').symm⟩

section

variable [World] {s : RouterState} {id : Uuid} {generation : ℕ}

/-- Nobody who acts through a connection that cancels work leaves the workspace for it. -/
theorem workspaceLeave_canceling {c : ConnectionState} {i : Uuid} (hi : s.effective i = id)
    (hc : s.connections.get? id = some c) (hworkspace : c.workspace.isSome = true)
    (hcancel : c.canceling.isSome = true) (requestId : String) :
    Router.workspaceLeave i generation requestId s = (.error { code := .workspaceBusy }, s) := by
  obtain ⟨w, hw⟩ := Option.isSome_iff_exists.mp hworkspace
  have hcanceling : c.canceling.isNone = false := by
    rw [Option.isNone_eq_false_iff]
    exact hcancel
  unfold Router.workspaceLeave
  rw [Actor.bind_of_ok (a := id) (t := s) (by rw [← hi]; rfl),
    Actor.bind_of_ok (a := some c) (t := s) (by rw [← hc]; rfl)]
  simp only [Option.bind_some, hw]
  rw [Actor.bind_of_error (e := { code := .workspaceBusy }) (t := s)]
  rw [Option.all_some, hcanceling]
  rfl

/-- An agent that says it is ready is free, and one that cancels work cannot leave. -/
theorem readiness_truthful (h : Runs (fun s input => input.calm s) (.up s)) :
    (∀ id c d, s.connections.get? id = some c → c.descriptor? = some d → d.ready = true →
      d.status = .idle ∧ c.canceling = none ∧ c.workspace.isSome = true ∧
      (∀ key p, s.pending.get? key = some p → p.recipient ≠ id) ∧
      ∀ attemptId a, s.db.attempts.get? attemptId = some a → a.agentId = d.agentId →
        a.barrier = false) ∧
    ∀ id c, s.connections.get? id = some c → c.canceling.isSome = true →
      (∃ d, c.descriptor? = some d ∧ d.status = .busy ∧ d.ready = false) ∧
      c.workspace.isSome = true ∧ s.effective id = id ∧
      ∀ i generation requestId, s.effective i = id →
        Router.workspaceLeave i generation requestId s =
          (.error { code := .workspaceBusy }, s) := by
  obtain ⟨hgood, htruthful⟩ := h.truthful
  constructor
  · intro id c d hc hd hready
    obtain ⟨hidle, hcancel, hworkspace, hbarrier⟩ := htruthful.ready id c d hc hd hready
    refine ⟨hidle, hcancel, hworkspace, ?_, ?_⟩
    · rintro key p hp rfl
      rw [(htruthful.working key p c d hp hc hd).1] at hidle
      cases hidle
    · intro attemptId a ha hagent
      by_contra hb
      exact hbarrier ⟨attemptId, a, ha, hagent, by simpa using hb⟩
  · intro id c hc hcancel
    obtain ⟨d, hd, hbusy, hworkspace⟩ := htruthful.canceling id c hc hcancel
    refine ⟨⟨d, hd, hbusy, ?_⟩, hworkspace, ?_, ?_⟩
    · by_contra hready
      have hidle := (htruthful.ready id c d hc hd (by simpa using hready)).1
      rw [hbusy] at hidle
      cases hidle
    · obtain ⟨claims, d', token, hrole, -⟩ := ConnectionState.role_of_agentId
        (show c.agentId? = some d.agentId by rw [ConnectionState.agentId?, hd, Option.map_some])
      exact effective_self hc (by rw [ConnectionState.isDelegate, hrole])
    · intro i generation requestId hi
      exact workspaceLeave_canceling hi hc hworkspace hcancel requestId

end

open Sample in
/-- The agent that has joined is ready, and the one that was interrupted cannot leave. -/
theorem readiness_truthful_joined :
    (Runs (fun s input => input.calm s) (.up (after joining)) ∧
      ∃ c d, (after joining).connections.get? agent = some c ∧ c.descriptor? = some d ∧
        d.ready = true ∧
        ∀ key p, (after joining).pending.get? key = some p → p.recipient ≠ agent) ∧
    let s := after (joining ++ beginning ++ interrupting)
    Runs (fun s input => input.calm s) (.up s) ∧
      ∃ c d, s.connections.get? agent = some c ∧ c.canceling.isSome = true ∧
        c.descriptor? = some d ∧ d.status = .busy ∧
        Router.workspaceLeave agent 2 "r3" s = (.error { code := .workspaceBusy }, s) := by
  have hjoined : Runs (fun s input => input.calm s) (.up (after joining)) :=
    calm_runs joining (by decide) confirming_checked.1.1
  have hready : ((after joining).connections.get? agent).any (fun c =>
      c.descriptor?.any fun d => d.ready) = true := confirming_checked.1.2
  have hinterrupted : Runs (fun s input => input.calm s)
      (.up (after (joining ++ beginning ++ interrupting))) :=
    calm_runs (joining ++ beginning ++ interrupting) (by decide) confirming_checked.2.2.1.1
  have hcanceling : ((after (joining ++ beginning ++ interrupting)).connections.get? agent).any
      (fun c => c.canceling.isSome) = true := confirming_checked.2.2.1.2
  constructor
  · obtain ⟨c, hc, hready⟩ := (Option.any_eq_true _ _).mp hready
    obtain ⟨d, hd, hready⟩ := (Option.any_eq_true _ _).mp hready
    obtain ⟨-, -, -, hfree, -⟩ := (readiness_truthful hjoined).1 agent c d hc hd hready
    exact ⟨hjoined, c, d, hc, hd, hready, hfree⟩
  · obtain ⟨c, hc, hcanceling⟩ := (Option.any_eq_true _ _).mp hcanceling
    obtain ⟨⟨d, hd, hbusy, -⟩, -, heffective, hleave⟩ :=
      (readiness_truthful hinterrupted).2 agent c hc hcanceling
    exact ⟨hinterrupted, c, d, hc, hcanceling, hd, hbusy, hleave agent 2 "r3" heffective⟩

open Sample in
theorem readiness_truthful_broken :
    let s := after (joining ++ beginning ++ interrupting ++ confirming)
    Reachable (.up s) ∧ ∃ c d p, s.connections.get? agent = some c ∧ c.descriptor? = some d ∧
      d.ready = true ∧ s.pending.get? (workspace, "r10") = some p ∧ p.recipient = agent := by
  intro s
  have hreach : Reachable (.up s) := after_reachable
    (joining ++ beginning ++ interrupting ++ confirming) confirming_checked.2.2.2.1.1
  have hready : (s.connections.get? agent).any (fun c =>
      c.descriptor?.any fun d => d.ready) = true := confirming_checked.2.2.2.1.2.1
  have hpending : (s.pending.get? (workspace, "r10")).any (fun p => p.recipient = agent) = true :=
    confirming_checked.2.2.2.1.2.2
  obtain ⟨c, hc, hready⟩ := (Option.any_eq_true _ _).mp hready
  obtain ⟨d, hd, hready⟩ := (Option.any_eq_true _ _).mp hready
  obtain ⟨p, hp, hrecipient⟩ := (Option.any_eq_true _ _).mp hpending
  exact ⟨hreach, c, d, p, hc, hd, hready, hp, of_decide_eq_true hrecipient⟩

end SessionRouter
