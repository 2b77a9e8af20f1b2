import SessionRouter.Onboarding.Journal
import Mathlib.Data.List.Chain

/-!
Over any installs and resumes of one invitation and provider, with crashes and failed syncs: one
identity is sent, the durable stage moves forward one at a time, and every published state can be
loaded.
-/

namespace SessionRouter.Onboarding

/-- How far a journal is. -/
def progress : Option JournalState → ℕ
  | none => 0
  | some state => match state.stage with
    | .prepared => 1
    | .enrolled => 2
    | .configured => 3

/-- A durable journal stays at its stage or moves to the next one. -/
def Advances (u v : Option JournalState) : Prop :=
  progress v = progress u ∨ progress v = progress u + 1

/-- The state may replace what was published. -/
def Follows (u : Option JournalState) (state : JournalState) : Prop :=
  Advances u (some state) ∧ ∀ old, u = some old → state.enrollmentId = old.enrollmentId

/-- Whatever a crash brings back has the identity of the request. -/
structure Disk.Identified (d : Disk) (request : EnrollmentRequest) : Prop where
  state : ∀ u ∈ d.state.values, ∃ state, u = some state ∧
    state.enrollmentId = request.enrollmentId
  credential : ∀ u ∈ d.credential.values, ∃ credential, u = some credential ∧
    credential.id = request.credentialId ∧ credential.token = request.credentialToken

/-- What a crash brings back if no name has reached the disk since the last sync. -/
def Disk.base (d : Disk) : Option JournalState := d.state.older.head?.getD d.state.now

structure Disk.Clean (d : Disk) : Prop where
  state : d.state.older = []
  credential : d.credential.older = []

/-- The disk is as it was, or has been synced. -/
def Disk.Synced (d d' : Disk) : Prop := d' = d ∨ d' = d.sync

section

variable [JournalEnv] (inviteId : Uuid) (provider : OnboardingProvider) (path : HostPath)

/-- A later load accepts the state, as long as its executable exists. -/
def Loadable (state : JournalState) : Prop :=
  validateState state inviteId provider path = true ∧ stateBytes state ≤ maxStateBytes

/-- The invariant of the disk. -/
structure Consistent (d : Disk) : Prop where
  identified : ∀ request ∈ d.sent, d.Identified request
  loadable : ∀ state, some state ∈ d.state.values → Loadable inviteId provider path state
  pending : d.state.older = [] ∨
    ∃ u state, d.state.older = [u] ∧ d.state.now = some state ∧ Follows u state
  orphan : ∀ u ∈ d.credential.older, u = none
  durable : d.durable.IsChain Advances
  last : d.durable.getLast? = some d.base

/-- When an operation keeps the invariant. -/
def Permitted (d : Disk) : Op → Prop
  | .renameState state _ =>
    d.state.older = [] ∧ Loadable inviteId provider path state ∧ Follows d.state.now state
  | .exchange request => d.Identified request
  | _ => True

end

theorem Advances.refl (u : Option JournalState) : Advances u u := Or.inl rfl

namespace Consistent

variable [JournalEnv] {inviteId : Uuid} {provider : OnboardingProvider} {path : HostPath}
  {d d' : Disk}

theorem empty : Consistent inviteId provider path {} := by
  refine ⟨nofun, ?_, Or.inl rfl, nofun, List.isChain_singleton none, rfl⟩
  intro state hstate
  simp [Slot.values] at hstate

theorem older_of_absent (h : Consistent inviteId provider path d) (hnow : d.state.now = none) :
    d.state.older = [] := by
  rcases h.pending with hclean | ⟨u, state, -, hsome, -⟩
  · exact hclean
  · rw [hnow] at hsome
    cases hsome

/-- A crash leaves the base or what was published after it. -/
theorem advances_of_mem (h : Consistent inviteId provider path d) {u : Option JournalState}
    (hu : u ∈ d.state.values) : Advances d.base u := by
  rcases h.pending with hclean | ⟨v, state, holder, hnow, hfollows⟩
  · simp only [Slot.values, hclean, List.mem_singleton] at hu
    simp only [Disk.base, hclean, hu]
    exact .refl _
  · simp only [Slot.values, holder, List.mem_cons, List.not_mem_nil, or_false] at hu
    simp only [Disk.base, holder, List.head?_cons, Option.getD_some]
    rcases hu with rfl | rfl
    · rw [hnow]
      exact hfollows.1
    · exact .refl _

theorem durable_append (h : Consistent inviteId provider path d) {u : Option JournalState}
    (hu : u ∈ d.state.values) : (d.durable ++ [u]).IsChain Advances := by
  apply List.isChain_append.mpr
  refine ⟨h.durable, List.isChain_singleton u, ?_⟩
  intro v hv w hw
  rw [h.last] at hv
  cases hv
  cases hw
  exact h.advances_of_mem hu

/-- A disk on which each name stands for one of the values it could stand for. -/
theorem settle (h : Consistent inviteId provider path d) {state : Option JournalState}
    {credential : Option CredentialFile} (hstate : state ∈ d.state.values)
    (hcredential : credential ∈ d.credential.values) :
    Consistent inviteId provider path { d with
      state := { now := state }
      credential := { now := credential }
      durable := d.durable ++ [state] } := by
  refine ⟨?_, ?_, Or.inl rfl, nofun, h.durable_append hstate, by simp [Disk.base]⟩
  · intro request hrequest
    have hid := h.identified request hrequest
    constructor
    · intro u hu
      simp only [Slot.values, List.mem_singleton] at hu
      exact hid.state u (hu ▸ hstate)
    · intro u hu
      simp only [Slot.values, List.mem_singleton] at hu
      exact hid.credential u (hu ▸ hcredential)
  · intro st hst
    simp only [Slot.values, List.mem_singleton] at hst
    exact h.loadable st (hst ▸ hstate)

theorem sync (h : Consistent inviteId provider path d) : Consistent inviteId provider path d.sync :=
  h.settle List.mem_cons_self List.mem_cons_self

theorem crash (h : Consistent inviteId provider path d) (hcrash : d.crash d') :
    Consistent inviteId provider path d' := by
  obtain ⟨state, hstate, credential, hcredential, rfl⟩ := hcrash
  exact h.settle hstate hcredential

/-- A new credential is linked only before the first request. -/
theorem link (h : Consistent inviteId provider path d) {credential : CredentialFile}
    (hnow : d.credential.now = none) :
    Consistent inviteId provider path
      { d with credential := d.credential.set credential } := by
  refine ⟨?_, h.loadable, h.pending, ?_, h.durable, h.last⟩
  · intro request hrequest
    obtain ⟨c, hc, -⟩ := (h.identified request hrequest).credential d.credential.now
      List.mem_cons_self
    rw [hnow] at hc
    cases hc
  · intro u hu
    rcases List.mem_cons.mp hu with rfl | hu
    · exact hnow
    · exact h.orphan u hu

theorem rename (h : Consistent inviteId provider path d) {state : JournalState}
    (hclean : d.state.older = []) (hload : Loadable inviteId provider path state)
    (hfollows : Follows d.state.now state) :
    Consistent inviteId provider path { d with state := d.state.set state } := by
  refine ⟨?_, ?_, Or.inr ⟨d.state.now, state, ?_, rfl, hfollows⟩, h.orphan, h.durable, ?_⟩
  · intro request hrequest
    have hid := h.identified request hrequest
    refine ⟨?_, hid.credential⟩
    intro u hu
    rcases List.mem_cons.mp hu with rfl | hu
    · obtain ⟨old, hold, heq⟩ := hid.state d.state.now List.mem_cons_self
      exact ⟨state, rfl, (hfollows.2 old hold).trans heq⟩
    · exact hid.state u hu
  · intro st hst
    rcases List.mem_cons.mp hst with heq | hst
    · cases heq
      exact hload
    · exact h.loadable st hst
  · simp [Slot.set, hclean]
  · rw [h.last]
    simp [Disk.base, Slot.set, hclean]

theorem send (h : Consistent inviteId provider path d) {request : EnrollmentRequest}
    (hid : d.Identified request) :
    Consistent inviteId provider path { d with sent := d.sent ++ [request] } := by
  refine ⟨?_, h.loadable, h.pending, h.orphan, h.durable, h.last⟩
  intro r hr
  rcases List.mem_append.mp hr with hr | hr
  · exact ⟨(h.identified r hr).state, (h.identified r hr).credential⟩
  · rw [List.mem_singleton.mp hr]
    exact ⟨hid.state, hid.credential⟩

/-- The step lemma. -/
theorem answers (h : Consistent inviteId provider path d) {o : Op} {r : Reply}
    (hp : Permitted inviteId provider path d o) (ha : d.answers o r d') :
    Consistent inviteId provider path d' := by
  cases o with
  | readState => exact ha.1 ▸ h
  | readCredential => exact ha.1 ▸ h
  | inspectExecutable _ => exact ha.1 ▸ h
  | outside => exact ha.1 ▸ h
  | newUuid => exact ha.1 ▸ h
  | generateCredential _ _ _ => exact ha.1 ▸ h
  | writeTemporary => exact ha.1 ▸ h
  | removeTemporary => exact ha.1 ▸ h
  | syncCredential => exact ha.1 ▸ h
  | linkCredential credential =>
    rcases ha with ⟨hnow, -, rfl⟩ | ⟨e, -, rfl⟩
    · exact h.link hnow
    · exact h
  | renameState state replace =>
    rcases ha with ⟨-, -, rfl⟩ | ⟨e, -, rfl⟩
    · exact h.rename hp.1 hp.2.1 hp.2.2
    · exact h
  | syncDirectory =>
    rcases ha with ⟨-, rfl⟩ | ⟨e, -, rfl⟩
    · exact h.sync
    · exact h
  | exchange request =>
    obtain ⟨rfl, -⟩ := ha
    exact h.send hp

end Consistent

theorem validateAction_weaken {action : InstallAction} {ticket ticket' : Option OnboardingTicket}
    {credential : Option CredentialFile} (hticket : ticket' = ticket ∨ ticket' = none)
    (h : validateAction action ticket credential = true) :
    validateAction action ticket' none = true := by
  cases action with
  | file path sha256 => exact h
  | command argv =>
    simp only [validateAction, Bool.and_eq_true, Bool.not_eq_true', List.any_eq_false,
      Bool.or_eq_true, not_or, Option.any_none] at h ⊢
    refine ⟨h.1, ?_⟩
    intro arg harg
    obtain ⟨⟨hnul, htoken⟩, -⟩ := h.2 arg harg
    rcases hticket with rfl | rfl
    · exact ⟨⟨hnul, htoken⟩, nofun⟩
    · exact ⟨⟨hnul, nofun⟩, nofun⟩

theorem compatible_append {records : List ActionRecord} {record : ActionRecord}
    (h : compatible records = true)
    (hnew : ∀ old ∈ records, clashes old.intent record.intent = false) :
    compatible (records ++ [record]) = true := by
  induction records with
  | nil => rfl
  | cons old records ih =>
    simp only [compatible, Bool.and_eq_true, List.cons_append, List.all_append, List.all_cons,
      List.all_nil] at h ⊢
    refine ⟨⟨h.1, ?_⟩, ih h.2 fun old hold => hnew old (List.mem_cons_of_mem _ hold)⟩
    rw [hnew old List.mem_cons_self]
    exact ⟨rfl, trivial⟩

/-- Only the intents of the actions matter. -/
theorem compatible_congr {records records' : List ActionRecord}
    (h : records.map ActionRecord.intent = records'.map ActionRecord.intent) :
    compatible records = compatible records' := by
  have hall (intent : InstallAction) (l : List ActionRecord) :
      (l.all fun later => !clashes intent later.intent) =
        (l.map ActionRecord.intent).all fun later => !clashes intent later := by
    rw [List.all_map]
    rfl
  induction records generalizing records' with
  | nil =>
    cases records' with
    | nil => rfl
    | cons record' records' => cases h
  | cons record records ih =>
    cases records' with
    | nil => cases h
    | cons record' records' =>
      simp only [List.map_cons, List.cons.injEq] at h
      simp only [compatible, hall, h.1, h.2, ih h.2]

theorem validateActions_plan {state : JournalState} {action : InstallAction}
    {credential : Option CredentialFile} (h : validateActions state = true)
    (haction : validateAction action state.ticket credential = true)
    (hstage : state.stage ≠ .configured)
    (hnew : ∀ record ∈ state.actions, clashes record.intent action = false) :
    validateActions { state with
      actions := state.actions ++ [{ intent := action, status := .planned }] } = true := by
  simp only [validateActions, Bool.and_eq_true, List.all_eq_true] at h ⊢
  refine ⟨?_, compatible_append h.2 hnew⟩
  intro record hrecord
  rcases List.mem_append.mp hrecord with hrecord | hrecord
  · exact h.1 record hrecord
  · rw [List.mem_singleton.mp hrecord]
    exact ⟨validateAction_weaken (Or.inl rfl) haction, by simp [hstage]⟩

theorem validateActions_applied {state : JournalState} {index : ℕ}
    (h : validateActions state = true) :
    validateActions { state with
      actions := state.actions.modify index fun record => { record with status := .applied } } =
        true := by
  simp only [validateActions, Bool.and_eq_true, List.all_eq_true] at h ⊢
  refine ⟨?_, ?_⟩
  · intro record hrecord
    obtain ⟨i, hi, rfl⟩ := List.mem_iff_getElem.mp hrecord
    rw [List.getElem_modify]
    rw [List.length_modify] at hi
    have hold := h.1 _ (List.getElem_mem hi)
    split_ifs
    · exact ⟨hold.1, by simp⟩
    · exact hold
  · rw [← h.2]
    apply compatible_congr
    apply List.ext_getElem
    · simp
    · intro i hi hi'
      simp only [List.getElem_map, List.getElem_modify]
      split_ifs <;> rfl

section

variable [JournalEnv] {inviteId : Uuid} {provider : OnboardingProvider} {path : HostPath}

/-- What an exchange, the end of the installation, a plan and an action done make of a state. -/
theorem validateState_enrolled {state : JournalState} {ticket : OnboardingTicket}
    (h : validateState state inviteId provider path = true) (hticket : state.ticket = some ticket) :
    validateState { state with stage := .enrolled } inviteId provider path = true ∧
      Follows (some state) { state with stage := .enrolled } := by
  simp only [validateState, Bool.and_eq_true, hticket] at h ⊢
  obtain ⟨⟨hhead, hmatch⟩, hactions⟩ := h
  have hmatch' : ticketMatches state ticket provider = true ∧ state.stage ≠ .configured := by
    cases hstage : state.stage with
    | prepared => exact ⟨by simpa only [hstage] using hmatch, nofun⟩
    | enrolled => exact ⟨by simpa only [hstage] using hmatch, nofun⟩
    | configured =>
      rw [hstage] at hmatch
      cases hmatch
  refine ⟨⟨⟨hhead, hmatch'.1⟩, ?_⟩, ?_, ?_⟩
  · simp only [validateActions, Bool.and_eq_true, List.all_eq_true] at hactions ⊢
    rw [← hticket]
    exact ⟨fun record hrecord => ⟨(hactions.1 record hrecord).1, rfl⟩, hactions.2⟩
  · cases hstage : state.stage with
    | prepared => exact Or.inr (by simp only [progress, hstage])
    | enrolled => exact Or.inl (by simp only [progress, hstage])
    | configured => exact absurd hstage hmatch'.2
  · intro old hold
    cases hold
    rfl

theorem validateState_configured {state : JournalState}
    (h : validateState state inviteId provider path = true) (hstage : state.stage ≠ .prepared)
    (happlied : ∀ record ∈ state.actions, record.status = .applied) :
    validateState { state with stage := .configured, ticket := none } inviteId provider path =
        true ∧
      Follows (some state) { state with stage := .configured, ticket := none } := by
  simp only [validateState, Bool.and_eq_true] at h ⊢
  obtain ⟨⟨hhead, -⟩, hactions⟩ := h
  refine ⟨⟨⟨hhead, trivial⟩, ?_⟩, ?_, ?_⟩
  · simp only [validateActions, Bool.and_eq_true, List.all_eq_true] at hactions ⊢
    refine ⟨fun record hrecord => ⟨?_, ?_⟩, hactions.2⟩
    · exact validateAction_weaken (Or.inr rfl) (hactions.1 record hrecord).1
    · simp [happlied record hrecord]
  · cases h' : state.stage with
    | prepared => exact absurd h' hstage
    | enrolled => exact Or.inr (by simp only [progress, h'])
    | configured => exact Or.inl (by simp only [progress, h'])
  · intro old hold
    cases hold
    rfl

theorem validateState_actions {state : JournalState} {actions : List ActionRecord}
    (h : validateState state inviteId provider path = true)
    (hactions : validateActions { state with actions := actions } = true) :
    validateState { state with actions := actions } inviteId provider path = true ∧
      Follows (some state) { state with actions := actions } := by
  simp only [validateState, Bool.and_eq_true] at h ⊢
  refine ⟨⟨h.1, hactions⟩, Or.inl rfl, ?_⟩
  intro old hold
  cases hold
  rfl

/-- The first state of a journal is valid. -/
theorem validateState_initial {ticket : OnboardingTicket} {executable : HostPath}
    {enrollmentId : Uuid} (hvalid : ticket.validate = true)
    (hbound : (ticket.provider.any fun bound => bound ≠ provider) = false)
    (hexecutable : executable.isPlain = true) (hid : enrollmentId ≠ .nil) :
    validateState (Journal.initial path ticket provider executable enrollmentId) ticket.inviteId
      provider path = true := by
  have hv := hvalid
  simp only [OnboardingTicket.validate, Bool.and_eq_true] at hv
  obtain ⟨⟨⟨⟨⟨⟨⟨⟨⟨hversion, hserver⟩, hinvite⟩, hexpires⟩, hlocal⟩, hname⟩, hsha⟩, htoken⟩,
    hroutes⟩, hartifacts⟩ := hv
  simp only [validateState, Journal.initial, ticketMatches, validateActions, compatible, hvalid,
    hbound, hserver, hname, hsha, hexecutable, decide_true, Bool.and_true, Bool.true_and,
    List.all_nil, Bool.not_false]
  simp only [Uuid.isNil, Bool.and_eq_true]
  exact ⟨by simpa using hid, hlocal⟩

end

/-- The operations that leave the disk as it is. -/
def Op.quiet : Op → Bool
  | .inspectExecutable _ | .outside | .writeTemporary | .removeTemporary | .syncCredential => true
  | _ => false

def Reply.outcome : Reply → Except JournalError Unit
  | .failed e => .error e
  | _ => .ok ()

/-- A journal in memory that agrees with the disk, unless it refuses to be used. -/
def Journal.Attached (j : Journal) (d : Disk) : Prop :=
  j.needsReload = true ∨
    d.Clean ∧ d.state.now = some j.state ∧ j.persisted = some j.state ∧ d.credential.now.isSome

namespace Disk.Synced

variable {d d' d'' : Disk}

theorem refl : d.Synced d := Or.inl rfl

theorem state_now (h : d.Synced d') : d'.state.now = d.state.now := by
  rcases h with rfl | rfl <;> rfl

theorem credential_now (h : d.Synced d') : d'.credential.now = d.credential.now := by
  rcases h with rfl | rfl <;> rfl

theorem clean (h : d.Synced d') (hclean : d.Clean) : d'.Clean := by
  rcases h with rfl | rfl
  · exact hclean
  · exact ⟨rfl, rfl⟩

theorem attached {j : Journal} (h : d.Synced d') (hj : j.Attached d) : j.Attached d' := by
  rcases hj with hj | ⟨hclean, hnow, hpersisted, hcredential⟩
  · exact Or.inl hj
  · exact Or.inr ⟨h.clean hclean, h.state_now ▸ hnow, hpersisted, h.credential_now ▸ hcredential⟩

end Disk.Synced

theorem Journal.Attached.identified {d : Disk} {j : Journal} {ticket : OnboardingTicket}
    {credential : CredentialFile} (hj : j.Attached d) (hreload : j.needsReload = false)
    (hcredential : d.credential.now = some credential) :
    d.Identified (j.request ticket credential) := by
  rcases hj with hj | ⟨hclean, hnow, -, -⟩
  · rw [hreload] at hj
    cases hj
  · constructor
    · intro u hu
      simp only [Slot.values, hclean.state, List.mem_singleton] at hu
      exact ⟨j.state, hu.trans hnow, rfl⟩
    · intro u hu
      simp only [Slot.values, hclean.credential, List.mem_singleton] at hu
      exact ⟨credential, hu.trans hcredential, rfl, rfl⟩

section

variable [JournalEnv] (inviteId : Uuid) (provider : OnboardingProvider) (path : HostPath)

/-- The program keeps the invariant and ends with the postcondition. -/
abbrev Keeps {α : Type} (post : α → Disk → Prop) (p : Run α) (d : Disk) : Prop :=
  Prog.Safe Disk.answers (Consistent inviteId provider path) post p d

end

section

variable [JournalEnv] {inviteId : Uuid} {provider : OnboardingProvider} {path : HostPath}
  {d : Disk}

/-- A program that has failed has no result to speak of. -/
theorem Keeps.failed {α : Type} {post : α → Disk → Prop} {e : JournalError} :
    Keeps inviteId provider path (fun r d' => ∀ a, r = Except.ok a → post a d')
      (pure (Except.error e)) d := by
  intro a ha
  cases ha

theorem act_spec {o : Op} {post : Except JournalError Unit → Disk → Prop}
    (h : Consistent inviteId provider path d) (hp : Permitted inviteId provider path d o)
    (hpost : ∀ r d', d.answers o r d' → post r.outcome d') :
    Keeps inviteId provider path post (act o) d := by
  intro r d' ha
  refine ⟨h.answers hp ha, ?_⟩
  have hr := hpost r d' ha
  cases r <;> exact hr

theorem act_quiet {o : Op} (h : Consistent inviteId provider path d) (ho : o.quiet = true) :
    Keeps inviteId provider path (fun _ d' => d' = d) (act o) d := by
  apply act_spec h
  · cases o <;> trivial
  · intro r d' ha
    cases o <;> first | exact ha.1 | cases ho

theorem act_syncDirectory (h : Consistent inviteId provider path d) :
    Keeps inviteId provider path
      (fun r d' => d.Synced d' ∧ (r = .ok () → d' = d.sync)) (act .syncDirectory) d := by
  apply act_spec (o := .syncDirectory) h trivial
  intro r d' ha
  rcases ha with ⟨rfl, rfl⟩ | ⟨e, rfl, rfl⟩
  · exact ⟨Or.inr rfl, fun _ => rfl⟩
  · exact ⟨.refl, nofun⟩

theorem readState_spec (h : Consistent inviteId provider path d) :
    Keeps inviteId provider path (fun r d' => d' = d ∧
      (∀ state, r = .ok state → d.state.now = some state) ∧
      (r = .error .notFound → d.state.now = none)) readState d := by
  intro r d' ha
  refine ⟨h.answers (o := .readState) trivial ha, ?_⟩
  obtain ⟨rfl, hr⟩ := ha
  cases hnow : d'.state.now with
  | none =>
    simp only [hnow] at hr
    obtain ⟨e, rfl⟩ := hr
    exact ⟨rfl, fun _ h => (by cases h), fun _ => rfl⟩
  | some state =>
    simp only [hnow] at hr
    rcases hr with rfl | ⟨e, hne, rfl⟩
    · refine ⟨rfl, ?_, fun h => (by cases h)⟩
      intro st hst
      cases hst
      rfl
    · refine ⟨rfl, fun _ h => (by cases h), ?_⟩
      intro hst
      cases hst
      exact absurd rfl hne

theorem recoverCredentialTemporaryLink_spec (h : Consistent inviteId provider path d) :
    Keeps inviteId provider path (fun _ d' => d.Synced d') recoverCredentialTemporaryLink d := by
  apply Prog.Safe.bind h (act_quiet h rfl)
  rintro removed d' h rfl
  cases removed with
  | error e => exact .refl
  | ok _ =>
    apply Prog.Safe.bind h (act_quiet h rfl)
    rintro synced d'' h rfl
    cases synced with
    | error e => exact .refl
    | ok _ => exact (act_syncDirectory h).mono h fun _ _ _ hd => hd.1

theorem readPendingCredential_spec (h : Consistent inviteId provider path d)
    (invite : Uuid) (bound : OnboardingProvider) (workspace : WorkspaceName) :
    Keeps inviteId provider path (fun r d' => d.Synced d' ∧
      ∀ credential, r = .ok credential → d.credential.now = some credential)
      (readPendingCredential invite bound workspace) d := by
  intro r d' ha
  refine ⟨h.answers (o := .readCredential) trivial ha, ?_⟩
  obtain ⟨hd, hr⟩ := ha
  subst hd
  cases r with
  | credential credential links =>
    have hnow : d'.credential.now = some credential := by
      cases hc : d'.credential.now <;> simp only [hc] at hr
      · obtain ⟨e, he⟩ := hr
        cases he
      · obtain ⟨_, heq⟩ | ⟨e, _, heq⟩ := hr <;> cases heq
        rfl
    show Keeps inviteId provider path _ (if _ then _ else if _ then _ else if _ then _ else
      if _ then _ else _) d'
    split_ifs
    · exact ⟨.refl, nofun⟩
    · exact ⟨.refl, nofun⟩
    · exact ⟨.refl, nofun⟩
    · apply Prog.Safe.bind h (recoverCredentialTemporaryLink_spec h)
      intro recovered d'' _ hd
      cases recovered with
      | error e => exact ⟨hd, nofun⟩
      | ok _ =>
        refine ⟨hd, ?_⟩
        intro c hc
        cases hc
        exact hnow
    · refine ⟨.refl, ?_⟩
      intro c hc
      cases hc
      exact hnow
  | failed e => exact ⟨.refl, nofun⟩
  | done => exact ⟨.refl, nofun⟩
  | state _ => exact ⟨.refl, nofun⟩
  | uuid _ => exact ⟨.refl, nofun⟩
  | response _ => exact ⟨.refl, nofun⟩

theorem writeCredentialNoReplace_spec (h : Consistent inviteId provider path d)
    (credential : CredentialFile) :
    Keeps inviteId provider path
      (fun r d' => r = .ok () → d'.credential.now.isSome) (writeCredentialNoReplace credential)
      d := by
  apply Prog.Safe.bind h (act_quiet h rfl)
  rintro written d' h rfl
  cases written with
  | error e => exact nofun
  | ok _ =>
    apply Prog.Safe.bind h (act_syncDirectory h)
    rintro synced d' h -
    cases synced with
    | error e =>
      apply Prog.Safe.bind h (act_quiet h rfl)
      exact fun _ _ _ _ => nofun
    | ok _ =>
      have hlink : Keeps inviteId provider path
          (fun r d'' => r = .ok () → d''.credential.now.isSome)
          (act (.linkCredential credential)) d' := by
        apply act_spec (o := .linkCredential credential) h trivial
        rintro r d'' (⟨-, -, rfl⟩ | ⟨e, rfl, -⟩)
        · exact fun _ => rfl
        · exact nofun
      apply Prog.Safe.bind h hlink
      intro linked d'' h hsome
      cases linked with
      | error e =>
        apply Prog.Safe.bind h (act_quiet h rfl)
        exact fun _ _ _ _ => nofun
      | ok _ =>
        apply Prog.Safe.bind h (act_syncDirectory h)
        rintro synced d₃ h ⟨hsynced, -⟩
        apply Prog.Safe.bind h (act_quiet h rfl)
        rintro _ d₄ - rfl -
        rw [hsynced.credential_now]
        exact hsome rfl

namespace Journal

theorem assertUnchanged_spec (h : Consistent inviteId provider path d) (j : Journal) :
    Keeps inviteId provider path (fun r d' => d' = d ∧
      (r = .ok () → j.needsReload = false ∧ d.state.now = j.persisted)) j.assertUnchanged d := by
  unfold assertUnchanged
  by_cases hreload : j.needsReload = true
  · rw [if_pos hreload]
    exact ⟨rfl, nofun⟩
  · rw [if_neg hreload]
    have hfresh : j.needsReload = false := Bool.eq_false_iff.mpr hreload
    apply Prog.Safe.bind h (readState_spec h)
    rintro read d' - ⟨rfl, hstate, habsent⟩
    split
    · next state =>
      refine ⟨rfl, ?_⟩
      intro hr
      split_ifs at hr with heq
      exact ⟨hfresh, (hstate state rfl).trans heq⟩
    · refine ⟨rfl, ?_⟩
      intro hr
      split_ifs at hr with hnone
      exact ⟨hfresh, (habsent rfl).trans (Option.isNone_iff_eq_none.mp hnone).symm⟩
    · exact ⟨rfl, nofun⟩

theorem persist_spec (h : Consistent inviteId provider path d) {j : Journal}
    {candidate : JournalState} (hj : j.Attached d ∨ j.persisted = none ∧ d.credential.now.isSome)
    (hvalid : validateState candidate inviteId provider path = true)
    (hfollows : Follows j.persisted candidate) :
    Keeps inviteId provider path
      (fun r d' => r.1 = .ok () ∨ j.Attached d → r.2.Attached d') (j.persist candidate) d := by
  apply Prog.Safe.bind h (assertUnchanged_spec h j)
  rintro unchanged d' h ⟨rfl, hok⟩
  have hkept (e : JournalError) : (Except.error e : Except JournalError Unit) = .ok () ∨
      j.Attached d' → j.Attached d' := fun hr => hr.resolve_left nofun
  cases unchanged with
  | error e => exact hkept e
  | ok _ =>
    obtain ⟨hreload, hnow⟩ := hok rfl
    have hready : d'.state.older = [] ∧ d'.credential.now.isSome := by
      rcases hj with (hj | ⟨hclean, -, -, hsome⟩) | ⟨hnone, hsome⟩
      · rw [hreload] at hj
        cases hj
      · exact ⟨hclean.state, hsome⟩
      · exact ⟨h.older_of_absent (hnow.trans hnone), hsome⟩
    show Keeps inviteId provider path _ (if _ then _ else _) d'
    split_ifs with hbytes
    · exact hkept _
    · apply Prog.Safe.bind h (act_quiet h rfl)
      rintro written d₁ h rfl
      cases written with
      | error e => exact hkept e
      | ok _ =>
        have hrename : Keeps inviteId provider path (fun r d₂ =>
            r = .ok () ∧ d₂ = { d₁ with state := d₁.state.set candidate } ∨
              ∃ e, r = .error e ∧ d₂ = d₁)
              (act (.renameState candidate j.persisted.isSome)) d₁ := by
          apply act_spec (o := .renameState candidate j.persisted.isSome) h
          · exact ⟨hready.1, ⟨hvalid, not_lt.mp hbytes⟩, hnow ▸ hfollows⟩
          · rintro r d₂ (⟨-, rfl, rfl⟩ | ⟨e, rfl, rfl⟩)
            · exact Or.inl ⟨rfl, rfl⟩
            · exact Or.inr ⟨e, rfl, rfl⟩
        apply Prog.Safe.bind h hrename
        intro renamed d₂ h hd
        apply Prog.Safe.bind h (act_quiet h rfl)
        rintro _ d₃ h rfl
        rcases hd with ⟨rfl, rfl⟩ | ⟨e, rfl, rfl⟩
        · apply Prog.Safe.bind h (act_syncDirectory h)
          rintro synced d₄ - ⟨-, hsync⟩
          cases synced with
          | error e => exact fun _ => Or.inl rfl
          | ok _ =>
            rw [hsync rfl]
            exact fun _ => Or.inr ⟨⟨rfl, rfl⟩, rfl, rfl, hready.2⟩
        · exact hkept e

theorem load_spec (h : Consistent inviteId provider path d) (invite : Uuid)
    (bound : OnboardingProvider) (place : HostPath) :
    Keeps inviteId provider path (fun r d' => ∀ j, r = .ok j → j.Attached d')
      (load invite bound place) d := by
  unfold load
  apply Prog.Safe.bind h (act_quiet h rfl)
  rintro opened d' h rfl
  cases opened with
  | error e => exact Keeps.failed
  | ok _ =>
    apply Prog.Safe.bind h (readState_spec h)
    rintro read d' h ⟨rfl, hread, -⟩
    cases read with
    | error e => exact Keeps.failed
    | ok state =>
      have hnow := hread state rfl
      show Keeps inviteId provider path _ (if _ then _ else _) d'
      split
      · exact Keeps.failed
      · apply Prog.Safe.bind h (act_quiet h rfl)
        rintro inspected d₁ h rfl
        cases inspected with
        | error e => exact Keeps.failed
        | ok _ =>
          show Keeps inviteId provider path _ (if _ then _ else _) d₁
          split
          · exact Keeps.failed
          · apply Prog.Safe.bind h (readPendingCredential_spec h _ _ _)
            rintro credential d₂ h ⟨hsynced, hcredential⟩
            cases credential with
            | error e => exact Keeps.failed
            | ok credential =>
              apply Prog.Safe.bind h (act_syncDirectory h)
              rintro synced d₃ - ⟨-, hsync⟩
              cases synced with
              | error e => exact Keeps.failed
              | ok _ =>
                intro j hj
                cases hj
                rw [hsync rfl]
                refine Or.inr ⟨⟨rfl, rfl⟩, hsynced.state_now.trans hnow, rfl, ?_⟩
                show d₂.credential.now.isSome
                rw [hsynced.credential_now, hcredential credential rfl]
                rfl

/-- A load that succeeds has found a loadable state. -/
theorem loadable_of_load {j : Journal}
    (h : Prog.Runs Disk.answers (load inviteId provider path) d d' (.ok j)) :
    Loadable inviteId provider path j.state := by
  have hfailed (e : JournalError) (d : Disk) : Prog.Safe Disk.answers (fun _ => True)
      (fun (r : Except JournalError Journal) _ =>
        ∀ j, r = .ok j → Loadable inviteId provider path j.state) (.ret (.error e)) d := by
    intro j hj
    cases hj
  have hsafe : Prog.Safe Disk.answers (fun _ => True)
      (fun r _ => ∀ j, r = .ok j → Loadable inviteId provider path j.state)
      (load inviteId provider path) d := by
    unfold load
    refine Prog.Safe.bind_any fun locked d₁ => ?_
    cases locked with
    | error e => exact hfailed e _
    | ok _ =>
      refine Prog.Safe.bind_any fun read d₂ => ?_
      cases read with
      | error e => exact hfailed e _
      | ok state =>
        show Prog.Safe Disk.answers _ _ (if _ then _ else _) d₂
        split
        · exact hfailed _ _
        · next hsize =>
          refine Prog.Safe.bind_any fun inspected d₃ => ?_
          cases inspected with
          | error e => exact hfailed e _
          | ok _ =>
            show Prog.Safe Disk.answers _ _ (if _ then _ else _) d₃
            split
            · exact hfailed _ _
            · next hvalid =>
              refine Prog.Safe.bind_any fun credential d₄ => ?_
              cases credential with
              | error e => exact hfailed e _
              | ok _ =>
                refine Prog.Safe.bind_any fun synced d₅ => ?_
                cases synced with
                | error e => exact hfailed e _
                | ok _ =>
                  intro j hj
                  cases hj
                  exact ⟨by simpa using hvalid, Nat.le_of_not_lt hsize⟩
  exact hsafe.runs h j rfl

theorem adoptCredential_spec (h : Consistent inviteId provider path d) (ticket : OnboardingTicket)
    (bound : OnboardingProvider) :
    Keeps inviteId provider path
      (fun r d' => ∀ credential, r = .ok credential → d'.credential.now.isSome)
      (adoptCredential ticket bound) d := by
  unfold adoptCredential
  apply Prog.Safe.bind h (readPendingCredential_spec h _ _ _)
  rintro read d' h ⟨hsynced, hread⟩
  split
  · next credential =>
    intro c _
    show d'.credential.now.isSome
    rw [hsynced.credential_now, hread credential rfl]
    rfl
  · have hgenerated : Keeps inviteId provider path (fun _ _ => True)
        (generateCredential ticket.inviteId bound ticket.workspace) d' := by
      intro r d'' ha
      refine ⟨h.answers (o := .generateCredential ..) trivial ha, ?_⟩
      cases r <;> trivial
    apply Prog.Safe.bind h hgenerated
    rintro generated d'' h -
    cases generated with
    | error e => exact Keeps.failed
    | ok credential =>
      apply Prog.Safe.bind h (writeCredentialNoReplace_spec h credential)
      intro written d₃ _ hwritten
      cases written with
      | error e => exact Keeps.failed
      | ok _ => exact fun _ _ => hwritten rfl
  · exact Keeps.failed

theorem newUuid_spec (h : Consistent inviteId provider path d) :
    Keeps inviteId provider path (fun id d' => d' = d ∧ id ≠ .nil) newUuid d := by
  intro r d' ha
  refine ⟨h.answers (o := .newUuid) trivial ha, ?_⟩
  obtain ⟨rfl, id, hid, rfl⟩ := ha
  exact ⟨rfl, hid⟩

theorem create_spec (h : Consistent inviteId provider path d) {ticket : OnboardingTicket}
    {executable : HostPath} (hinvite : ticket.inviteId = inviteId)
    (hvalid : ticket.validate = true)
    (hbound : (ticket.provider.any fun bound => bound ≠ provider) = false)
    (hexecutable : executable.isPlain = true) :
    Keeps inviteId provider path (fun r d' => ∀ j, r = .ok j → j.Attached d')
      (create path ticket provider executable) d := by
  unfold create
  apply Prog.Safe.bind h (act_quiet h rfl)
  rintro opened d' h rfl
  cases opened with
  | error e => exact Keeps.failed
  | ok _ =>
    apply Prog.Safe.bind h (adoptCredential_spec h ticket provider)
    intro adopted d' h hadopted
    cases adopted with
    | error e => exact Keeps.failed
    | ok credential =>
      show Keeps inviteId provider path _ (if _ then _ else _) d'
      split
      · exact Keeps.failed
      · apply Prog.Safe.bind h (newUuid_spec h)
        rintro id d₁ h ⟨rfl, hid⟩
        have hstate : validateState (Journal.initial path ticket provider executable id)
            ticket.inviteId provider path = true :=
          validateState_initial hvalid hbound hexecutable hid
        rw [hinvite] at hstate
        apply Prog.Safe.bind h
        · apply persist_spec h _ hstate
          · exact ⟨Or.inr rfl, fun _ h => (by cases h)⟩
          · exact Or.inr ⟨rfl, hadopted credential rfl⟩
        · rintro ⟨result, j⟩ d₂ - hj
          cases result with
          | error e => exact Keeps.failed
          | ok _ =>
            intro j' hj'
            cases hj'
            exact hj (Or.inl rfl)

theorem prepare_spec (h : Consistent inviteId provider path d) {ticket : OnboardingTicket}
    {executable : HostPath} (hinvite : ticket.inviteId = inviteId) :
    Keeps inviteId provider path (fun r d' => ∀ j, r = .ok j → j.Attached d')
      (prepare path ticket provider executable) d := by
  unfold prepare
  by_cases hvalid : ticket.validate = true
  · by_cases hbound : (ticket.provider.any fun bound => bound ≠ provider) = true
    · rw [if_neg (by simp [hvalid]), if_pos hbound]
      exact Keeps.failed
    · by_cases hexecutable : executable.isPlain = true
      · rw [if_neg (by simp [hvalid]), if_neg hbound, if_neg (by simp [hexecutable])]
        apply Prog.Safe.bind h (act_quiet h rfl)
        rintro inspected d' h rfl
        cases inspected with
        | error e => exact Keeps.failed
        | ok _ =>
          apply Prog.Safe.bind h (act_quiet h rfl)
          rintro opened d' h rfl
          cases opened with
          | error e => exact Keeps.failed
          | ok _ =>
            apply Prog.Safe.bind h (readState_spec h)
            rintro read d' h ⟨rfl, -, -⟩
            split
            · apply Prog.Safe.bind h (load_spec h _ _ _)
              intro loaded d₁ h hloaded
              cases loaded with
              | error e => exact Keeps.failed
              | ok j =>
                intro j' hj'
                split at hj'
                · cases hj'
                  exact hloaded j rfl
                · cases hj'
            · exact create_spec h hinvite hvalid (Bool.eq_false_iff.mpr hbound) hexecutable
            · exact Keeps.failed
      · rw [if_neg (by simp [hvalid]), if_neg hbound, if_pos (by simp [hexecutable])]
        exact Keeps.failed
  · rw [if_pos (by simp [hvalid])]
    exact Keeps.failed

/-- The state of an attached journal can be loaded. -/
theorem Attached.validateState {j : Journal} (h : Consistent inviteId provider path d)
    (hj : j.Attached d) (hreload : j.needsReload = false) :
    validateState j.state inviteId provider path = true ∧ j.persisted = some j.state := by
  rcases hj with hj | ⟨-, hnow, hpersisted, -⟩
  · rw [hreload] at hj
    cases hj
  · exact ⟨(h.loadable _ (hnow ▸ List.mem_cons_self)).1, hpersisted⟩

/-- A journal that refuses to be used persists nothing. -/
theorem persist_attached (h : Consistent inviteId provider path d) {j : Journal}
    (hj : j.Attached d) {candidate : JournalState}
    (hnext : validateState j.state inviteId provider path = true →
      validateState candidate inviteId provider path = true ∧ Follows (some j.state) candidate) :
    Keeps inviteId provider path (fun r d' => r.2.Attached d') (j.persist candidate) d := by
  cases hreload : j.needsReload with
  | true =>
    have hrefused : j.persist candidate = pure (.error .conflict, j) := by
      unfold persist assertUnchanged
      rw [if_pos hreload]
      rfl
    rw [hrefused]
    exact hj
  | false =>
    obtain ⟨hstate, hpersisted⟩ := hj.validateState h hreload
    obtain ⟨hvalid, hfollows⟩ := hnext hstate
    apply (persist_spec h (Or.inl hj) hvalid (hpersisted ▸ hfollows)).mono h
    exact fun _ _ _ hr => hr (Or.inr hj)

theorem exchanged_spec (h : Consistent inviteId provider path d) {j : Journal}
    {ticket : OnboardingTicket} {credential : CredentialFile} (hj : j.Attached d)
    (hreload : j.needsReload = false) (hticket : j.state.ticket = some ticket)
    (hcredential : d.credential.now = some credential) :
    Keeps inviteId provider path (fun r d' => r.2.Attached d') (j.exchanged ticket credential)
      d := by
  show Keeps inviteId provider path _ (if _ then _ else _) d
  split
  · exact hj
  · have hexchange : Keeps inviteId provider path (fun _ d' => j.Attached d')
        (exchange (j.request ticket credential)) d := by
      intro r d' ha
      refine ⟨h.answers (o := .exchange _) (hj.identified hreload hcredential) ha, ?_⟩
      obtain ⟨rfl, -⟩ := ha
      have hj' : j.Attached { d with sent := d.sent ++ [j.request ticket credential] } :=
        hj.imp id fun hd => ⟨⟨hd.1.state, hd.1.credential⟩, hd.2⟩
      cases r <;> exact hj'
    apply Prog.Safe.bind h hexchange
    intro response d' h hj
    cases response with
    | error e => exact hj
    | ok response =>
      show Keeps inviteId provider path _ (if _ then _ else _) d'
      split
      · exact hj
      · apply Prog.Safe.bind h
        · apply persist_attached h hj
          exact fun hstate => validateState_enrolled hstate hticket
        · rintro ⟨result, j'⟩ d₁ h hj'
          cases result with
          | error e => exact hj'
          | ok _ =>
            apply Prog.Safe.bind h (act_quiet h rfl)
            rintro published d₂ - rfl
            exact hj'

theorem enroll_spec (h : Consistent inviteId provider path d) {j : Journal} (hj : j.Attached d)
    (route : VerifiedRoute) :
    Keeps inviteId provider path (fun r d' => r.2.Attached d') (j.enroll route) d := by
  unfold enroll
  split
  · exact hj
  · next ticket hticket =>
    split
    · exact hj
    · split
      · exact hj
      · apply Prog.Safe.bind h (assertUnchanged_spec h j)
        rintro unchanged d' h ⟨rfl, hunchanged⟩
        cases unchanged with
        | error e => exact hj
        | ok _ =>
          apply Prog.Safe.bind h (readPendingCredential_spec h _ _ _)
          rintro credential d₁ h ⟨hsynced, hread⟩
          cases credential with
          | error e => exact hsynced.attached hj
          | ok credential =>
            apply Prog.Safe.bind h (act_quiet h rfl)
            rintro stored d₂ h rfl
            cases stored with
            | error e => exact hsynced.attached hj
            | ok _ =>
              exact exchanged_spec h (hsynced.attached hj) (hunchanged rfl).1 hticket
                (hsynced.credential_now.trans (hread credential rfl))

theorem markConfigured_spec (h : Consistent inviteId provider path d) {j : Journal}
    (hj : j.Attached d) :
    Keeps inviteId provider path (fun r d' => r.2.Attached d') j.markConfigured d := by
  unfold markConfigured
  split
  · exact hj
  · next hready =>
    simp only [Bool.or_eq_true, decide_eq_true_eq, List.any_eq_true, ne_eq, decide_not,
      Bool.not_eq_true', decide_eq_false_iff_not, not_or, not_exists, not_and,
      not_not] at hready
    apply persist_attached h hj
    exact fun hstate => validateState_configured hstate hready.1 hready.2

theorem plan_spec (h : Consistent inviteId provider path d) {j : Journal} (hj : j.Attached d)
    (action : InstallAction) :
    Keeps inviteId provider path (fun r d' => r.2.Attached d') (j.plan action) d := by
  unfold plan
  apply Prog.Safe.bind h (assertUnchanged_spec h j)
  rintro unchanged d' h ⟨rfl, -⟩
  cases unchanged with
  | error e => exact hj
  | ok _ =>
    apply Prog.Safe.bind h (readPendingCredential_spec h _ _ _)
    rintro credential d₁ h ⟨hsynced, -⟩
    have hj := hsynced.attached hj
    cases credential with
    | error e => exact hj
    | ok credential =>
      show Keeps inviteId provider path _ (if _ then _ else if _ then _ else if _ then _ else _) d₁
      split
      · exact hj
      · next haction =>
        split
        · exact hj
        · split
          · exact hj
          · next hnew =>
            simp only [Bool.not_eq_true', Bool.not_eq_false] at haction
            simp only [Bool.or_eq_true, decide_eq_true_eq, List.any_eq_true, not_or, not_exists,
              not_and, Bool.not_eq_true] at hnew
            apply persist_attached h hj
            intro hstate
            apply validateState_actions hstate
            apply validateActions_plan _ haction hnew.1 hnew.2
            simp only [validateState, Bool.and_eq_true] at hstate
            exact hstate.2

theorem markApplied_spec (h : Consistent inviteId provider path d) {j : Journal}
    (hj : j.Attached d) (index : ℕ) :
    Keeps inviteId provider path (fun r d' => r.2.Attached d') (j.markApplied index) d := by
  unfold markApplied
  split
  · apply persist_attached h hj
    intro hstate
    apply validateState_actions hstate
    apply validateActions_applied
    simp only [validateState, Bool.and_eq_true] at hstate
    exact hstate.2
  · exact hj

theorem command_spec (h : Consistent inviteId provider path d) {j : Journal} (hj : j.Attached d)
    (command : Command) :
    Keeps inviteId provider path (fun r d' => r.2.Attached d') (j.command command) d := by
  cases command with
  | enroll route => exact enroll_spec h hj route
  | markConfigured => exact markConfigured_spec h hj
  | plan action => exact plan_spec h hj action
  | markApplied index => exact markApplied_spec h hj index

end Journal

theorem session_spec (h : Consistent inviteId provider path d) {j : Journal} (hj : j.Attached d)
    (commands : List Command) :
    Keeps inviteId provider path (fun _ _ => True) (session j commands) d := by
  induction commands generalizing j d with
  | nil => trivial
  | cons command commands ih =>
    apply Prog.Safe.bind h (Journal.command_spec h hj command)
    rintro ⟨result, j'⟩ d' h hj'
    exact ih h hj'

theorem sessionOf_spec (h : Consistent inviteId provider path d)
    {result : Except JournalError Journal} (hj : ∀ j, result = .ok j → j.Attached d)
    (commands : List Command) :
    Keeps inviteId provider path (fun _ _ => True) (sessionOf result commands) d := by
  cases result with
  | error e => trivial
  | ok j => exact session_spec h (hj j rfl) commands

theorem install_spec (h : Consistent inviteId provider path d) {ticket : OnboardingTicket}
    (hinvite : ticket.inviteId = inviteId) (executable : HostPath) (commands : List Command) :
    Keeps inviteId provider path (fun _ _ => True)
      (install path ticket provider executable commands) d := by
  have hprepare (d : Disk) (h : Consistent inviteId provider path d) (executable : HostPath) :
      Keeps inviteId provider path (fun _ _ => True) (do
        sessionOf (← Journal.prepare path ticket provider executable) commands) d := by
    apply Prog.Safe.bind h (Journal.prepare_spec h hinvite)
    exact fun _ _ h hj => sessionOf_spec h hj commands
  unfold install
  split
  · trivial
  · apply Prog.Safe.bind h (act_quiet h rfl)
    rintro locked d' h rfl
    cases locked with
    | error e => trivial
    | ok _ =>
      apply Prog.Safe.bind h (Journal.load_spec h _ _ _)
      rintro loaded d₁ h -
      split
      · exact hprepare d₁ h _
      · apply Prog.Safe.bind h (act_quiet h rfl)
        rintro bundled d₂ h rfl
        cases bundled with
        | error e => trivial
        | ok _ => exact hprepare d₂ h _
      · trivial

theorem resume_spec (h : Consistent inviteId provider path d) (commands : List Command) :
    Keeps inviteId provider path (fun _ _ => True) (resume inviteId provider path commands) d := by
  unfold resume
  split
  · trivial
  · apply Prog.Safe.bind h (act_quiet h rfl)
    rintro locked d' h rfl
    cases locked with
    | error e => trivial
    | ok _ =>
      apply Prog.Safe.bind h (Journal.load_spec h _ _ _)
      exact fun _ _ h hj => sessionOf_spec h hj commands

theorem Allowed.safe {p : Run Unit} (hp : Allowed inviteId provider path p)
    (h : Consistent inviteId provider path d) :
    Keeps inviteId provider path (fun _ _ => True) p d := by
  cases hp with
  | install hinvite executable commands => exact install_spec h hinvite executable commands
  | resume commands => exact resume_spec h commands

/-- One identity for an invitation and a provider, over all installs and resumes. -/
theorem one_identity {p : Option (Run Unit)}
    (h : Prog.Reaches Disk.answers (Allowed inviteId provider path) Disk.crash {} d p) :
    (∀ r ∈ d.sent, ∀ r' ∈ d.sent, r.enrollmentId = r'.enrollmentId ∧
      r.credentialId = r'.credentialId ∧ r.credentialToken = r'.credentialToken) ∧
    d.durable.IsChain Advances ∧
    ∀ state, some state ∈ d.state.values → Loadable inviteId provider path state := by
  obtain ⟨hd, -⟩ := h.invariant Consistent.empty (fun _ hp _ hd => hp.safe hd)
    fun _ _ hd hc => hd.crash hc
  refine ⟨?_, hd.durable, hd.loadable⟩
  intro r hr r' hr'
  obtain ⟨state, hstate, hid⟩ := (hd.identified r hr).state _ List.mem_cons_self
  obtain ⟨state', hstate', hid'⟩ := (hd.identified r' hr').state _ List.mem_cons_self
  obtain ⟨credential, hc, hcid, htoken⟩ := (hd.identified r hr).credential _ List.mem_cons_self
  obtain ⟨credential', hc', hcid', htoken'⟩ :=
    (hd.identified r' hr').credential _ List.mem_cons_self
  rw [hstate] at hstate'
  rw [hc] at hc'
  cases hstate'
  cases hc'
  exact ⟨hid.symm.trans hid', hcid.symm.trans hcid', htoken.symm.trans htoken'⟩

end

section runs

variable {inviteId : Uuid} {provider : OnboardingProvider} {path : HostPath} {d : Disk}
  {state : JournalState} {credential : CredentialFile}

theorem quiet_done {o : Op} (ho : o.quiet = true) :
    Prog.Runs Disk.answers (act o) d d (.ok ()) := by
  have hanswer : d.answers o .done d := by
    cases o <;> first | exact ⟨rfl, .inl rfl⟩ | cases ho
  exact .op hanswer (.ret _ _)

theorem sync_done : Prog.Runs Disk.answers (act .syncDirectory) d d.sync (.ok ()) :=
  .op (r := .done) (.inl ⟨rfl, rfl⟩) (.ret _ _)

theorem readState_absent (h : d.state.now = none) :
    Prog.Runs Disk.answers readState d d (.error .notFound) := by
  refine .op (r := .failed .notFound) ⟨rfl, ?_⟩ (.ret _ _)
  rw [h]
  exact ⟨_, rfl⟩

theorem readState_found (h : d.state.now = some state) :
    Prog.Runs Disk.answers readState d d (.ok state) := by
  refine .op (r := .state state) ⟨rfl, ?_⟩ (.ret _ _)
  rw [h]
  exact .inl rfl

theorem readCredential_done (h : d.credential.now = some credential)
    (hvalid : credential.validate = true)
    (hclaims : validateClaims credential inviteId provider state.workspace = true) :
    Prog.Runs Disk.answers (readPendingCredential inviteId provider state.workspace) d d
      (.ok credential) := by
  refine Prog.Runs.op (r := .credential credential 1) ⟨rfl, ?_⟩ ?_
  · rw [h]
    exact .inl ⟨1, rfl⟩
  · show Prog.Runs Disk.answers (if _ then _ else if _ then _ else if _ then _ else
      if _ then _ else _) _ _ _
    rw [if_neg (by decide), if_neg (by simp [hvalid]), if_neg (by simp [hclaims]),
      if_neg (by decide)]
    exact .ret _ _

theorem unchanged_done {j : Journal} (hreload : j.needsReload = false)
    (hpersisted : d.state.now = j.persisted) :
    Prog.Runs Disk.answers j.assertUnchanged d d (.ok ()) := by
  unfold Journal.assertUnchanged
  rw [if_neg (by simp [hreload])]
  cases hnow : d.state.now with
  | none =>
    apply Prog.Runs.bind (readState_absent hnow)
    rw [← hpersisted, hnow]
    exact .ret _ _
  | some state =>
    apply Prog.Runs.bind (readState_found hnow)
    show Prog.Runs Disk.answers (.ret (if _ then _ else _)) _ _ _
    rw [if_pos (hnow.symm.trans hpersisted)]
    exact .ret _ _

variable [JournalEnv]

/-- A loadable state is loaded when its credential is there and nothing fails. -/
theorem Loadable.loads (h : Loadable inviteId provider path state)
    (hstate : d.state.now = some state) (hcredential : d.credential.now = some credential)
    (hvalid : credential.validate = true)
    (hclaims : validateClaims credential state.inviteId state.provider state.workspace = true) :
    Prog.Runs Disk.answers (Journal.load inviteId provider path) d d.sync
      (.ok { state, persisted := some state, needsReload := false }) := by
  unfold Journal.load
  apply Prog.Runs.bind (quiet_done rfl)
  apply Prog.Runs.bind (readState_found hstate)
  show Prog.Runs Disk.answers (if _ then _ else _) _ _ _
  rw [if_neg (Nat.not_lt.mpr h.2)]
  apply Prog.Runs.bind (quiet_done rfl)
  show Prog.Runs Disk.answers (if _ then _ else _) _ _ _
  rw [if_neg (by simp [h.1])]
  apply Prog.Runs.bind (readCredential_done hcredential hvalid hclaims)
  apply Prog.Runs.bind sync_done
  exact .ret _ _

theorem persist_done {j : Journal} (hreload : j.needsReload = false)
    (hpersisted : d.state.now = j.persisted) (hsize : stateBytes state ≤ maxStateBytes) :
    Prog.Runs Disk.answers (j.persist state) d
      ({ d with state := d.state.set state } : Disk).sync
      (.ok (), { state, persisted := some state, needsReload := false }) := by
  unfold Journal.persist
  apply Prog.Runs.bind (unchanged_done hreload hpersisted)
  show Prog.Runs Disk.answers (if _ then _ else _) _ _ _
  rw [if_neg (Nat.not_lt.mpr hsize)]
  apply Prog.Runs.bind (quiet_done rfl)
  apply Prog.Runs.bind
  · refine .op (r := .done) (.inl ⟨fun hnew => ?_, rfl, rfl⟩) (.ret _ _)
    rw [hpersisted]
    exact Option.isSome_eq_false_iff.mp hnew |> Option.isNone_iff_eq_none.mp
  apply Prog.Runs.bind (quiet_done rfl)
  apply Prog.Runs.bind sync_done
  exact .ret _ _

end runs

namespace Sample

def digest : String := String.ofList (List.replicate 64 '0')

def route : OnboardingRoute where
  kind := .local_
  routerUrl := "ws://127.0.0.1:8787/ws"
  caPem := none

theorem team_valid : isWorkspaceName "team" = true := by decide

def team : WorkspaceName := ⟨"team", team_valid⟩

def secret : String := String.ofList (List.replicate 43 'A')

def ticket : OnboardingTicket where
  version := 1
  serverId := ⟨1⟩
  inviteId := ⟨2⟩
  inviteToken := secret
  expiresAt := 1
  profileName := "work"
  workspace := team
  provider := none
  routes := [route]
  manifestSha256 := digest
  artifacts := [{
    target := "aarch64-apple-darwin"
    binaryFile := "asr-aarch64-apple-darwin"
    binarySha256 := digest
    archiveFile := "agent-session-router-aarch64-apple-darwin.tar.gz"
    archiveSha256 := digest
    binaryBytes := 1024
    archiveBytes := 1024 }]

def credential : CredentialFile where
  version := 1
  id := ⟨3⟩
  token := secret
  role := .agent
  subject := inviteSubject ⟨2⟩
  agentSide := some (OnboardingProvider.identity .codexCli).1
  agentClient := some (OnboardingProvider.identity .codexCli).2
  workspaces := [team]

def verified : VerifiedRoute where
  route := route
  infoVersion := 1
  infoProtocolVersion := 2
  infoServerId := ⟨1⟩

def directory : HostPath := ⟨true, ["etc", "asr"]⟩

def executable : HostPath := ⟨true, ["usr", "bin", "asr"]⟩

/-- The lengths are those of the state and the request of the sample. -/
scoped instance env : JournalEnv where
  validRoutes routes := routes = [route]
  enrollUrl url := url = route.routerUrl
  stateBytes _ := 1161
  requestBytes _ := 368

def state : JournalState := Journal.initial directory ticket .codexCli executable ⟨4⟩

def journal : Journal := { state, persisted := some state, needsReload := false }

def request : EnrollmentRequest := journal.request ticket credential

/-- The credential is durable. -/
def issued : Disk where
  credential := { now := some credential }
  durable := [none, none, none]

/-- The state is durable, too. -/
def prepared : Disk :=
  { issued with state := { now := some state }, durable := [none, none, none, some state] }

/-- The request was sent; its response is lost. -/
def asked : Disk := { prepared with sent := [request] }

/-- The machine crashed, and the journal was loaded again. -/
def reloaded : Disk := { asked with durable := asked.durable ++ [some state, some state] }

/-- The request was sent again. -/
def askedAgain : Disk := { reloaded with sent := [request, request] }

def enrolledState : JournalState := { state with stage := .enrolled }

/-- The response has arrived, and is durable. -/
def enrolled : Disk :=
  { askedAgain with
    state := { now := some enrolledState }
    durable := askedAgain.durable ++ [some enrolledState] }

def response : EnrollmentResponse where
  version := 1
  serverId := ⟨1⟩
  inviteId := ⟨2⟩
  claims := credential.publicClaims

theorem sample_validate : ticket.validate = true ∧ credential.validate = true ∧
    validateClaims credential ticket.inviteId .codexCli ticket.workspace = true ∧
    validateState state ⟨2⟩ .codexCli directory = true ∧
    ticket.routes.contains verified.route = true ∧
    enrollUrl verified.route.routerUrl = true := by
  decide +kernel

theorem adoptCredential_runs :
    Prog.Runs Disk.answers (Journal.adoptCredential ticket .codexCli) {} issued
      (.ok credential) := by
  apply Prog.Runs.bind
  · exact .op (r := .failed .notFound) ⟨rfl, _, rfl⟩ (.ret _ _)
  apply Prog.Runs.bind
  · exact .op (r := .credential credential 1) ⟨rfl, .inl ⟨_, _, sample_validate.2.2.1, rfl⟩⟩
      (.ret _ _)
  apply Prog.Runs.bind
  · apply Prog.Runs.bind (quiet_done rfl)
    apply Prog.Runs.bind sync_done
    apply Prog.Runs.bind
    · exact .op (r := .done) (.inl ⟨rfl, rfl, rfl⟩) (.ret _ _)
    apply Prog.Runs.bind sync_done
    apply Prog.Runs.bind (quiet_done rfl)
    exact .ret _ _
  · exact .ret _ _

theorem prepare_runs :
    Prog.Runs Disk.answers (Journal.prepare directory ticket .codexCli executable) {} prepared
      (.ok journal) := by
  unfold Journal.prepare
  rw [if_neg (by simp [sample_validate]), if_neg (by decide), if_neg (by decide)]
  apply Prog.Runs.bind (quiet_done rfl)
  apply Prog.Runs.bind (quiet_done rfl)
  apply Prog.Runs.bind (readState_absent rfl)
  show Prog.Runs Disk.answers (Journal.create directory ticket .codexCli executable) _ _ _
  apply Prog.Runs.bind (quiet_done rfl)
  apply Prog.Runs.bind adoptCredential_runs
  show Prog.Runs Disk.answers (if _ then _ else _) _ _ _
  rw [if_neg (by simp [sample_validate])]
  apply Prog.Runs.bind
  · exact .op (r := .uuid ⟨4⟩) ⟨rfl, _, by decide, rfl⟩ (.ret _ _)
  apply Prog.Runs.bind (persist_done (d := issued) rfl rfl (by decide))
  exact .ret _ _

/-- An enrollment of the journal up to the exchange. -/
theorem enroll_runs {d d' : Disk} {r : Except JournalError Unit × Journal}
    (hstate : d.state.now = some state) (hcredential : d.credential.now = some credential)
    (h : Prog.Runs Disk.answers (journal.exchanged ticket credential) d d' r) :
    Prog.Runs Disk.answers (journal.enroll verified) d d' r := by
  obtain ⟨-, hvalid, hclaims, -, hroute, hurl⟩ := sample_validate
  unfold Journal.enroll
  rw [show journal.state.ticket = some ticket from rfl]
  dsimp only
  rw [if_neg (by decide), if_neg (by simp only [hroute, hurl]; decide)]
  apply Prog.Runs.bind (unchanged_done rfl hstate)
  have hread : Prog.Runs Disk.answers (readPendingCredential state.inviteId .codexCli
      state.workspace) d d (.ok credential) := readCredential_done hcredential hvalid hclaims
  apply Prog.Runs.bind hread
  apply Prog.Runs.bind (quiet_done rfl)
  exact h

theorem exchanged_lost : Prog.Runs Disk.answers (journal.exchanged ticket credential) prepared
    asked (.error .unavailable, journal) := by
  unfold Journal.exchanged
  dsimp only
  rw [if_neg (by decide)]
  apply Prog.Runs.bind
  · exact .op (r := .failed .unavailable) ⟨rfl, .inr ⟨_, rfl⟩⟩ (.ret _ _)
  · exact .ret _ _

theorem exchanged_answered : Prog.Runs Disk.answers (journal.exchanged ticket credential) reloaded
    enrolled (.ok (), { state := enrolledState, persisted := some enrolledState,
                        needsReload := false }) := by
  unfold Journal.exchanged
  dsimp only
  rw [if_neg (by decide)]
  have hasked : Prog.Runs Disk.answers (exchange (journal.request ticket credential)) reloaded
      askedAgain (.ok response) :=
    .op (r := .response response) ⟨rfl, .inl ⟨_, rfl⟩⟩ (.ret _ _)
  apply Prog.Runs.bind hasked
  show Prog.Runs Disk.answers (if _ then _ else _) _ _ _
  rw [if_neg (by decide)]
  apply Prog.Runs.bind (persist_done (d := askedAgain) rfl rfl (by decide))
  apply Prog.Runs.bind (quiet_done rfl)
  exact .ret _ _

/-- A first install whose response is lost. -/
theorem install_runs :
    Prog.Runs Disk.answers (install directory ticket .codexCli executable [.enroll verified]) {}
      asked () := by
  unfold install
  have hticket : ¬(!ticket.validate || ticket.provider.any fun bound => bound ≠ .codexCli) =
      true := by
    rw [sample_validate.1]
    decide
  rw [if_neg hticket]
  apply Prog.Runs.bind (quiet_done rfl)
  apply Prog.Runs.bind
  · apply Prog.Runs.bind (quiet_done rfl)
    apply Prog.Runs.bind (readState_absent rfl)
    exact .ret _ _
  apply Prog.Runs.bind (quiet_done rfl)
  apply Prog.Runs.bind prepare_runs
  apply Prog.Runs.bind (enroll_runs rfl rfl exchanged_lost)
  exact .ret _ _

/-- The machine crashed; the state and the credential were durable. -/
def crashed : Disk := { asked with durable := asked.durable ++ [some state] }

/-- A resume after the crash, which sends the request again. -/
theorem resume_runs : Prog.Runs Disk.answers
    (resume ⟨2⟩ .codexCli directory [.enroll verified]) crashed enrolled () := by
  obtain ⟨-, hvalid, hclaims, hstate, -, -⟩ := sample_validate
  have hloadable : Loadable ⟨2⟩ .codexCli directory state := ⟨hstate, by decide⟩
  unfold resume
  rw [if_neg (by decide)]
  apply Prog.Runs.bind (quiet_done rfl)
  apply Prog.Runs.bind (hloadable.loads (d := crashed) rfl rfl hvalid hclaims)
  apply Prog.Runs.bind (enroll_runs rfl rfl exchanged_answered)
  exact .ret _ _

/-- Two requests, with a crash between them. -/
theorem one_identity_sample :
    (∀ r ∈ enrolled.sent, ∀ r' ∈ enrolled.sent, r.enrollmentId = r'.enrollmentId ∧
      r.credentialId = r'.credentialId ∧ r.credentialToken = r'.credentialToken) ∧
    enrolled.durable.IsChain Advances ∧
    ∀ state, some state ∈ enrolled.state.values → Loadable ⟨2⟩ .codexCli directory state := by
  apply one_identity (p := none)
  have hinstall : Allowed ⟨2⟩ .codexCli directory
      (install directory ticket .codexCli executable [.enroll verified]) :=
    .install (show ticket.inviteId = ⟨2⟩ from rfl) _ _
  have hcrash : Disk.crash asked crashed :=
    ⟨some state, List.mem_cons_self, some credential, List.mem_cons_self, rfl⟩
  have hcrashed := ((Prog.Reaches.begin .start hinstall).runs install_runs).crash hcrash
  exact (hcrashed.begin (.resume [.enroll verified])).runs resume_runs

end Sample

end SessionRouter.Onboarding
