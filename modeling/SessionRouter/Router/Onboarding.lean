import SessionRouter.Router.Commits
import SessionRouter.Router.Executions

/-!
Invitations are single use. The first redemption of an invitation creates its credential; a later
one succeeds only as a repetition of the first and then changes nothing.
-/

namespace SessionRouter

/-- What holds of redeemed invitations and of credentials once it does; only revocations come. -/
structure KeepsEnrollments (db db' : Db) : Prop where
  server : db'.serverId = db.serverId
  invites : ∀ id row, db.invites.get? id = some row → row.enrollmentId.isSome →
    ∃ revokedAt, db'.invites.get? id = some { row with revokedAt }
  credentials : ∀ id c, db.credentials.get? id = some c →
    ∃ revokedAt, db'.credentials.get? id = some { c with revokedAt }

instance : Std.Refl KeepsEnrollments :=
  ⟨fun _ => ⟨rfl, fun _ row hrow _ => ⟨row.revokedAt, hrow⟩, fun _ c hc => ⟨c.revokedAt, hc⟩⟩⟩

instance : IsTrans Db KeepsEnrollments := ⟨fun a b c hab hbc => by
  refine ⟨hbc.server.trans hab.server, fun id row hrow hredeemed => ?_, fun id r hr => ?_⟩
  · obtain ⟨_, hrow'⟩ := hab.invites id row hrow hredeemed
    obtain ⟨revokedAt, hrow''⟩ := hbc.invites id _ hrow' hredeemed
    exact ⟨revokedAt, hrow''⟩
  · obtain ⟨_, hr'⟩ := hab.credentials id r hr
    obtain ⟨revokedAt, hr''⟩ := hbc.credentials id _ hr'
    exact ⟨revokedAt, hr''⟩⟩

/-- Every redeemed invitation was redeemed before. -/
def NoNewEnrollment (db db' : Db) : Prop :=
  ∀ id row', db'.invites.get? id = some row' → row'.enrollmentId.isSome →
    ∃ row, db.invites.get? id = some row ∧ row.enrollmentId.isSome

instance : Std.Refl NoNewEnrollment := ⟨fun _ _ row' hrow' hredeemed => ⟨row', hrow', hredeemed⟩⟩

instance : IsTrans Db NoNewEnrollment := ⟨fun a b c hab hbc id row hrow hredeemed => by
  obtain ⟨row', hrow', hredeemed'⟩ := hbc id row hrow hredeemed
  exact hab id row' hrow' hredeemed'⟩

section

theorem KeepsEnrollments.of_eq {db db' : Db} (hserver : db'.serverId = db.serverId)
    (hinvites : db'.invites = db.invites) (hcredentials : db'.credentials = db.credentials) :
    KeepsEnrollments db db' where
  server := hserver
  invites := fun _ row hrow _ => ⟨row.revokedAt, by rw [hinvites]; exact hrow⟩
  credentials := fun _ c hc => ⟨c.revokedAt, by rw [hcredentials]; exact hc⟩

theorem NoNewEnrollment.of_eq {db db' : Db} (hinvites : db'.invites = db.invites) :
    NoNewEnrollment db db' := fun _ row hrow hredeemed => ⟨row, by rw [← hinvites]; exact hrow,
  hredeemed⟩

theorem keepsEnrollments_external : ExternalWrites KeepsEnrollments := by
  constructor
  · constructor
    · constructor <;> exact fun _ _ => .of_eq rfl rfl rfl
    all_goals exact fun _ _ => .of_eq rfl rfl rfl
  · exact fun _ _ _ _ => .of_eq rfl rfl rfl
  · exact fun _ _ _ _ _ _ => .of_eq rfl rfl rfl
  · exact fun _ _ _ _ _ => .of_eq rfl rfl rfl
  · exact fun _ _ _ _ => .of_eq rfl rfl rfl

theorem noNewEnrollment_external : ExternalWrites NoNewEnrollment := by
  constructor
  · constructor
    · constructor <;> exact fun _ _ => .of_eq rfl
    all_goals exact fun _ _ => .of_eq rfl
  · exact fun _ _ _ _ => .of_eq rfl
  · exact fun _ _ _ _ _ _ => .of_eq rfl
  · exact fun _ _ _ _ _ => .of_eq rfl
  · exact fun _ _ _ _ => .of_eq rfl

theorem KeepsEnrollments.insertCredential {db : Db} {id : Uuid} {r : CredentialRow}
    (hnone : db.credentials.get? id = none) :
    KeepsEnrollments db (setCredentials (db.credentials.put id r) db) := by
  refine ⟨rfl, fun _ row hrow _ => ⟨row.revokedAt, hrow⟩, fun id' c hc => ⟨c.revokedAt, ?_⟩⟩
  have hne : id' ≠ id := by
    rintro rfl
    rw [hnone] at hc
    cases hc
  exact (Table.get?_put_ne _ _ hne).trans hc

theorem keepsEnrollments_admin : AdminWrites KeepsEnrollments := by
  refine ⟨keepsEnrollments_external.toBlindJournal, fun db id r hnone _ => .insertCredential hnone,
    ?_, ?_, ?_⟩
  · intro db id r now hr hlive
    refine ⟨rfl, fun _ row hrow _ => ⟨row.revokedAt, hrow⟩, fun id' c hc => ?_⟩
    by_cases hid : id' = id
    · subst hid
      obtain rfl := Option.some.inj (hr.symm.trans hc)
      exact ⟨some now, Table.get?_put_self _ _ _⟩
    · exact ⟨c.revokedAt, (Table.get?_put_ne _ _ hid).trans hc⟩
  · intro db id r hnone _
    refine ⟨rfl, fun id' row hrow _ => ⟨row.revokedAt, ?_⟩, fun _ c hc => ⟨c.revokedAt, hc⟩⟩
    have hne : id' ≠ id := by
      rintro rfl
      rw [hnone] at hrow
      cases hrow
    exact (Table.get?_put_ne _ _ hne).trans hrow
  · intro db id r now hr
    refine ⟨rfl, fun id' row hrow _ => ?_, fun _ c hc => ⟨c.revokedAt, hc⟩⟩
    by_cases hid : id' = id
    · subst hid
      obtain rfl := Option.some.inj (hr.symm.trans hrow)
      exact ⟨_, Table.get?_put_self _ _ _⟩
    · exact ⟨row.revokedAt, (Table.get?_put_ne _ _ hid).trans hrow⟩

theorem noNewEnrollment_admin : AdminWrites NoNewEnrollment := by
  refine ⟨noNewEnrollment_external.toBlindJournal, fun _ _ _ _ _ => .of_eq rfl,
    fun _ _ _ _ _ _ => .of_eq rfl, ?_, ?_⟩
  · intro db id r _ hopen id' row hrow hredeemed
    simp only [setInvites, Table.get?_put] at hrow
    split at hrow
    · cases hrow
      rw [hopen] at hredeemed
      cases hredeemed
    · exact ⟨row, hrow, hredeemed⟩
  · intro db id r now hr id' row hrow hredeemed
    simp only [setInvites, Table.get?_put] at hrow
    split at hrow
    · next hid =>
      cases hrow
      exact ⟨r, hid ▸ hr, hredeemed⟩
    · exact ⟨row, hrow, hredeemed⟩

end

section redemption

variable [World]

/-- The request carries the token of the invitation and the id of this server. -/
structure EnrollmentRequest.Presents (request : EnrollmentRequest) (db : Db) (row : InviteRow) :
    Prop where
  version : request.version = 1
  server : request.serverId = db.serverId
  token : request.inviteToken = row.tokenHash

/-- The invitation allows the provider of the request. -/
def EnrollmentRequest.allowedBy (request : EnrollmentRequest) (row : InviteRow) : Prop :=
  ∀ provider, row.provider = some provider → provider = request.provider

/-- The credential file a request asks for. -/
def EnrollmentRequest.credential (request : EnrollmentRequest) (workspaces : List WorkspaceName) :
    CredentialFile :=
  { version := CredentialFile.credentialVersion, id := request.credentialId,
    token := request.credentialToken, role := .agent, subject := inviteSubject request.inviteId,
    agentSide := some request.provider.identity.1, agentClient := some request.provider.identity.2,
    workspaces }

/-- The credential row a redemption at `now` writes. -/
def EnrollmentRequest.row (request : EnrollmentRequest) (workspace : WorkspaceName) (now : ℕ) :
    CredentialRow :=
  { tokenHash := request.credentialToken, role := .agent, subject := inviteSubject request.inviteId,
    agentSide := some request.provider.identity.1, agentClient := some request.provider.identity.2,
    workspaces := [workspace], createdAt := now, revokedAt := none }

/-- The invitation after a redemption at `now`. -/
def EnrollmentRequest.mark (request : EnrollmentRequest) (now : ℕ) (row : InviteRow) : InviteRow :=
  { row with
    enrollmentId := some request.enrollmentId
    credentialId := some request.credentialId
    redeemedAt := some now }

/-- The database after a redemption at `now`. -/
def EnrollmentRequest.enroll (request : EnrollmentRequest) (now : ℕ) (row : InviteRow) (db : Db) :
    Db :=
  setInvites (db.invites.put request.inviteId (request.mark now row))
    (setCredentials (db.credentials.put request.credentialId (request.row row.workspace now)) db)

/-- What every request must satisfy on its own. -/
def EnrollmentRequest.wellFormed (request : EnrollmentRequest) : Bool :=
  request.version = 1 && !request.serverId.isNil && !request.inviteId.isNil &&
    !request.enrollmentId.isNil && !request.credentialId.isNil &&
    canonicalToken request.inviteToken && (request.credential []).validate

/-- A redemption that finds its invitation open. -/
structure FirstRedemption (t t' : Tx) (request : EnrollmentRequest) (now : ℕ) (row : InviteRow) :
    Prop where
  invite : t.db.invites.get? request.inviteId = some row
  presents : request.Presents t.db row
  allowed : request.allowedBy row
  fresh : row.enrollmentId = none
  live : row.revokedAt = none
  early : now < row.expiresAt
  unused : t.db.credentials.get? request.credentialId = none
  after : t' = { t with db := request.enroll now row t.db }

/-- A redemption that repeats an earlier one. -/
structure RepeatedRedemption (db : Db) (request : EnrollmentRequest) (row : InviteRow)
    (c : CredentialRow) : Prop where
  invite : db.invites.get? request.inviteId = some row
  presents : request.Presents db row
  allowed : request.allowedBy row
  live : row.revokedAt = none
  enrollment : row.enrollmentId = some request.enrollmentId
  credentialId : row.credentialId = some request.credentialId
  stored : db.credentials.get? request.credentialId = some c
  unrevoked : c.revokedAt = none
  row : c = request.row row.workspace c.createdAt

omit [World] in
theorem insertCredentialConnection_cases {c : CredentialFile} {now : ℕ} {t : Tx} :
    Txn.wp (insertCredentialConnection c now)
      (fun _ t' => t.db.credentials.get? c.id = none ∧
        t' = { t with db := setCredentials (t.db.credentials.put c.id
          { tokenHash := c.token, role := c.role, subject := c.subject, agentSide := c.agentSide,
            agentClient := c.agentClient, workspaces := c.workspaces, createdAt := now,
            revokedAt := none }) t.db }) (fun _ => True) t := by
  unfold insertCredentialConnection
  simp only [Txn.wp_bind]
  rw [Txn.wp_require]
  refine ⟨fun _ => ?_, fun _ => trivial⟩
  rw [Txn.wp_require]
  refine ⟨fun _ => ?_, fun _ => trivial⟩
  exact Store.wp_insertRow (fun hnone _ => ⟨hnone, rfl⟩) fun _ => trivial

omit [World] in
/-- A redemption that succeeds is the first one or repeats it. -/
theorem redeem_cases {request : EnrollmentRequest} {now : ℕ} {t t' : Tx}
    {claims : PublicCredentialClaims} (h : redeemOnboarding request now t = .ok (claims, t')) :
    request.wellFormed = true ∧ ((∃ row, FirstRedemption t t' request now row) ∨
      (t' = t ∧ ∃ row c, RepeatedRedemption t.db request row c)) := by
  refine Txn.wp_ok (Q := fun _ t' => request.wellFormed = true ∧
    ((∃ row, FirstRedemption t t' request now row) ∨
      (t' = t ∧ ∃ row c, RepeatedRedemption t.db request row c))) (E := fun _ => True) ?_ h
  unfold redeemOnboarding
  simp only [Txn.wp_bind]
  rw [Txn.wp_require]
  refine ⟨fun hguard => ?_, fun _ => trivial⟩
  rw [Txn.wp_require]
  refine ⟨fun _ => ?_, fun _ => trivial⟩
  rw [Txn.wp_require]
  refine ⟨fun hvalid => ?_, fun _ => trivial⟩
  have hformed : request.wellFormed = true := by
    rw [EnrollmentRequest.wellFormed, hguard]
    exact hvalid
  rw [Txn.wp_mapError]
  unfold serverIdConnection
  simp only [Txn.wp_bind, Store.wp_read, Txn.wp_pure]
  rw [Txn.wp_require]
  refine ⟨fun _ => ?_, fun _ => trivial⟩
  rw [Txn.wp_require]
  refine ⟨fun hserver => ?_, fun _ => trivial⟩
  rw [Txn.wp_orFail]
  refine ⟨fun row hrow => ?_, fun _ => trivial⟩
  rw [Txn.wp_require]
  refine ⟨fun hinvite => ?_, fun _ => trivial⟩
  rw [Txn.wp_require]
  refine ⟨fun _ => ?_, fun _ => trivial⟩
  simp only [Bool.and_eq_true, decide_eq_true_eq,
    Option.isNone_iff_eq_none] at hguard hinvite hserver
  have hpresents : request.Presents t.db row :=
    ⟨hguard.1.1.1.1.1, hserver.symm, hinvite.1.1.symm⟩
  have hallowed : request.allowedBy row := by
    intro provider hprovider
    simpa [hprovider] using hinvite.2
  split
  · next enrollmentId henrollment =>
    simp only [Txn.wp_bind, Store.wp_read, Txn.wp_pure, Txn.wp_mapError]
    rw [Txn.wp_require]
    refine ⟨fun hsame => ?_, fun _ => trivial⟩
    rw [Txn.wp_orFail]
    refine ⟨fun stored hstored => ?_, fun _ => trivial⟩
    rw [Txn.wp_require]
    refine ⟨fun hmatch => ?_, fun _ => trivial⟩
    simp only [Bool.and_eq_true, decide_eq_true_eq, Option.isNone_iff_eq_none] at hsame hmatch
    obtain ⟨c, hc, rfl⟩ := Option.map_eq_some_iff.mp hstored
    refine commit_any ⟨hformed, .inr ⟨rfl, row, c, hrow, hpresents, hallowed, hinvite.1.2,
      hsame.1 ▸ henrollment, hsame.2, hc, hmatch.1.2, ?_⟩⟩
    have hclaims := hmatch.2
    simp only [credentialFromRow, CredentialFile.publicClaims, PublicCredentialClaims.mk.injEq]
      at hclaims
    have htoken : c.tokenHash = request.credentialToken := hmatch.1.1
    have hrevoked : c.revokedAt = none := hmatch.1.2
    obtain ⟨-, -, hrole, hsubject, hside, hclient, hworkspaces⟩ := hclaims
    cases c
    simp only [EnrollmentRequest.row, CredentialRow.mk.injEq]
    exact ⟨htoken, hrole, hsubject, hside, hclient, hworkspaces, trivial, hrevoked⟩
  · next henrollment =>
    simp only [Txn.wp_bind, Txn.wp_pure, Txn.wp_mapError]
    rw [Txn.wp_require]
    refine ⟨fun hearly => ?_, fun _ => trivial⟩
    refine Txn.wp_mono insertCredentialConnection_cases ?_ fun _ _ => trivial
    rintro _ t₁ ⟨hunused, rfl⟩
    refine Store.wp_updateRow (fun _ => ?_) (fun row' hrow' hp _ => ?_) fun _ _ _ _ => trivial
    · rw [Txn.wp_require]
      exact ⟨fun hchanged => by simp at hchanged, fun _ => trivial⟩
    · rw [Txn.wp_require]
      refine ⟨fun _ => commit_any ?_, fun _ => trivial⟩
      obtain rfl := Option.some.inj (hrow.symm.trans hrow')
      exact ⟨hformed, .inl ⟨row, hrow, hpresents, hallowed, henrollment, hinvite.1.2,
        of_decide_eq_true hearly, hunused, rfl⟩⟩

/-- A repetition of the first redemption succeeds and changes nothing. -/
theorem redeem_repeats {request : EnrollmentRequest} {now : ℕ} {t : Tx} {row : InviteRow}
    {c : CredentialRow} (h : DbInv t.db t.tick) (hformed : request.wellFormed = true)
    (hnow : now ≤ maxSafeInteger) (hrepeat : RepeatedRedemption t.db request row c) :
    ∃ claims, redeemOnboarding request now t = .ok (claims, t) := by
  have hpass : ∀ {b : Bool} {e : EnrollmentError} {t : Tx} {Q : Unit → Tx → Prop}, b = true →
      Q () t → Txn.wp (Txn.require b e) Q (fun _ => False) t := by
    rintro _ e t Q rfl hQ
    exact hQ
  have hwp : Txn.wp (redeemOnboarding request now) (fun _ t' => t' = t) (fun _ => False) t := by
    simp only [EnrollmentRequest.wellFormed, Bool.and_eq_true] at hformed
    have hsubject := (h.admin.invites _ row hrepeat.invite).subject
    have hallowed : (row.provider.all fun provider => provider = request.provider) = true := by
      cases hprovider : row.provider with
      | none => rfl
      | some provider => simpa using hrepeat.allowed provider hprovider
    unfold redeemOnboarding
    simp only [Txn.wp_bind]
    refine hpass (by simpa using hformed.1) (hpass (decide_eq_true hnow) (hpass hformed.2 ?_))
    rw [Txn.wp_mapError]
    refine serverIdConnection_spec h (hpass (decide_eq_true hrepeat.presents.server.symm) ?_)
    rw [Store.wp_read, hrepeat.invite, Txn.wp_orFail]
    refine ⟨?_, fun hfalse => by cases hfalse⟩
    rintro _ ⟨⟩
    refine hpass ?_ (hpass (decide_eq_true hsubject) ?_)
    · simp [hrepeat.presents.token, hrepeat.live, hallowed]
    rw [hrepeat.enrollment]
    simp only [Txn.wp_bind]
    refine hpass (by simp [hrepeat.credentialId]) ?_
    rw [Store.wp_read, credentialById, hrepeat.stored, Option.map_some, Txn.wp_orFail]
    refine ⟨?_, fun hfalse => by cases hfalse⟩
    rintro _ ⟨⟩
    refine hpass ?_ ?_
    · rw [hrepeat.row]
      simp [credentialFromRow, EnrollmentRequest.row, CredentialFile.publicClaims,
        CredentialFile.credentialVersion]
    rw [Txn.wp_mapError]
    exact commit_spec h.tasks rfl
  unfold Txn.wp at hwp
  cases hx : redeemOnboarding request now t with
  | error e =>
    rw [hx] at hwp
    exact hwp.elim
  | ok r =>
    rw [hx] at hwp
    exact ⟨r.1, congrArg _ (Prod.ext rfl hwp)⟩

end redemption

section runs

variable [World] {s₀ s s' : RouterStore}

/-- The operations on invitations in any order, with any arguments and at any time, among any other
transactions of the router. -/
inductive OnboardingStep (s s' : RouterStore) : Prop
  | issue {workspace : WorkspaceName} {create : Bool} {provider : Option OnboardingProvider}
      {now : ℕ} {invite : IssuedInvite}
      (h : transaction (issueOnboardingInvite workspace create provider now) s = (.ok invite, s'))
  | redeem {request : EnrollmentRequest} {now : ℕ} {claims : PublicCredentialClaims}
      (h : transaction (redeemOnboarding request now) s = (.ok claims, s'))
  | revokeInvite {inviteId : Uuid} {now : ℕ}
      (h : transaction (revokeOnboardingInvite inviteId now) s = (.ok (), s'))
  | revokeCredential {id : Uuid} {revoked : Bool}
      (h : transaction (revokeCredentialRow id) s = (.ok revoked, s'))
  | other (h : StoreStep s s') (hsound : DbInv s'.db s'.tick)

def OnboardingSteps : RouterStore → RouterStore → Prop := Relation.ReflTransGen OnboardingStep

/-- The first redemption of an invitation on the way from `s₀` to `s`, which found it as `row`. -/
def RedeemedBy (s₀ s : RouterStore) (request : EnrollmentRequest) (now : ℕ) (row : InviteRow) :
    Prop :=
  ∃ a b claims, OnboardingSteps s₀ a ∧
    transaction (redeemOnboarding request now) a = (.ok claims, b) ∧
    FirstRedemption a.tx b.tx request now row ∧ OnboardingSteps b s

omit [World] in
theorem transaction_of_isOk {ε α : Type} {x : Store ε α} (h : (transaction x s).1.isOk = true) :
    ∃ a, transaction x s = (.ok a, (transaction x s).2) := by
  rcases hx : transaction x s with ⟨result, s'⟩
  rw [hx] at h
  cases result with
  | error e => cases h
  | ok a => exact ⟨a, rfl⟩

omit [World] in
theorem transaction_ok {ε α : Type} {x : Store ε α} {a : α}
    (h : transaction x s = (.ok a, s')) : ∃ t, x s.tx = .ok (a, t) ∧ s'.tx = t := by
  unfold transaction at h
  cases hx : x { db := s.db, tick := s.tick } with
  | error e =>
    rw [hx] at h
    cases h
  | ok r =>
    rw [hx] at h
    cases h
    exact ⟨r.2, hx, rfl⟩

theorem transaction_sound {ε α : Type} {x : Store ε α} {a : α} {E : ε → Prop}
    (h : transaction x s = (.ok a, s'))
    (hx : Txn.wp x (fun _ t' => Advance s.tx t' [] noAttempt) E s.tx) : DbInv s'.db s'.tick := by
  obtain ⟨t, ht, rfl⟩ := transaction_ok h
  exact (Txn.wp_ok hx ht).inv

theorem OnboardingStep.sound (h : OnboardingStep s s') (hinv : DbInv s.db s.tick) :
    DbInv s'.db s'.tick := by
  cases h with
  | issue h => exact transaction_sound h (issueOnboardingInvite_spec hinv)
  | redeem h => exact transaction_sound h (redeemOnboarding_advance hinv)
  | revokeInvite h => exact transaction_sound h (revokeOnboardingInvite_spec hinv)
  | revokeCredential h => exact transaction_sound h (revokeCredentialRow_spec hinv)
  | other _ hsound => exact hsound

omit [World] in
theorem FirstRedemption.keeps {t t' : Tx} {request : EnrollmentRequest} {now : ℕ} {row : InviteRow}
    (h : FirstRedemption t t' request now row) : KeepsEnrollments t.db t'.db := by
  rw [h.after]
  have hinserted := KeepsEnrollments.insertCredential (r := request.row row.workspace now) h.unused
  refine IsTrans.trans _ _ _ hinserted ⟨rfl, ?_, ?_⟩
  · intro id row' hrow' hredeemed
    have hne : id ≠ request.inviteId := by
      rintro rfl
      obtain rfl := Option.some.inj (h.invite.symm.trans hrow')
      rw [h.fresh] at hredeemed
      cases hredeemed
    exact ⟨row'.revokedAt, (Table.get?_put_ne _ _ hne).trans hrow'⟩
  · exact fun _ c hc => ⟨c.revokedAt, hc⟩

omit [World] in
theorem redeem_keeps {request : EnrollmentRequest} {now : ℕ} {t t' : Tx}
    {claims : PublicCredentialClaims}
    (h : redeemOnboarding request now t = .ok (claims, t')) : KeepsEnrollments t.db t'.db := by
  rcases (redeem_cases h).2 with ⟨row, hfirst⟩ | ⟨rfl, -⟩
  · exact hfirst.keeps
  · exact Std.Refl.refl _

/-- Whatever happens, credentials and redeemed invitations stay, or are revoked. -/
theorem StoreStep.keepsEnrollments (h : StoreStep s s') : KeepsEnrollments s.db s'.db := by
  cases h with
  | draw _ => exact Std.Refl.refl _
  | dispatch _ hok => exact (markExternalDispatched_moves keepsEnrollments_external _ _ _ _ hok).db
  | call hcall hok =>
    cases hcall with
    | plain hplain =>
      exact (hplain.moves keepsEnrollments_external keepsEnrollments_admin _ _ _ hok).db
    | redeem => exact redeem_keeps hok
    | applyCatalog =>
      exact (applyCatalog_moves keepsEnrollments_external.toBlindJournal
        (fun _ _ => .of_eq rfl rfl rfl) _ _ _ _ hok).db
    | disableBindings =>
      exact (disableBindings_moves (fun _ _ => .of_eq rfl rfl rfl) _ _ _ _ hok).db

/-- Only a first redemption makes an invitation redeemed. -/
theorem StoreStep.newEnrollment (h : StoreStep s s') : NoNewEnrollment s.db s'.db ∨
    ∃ request now claims, transaction (redeemOnboarding request now) s = (.ok claims, s') := by
  cases h with
  | draw _ => exact .inl (Std.Refl.refl _)
  | dispatch _ hok =>
    exact .inl (markExternalDispatched_moves noNewEnrollment_external _ _ _ _ hok).db
  | call hcall hok =>
    cases hcall with
    | plain hplain =>
      exact .inl (hplain.moves noNewEnrollment_external noNewEnrollment_admin _ _ _ hok).db
    | redeem request now =>
      exact .inr ⟨request, now, _, by unfold transaction; rw [hok]⟩
    | applyCatalog =>
      exact .inl (applyCatalog_moves noNewEnrollment_external.toBlindJournal
        (fun _ _ => .of_eq rfl) _ _ _ _ hok).db
    | disableBindings =>
      have hmoves := disableBindings_moves (R := NoNewEnrollment) (fun _ _ => .of_eq rfl)
      exact .inl (hmoves _ _ _ _ hok).db

theorem OnboardingStep.keeps (h : OnboardingStep s s') : KeepsEnrollments s.db s'.db := by
  cases h with
  | issue h =>
    obtain ⟨t, ht, rfl⟩ := transaction_ok h
    exact (issueOnboardingInvite_moves keepsEnrollments_admin _ _ _ _ _ _ _ ht).db
  | redeem h =>
    obtain ⟨t, ht, rfl⟩ := transaction_ok h
    exact redeem_keeps ht
  | revokeInvite h =>
    obtain ⟨t, ht, rfl⟩ := transaction_ok h
    exact (revokeOnboardingInvite_moves keepsEnrollments_admin _ _ _ _ _ ht).db
  | revokeCredential h =>
    obtain ⟨t, ht, rfl⟩ := transaction_ok h
    exact (revokeCredentialRow_moves keepsEnrollments_admin _ _ _ _ ht).db
  | other h _ => exact h.keepsEnrollments

theorem OnboardingStep.new (h : OnboardingStep s s') : NoNewEnrollment s.db s'.db ∨
    ∃ request now claims, transaction (redeemOnboarding request now) s = (.ok claims, s') := by
  cases h with
  | issue h =>
    obtain ⟨t, ht, rfl⟩ := transaction_ok h
    exact .inl (issueOnboardingInvite_moves noNewEnrollment_admin _ _ _ _ _ _ _ ht).db
  | @redeem request now claims h => exact .inr ⟨request, now, claims, h⟩
  | revokeInvite h =>
    obtain ⟨t, ht, rfl⟩ := transaction_ok h
    exact .inl (revokeOnboardingInvite_moves noNewEnrollment_admin _ _ _ _ _ ht).db
  | revokeCredential h =>
    obtain ⟨t, ht, rfl⟩ := transaction_ok h
    exact .inl (revokeCredentialRow_moves noNewEnrollment_admin _ _ _ _ ht).db
  | other h _ => exact h.newEnrollment

theorem OnboardingSteps.sound (h : OnboardingSteps s s') (hinv : DbInv s.db s.tick) :
    DbInv s'.db s'.tick := by
  induction h with
  | refl => exact hinv
  | tail _ hstep ih => exact hstep.sound ih

theorem OnboardingSteps.keeps (h : OnboardingSteps s s') : KeepsEnrollments s.db s'.db := by
  induction h with
  | refl => exact Std.Refl.refl _
  | tail _ hstep ih => exact IsTrans.trans _ _ _ ih hstep.keeps

theorem RedeemedBy.tail {request : EnrollmentRequest} {now : ℕ} {row : InviteRow}
    (h : RedeemedBy s₀ s request now row) (hstep : OnboardingStep s s') :
    RedeemedBy s₀ s' request now row := by
  obtain ⟨a, b, claims, ha, hab, hfirst, hb⟩ := h
  exact ⟨a, b, claims, ha, hab, hfirst, hb.tail hstep⟩

/-- Every redeemed invitation has its first redemption. -/
theorem OnboardingSteps.origin (h : OnboardingSteps s₀ s)
    (hnone : ∀ id row, s₀.db.invites.get? id = some row → row.enrollmentId = none) {id : Uuid}
    {row : InviteRow} (hrow : s.db.invites.get? id = some row)
    (hredeemed : row.enrollmentId.isSome) :
    ∃ request now row₀, request.inviteId = id ∧ RedeemedBy s₀ s request now row₀ := by
  induction h generalizing row with
  | refl =>
    rw [hnone id row hrow] at hredeemed
    cases hredeemed
  | @tail a b ha hstep ih =>
    have hearlier : (∃ row, a.db.invites.get? id = some row ∧ row.enrollmentId.isSome) →
        ∃ request now row₀, request.inviteId = id ∧ RedeemedBy s₀ b request now row₀ := by
      rintro ⟨row', hrow', hredeemed'⟩
      obtain ⟨request, now, row₀, hid, hby⟩ := ih hrow' hredeemed'
      exact ⟨request, now, row₀, hid, hby.tail hstep⟩
    rcases hstep.new with hold | ⟨request, now, claims, hredeem⟩
    · exact hearlier (hold id row hrow hredeemed)
    · obtain ⟨t, ht, htx⟩ := transaction_ok hredeem
      rcases (redeem_cases ht).2 with ⟨row₀, hfirst⟩ | ⟨rfl, -⟩
      · by_cases hid : request.inviteId = id
        · exact ⟨request, now, row₀, hid, a, b, claims, ha, hredeem, htx ▸ hfirst, .refl⟩
        · -- The redemption of another invitation leaves this one as it was.
          refine hearlier ⟨row, ?_, hredeemed⟩
          have hdb : b.db = t.db := congrArg Tx.db htx
          rw [hdb, hfirst.after] at hrow
          exact (Table.get?_put_ne _ _ (Ne.symm hid)).symm.trans hrow
      · have hdb : b.db = a.db := congrArg Tx.db htx
        exact hearlier ⟨row, hdb ▸ hrow, hredeemed⟩

/-- The invitation and the credential show the first redemption for good. -/
theorem RedeemedBy.rows {request : EnrollmentRequest} {now : ℕ} {row : InviteRow}
    (h : RedeemedBy s₀ s request now row) : s.db.serverId = request.serverId ∧ ∃ invited issued,
      s.db.invites.get? request.inviteId =
        some { request.mark now row with revokedAt := invited } ∧
      s.db.credentials.get? request.credentialId =
        some { request.row row.workspace now with revokedAt := issued } := by
  obtain ⟨a, b, claims, -, -, hfirst, hb⟩ := h
  have hdb : b.db = request.enroll now row a.db := congrArg Tx.db hfirst.after
  have hinvite : b.db.invites.get? request.inviteId = some (request.mark now row) := by
    rw [hdb]
    exact Table.get?_put_self _ _ _
  have hcredential : b.db.credentials.get? request.credentialId =
      some (request.row row.workspace now) := by
    rw [hdb]
    exact Table.get?_put_self _ _ _
  have hserver : b.db.serverId = request.serverId := by
    rw [hdb]
    exact hfirst.presents.server.symm
  obtain ⟨invited, hinvite'⟩ := hb.keeps.invites _ _ hinvite rfl
  obtain ⟨issued, hcredential'⟩ := hb.keeps.credentials _ _ hcredential
  exact ⟨hb.keeps.server.trans hserver, invited, issued, hinvite', hcredential'⟩

theorem RedeemedBy.wellFormed {request : EnrollmentRequest} {now : ℕ} {row : InviteRow}
    (h : RedeemedBy s₀ s request now row) : request.wellFormed = true := by
  obtain ⟨a, b, claims, -, hab, -, -⟩ := h
  obtain ⟨t, ht, -⟩ := transaction_ok hab
  exact (redeem_cases ht).1

/-- A request that repeats the first one in everything but the time. -/
structure EnrollmentRequest.SameAs (request first : EnrollmentRequest) : Prop where
  enrollmentId : request.enrollmentId = first.enrollmentId
  credentialId : request.credentialId = first.credentialId
  credentialToken : request.credentialToken = first.credentialToken
  provider : request.provider = first.provider

omit [World] in
theorem OnboardingProvider.identity_injective : Function.Injective OnboardingProvider.identity := by
  intro p q h
  cases p <;> cases q <;> first | rfl | cases h

/-- After the first redemption only its repetitions succeed. -/
theorem RedeemedBy.repeats {first request : EnrollmentRequest} {now now' : ℕ} {row : InviteRow}
    {t : Tx} {claims : PublicCredentialClaims} (h : RedeemedBy s₀ s first now row)
    (hid : request.inviteId = first.inviteId)
    (hok : redeemOnboarding request now' s.tx = .ok (claims, t)) :
    t = s.tx ∧ ∃ row c, RepeatedRedemption s.db request row c ∧ request.SameAs first := by
  obtain ⟨-, invited, issued, hinvite, hcredential⟩ := h.rows
  rcases (redeem_cases hok).2 with ⟨row', hfirst⟩ | ⟨rfl, row', c, hrepeat⟩
  · -- The invitation is not open any more.
    have hopen := hfirst.fresh
    rw [← hid] at hinvite
    obtain rfl := Option.some.inj (hinvite.symm.trans hfirst.invite)
    cases hopen
  · refine ⟨rfl, row', c, hrepeat, ?_⟩
    rw [← hid] at hinvite
    obtain rfl := Option.some.inj (hinvite.symm.trans hrepeat.invite)
    have henrollment := Option.some.inj hrepeat.enrollment
    have hcredentialId : first.credentialId = request.credentialId :=
      Option.some.inj hrepeat.credentialId
    rw [hcredentialId] at hcredential
    obtain rfl := Option.some.inj (hcredential.symm.trans hrepeat.stored)
    have hrow := hrepeat.row
    simp only [EnrollmentRequest.row, CredentialRow.mk.injEq, Option.some.injEq] at hrow
    exact ⟨henrollment.symm, hcredentialId.symm, hrow.1.symm,
      OnboardingProvider.identity_injective (Prod.ext hrow.2.2.2.1.symm hrow.2.2.2.2.1.symm)⟩

/-- A repetition of the first redemption that nothing revoked succeeds. -/
theorem RedeemedBy.again {first request : EnrollmentRequest} {now now' : ℕ} {row : InviteRow}
    (h : RedeemedBy s₀ s first now row) (hinv : DbInv s.db s.tick)
    (hid : request.inviteId = first.inviteId) (hpresents : request.Presents s.db row)
    (hnow : now' ≤ maxSafeInteger) (hsame : request.SameAs first)
    (hinvite : ∀ row, s.db.invites.get? first.inviteId = some row → row.revokedAt = none)
    (hcredential : ∀ c, s.db.credentials.get? first.credentialId = some c → c.revokedAt = none) :
    ∃ claims, redeemOnboarding request now' s.tx = .ok (claims, s.tx) := by
  obtain ⟨hserver, invited, issued, hrow, hc⟩ := h.rows
  have hfirst := h.wellFormed
  have htoken : request.inviteToken = first.inviteToken := by
    obtain ⟨a, b, claims, -, -, hfirst, -⟩ := h
    rw [hpresents.token, hfirst.presents.token]
  have hversion : request.version = first.version := by
    simp only [EnrollmentRequest.wellFormed, Bool.and_eq_true, decide_eq_true_eq] at hfirst
    rw [hpresents.version, hfirst.1.1.1.1.1.1]
  have hformed : request.wellFormed = true := by
    rw [← hfirst]
    simp only [EnrollmentRequest.wellFormed, EnrollmentRequest.credential, hid, htoken, hversion,
      hsame.enrollmentId, hsame.credentialId, hsame.credentialToken, hsame.provider,
      hpresents.server, hserver]
  have hallowed : first.allowedBy row := by
    obtain ⟨a, b, claims, -, -, hfirst, -⟩ := h
    exact hfirst.allowed
  obtain rfl : invited = none := hinvite _ hrow
  obtain rfl : issued = none := hcredential _ hc
  have hrepeat : RepeatedRedemption s.db request { first.mark now row with revokedAt := none }
      { first.row row.workspace now with revokedAt := none } :=
    { invite := hid ▸ hrow
      presents := ⟨hpresents.version, hpresents.server, hpresents.token⟩
      allowed := fun provider hprovider => hsame.provider ▸ hallowed provider hprovider
      live := rfl
      enrollment := hsame.enrollmentId ▸ rfl
      credentialId := hsame.credentialId ▸ rfl
      stored := hsame.credentialId ▸ hc
      unrevoked := rfl
      row := by
        simp only [EnrollmentRequest.row, EnrollmentRequest.mark, hid, hsame.credentialToken,
          hsame.provider] }
  exact redeem_repeats hinv hformed hnow hrepeat

/-- How the invitations of a run may be used. -/
structure SingleUse (s₀ s : RouterStore) : Prop where
  origin : ∀ id row, s.db.invites.get? id = some row → row.enrollmentId.isSome →
    ∃ request now row₀, request.inviteId = id ∧ RedeemedBy s₀ s request now row₀
  rows : ∀ request now row, RedeemedBy s₀ s request now row → ∃ invited issued,
    s.db.invites.get? request.inviteId = some { request.mark now row with revokedAt := invited } ∧
    s.db.credentials.get? request.credentialId =
      some { request.row row.workspace now with revokedAt := issued }
  unique : ∀ first second now now' row row', RedeemedBy s₀ s first now row →
    RedeemedBy s₀ s second now' row' → first.inviteId = second.inviteId →
    first.credentialId = second.credentialId ∧ now = now'
  again : ∀ first now row, RedeemedBy s₀ s first now row → ∀ request now',
    request.inviteId = first.inviteId → request.Presents s.db row → now' ≤ maxSafeInteger →
    ((∃ claims s', transaction (redeemOnboarding request now') s = (.ok claims, s')) ↔
      (∀ row, s.db.invites.get? first.inviteId = some row → row.revokedAt = none) ∧
      (∀ c, s.db.credentials.get? first.credentialId = some c → c.revokedAt = none) ∧
      request.SameAs first)
  inert : ∀ first now row, RedeemedBy s₀ s first now row → ∀ request now' claims s',
    request.inviteId = first.inviteId →
    transaction (redeemOnboarding request now') s = (.ok claims, s') → s'.db = s.db
  failed : ∀ request now error s',
    transaction (redeemOnboarding request now) s = (.error error, s') → s' = s

/-- However the operations on invitations are interleaved, an invitation is redeemed once. -/
theorem invitations_single_use (h : OnboardingSteps (openStore initialDb 1) s) :
    SingleUse (openStore initialDb 1) s where
  origin := fun id row hrow hredeemed => h.origin (by simp [openStore, initialDb]) hrow hredeemed
  rows := fun request now row hby => hby.rows.2
  unique := by
    intro first second now now' row row' hfirst hsecond hid
    obtain ⟨-, _, _, hinvite, -⟩ := hfirst.rows
    obtain ⟨-, _, _, hinvite', -⟩ := hsecond.rows
    rw [hid] at hinvite
    have heq := Option.some.inj (hinvite.symm.trans hinvite')
    simp only [EnrollmentRequest.mark, InviteRow.mk.injEq, Option.some.injEq] at heq
    exact ⟨heq.2.2.2.2.2.2.2.2.1, heq.2.2.2.2.2.2.2.2.2⟩
  again := by
    intro first now row hby request now' hid hpresents hnow
    have hinv := h.sound initialDb_inv
    constructor
    · rintro ⟨claims, s', hok⟩
      obtain ⟨t, ht, -⟩ := transaction_ok hok
      obtain ⟨-, row', c, hrepeat, hsame⟩ := hby.repeats hid ht
      refine ⟨fun row'' hrow => ?_, fun c' hc => ?_, hsame⟩
      · rw [← hid, hrepeat.invite] at hrow
        exact Option.some.inj hrow ▸ hrepeat.live
      · rw [← hsame.credentialId, hrepeat.stored] at hc
        exact Option.some.inj hc ▸ hrepeat.unrevoked
    · rintro ⟨hinvite, hcredential, hsame⟩
      obtain ⟨claims, hok⟩ := hby.again hinv hid hpresents hnow hsame hinvite hcredential
      refine ⟨claims, { s with journal := s.db :: s.journal }, ?_⟩
      unfold transaction
      rw [show redeemOnboarding request now' { db := s.db, tick := s.tick } = _ from hok]
      rfl
  inert := by
    intro first now row hby request now' claims s' hid hok
    obtain ⟨t, ht, htx⟩ := transaction_ok hok
    rw [(hby.repeats hid ht).1] at htx
    exact congrArg Tx.db htx
  failed := by
    intro request now error s' herror
    unfold transaction at herror
    split at herror
    · cases herror
    · exact (Prod.mk.inj herror).2.symm

end runs

namespace Sample

/-- A request for the first invitation of a fresh server. -/
def enrollment : EnrollmentRequest :=
  { version := 1, serverId := initialDb.serverId, inviteId := World.uuid 1,
    inviteToken := World.token 2, enrollmentId := ⟨200⟩, provider := .omp, credentialId := ⟨201⟩,
    credentialToken := token 7 }

def invited : RouterStore :=
  (transaction (issueOnboardingInvite workspace true none 0) (openStore initialDb 1)).2

def enrolled : RouterStore := (transaction (redeemOnboarding enrollment 5) invited).2

/-- The response is lost and the request comes again, long after the invitation has expired. -/
def repeated : RouterStore :=
  (transaction (redeemOnboarding enrollment maxSafeInteger) enrolled).2

def revoked : RouterStore :=
  (transaction (revokeOnboardingInvite enrollment.inviteId 9) repeated).2

end Sample

open Sample in
/-- A redemption that is repeated after its response was lost, until the invitation is revoked. -/
theorem invitations_single_use_enrolled :
    OnboardingSteps (openStore initialDb 1) revoked ∧
      (∃ row, RedeemedBy (openStore initialDb 1) revoked enrollment 5 row) ∧
      SingleUse (openStore initialDb 1) enrolled ∧ repeated.db = enrolled.db ∧
      SingleUse (openStore initialDb 1) revoked ∧
      ∀ now claims s', now ≤ maxSafeInteger →
        transaction (redeemOnboarding enrollment now) revoked ≠ (.ok claims, s') := by
  obtain ⟨invite, hissue⟩ := transaction_of_isOk (x := issueOnboardingInvite workspace true none 0)
    (s := openStore initialDb 1) (by decide +kernel)
  obtain ⟨claims, hredeem⟩ := transaction_of_isOk (x := redeemOnboarding enrollment 5)
    (s := invited) (by decide +kernel)
  obtain ⟨again, hagain⟩ := transaction_of_isOk
    (x := redeemOnboarding enrollment maxSafeInteger) (s := enrolled) (by decide +kernel)
  obtain ⟨⟨⟩, hrevoke⟩ := transaction_of_isOk (x := revokeOnboardingInvite enrollment.inviteId 9)
    (s := repeated) (by decide +kernel)
  have hopen : (invited.db.invites.get? enrollment.inviteId).any
      (fun row => row.enrollmentId.isNone) = true := by decide +kernel
  have hended : (revoked.db.invites.get? enrollment.inviteId).any
      (fun row => row.revokedAt.isSome) = true := by decide +kernel
  have hinvited : OnboardingSteps (openStore initialDb 1) invited := .single (.issue hissue)
  have henrolled : OnboardingSteps (openStore initialDb 1) enrolled :=
    hinvited.tail (.redeem hredeem)
  have hrevoked : OnboardingSteps (openStore initialDb 1) revoked :=
    (henrolled.tail (.redeem hagain)).tail (.revokeInvite hrevoke)
  -- The invitation was open, so the redemption was its first.
  obtain ⟨t, ht, htx⟩ := transaction_ok hredeem
  obtain ⟨row, hfirst⟩ : ∃ row, FirstRedemption invited.tx enrolled.tx enrollment 5 row := by
    rcases (redeem_cases ht).2 with ⟨row, hfirst⟩ | ⟨-, row, c, hrepeat⟩
    · exact ⟨row, htx ▸ hfirst⟩
    · rw [show invited.db.invites.get? enrollment.inviteId = some row from hrepeat.invite,
        Option.any_some, hrepeat.enrollment] at hopen
      cases hopen
  have hby : RedeemedBy (openStore initialDb 1) enrolled enrollment 5 row :=
    ⟨invited, enrolled, claims, hinvited, hredeem, hfirst, .refl⟩
  have hby' : RedeemedBy (openStore initialDb 1) revoked enrollment 5 row :=
    (hby.tail (.redeem hagain)).tail (.revokeInvite hrevoke)
  have hsingle := invitations_single_use henrolled
  have hsingle' := invitations_single_use hrevoked
  refine ⟨hrevoked, ⟨row, hby'⟩, hsingle, hsingle.inert _ _ _ hby _ _ _ _ rfl hagain, hsingle', ?_⟩
  intro now claims s' hnow hok
  have hpresents : enrollment.Presents revoked.db row :=
    ⟨hfirst.presents.version, hby'.rows.1.symm, hfirst.presents.token⟩
  obtain ⟨hlive, -, -⟩ := (hsingle'.again _ _ _ hby' _ now rfl hpresents hnow).mp ⟨claims, s', hok⟩
  obtain ⟨row', hrow', hended⟩ := (Option.any_eq_true _ _).mp hended
  rw [hlive row' hrow'] at hended
  cases hended

end SessionRouter
