import SessionRouter.Integrations.CatalogSpec
import Mathlib.Data.List.TakeWhile

/-!
Credentials, workspaces and invitations: what an accepted row satisfies, and that a statement
about them fails only when an identifier or a token is already in use.
-/

namespace SessionRouter

/-- Without NUL the SQL length of a text is its length. -/
theorem sqlLength_eq {s : String} (h : ∀ c ∈ s.toList, c ≠ '\x00') :
    sqlLength s = s.toList.length := by
  unfold sqlLength
  rw [List.takeWhile_eq_self_iff.mpr]
  simpa using h

theorem length_le_utf8ByteSize (s : String) : s.toList.length ≤ s.utf8ByteSize := by
  have hlen : ∀ cs : List Char, cs.length ≤ JsonValue.byteLen cs := by
    intro cs
    induction cs with
    | nil => simp
    | cons c cs ih =>
      have hpos := c.utf8Size_pos
      simp only [JsonValue.byteLen, List.map_cons, List.sum_cons, List.length_cons] at ih ⊢
      omega
  rw [← JsonValue.byteLen_toList]
  exact hlen _

theorem validActor_of {s : String} (hnul : ∀ c ∈ s.toList, c ≠ '\x00') (hne : s.toList ≠ [])
    (hsize : s.utf8ByteSize ≤ 128) : ValidActor s := by
  have hle := length_le_utf8ByteSize s
  have hpos := List.length_pos_of_ne_nil hne
  unfold ValidActor
  rw [sqlLength_eq hnul]
  omega

theorem ne_nul_of_alphanum {c : Char} (h : isAsciiAlphanumeric c = true) : c ≠ '\x00' := by
  rintro rfl
  revert h
  decide

theorem validActor_request {s : String} (h : isRequestId s = true) : ValidActor s := by
  simp only [isRequestId, Bool.and_eq_true] at h
  obtain ⟨hsize, hid⟩ := h
  have hsize : s.utf8ByteSize ≤ 128 := of_decide_eq_true hsize
  cases hs : s.toList with
  | nil => simp [hs, isIdentifier] at hid
  | cons c cs =>
    simp only [hs, isIdentifier, Bool.and_eq_true, List.all_eq_true, Bool.or_eq_true,
      decide_eq_true_eq] at hid
    refine validActor_of ?_ (by simp [hs]) hsize
    intro d hd
    rw [hs, List.mem_cons] at hd
    rcases hd with rfl | hd
    · exact ne_nul_of_alphanum hid.1
    · rcases hid.2 d hd with hd | hd
      · exact ne_nul_of_alphanum hd
      · rintro rfl
        revert hd
        decide

theorem validActor_agent {s : String} (h : isAgentId s = true) : ValidActor s := by
  simp only [isAgentId, Bool.and_eq_true] at h
  exact validActor_request h.1.1

/-- The subject of an operator's credential. -/
def operatorSubject (s : String) : Bool :=
  s ≠ "" && s.utf8ByteSize ≤ 119 && isAscii s && s.toList.all fun c => !isControl c

theorem ne_nul_of_subject {s : String} (h : operatorSubject s = true) :
    ∀ c ∈ s.toList, c ≠ '\x00' := by
  simp only [operatorSubject, Bool.and_eq_true, List.all_eq_true] at h
  rintro c hc rfl
  have := h.2 _ hc
  revert this
  decide

theorem validActor_operator {s : String} (h : operatorSubject s = true) :
    ValidActor ("operator:" ++ s) := by
  have hnul := ne_nul_of_subject h
  simp only [operatorSubject, Bool.and_eq_true, decide_eq_true_eq] at h
  refine validActor_of ?_ (by simp) ?_
  · intro c hc
    rw [String.toList_append, List.mem_append] at hc
    rcases hc with hc | hc
    · rintro rfl
      revert hc
      decide
    · exact hnul c hc
  · have hsize : "operator:".utf8ByteSize = 9 := by decide
    rw [String.utf8ByteSize_append, hsize]
    omega

theorem validActor_subject {s : String} (h : operatorSubject s = true) : ValidActor s := by
  have hnul := ne_nul_of_subject h
  simp only [operatorSubject, Bool.and_eq_true, decide_eq_true_eq] at h
  refine validActor_of hnul ?_ (by omega)
  intro hnil
  exact h.1.1.1 (String.toList_eq_nil_iff.mp hnil)

namespace Uuid

/-- The value of a hexadecimal digit. -/
def hexValue (c : Char) : ℕ := if c.toNat < 58 then c.toNat - 48 else c.toNat - 87

theorem hexValue_hexDigit {d : ℕ} (h : d < 16) : hexValue (JsonValue.hexDigit d) = d := by
  have : ∀ i : Fin 16, hexValue (JsonValue.hexDigit i) = i := by decide
  exact this ⟨d, h⟩

/-- The number is read back from its digits. -/
theorem ofDigits_simple (u : Uuid) :
    Nat.ofDigits 16 ((u.simple.toList.reverse).map hexValue) = u.val := by
  have hzero : hexValue '0' = 0 := by decide
  have hdigits : ((Nat.digits 16 u.val).map JsonValue.hexDigit).map hexValue =
      Nat.digits 16 u.val := by
    rw [List.map_map]
    conv_rhs => rw [← List.map_id (Nat.digits 16 u.val)]
    refine List.map_congr_left fun d hd => ?_
    exact hexValue_hexDigit (Nat.digits_lt_base (by norm_num) hd)
  simp only [simple, String.toList_ofList, List.reverse_reverse, List.map_append, hdigits,
    List.map_replicate, hzero, Nat.ofDigits_append, Nat.ofDigits_digits]
  rw [Nat.ofDigits_replicate_zero]
  simp

theorem simple_injective : Function.Injective simple := by
  intro u v h
  have hval : u.val = v.val := by rw [← ofDigits_simple u, ← ofDigits_simple v, h]
  cases u
  cases v
  simpa using hval

end Uuid

theorem inviteSubject_injective : Function.Injective inviteSubject := by
  intro u v h
  refine Uuid.simple_injective ?_
  simp only [inviteSubject, ← String.toList_inj, String.toList_append] at h
  exact String.toList_inj.mp (List.append_cancel_left h)

/-- A change of credentials, workspaces or invitations leaves the other tables alone. -/
structure SameWork (db db' : Db) : Prop where
  server : db'.serverId = db.serverId
  events : db'.events = db.events
  tasks : db'.tasks = db.tasks
  attempts : db'.attempts = db.attempts
  reports : db'.reports = db.reports
  mutations : db'.mutations = db.mutations
  operations : db'.operations = db.operations
  resolutions : db'.resolutions = db.resolutions
  bindings : db'.bindings = db.bindings

/-- The id or the token of a credential is in use. -/
def CredentialUsed (db : Db) (id : Uuid) (token : String) : Prop :=
  (∃ r, db.credentials.get? id = some r) ∨
    ∃ id' r, db.credentials.get? id' = some r ∧ r.tokenHash = token

def InviteTokenUsed (db : Db) (token : String) : Prop :=
  ∃ id r, db.invites.get? id = some r ∧ r.tokenHash = token

section

variable [World] {t : Tx}

theorem Advance.of_admin (db' : Db) {tick : ℕ} (h : DbInv t.db t.tick) (hle : t.tick ≤ tick)
    (same : SameWork t.db db')
    (hcredentials : ∀ id c, t.db.credentials.get? id = some c →
      ∃ c', db'.credentials.get? id = some c')
    (hworkspaces : ∀ w row, t.db.workspaces.get? w = some row → db'.workspaces.get? w = some row)
    (hjournal : Journal db') (hadmin : AdminTables db' tick) :
    Advance t { db := db', tick } [] noAttempt := by
  have hkeep : KeepsWorkspaces t.db db' := fun w row hrow => ⟨row, hworkspaces w row hrow, le_rfl⟩
  have hevents : db'.events = t.db.events ++ [] := by rw [same.events, List.append_nil]
  refine ⟨⟨?_, hjournal, hadmin, ?_⟩, hle, ?_, .of_eq same.attempts⟩
  · exact h.tasks.of_same hle same.tasks same.attempts same.reports same.mutations hcredentials
      hkeep hevents (by simp)
  · refine h.external.of_same same.operations same.resolutions same.bindings hkeep ?_
    rw [same.tasks]
    exact fun _ r hr => ⟨r, hr⟩
  · refine ⟨hevents, fun w row hrow => ⟨row, hworkspaces w row hrow, le_rfl, le_rfl⟩, ?_,
      hcredentials, ?_⟩
    · rw [same.tasks]
      exact (Extends.refl t.db).tasks
    · rw [same.attempts]
      exact (Extends.refl t.db).attempts

omit [World] in
/-- What `CredentialFile::validate` admits satisfies the constraints of the table. -/
theorem credentialRow_check {c : CredentialFile} {now : ℕ} (hvalid : c.validate = true)
    (hnow : now ≤ maxSafeInteger) :
    let row : CredentialRow :=
      { tokenHash := c.token, role := c.role, subject := c.subject, agentSide := c.agentSide,
        agentClient := c.agentClient, workspaces := c.workspaces, createdAt := now,
        revokedAt := none }
    row.check = true ∧ row.subjectValid = true := by
  intro row
  simp only [CredentialFile.validate, Bool.and_eq_true, decide_eq_true_eq] at hvalid
  obtain ⟨⟨⟨-, hgrants⟩, -⟩, hrole⟩ := hvalid
  have hgrants : c.workspaces.length ≤ 64 := hgrants
  have htime : safeTime now = true := decide_eq_true hnow
  cases hr : c.role with
  | agent =>
    simp only [hr, Bool.and_eq_true] at hrole
    have hactor := validActor_agent hrole.1
    have hclaims : c.agentSide.isSome = true ∧ c.agentClient.isSome = true := by
      have := hrole.2
      cases hside : c.agentSide <;> cases hclient : c.agentClient <;>
        simp [hside, hclient, CredentialFile.validAgentClaims] at this ⊢
    refine ⟨?_, ?_⟩
    · simp [row, CredentialRow.check, hr, hgrants, htime, hclaims, hactor.1, hactor.2]
    · simp [row, CredentialRow.subjectValid, hr, hrole.1]
  | operator =>
    simp only [hr, Bool.and_eq_true, decide_eq_true_eq] at hrole
    have hsubject : operatorSubject c.subject = true := by
      simp [operatorSubject, hrole]
    have hactor := validActor_subject hsubject
    refine ⟨?_, ?_⟩
    · simp [row, CredentialRow.check, hr, hgrants, htime, hrole, hactor.1, hactor.2]
    · simp only [row, CredentialRow.subjectValid, hr]
      exact hsubject

theorem insertCredentialConnection_spec {c : CredentialFile} {now : ℕ} (h : DbInv t.db t.tick) :
    Txn.wp (insertCredentialConnection c now) (fun _ t' => Advance t t' [] noAttempt ∧
        ∃ row, t'.db.credentials.get? c.id = some row)
      (fun e => e = .invalidData ∨ CredentialUsed t.db c.id c.token) t := by
  unfold insertCredentialConnection
  simp only [Txn.wp_bind]
  rw [Txn.wp_require]
  refine ⟨fun hvalid => ?_, fun _ => .inl rfl⟩
  rw [Txn.wp_require]
  refine ⟨fun hid => ?_, fun _ => .inl rfl⟩
  simp only [Bool.and_eq_true, decide_eq_true_eq] at hid
  have hrow := credentialRow_check hvalid hid.2
  refine Store.wp_insertRow (fun hnone hok => ⟨?_, _, Table.get?_put_self _ _ _⟩) ?_
  · refine Advance.of_admin (setCredentials _ t.db) h le_rfl
      ⟨rfl, rfl, rfl, rfl, rfl, rfl, rfl, rfl, rfl⟩ ?_ (fun _ _ hrow => hrow)
      (h.journal.of_eq rfl rfl) ?_
    · intro id row hrow
      by_cases hk : id = c.id
      · exact ⟨_, by rw [hk]; exact Table.get?_put_self _ _ _⟩
      · exact ⟨row, (Table.get?_put_ne _ _ hk).trans hrow⟩
    · simp only [credentialOk, Bool.and_eq_true, List.all_eq_true, Bool.or_eq_true,
        decide_eq_true_eq] at hok
      have hother : ∀ id row, t.db.credentials.get? id = some row → id ≠ c.id →
          row.tokenHash ≠ c.token := by
        intro id row hget hne
        rcases hok.2 (id, row) ((Table.mem_toList _ _ _).mpr hget) with heq | hne'
        · exact absurd heq hne
        · exact hne'
      refine ⟨h.admin.server, ?_, ?_, ?_, h.admin.inviteTokens⟩
      · intro id row hget
        simp only [setCredentials, Table.get?_put] at hget
        split at hget
        · cases hget
          exact hrow
        · exact h.admin.credentials id row hget
      · intro id id' row row' hget hget' htoken
        simp only [setCredentials, Table.get?_put] at hget hget'
        split at hget <;> split at hget'
        · next h₁ h₂ => rw [h₁, h₂]
        · next h₁ h₂ =>
          cases hget
          exact absurd htoken.symm (hother id' row' hget' h₂)
        · next h₁ h₂ =>
          cases hget'
          exact absurd htoken (hother id row hget h₁)
        · exact h.admin.tokens id id' row row' hget hget' htoken
      · intro id row hget
        have hi := h.admin.invites id row hget
        refine ⟨hi.check, hi.drawn, hi.subject, hi.workspace, ?_⟩
        intro cid hcid
        obtain ⟨crow, hcrow⟩ := hi.credential cid hcid
        by_cases hk : cid = c.id
        · exact ⟨_, by rw [hk]; exact Table.get?_put_self _ _ _⟩
        · exact ⟨crow, (Table.get?_put_ne _ _ hk).trans hcrow⟩
  · rintro (hused | hfalse)
    · exact .inr (.inl hused)
    · refine .inr (.inr ?_)
      simp only [credentialOk, hrow.1, Bool.true_and, List.all_eq_false, Bool.or_eq_true,
        decide_eq_true_eq, not_or, not_not] at hfalse
      obtain ⟨⟨id, row⟩, hmem, -, htoken⟩ := hfalse
      exact ⟨id, row, (Table.mem_toList _ _ _).mp hmem, htoken⟩

theorem insertCredential_spec {c : CredentialFile} (h : DbInv t.db t.tick) :
    Txn.wp (insertCredential c) (fun _ t' => Advance t t' [] noAttempt)
      (fun e => e = .invalidData ∨ CredentialUsed t.db c.id c.token) t := by
  have hdrawn := (Advance.refl h).draw (Nat.le_succ _)
  unfold insertCredential
  simp only [Txn.wp_bind, Store.wp_nowMillis]
  refine Txn.wp_mono (insertCredentialConnection_spec hdrawn.inv) (fun _ t' hadv => ?_) fun _ h => h
  simpa using hdrawn.then hadv.1

theorem generateCredential_spec {role : CredentialRole} {subject : String}
    {agentSide : Option AgentSide} {agentClient : Option AgentClient}
    {workspaces : List WorkspaceName} (h : DbInv t.db t.tick) :
    Txn.wp (generateCredential role subject agentSide agentClient workspaces)
      (fun c t' => t' = { t with tick := t.tick + 2 } ∧ DbInv t'.db t'.tick ∧
        c.id = World.uuid (t.tick + 1) ∧ c.token = World.token t.tick) (fun _ => True) t := by
  unfold generateCredential
  simp only [Txn.wp_bind, Store.wp_randomToken, Store.wp_newUuid, Txn.wp_pure]
  rw [Txn.wp_require]
  exact ⟨fun _ => ⟨rfl, h.mono (Nat.le_add_right _ 2), trivial, trivial⟩, fun _ => trivial⟩

theorem revokeCredentialRow_spec {id : Uuid} (h : DbInv t.db t.tick) :
    Txn.wp (revokeCredentialRow id) (fun _ t' => Advance t t' [] noAttempt) (fun _ => False) t := by
  have hdrawn := (Advance.refl h).draw (Nat.le_succ _)
  unfold revokeCredentialRow
  simp only [Txn.wp_bind, Store.wp_nowMillis, Txn.wp_pure]
  refine Store.wp_updateRow (fun _ => hdrawn) ?_ ?_
  · intro r hr _ hok
    have hrow := h.admin.credentials id r hr
    simp only [credentialOk, Bool.and_eq_true] at hok
    refine Advance.of_admin (setCredentials _ t.db) h (Nat.le_succ _)
      ⟨rfl, rfl, rfl, rfl, rfl, rfl, rfl, rfl, rfl⟩ ?_ (fun _ _ hrow => hrow)
      (h.journal.of_eq rfl rfl) ?_
    · intro id' row hrow'
      by_cases hk : id' = id
      · exact ⟨_, by rw [hk]; exact Table.get?_put_self _ _ _⟩
      · exact ⟨row, (Table.get?_put_ne _ _ hk).trans hrow'⟩
    · have hold : ∀ id' row, (t.db.credentials.put id { r with
          revokedAt := some (World.now t.tick) }).get? id' = some row →
          ∃ row', t.db.credentials.get? id' = some row' ∧ row'.tokenHash = row.tokenHash := by
        intro id' row hget
        rw [Table.get?_put] at hget
        split at hget
        · next hk =>
          cases hget
          exact ⟨r, by rw [hk]; exact hr, rfl⟩
        · exact ⟨row, hget, rfl⟩
      refine ⟨h.admin.server, ?_, ?_, ?_, h.admin.inviteTokens⟩
      · intro id' row hget
        simp only [setCredentials, Table.get?_put] at hget
        split at hget
        · cases hget
          exact ⟨hok.1, hrow.2⟩
        · exact h.admin.credentials id' row hget
      · intro id₁ id₂ r₁ r₂ h₁ h₂ htoken
        obtain ⟨r₁', h₁', ht₁⟩ := hold id₁ r₁ h₁
        obtain ⟨r₂', h₂', ht₂⟩ := hold id₂ r₂ h₂
        exact h.admin.tokens id₁ id₂ r₁' r₂' h₁' h₂' (by rw [ht₁, ht₂, htoken])
      · intro iid irow hget
        have hi := h.admin.invites iid irow hget
        refine ⟨hi.check, hi.drawn.mono (Nat.le_succ _), hi.subject, hi.workspace, ?_⟩
        intro cid hcid
        obtain ⟨crow, hcrow⟩ := hi.credential cid hcid
        by_cases hk : cid = id
        · exact ⟨_, by rw [hk]; exact Table.get?_put_self _ _ _⟩
        · exact ⟨crow, (Table.get?_put_ne _ _ hk).trans hcrow⟩
  · intro r hr _ hfalse
    have hcheck := (h.admin.credentials id r hr).1
    have hnow : safeTime (World.now t.tick) = true := decide_eq_true (World.now_le _)
    have hcheck' :
        ({ r with revokedAt := some (World.now t.tick) } : CredentialRow).check = true := by
      simp only [CredentialRow.check, Bool.and_eq_true] at hcheck ⊢
      exact ⟨⟨hcheck.1.1, hnow⟩, hcheck.2⟩
    simp only [credentialOk, hcheck', Bool.true_and, List.all_eq_false, Bool.or_eq_true,
      decide_eq_true_eq, not_or, not_not] at hfalse
    obtain ⟨⟨id', row⟩, hmem, hne, htoken⟩ := hfalse
    exact hne (h.admin.tokens id' id row r ((Table.mem_toList _ _ _).mp hmem) hr htoken)

theorem insertWorkspace_spec {name : WorkspaceName} {now : ℕ} (h : DbInv t.db t.tick)
    (hnow : now ≤ maxSafeInteger) :
    Txn.wp (insertWorkspace name now) (fun _ t' => Advance t t' [] noAttempt ∧ t'.tick = t.tick ∧
      t'.db.invites = t.db.invites ∧ ∃ row, t'.db.workspaces.get? name = some row)
      (fun _ => False) t := by
  unfold Txn.wp insertWorkspace
  by_cases hknown : t.db.workspaces.contains name = true
  · simp only [hknown, if_true]
    exact ⟨.refl h, trivial, trivial, (Table.contains_iff _ _).mp hknown⟩
  · have hnone : t.db.workspaces.get? name = none := by
      simpa [Table.contains] using hknown
    have hone : 1 ≤ maxSafeInteger := by decide
    have hcheck :
        ({ createdAt := now, nextSeq := 1, nextTaskId := 1 } : WorkspaceRow).check = true :=
      WorkspaceRow.check_iff.mpr ⟨hnow, ⟨le_rfl, hone⟩, le_rfl, hone⟩
    simp only [hknown, hcheck, if_true]
    refine ⟨?_, rfl, rfl, _, Table.get?_put_self _ _ _⟩
    have hkeep : ∀ w row, t.db.workspaces.get? w = some row → (t.db.workspaces.put name
        { createdAt := now, nextSeq := 1, nextTaskId := 1 }).get? w = some row := by
      intro w row hrow
      have hne : w ≠ name := by
        rintro rfl
        exact absurd (hnone.symm.trans hrow) (by simp)
      exact (Table.get?_put_ne _ _ hne).trans hrow
    refine Advance.of_admin (setWorkspaces _ t.db) h le_rfl
      ⟨rfl, rfl, rfl, rfl, rfl, rfl, rfl, rfl, rfl⟩ (fun _ c hc => ⟨c, hc⟩) hkeep ?_ ?_
    · refine ⟨?_, ?_, ?_, h.journal.check, h.journal.keys, h.journal.asked⟩
      · intro w row hrow
        simp only [setWorkspaces, Table.get?_put] at hrow
        split at hrow
        · cases hrow
          exact hcheck
        · exact h.journal.row w row hrow
      · intro w row hrow
        simp only [setWorkspaces, Table.get?_put] at hrow
        split at hrow
        · next hw =>
          subst hw
          cases hrow
          -- A workspace without a row has no events.
          have hempty : (t.db.events.filter fun e => e.workspace = w) = [] := by
            rw [List.filter_eq_nil_iff]
            intro e he hew
            obtain ⟨row, hrow⟩ := h.journal.workspace e he
            rw [of_decide_eq_true hew, hnone] at hrow
            cases hrow
          simp [setWorkspaces, hempty]
        · exact h.journal.numbered w row hrow
      · intro e he
        obtain ⟨row, hrow⟩ := h.journal.workspace e he
        exact ⟨row, hkeep _ row hrow⟩
    · refine h.admin.of_same le_rfl rfl rfl rfl fun w row hrow => ⟨row, hkeep w row hrow, le_rfl⟩

theorem createWorkspace_spec {name : WorkspaceName} (h : DbInv t.db t.tick) :
    Txn.wp (createWorkspace name) (fun _ t' => Advance t t' [] noAttempt) (fun _ => False) t := by
  have hdrawn := (Advance.refl h).draw (Nat.le_succ _)
  unfold createWorkspace
  simp only [Txn.wp_bind, Store.wp_nowMillis, Txn.wp_pure]
  refine Txn.wp_mono (insertWorkspace_spec hdrawn.inv (World.now_le _)) (fun _ t' hadv => ?_)
    fun _ h => h
  simpa using hdrawn.then hadv.1

theorem serverIdConnection_spec {Q : Uuid → Tx → Prop} {E : StoreError → Prop}
    (h : DbInv t.db t.tick) (hQ : Q t.db.serverId t) : Txn.wp serverIdConnection Q E t := by
  unfold serverIdConnection
  simp only [Txn.wp_bind, Store.wp_read, Txn.wp_pure]
  rw [Txn.wp_require]
  refine ⟨fun _ => hQ, fun hfalse => ?_⟩
  simp only [Uuid.isNil, Bool.not_eq_false', decide_eq_true_eq] at hfalse
  exact absurd hfalse h.admin.server

/-- A new invitation whose token is new. -/
theorem insertInvite_spec {id : Uuid} {r : InviteRow} {E : StoreError → Prop}
    (h : DbInv t.db t.tick) (hi : InviteInv t.db t.tick id r)
    (hfresh : t.db.invites.get? id = none)
    (hE : InviteTokenUsed t.db r.tokenHash → E (.sqlite .constraint)) :
    Txn.wp (insertInvite id r) (fun _ t' => Advance t t' [] noAttempt) E t := by
  refine Store.wp_insertRow (fun _ hok => ?_) ?_
  · simp only [inviteOk, Bool.and_eq_true, List.all_eq_true, Bool.or_eq_true,
      decide_eq_true_eq] at hok
    have hother : ∀ id' row, t.db.invites.get? id' = some row → id' ≠ id →
        row.tokenHash ≠ r.tokenHash := by
      intro id' row hget hne
      rcases hok.2 (id', row) ((Table.mem_toList _ _ _).mpr hget) with heq | hne'
      · exact absurd heq hne
      · exact hne'.1
    refine Advance.of_admin (setInvites _ t.db) h le_rfl
      ⟨rfl, rfl, rfl, rfl, rfl, rfl, rfl, rfl, rfl⟩ (fun _ c hc => ⟨c, hc⟩) (fun _ _ hrow => hrow)
      (h.journal.of_eq rfl rfl) ⟨h.admin.server, h.admin.credentials, h.admin.tokens, ?_, ?_⟩
    · intro id' row hget
      simp only [setInvites, Table.get?_put] at hget
      split at hget
      · next hk =>
        subst hk
        cases hget
        exact ⟨hi.check, hi.drawn, hi.subject, hi.workspace, hi.credential⟩
      · have hold := h.admin.invites id' row hget
        exact ⟨hold.check, hold.drawn, hold.subject, hold.workspace, hold.credential⟩
    · intro id₁ id₂ r₁ r₂ h₁ h₂ htoken
      simp only [setInvites, Table.get?_put] at h₁ h₂
      split at h₁ <;> split at h₂
      · next hk₁ hk₂ => rw [hk₁, hk₂]
      · next hk₁ hk₂ =>
        cases h₁
        exact absurd htoken.symm (hother id₂ r₂ h₂ hk₂)
      · next hk₁ hk₂ =>
        cases h₂
        exact absurd htoken (hother id₁ r₁ h₁ hk₁)
      · exact h.admin.inviteTokens id₁ id₂ r₁ r₂ h₁ h₂ htoken
  · rintro (⟨v, hv⟩ | hfalse)
    · exact absurd (hfresh.symm.trans hv) (by simp)
    · refine hE ?_
      obtain ⟨row, hrow⟩ := hi.workspace
      have hworkspace : t.db.workspaces.contains r.workspace = true := by simpa using ⟨row, hrow⟩
      have hcredential : r.credentialId.all t.db.credentials.contains = true := by
        cases hc : r.credentialId with
        | none => rfl
        | some c => simpa using hi.credential c hc
      simp only [inviteOk, hi.check, hworkspace, hcredential, Bool.true_and, List.all_eq_false,
        Bool.or_eq_true, Bool.and_eq_true, decide_eq_true_eq, not_or, not_and_or, not_not] at hfalse
      obtain ⟨⟨id', row'⟩, hmem, hne, hused⟩ := hfalse
      have hget := (Table.mem_toList _ _ _).mp hmem
      rcases hused with htoken | hsubject
      · exact ⟨id', row', hget, htoken⟩
      · rw [hi.subject, (h.admin.invites id' row' hget).subject] at hsubject
        exact absurd (inviteSubject_injective hsubject) hne

theorem issueOnboardingInvite_spec {workspace : WorkspaceName} {create : Bool}
    {provider : Option OnboardingProvider} {now : ℕ} (h : DbInv t.db t.tick) :
    Txn.wp (issueOnboardingInvite workspace create provider now)
      (fun _ t' => Advance t t' [] noAttempt)
      (fun e => e.code ≠ .storageError ∨ InviteTokenUsed t.db (World.token (t.tick + 1))) t := by
  unfold issueOnboardingInvite
  simp only [Txn.wp_bind]
  rw [Txn.wp_require]
  refine ⟨fun hnow => ?_, fun _ => .inl (by decide)⟩
  simp only [decide_eq_true_eq] at hnow
  simp only [Store.wp_newUuid, Store.wp_randomToken]
  have hdrawn : Advance t { t with tick := t.tick + 1 + 1 } [] noAttempt :=
    (Advance.refl h).draw (by omega)
  have hfresh : t.db.invites.get? (World.uuid t.tick) = none := by
    cases hget : t.db.invites.get? (World.uuid t.tick) with
    | none => rfl
    | some r =>
      obtain ⟨k, hk, heq⟩ := (h.admin.invites _ r hget).drawn
      exact absurd (World.uuid_injective heq) (by omega)
  have hlimit : inviteLifetimeMs ≤ maxSafeInteger := by decide
  have hsafe : now + inviteLifetimeMs ≤ maxSafeInteger := by omega
  have hinsert : ∀ t' : Tx, Advance t t' [] noAttempt → t'.tick = t.tick + 1 + 1 →
      t'.db.invites = t.db.invites → (∃ row, t'.db.workspaces.get? workspace = some row) →
      Txn.wp (insertInvite (World.uuid t.tick)
        { tokenHash := World.token (t.tick + 1), provider, workspace,
          subject := inviteSubject (World.uuid t.tick), createdAt := now,
          expiresAt := now + inviteLifetimeMs, revokedAt := none, enrollmentId := none,
          credentialId := none, redeemedAt := none })
        (fun _ t'' => Advance t t'' [] noAttempt)
        (fun e => e.code ≠ .storageError ∨ InviteTokenUsed t.db (World.token (t.tick + 1))) t' := by
    intro t' hadv htick hinvites hworkspace
    refine Txn.wp_mono (insertInvite_spec (E := fun _ => InviteTokenUsed t.db
      (World.token (t.tick + 1))) hadv.inv ?_ (by rw [hinvites]; exact hfresh) ?_) ?_ fun _ => .inr
    · refine ⟨?_, ⟨t.tick, by omega, rfl⟩, rfl, hworkspace, by simp⟩
      have hcreated : now ≤ maxSafeInteger := by omega
      simp only [inviteLifetimeMs] at hsafe ⊢
      simp [InviteRow.check, safeTime, hcreated, hsafe]
    · rintro ⟨id, r, hr, htoken⟩
      rw [hinvites] at hr
      exact ⟨id, r, hr, htoken⟩
    · intro _ t'' hadv'
      simpa using hadv.then hadv'
  have hfinish : ∀ t'' : Tx, Advance t t'' [] noAttempt → Txn.wp commit
      (fun _ t' => Advance t t' [] noAttempt)
      (fun e => e.code ≠ .storageError ∨ InviteTokenUsed t.db (World.token (t.tick + 1))) t'' :=
    fun t'' hadv => commit_spec hadv.inv.tasks hadv
  refine serverIdConnection_spec hdrawn.inv ?_
  split
  · simp only [Txn.wp_bind, Txn.wp_pure]
    refine Txn.wp_mono (insertWorkspace_spec hdrawn.inv (by omega)) ?_ fun _ h => h.elim
    rintro _ t' ⟨hadv, htick, hinvites, hworkspace⟩
    refine Txn.wp_mono (hinsert t' (by simpa using hdrawn.then hadv) htick hinvites hworkspace) ?_
      fun _ h => h
    exact fun _ t'' hadv => hfinish t'' hadv
  · simp only [Txn.wp_bind, Store.wp_read, Txn.wp_pure]
    rw [Txn.wp_require]
    refine ⟨fun hknown => ?_, fun _ => .inl (by decide)⟩
    refine Txn.wp_mono (hinsert _ hdrawn rfl rfl ((Table.contains_iff _ _).mp hknown)) ?_
      fun _ h => h
    exact fun _ t'' hadv => hfinish t'' hadv

/-- An update of an invitation that keeps its identity. -/
theorem updateInvite_spec {id : Uuid} {p : InviteRow → Bool} {f : InviteRow → InviteRow}
    {E : StoreError → Prop} (h : DbInv t.db t.tick)
    (hf : ∀ r, (f r).tokenHash = r.tokenHash ∧ (f r).subject = r.subject ∧
      (f r).workspace = r.workspace)
    (hE : ∀ r, t.db.invites.get? id = some r → p r = true →
      (f r).check = false ∨ (f r).credentialId.all t.db.credentials.contains = false →
      E (.sqlite .constraint)) :
    Txn.wp (updateInvite id p f) (fun _ t' => Advance t t' [] noAttempt) E t := by
  refine Store.wp_updateRow (fun _ => .refl h) ?_ ?_
  · intro r hr _ hok
    have hi := h.admin.invites id r hr
    simp only [inviteOk, Bool.and_eq_true] at hok
    have hold : ∀ id' row, (t.db.invites.put id (f r)).get? id' = some row →
        ∃ row', t.db.invites.get? id' = some row' ∧ row'.tokenHash = row.tokenHash := by
      intro id' row hget
      rw [Table.get?_put] at hget
      split at hget
      · next hk =>
        cases hget
        exact ⟨r, by rw [hk]; exact hr, (hf r).1.symm⟩
      · exact ⟨row, hget, rfl⟩
    refine Advance.of_admin (setInvites _ t.db) h le_rfl
      ⟨rfl, rfl, rfl, rfl, rfl, rfl, rfl, rfl, rfl⟩ (fun _ c hc => ⟨c, hc⟩) (fun _ _ hrow => hrow)
      (h.journal.of_eq rfl rfl) ⟨h.admin.server, h.admin.credentials, h.admin.tokens, ?_, ?_⟩
    · intro id' row hget
      simp only [setInvites, Table.get?_put] at hget
      split at hget
      · next hk =>
        subst hk
        cases hget
        refine ⟨hok.1.1.1, hi.drawn, (hf r).2.1.trans hi.subject, ?_, ?_⟩
        · rw [(hf r).2.2]
          exact hi.workspace
        · intro c hc
          have hall := hok.1.2
          rw [hc] at hall
          simpa [setInvites] using hall
      · have hold := h.admin.invites id' row hget
        exact ⟨hold.check, hold.drawn, hold.subject, hold.workspace, hold.credential⟩
    · intro id₁ id₂ r₁ r₂ h₁ h₂ htoken
      obtain ⟨r₁', h₁', ht₁⟩ := hold id₁ r₁ h₁
      obtain ⟨r₂', h₂', ht₂⟩ := hold id₂ r₂ h₂
      exact h.admin.inviteTokens id₁ id₂ r₁' r₂' h₁' h₂' (by rw [ht₁, ht₂, htoken])
  · intro r hr hp hfalse
    have hi := h.admin.invites id r hr
    refine hE r hr hp ?_
    by_contra hboth
    simp only [not_or, Bool.not_eq_false] at hboth
    obtain ⟨row, hrow⟩ := hi.workspace
    have hworkspace : t.db.workspaces.contains (f r).workspace = true := by
      rw [(hf r).2.2]
      simpa using ⟨row, hrow⟩
    simp only [inviteOk, hboth.1, hworkspace, hboth.2, Bool.true_and, List.all_eq_false,
      Bool.or_eq_true, Bool.and_eq_true, decide_eq_true_eq, not_or, not_and_or, not_not,
      (hf r).1, (hf r).2.1] at hfalse
    obtain ⟨⟨id', row'⟩, hmem, hne, hused⟩ := hfalse
    have hget := (Table.mem_toList _ _ _).mp hmem
    rcases hused with htoken | hsubject
    · exact hne (h.admin.inviteTokens id' id row' r hget hr htoken)
    · rw [hi.subject, (h.admin.invites id' row' hget).subject] at hsubject
      exact hne (inviteSubject_injective hsubject)

theorem revokeOnboardingInvite_spec {inviteId : Uuid} {now : ℕ} (h : DbInv t.db t.tick) :
    Txn.wp (revokeOnboardingInvite inviteId now) (fun _ t' => Advance t t' [] noAttempt)
      (fun e => e.code ≠ .storageError) t := by
  unfold revokeOnboardingInvite
  simp only [Txn.wp_bind]
  rw [Txn.wp_require]
  refine ⟨fun hvalid => ?_, fun _ => by decide⟩
  simp only [Bool.and_eq_true, decide_eq_true_eq] at hvalid
  refine Txn.wp_mono (updateInvite_spec (E := fun _ => False) h (fun _ => ⟨rfl, rfl, rfl⟩) ?_) ?_
    fun _ h => h.elim
  · rintro r hr - (hcheck | hcredential)
    · have hold := (h.admin.invites _ r hr).check
      have htime : safeTime (r.revokedAt.getD now) = true := by
        simp only [InviteRow.check, Bool.and_eq_true] at hold
        cases hrev : r.revokedAt with
        | none => exact decide_eq_true hvalid.2
        | some k => simpa [hrev] using hold.1.1.2
      simp only [InviteRow.check, Bool.and_eq_true] at hold
      have : ({ r with revokedAt := some (r.revokedAt.getD now) } : InviteRow).check = true := by
        simp only [InviteRow.check, Bool.and_eq_true]
        exact ⟨⟨⟨hold.1.1.1, htime⟩, hold.1.2⟩, hold.2⟩
      exact absurd (this.symm.trans hcheck) (by decide)
    · have hold := (h.admin.invites _ r hr).credential
      cases hc : r.credentialId with
      | none => simp [hc] at hcredential
      | some c =>
        obtain ⟨row, hrow⟩ := hold c hc
        simp [hc, Table.contains, hrow] at hcredential
  · intro _ t' hadv
    rw [Txn.wp_require]
    exact ⟨fun _ => hadv, fun _ => by decide⟩

theorem redeemOnboarding_advance {request : EnrollmentRequest} {now : ℕ} (h : DbInv t.db t.tick) :
    Txn.wp (redeemOnboarding request now) (fun _ t' => Advance t t' [] noAttempt)
      (fun _ => True) t := by
  have hguard : ∀ {b : Bool} {e : EnrollmentError} {t' : Tx} {Q : Unit → Tx → Prop}, Q () t' →
      Txn.wp (Txn.require b e) Q (fun _ => True) t' :=
    fun hQ => (Txn.wp_require _ _).mpr ⟨fun _ => hQ, fun _ => trivial⟩
  unfold redeemOnboarding
  simp only [Txn.wp_bind]
  refine hguard (hguard (hguard ?_))
  rw [Txn.wp_mapError]
  refine serverIdConnection_spec h (hguard ?_)
  rw [Store.wp_read, Txn.wp_orFail]
  refine ⟨fun invite _ => hguard (hguard ?_), fun _ => trivial⟩
  split
  · simp only [Txn.wp_bind]
    refine hguard ?_
    rw [Store.wp_read, Txn.wp_orFail]
    refine ⟨fun stored _ => hguard ?_, fun _ => trivial⟩
    rw [Txn.wp_mapError]
    exact commit_any (.refl h)
  · simp only [Txn.wp_bind]
    refine hguard ?_
    rw [Txn.wp_mapError]
    refine Txn.wp_mono (insertCredentialConnection_spec h) ?_ fun _ _ => trivial
    rintro _ t₁ ⟨hadv, -⟩
    rw [Txn.wp_mapError]
    refine Txn.wp_mono (updateInvite_spec (E := fun _ => True) hadv.inv
      (fun _ => ⟨rfl, rfl, rfl⟩) fun _ _ _ _ => trivial) ?_ fun _ _ => trivial
    intro _ t₂ hadv'
    refine hguard ?_
    rw [Txn.wp_mapError]
    exact commit_any (by simpa using hadv.then hadv')

/-- An actor id is valid and the workspace exists: the event of a message has a place. -/
theorem appendChatIdempotent_spec {workspace : WorkspaceName} {actorId requestId content : String}
    {row : WorkspaceRow} (h : DbInv t.db t.tick) (hactor : ValidActor actorId)
    (hrow : t.db.workspaces.get? workspace = some row) :
    Txn.wp (appendChatIdempotent workspace actorId requestId content)
      (fun r t' => (r.2 = false ∧ t' = t) ∨ (r.2 = true ∧ Advance t t' [r.1] noAttempt ∧
        r.1.kind = .chat ∧ r.1.workspace = workspace))
      (fun e => e.code = .storageError → Exhausted t.db) t := by
  unfold appendChatIdempotent
  simp only [Txn.wp_bind, Store.wp_read]
  split
  · simp only [Txn.wp_bind, Txn.wp_pure]
    rw [Txn.wp_require]
    refine ⟨fun _ => commit_spec h.tasks (.inl ⟨trivial, rfl⟩), fun _ => ?_⟩
    intro hcode
    cases hcode
  · next hnone =>
    have hkey : KeyFree t.db (some (.chat workspace actorId (some requestId))) := by
      refine .inr fun e he heq => ?_
      unfold findChat at hnone
      rw [List.find?_eq_none] at hnone
      have := hnone e he
      unfold eventKey at heq
      cases hkind : e.kind <;> simp only [hkind] at heq <;> try cases heq
      rw [Option.some.injEq, EventKey.chat.injEq] at heq
      simp [hkind, heq] at this
    have hvalid : EventInsert.Valid
        { workspace, kind := .chat, actorId, requestId := some requestId,
          content := some (.text content) } := ⟨hactor, by simp, rfl⟩
    simp only [Txn.wp_bind, Txn.wp_pure]
    refine appendEventInTransaction_spec h.journal hrow hvalid hkey (fun hmax => ?_) ?_
    · have hinv := h.append_next hrow hvalid hkey hmax (by simp) (by simp)
      exact commit_spec hinv.tasks (.inr ⟨trivial, .append hinv, rfl, rfl⟩)
    · exact fun hmax _ => JournalFull.exhausted ⟨row, hrow, hmax⟩

/-- A request that was stored is the only one of its id. -/
theorem appendRequest_spec {workspace : WorkspaceName} {actorId requestId targetId : String}
    {taskId : Option ℕ} {content : EventContent} {row : WorkspaceRow} (h : DbInv t.db t.tick)
    (hactor : ValidActor actorId) (hrow : t.db.workspaces.get? workspace = some row)
    (htask : ∀ id, taskId = some id → 1 ≤ id ∧ id ≤ maxSafeInteger) :
    Txn.wp (appendRequest
        { workspace, kind := .request, actorId, requestId := some requestId,
          targetId := some targetId, taskId, content := some content })
      (fun e t' => Advance t t' [e] noAttempt ∧ e.kind = .request ∧ e.workspace = workspace ∧
        e.requestId = some requestId ∧ ¬ Asked t.db workspace (some requestId))
      (fun e => e.code = .storageError → Exhausted t.db) t := by
  unfold appendRequest
  simp only [Txn.wp_bind, Store.wp_read, Txn.wp_pure, decide_true, Txn.orFail]
  rw [Txn.wp_require]
  refine ⟨fun _ => ?_, fun hfalse => by cases hfalse⟩
  rw [Txn.wp_require]
  refine ⟨fun hunused => ?_, fun _ hcode => by cases hcode⟩
  have hfree : ¬ Asked t.db workspace (some requestId) := by
    rintro ⟨e, he, hkind, hw, hid⟩
    simp only [hasRequest, Bool.not_eq_true', List.any_eq_false] at hunused
    simpa [hkind, hw, hid] using hunused e he
  have hkey : KeyFree t.db (some (.request workspace (some requestId))) := by
    refine .inr fun e he heq => hfree ?_
    unfold eventKey at heq
    cases hkind : e.kind <;> simp only [hkind] at heq <;> try cases heq
    rw [Option.some.injEq, EventKey.request.injEq] at heq
    exact ⟨e, he, hkind, heq.1, heq.2⟩
  have hvalid : EventInsert.Valid
      { workspace, kind := .request, actorId, requestId := some requestId,
        targetId := some targetId, taskId, content := some content } := ⟨hactor, htask, rfl⟩
  refine appendEventInTransaction_spec h.journal hrow hvalid hkey (fun hmax => ?_) ?_
  · have hinv := h.append_next hrow hvalid hkey hmax (by simp) (by simp)
    exact commit_spec hinv.tasks ⟨.append hinv, rfl, rfl, rfl, hfree⟩
  · exact fun hmax _ => JournalFull.exhausted ⟨row, hrow, hmax⟩

end

end SessionRouter
