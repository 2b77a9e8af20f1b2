import SessionRouter.Router.Teardown

/-!
Nested teardowns end. Below a disconnect that goes ahead there is one connection less, so calls are
nested no deeper than there are connections, and the record of a call names everything that left
the tables, once.
-/

namespace SessionRouter

/-- Two recorded teardowns are one from `st`, and it is the plain one with an account. -/
abbrev Traces {α : Type} (st : RouterState × List Ending) (x x' : Teardown α)
    (y : Router StoreError α) : Prop :=
  Recorded.Tracks Ending.Present RouterState.connectionCount st x x' y

/-- Publishing is traced from the states with fewer connections. -/
def TracedBelow (n : ℕ) (fanout fanout' : WorkspaceEvent → Teardown Unit)
    (plain : WorkspaceEvent → Router StoreError Unit) : Prop :=
  ∀ event st, st.1.connectionCount < n → Traces st (fanout event) (fanout' event) (plain event)

namespace Teardown

open Recorded

variable [World] {n : ℕ} {st : RouterState × List Ending}
  {fanout fanout' : WorkspaceEvent → Teardown Unit}
  {plain : WorkspaceEvent → Router StoreError Unit}

omit [World] in
theorem mem_members (s : RouterState) (family : List Uuid) (id : Uuid) :
    id ∈ s.members family ↔ (s.connections.get? id).isSome ∧ id ∈ family := by
  unfold RouterState.members
  rw [List.mem_map]
  constructor
  · rintro ⟨⟨id', c⟩, hmem, rfl⟩
    obtain ⟨hc, hfamily⟩ := (Table.mem_ofFilter _ _ _ _).mp hmem
    exact ⟨Option.isSome_iff_exists.mpr ⟨c, hc⟩, of_decide_eq_true hfamily⟩
  · rintro ⟨hsome, hfamily⟩
    obtain ⟨c, hc⟩ := Option.isSome_iff_exists.mp hsome
    exact ⟨(id, c), (Table.mem_ofFilter _ _ _ _).mpr ⟨hc, decide_eq_true hfamily⟩, rfl⟩

omit [World] in
theorem nodup_members (s : RouterState) (family : List Uuid) : (s.members family).Nodup :=
  s.connections.nodup_toList_keys.sublist (List.filter_sublist.map Prod.fst)

omit [World] in
theorem removePending_traces (key : WorkspaceName × String) (st : RouterState × List Ending) :
    Traces st (removePending key) (removePending key)
      (Actor.modify fun s => { s with pending := s.pending.remove key }) := by
  have hget : ∀ key', ((st.1.pending.remove key).get? key').isSome ↔
      key' ≠ key ∧ (st.1.pending.get? key').isSome := by
    intro key'
    rw [Table.get?_remove]
    split_ifs with h <;> simp [h]
  apply Tracks.take
  · split_ifs <;> simp
  · intro e he
    cases e with
    | connection id => exact he
    | request key' => exact ((hget key').mp he).2
  · intro e
    cases e with
    | connection id =>
      constructor
      · intro hmem
        split_ifs at hmem <;> simp at hmem
      · exact fun h => absurd h.1 h.2
    | request key' =>
      change _ ↔ _ ∧ ¬((st.1.pending.remove key).get? key').isSome
      rw [hget]
      by_cases hcontains : st.1.pending.contains key
      · rw [if_pos hcontains, List.mem_singleton, Ending.request.injEq]
        constructor
        · rintro rfl
          exact ⟨hcontains, fun h => h.1 rfl⟩
        · rintro ⟨hsome, hleft⟩
          by_contra hne
          exact hleft ⟨hne, hsome⟩
      · rw [if_neg hcontains]
        constructor
        · exact fun hmem => absurd hmem List.not_mem_nil
        · rintro ⟨hsome, hleft⟩
          refine absurd ⟨?_, hsome⟩ hleft
          rintro rfl
          exact hcontains hsome
  · exact le_rfl

omit [World] in
theorem removeFamily_traces (family : List Uuid) (st : RouterState × List Ending) :
    Traces st (removeFamily family) (removeFamily family) (Router.removeFamily family) := by
  have hget : ∀ id, ((family.foldl Table.remove st.1.connections).get? id).isSome ↔
      id ∉ family ∧ (st.1.connections.get? id).isSome := by
    intro id
    rw [Table.get?_foldl_remove]
    split_ifs with h <;> simp [h]
  apply Tracks.take
  · exact (nodup_members _ _).map fun _ _ h => Ending.connection.inj h
  · intro e he
    cases e with
    | connection id => exact ((hget id).mp he).2
    | request key => exact he
  · intro e
    cases e with
    | connection id =>
      change _ ↔ _ ∧ ¬((family.foldl Table.remove st.1.connections).get? id).isSome
      rw [hget, List.mem_map_of_injective fun _ _ h => Ending.connection.inj h, mem_members]
      constructor
      · exact fun h => ⟨h.1, fun hleft => hleft.1 h.2⟩
      · rintro ⟨hsome, hleft⟩
        refine ⟨hsome, ?_⟩
        by_contra hmem
        exact hleft ⟨hmem, hsome⟩
    | request key =>
      constructor
      · intro hmem
        obtain ⟨id, -, hid⟩ := List.mem_map.mp hmem
        cases hid
      · exact fun h => absurd h.1 h.2
  · exact Table.size_foldl_remove_le _ _

theorem finishPendingErrorWith_traces (hf : TracedBelow n fanout fanout' plain)
    (hst : st.1.connectionCount < n) (workspace : WorkspaceName) (requestId : String)
    (code : RouterErrorCode) :
    Traces st (finishPendingErrorWith fanout workspace requestId code)
      (finishPendingErrorWith fanout' workspace requestId code)
      (Router.finishPendingErrorWith plain workspace requestId code) := by
  refine (Tracks.quiet (.read _) st).bind_of_lt hst fun found st₁ h₁ => ?_
  cases found with
  | none => exact .pure () st₁
  | some p =>
    refine (removePending_traces _ st₁).bind_of_lt h₁ fun _ st₂ h₂ => ?_
    refine (Tracks.quiet (Router.closeAttempt_lasts _ _) st₂).bind_of_lt h₂ fun closed st₃ h₃ => ?_
    obtain ⟨taskEvent, change⟩ := closed
    refine (Tracks.quiet (Router.inSession_lasts _) st₃).bind_of_lt h₃ fun event st₄ h₄ => ?_
    refine (Tracks.quiet (Router.cancelRecipient_lasts _ _ _) st₄).bind_of_lt h₄ fun _ st₅ h₅ => ?_
    refine (Tracks.quiet (Router.notifyClosed_lasts _ _ _ _) st₅).bind_of_lt h₅ fun _ st₆ h₆ => ?_
    refine (Tracks.quiet (Router.send_lasts _ _ _) st₆).bind_of_lt h₆ fun _ st₇ h₇ => ?_
    refine (Tracks.forEach (fun e _ st hst => hf e st hst) h₇).bind_of_lt h₇ fun _ st₈ h₈ => ?_
    exact hf event st₈ h₈

theorem announceLeft_traces (hf : TracedBelow n fanout fanout' plain)
    (hst : st.1.connectionCount < n) (workspace : Option WorkspaceName) (actor : Option String) :
    Traces st (announceLeft fanout workspace actor) (announceLeft fanout' workspace actor)
      (Router.announceLeft plain workspace actor) := by
  cases workspace with
  | none => exact .pure () st
  | some workspace =>
    cases actor with
    | none => exact .pure () st
    | some actorId =>
      refine (Tracks.quiet (.outcome (Router.inSession_lasts _)) st).bind_of_lt hst
        fun result st₁ h₁ => ?_
      cases result with
      | ok event => exact hf event st₁ h₁
      | error _ => exact .pure () st₁

theorem unregister_traces (hf : TracedBelow n fanout fanout' plain)
    (hst : st.1.connectionCount < n) (id : Uuid) (c : ConnectionState) (actor : Option String) :
    Traces st (unregister fanout id c actor) (unregister fanout' id c actor)
      (Router.unregister plain id c actor) := by
  unfold unregister Router.unregister
  generalize c.role = role
  cases role with
  | none => exact .pure () st
  | some role =>
    cases role with
    | agent claims descriptor token =>
      refine (Tracks.quiet (Router.modify_lasts (by exact fun _ => rfl) (by exact fun _ => rfl))
        st).bind_of_lt hst fun _ st₁ h₁ => ?_
      exact announceLeft_traces hf h₁ _ _
    | delegate ownerId =>
      exact Tracks.quiet (Router.modify_lasts (by exact fun _ => rfl) (by exact fun _ => rfl)) st
    | operator claims admin => exact .pure () st

theorem closeFamily_traces (hf : TracedBelow n fanout fanout' plain)
    (hst : st.1.connectionCount < n) (family : List Uuid) :
    Traces st (closeFamily fanout family) (closeFamily fanout' family)
      (Router.closeFamily plain family) := by
  refine (Tracks.quiet (.read _) st).bind_of_lt hst fun affected st₁ h₁ => ?_
  refine (Tracks.quiet (Router.traverse_lasts _) st₁).bind_of_lt h₁ fun affected st₂ h₂ => ?_
  exact Tracks.forEach (fun _ _ st hst => finishPendingErrorWith_traces hf hst _ _ _) h₂

/-- What a departure does once the family has left. -/
theorem departed_traces (hf : TracedBelow n fanout fanout' plain)
    (hst : st.1.connectionCount < n) (id : Uuid) (c : ConnectionState)
    (credentialId : Option Uuid) (actor : Option String) (interrupted : List WorkspaceEvent) :
    Traces st
      (do Recorded.quiet (Router.dropBucket credentialId)
          Actor.forEach fanout interrupted
          unregister fanout id c actor)
      (do Recorded.quiet (Router.dropBucket credentialId)
          Actor.forEach fanout' interrupted
          unregister fanout' id c actor)
      (do Router.dropBucket credentialId
          Actor.forEach plain interrupted
          Router.unregister plain id c actor) := by
  refine (Tracks.quiet (Router.dropBucket_lasts _) st).bind_of_lt hst fun _ st₁ h₁ => ?_
  refine (Tracks.forEach (fun e _ st hst => hf e st hst) h₁).bind_of_lt h₁ fun _ st₂ h₂ => ?_
  exact unregister_traces hf h₂ _ _ _

omit [World] in
theorem dropFailed_traces {disconnect disconnect' : Uuid → ℕ → Teardown Unit}
    {plainDisconnect : Uuid → ℕ → Router StoreError Unit}
    (hd : ∀ id generation st, st.1.connectionCount < n →
      Traces st (disconnect id generation) (disconnect' id generation)
        (plainDisconnect id generation))
    (hst : st.1.connectionCount < n) (failed : List (Uuid × ℕ)) :
    Traces st (dropFailed disconnect failed) (dropFailed disconnect' failed)
      (Router.dropFailed plainDisconnect failed) := by
  induction failed generalizing st with
  | nil => exact .pure () st
  | cons target failed ih =>
    obtain ⟨id, generation⟩ := target
    refine (hd id generation st hst).outcome.bind_of_lt hst fun result st₁ h₁ => ?_
    cases result with
    | ok _ => exact ih h₁
    | error _ =>
      refine (Tracks.quiet Router.markUnhealthy_lasts st₁).bind_of_lt h₁ fun _ st₂ h₂ => ?_
      exact ih h₂

theorem fanoutWith_traces {disconnect disconnect' : Uuid → ℕ → Teardown Unit}
    {plainDisconnect : Uuid → ℕ → Router StoreError Unit}
    (hd : ∀ id generation st, st.1.connectionCount < n →
      Traces st (disconnect id generation) (disconnect' id generation)
        (plainDisconnect id generation)) :
    TracedBelow n (fanoutWith disconnect) (fanoutWith disconnect')
      (Router.fanoutWith plainDisconnect) := by
  intro event st hst
  refine (Tracks.quiet (.read _) st).bind_of_lt hst fun recipients st₁ h₁ => ?_
  refine (Tracks.quiet (Router.traverse_lasts _) st₁).bind_of_lt h₁ fun recipients st₂ h₂ => ?_
  refine (Tracks.quiet (Router.publish_lasts _ _) st₂).bind_of_lt h₂ fun failed st₃ h₃ => ?_
  exact dropFailed_traces hd h₃ failed

/-- A connection that is there leaves with its family, and from then on there is one less. -/
theorem depart_traces (hf : TracedBelow n fanout fanout' plain)
    (hst : st.1.connectionCount ≤ n) {id : Uuid} {family : List Uuid} (hmem : id ∈ family)
    (hid : (st.1.connections.get? id).isSome) (c : ConnectionState) (credentialId : Option Uuid)
    (actor : Option String) (reason : PauseReason) :
    Traces st (depart fanout id c family credentialId actor reason)
        (depart fanout' id c family credentialId actor reason)
        (Router.depart plain id c family credentialId actor reason) ∧
      ∀ u, (depart fanout id c family credentialId actor reason st).1 = .ok u →
        (depart fanout id c family credentialId actor reason st).2.1.connectionCount < n := by
  have hinterrupt := Tracks.quiet (ι := Ending) (Router.interruptConnection_lasts c reason) st
  have hless : ∀ st' : RouterState × List Ending, Lasts st.1 st'.1 →
      (removeFamily family st').2.1.connectionCount < n := by
    intro st' hlasts
    obtain ⟨c', hc'⟩ := Option.isSome_iff_exists.mp ((hlasts.same (.connection id)).mpr hid)
    exact (Table.size_foldl_remove_lt hmem hc').trans_le (hlasts.size_le.trans hst)
  have hlasts := Router.interruptConnection_lasts c reason st.1
  refine ⟨hinterrupt.bind fun interrupted _ => ?_, fun u hu => ?_⟩
  · refine (removeFamily_traces family _).bind fun _ _ => ?_
    exact departed_traces hf (hless _ hlasts) id c credentialId actor interrupted
  · rcases hr : Recorded.quiet (Router.interruptConnection c reason) st with ⟨r, st₁⟩
    have hst₁ : st₁.1 = (Router.interruptConnection c reason st.1).2 := by
      have := congrArg (fun r => r.2.1) hr
      exact this.symm
    cases r with
    | error e =>
      unfold depart at hu
      rw [Actor.bind_of_error hr] at hu
      cases hu
    | ok interrupted =>
      unfold depart
      rw [Actor.bind_of_ok hr]
      have hleft := hless st₁ (hst₁ ▸ hlasts)
      have := departed_traces hf hleft id c credentialId actor interrupted
      exact this.accounts.size_le.trans_lt hleft

theorem disconnectWith_traces (hf : TracedBelow n fanout fanout' plain)
    (hst : st.1.connectionCount ≤ n) (id : Uuid) (generation : ℕ) (reason : PauseReason) :
    Traces st (disconnectWith fanout id generation reason)
      (disconnectWith fanout' id generation reason)
      (Router.disconnectWith plain id generation reason) := by
  refine (Tracks.quiet .get st).bind fun s hs => ?_
  obtain rfl : st.1 = s := Except.ok.inj hs
  change Traces st _ _ _
  cases hc : st.1.connections.get? id with
  | none => exact .pure () st
  | some c =>
    dsimp only
    split_ifs
    · exact .pure () st
    · have hid : (st.1.connections.get? id).isSome := hc ▸ rfl
      have hmem : id ∈ st.1.connectionFamily id := by
        unfold RouterState.connectionFamily
        split
        · exact List.mem_insert_self
        · exact List.mem_singleton_self id
      obtain ⟨hdepart, hless⟩ := depart_traces hf hst hmem hid c
        (st.1.connectionCredentialId id) (st.1.actorId id).toOption reason
      exact hdepart.bind fun u hu => closeFamily_traces hf (hless u hu) _

/-- Publishing with fewer connections than levels never needs the level beyond. -/
theorem fanoutDepth_traces (beyond beyond' : WorkspaceEvent → Teardown Unit)
    {depth depth' levels : ℕ} (hdepth : n ≤ depth) (hdepth' : n ≤ depth') (hlevels : n ≤ levels) :
    TracedBelow n (fanoutDepth beyond depth) (fanoutDepth beyond' depth')
      (Router.fanoutDepth levels) := by
  induction n generalizing depth depth' levels with
  | zero => exact fun _ _ h => absurd h (Nat.not_lt_zero _)
  | succ n ih =>
    obtain ⟨depth, rfl⟩ := Nat.exists_eq_add_of_le' hdepth
    obtain ⟨depth', rfl⟩ := Nat.exists_eq_add_of_le' hdepth'
    obtain ⟨levels, rfl⟩ := Nat.exists_eq_add_of_le' hlevels
    refine fanoutWith_traces fun id generation st hst => ?_
    exact disconnectWith_traces (ih (Nat.le_add_left _ _) (Nat.le_add_left _ _)
      (Nat.le_add_left _ _)) (Nat.le_of_lt_succ hst) id generation _

theorem fanout_traces (beyond beyond' : WorkspaceEvent → Teardown Unit) {depth depth' : ℕ}
    (hdepth : n ≤ depth) (hdepth' : n ≤ depth') :
    TracedBelow n (fanoutDepth beyond depth) (fanoutDepth beyond' depth') Router.fanout := by
  intro event st hst
  obtain ⟨hsame, herases, haccounts⟩ := fanoutDepth_traces (n := st.1.connectionCount + 1) beyond
    beyond' (hst.trans_le hdepth) (hst.trans_le hdepth') (le_refl _) event st (Nat.lt_succ_self _)
  exact ⟨hsame, herases, haccounts⟩

end Teardown

namespace TeardownCall

variable [World]

theorem recorded_traces (beyond beyond' : WorkspaceEvent → Teardown Unit) {depth depth' : ℕ}
    {st : RouterState × List Ending} (hdepth : st.1.connectionCount < depth)
    (hdepth' : st.1.connectionCount < depth') (call : TeardownCall) :
    Traces st (call.recorded beyond depth) (call.recorded beyond' depth') call.run := by
  have hf := Teardown.fanout_traces (n := st.1.connectionCount + 1) beyond beyond' hdepth hdepth'
  cases call with
  | fanout event => exact hf event st (Nat.lt_succ_self _)
  | disconnect id generation reason =>
    exact Teardown.disconnectWith_traces hf (Nat.le_succ _) id generation reason
  | finishPendingError workspace requestId code =>
    exact Teardown.finishPendingErrorWith_traces hf (Nat.lt_succ_self _) workspace requestId code

/-- A call ends without nesting deeper than the number of connections, whatever a deeper call would
do, and what it ends is what left the tables, each connection and each request once. -/
theorem run_ends (call : TeardownCall) (s : RouterState) :
    ∃ ended : List Ending,
      (∀ beyond depth, s.connectionCount < depth →
        call.recorded beyond depth (s, []) = ((call.run s).1, ((call.run s).2, ended))) ∧
      ended.Nodup ∧ ∀ e, e ∈ ended ↔ e.Present s ∧ ¬e.Present (call.run s).2 := by
  let beyond : WorkspaceEvent → Teardown Unit := fun _ => pure ()
  have htrace : ∀ beyond' depth, s.connectionCount < depth →
      Traces (s, []) (call.recorded beyond (s.connectionCount + 1)) (call.recorded beyond' depth)
        call.run :=
    fun beyond' depth hdepth => call.recorded_traces beyond beyond' (Nat.lt_succ_self _) hdepth
  obtain ⟨-, herases, haccounts⟩ := htrace beyond _ (Nat.lt_succ_self _)
  rcases hr : call.recorded beyond (s.connectionCount + 1) (s, []) with ⟨out, s', ended⟩
  rw [hr] at herases haccounts
  obtain ⟨gone, hrecord, hnodup, hgone⟩ := haccounts.recorded
  rw [List.nil_append] at hrecord
  subst hrecord
  refine ⟨ended, fun beyond' depth hdepth => ?_, hnodup, fun e => ?_⟩
  · rw [(htrace beyond' depth hdepth).same, hr, ← herases]
  · rw [hgone, ← herases]

/-- `fanout` meets the equation of the source, where its disconnects call it in turn. -/
theorem fanout_eq (event : WorkspaceEvent) :
    Router.fanout event = Router.fanoutWith (fun id generation =>
      Router.disconnectWithReason id generation .transportLost) event := by
  funext s
  let beyond : WorkspaceEvent → Teardown Unit := fun _ => pure ()
  have hfanout := Teardown.fanout_traces (n := s.connectionCount + 1) beyond beyond le_rfl le_rfl
    event (s, []) (Nat.lt_succ_self _)
  have hbelow := Teardown.fanout_traces (n := s.connectionCount) beyond beyond le_rfl le_rfl
  have hwith := Teardown.fanoutWith_traces (n := s.connectionCount + 1)
    (fun id generation _ hst => Teardown.disconnectWith_traces hbelow (Nat.le_of_lt_succ hst) id
      generation .transportLost) event (s, []) (Nat.lt_succ_self _)
  exact hfanout.erases.symm.trans hwith.erases

end TeardownCall

end SessionRouter
