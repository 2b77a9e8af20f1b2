import SessionRouter.Lib.Justified
import Mathlib.Algebra.GroupWithZero.Nat
import Mathlib.Logic.Relation

/-!
What a provider tells of the turns it is asked for: the commands it took, their results, the turns
written to the child, and the evidence that they are over.
-/

namespace SessionRouter.Providers

/-- A JSON value as it is read from a child. -/
inductive Value where
  | null
  | bool (value : Bool)
  | posInt (value : ℕ)
  | negInt (value : ℕ)
  | float (text : String)
  | string (value : String)
  | array (items : List Value)
  | object (fields : List (String × Value))

namespace Value

def asObject : Value → Option (List (String × Value))
  | object fields => some fields
  | _ => none

def get (v : Value) (key : String) : Option Value := v.asObject.bind (·.lookup key)

def asStr : Value → Option String
  | string value => some value
  | _ => none

def asU64 : Value → Option ℕ
  | posInt value => some value
  | _ => none

def asBool : Value → Option Bool
  | bool value => some value
  | _ => none

end Value

inductive ProviderError where
  | providerNotReady | sessionBusy | requestTimeout | providerDisconnected
  | codexProtocolError | codexTurnInterrupted | codexTurnFailed | codexNoFinalResponse
  | claudeInitializeFailed | bridgeProtocolError | claudeProtocolError | claudeMaxTurns
  | claudeMaxBudget | claudeStructuredOutputError | claudeExecutionError | claudeNoResult
  | claudeSdkError
  deriving DecidableEq

inductive SessionResult where
  | success (content : String)
  | failure (error : ProviderError)
  deriving DecidableEq

def SessionResult.error : SessionResult → Option ProviderError
  | success _ => none
  | failure error => some error

inductive CancelReason where
  | requestTimeout | providerDisconnected | taskInterrupted | requestCancelled
  deriving DecidableEq

inductive TerminalReason where
  | turnEnded | sessionEnded | hostError | operatorInterrupt | requestTimeout | requestCancelled
  deriving DecidableEq

def CancelReason.terminal : CancelReason → TerminalReason
  | requestTimeout => .requestTimeout
  | providerDisconnected => .sessionEnded
  | taskInterrupted => .operatorInterrupt
  | requestCancelled => .requestCancelled

structure TerminalEvidence where
  requestId : String
  reason : TerminalReason
  childReaped : Bool
  deriving DecidableEq

/-- The next id of a request to the child, as a release build counts. -/
def nextRpc (rpcId : ℕ) : ℕ := (rpcId + 1) % 2 ^ 64

/-- An instant in milliseconds. -/
abbrev Instant := ℕ

structure SessionRequest where
  requestId : String
  content : String
  deadline : Instant

def maxProviderFrameBytes : ℕ := 1024 * 1024
def providerTerminalGrace : ℕ := 5000

inductive ProviderState where
  | starting | idle | running | cancelling | closed
  deriving DecidableEq

/-- What an actor takes and gives, in the order of its steps. -/
inductive Entry where
  /-- A command to handle a request is taken. -/
  | command (n : ℕ)
  | result (n : ℕ) (result : SessionResult)
  /-- A turn is written to the child, at least in part. -/
  | turn (n : ℕ) (requestId : String) (rpcId : ℕ)
  /-- A message of the child is read. -/
  | message (value : Value)
  /-- A command to cancel or to close is answered. -/
  | reply (result : Except ProviderError Unit)
  | reaped
  | evidence (evidence : TerminalEvidence)

abbrev Log := List Entry

namespace Log

/-- The number of commands taken; they are numbered in their order. -/
def commands (log : Log) : ℕ := log.countP fun
  | .command _ => true
  | _ => false

def results (n : ℕ) (log : Log) : List SessionResult := log.filterMap fun
  | .result m result => if m = n then some result else none
  | _ => none

def turns (log : Log) : List (String × ℕ) := log.filterMap fun
  | .turn _ requestId rpcId => some (requestId, rpcId)
  | _ => none

def evidences (log : Log) : List TerminalEvidence := log.filterMap fun
  | .evidence e => some e
  | _ => none

/-- The entries after the last turn was written. -/
def since (log : Log) : Log := (log.reverse.takeWhile fun
  | .turn .. => false
  | _ => true).reverse

def messages (log : Log) : List Value := log.filterMap fun
  | .message value => some value
  | _ => none

/-- `settle_result`: a reply is used once. -/
def settle (log : Log) (reply : Option ℕ) (result : SessionResult) : Log :=
  match reply with
  | some n => log ++ [.result n result]
  | none => log

end Log

/-- A turn whose command still waits for its result, or whose evidence is still to come. -/
structure OpenTurn where
  requestId : String
  rpcId : ℕ
  owed : Option ℕ
  evidenced : Bool

def owes (view : Option OpenTurn) (n : ℕ) : Prop := ∃ t, view = some t ∧ t.owed = some n

section

variable (ended : ℕ → List Value → Prop)

/-- The evidence that a turn is over: the child is gone, or its messages say so. -/
def Evident (rpcId : ℕ) (log : Log) : Prop :=
  Entry.reaped ∈ log.since ∨ ended rpcId log.since.messages

/-- When an entry is right after those before it. -/
def Fitting (past : Log) : Entry → Prop
  | .turn .. => past.evidences.length = past.turns.length
  | .evidence e => ∃ rpcId, past.turns.getLast? = some (e.requestId, rpcId) ∧
    Evident ended rpcId past
  | _ => True

/-- Results and evidence are given exactly once, the evidence is true, and turns do not overlap. -/
structure Truthful (view : Option OpenTurn) (log : Log) : Prop where
  results : ∀ n, n < log.commands → ¬owes view n → ∃ result, log.results n = [result]
  owed : ∀ n, owes view n → log.results n = []
  evidence : log.turns.map Prod.fst = log.evidences.map TerminalEvidence.requestId ++
    (view.toList.filter fun t => !t.evidenced).map OpenTurn.requestId
  fitting : log.Justified (Fitting ended)

/-- The turn of a request, written after the log was `past`: its evidence has come in its place,
or it is the open one. -/
def Evidenced (view : Option OpenTurn) (past log : Log) (requestId : String) : Prop :=
  ∃ rpcId, Entry.turn past.commands requestId rpcId ∈ log ∧
    log.turns[past.turns.length]? = some (requestId, rpcId) ∧
    ((∃ e, log.evidences[past.turns.length]? = some e ∧ e.requestId = requestId) ∨
      log.evidences.length = past.turns.length ∧
        ∃ t, view = some t ∧ t.requestId = requestId ∧ t.evidenced = false)

/-- What becomes of a command to handle a request, taken after the log was `past`. -/
structure Handled (view : Option OpenTurn) (past log : Log) (requestId : String)
    (accepted : Prop) : Prop where
  taken : past.commands < log.commands
  result : ¬owes view past.commands → ∃ result, log.results past.commands = [result]
  evidence : accepted → Evidenced view past log requestId

/-- The moves of a provider that handles one turn at a time. -/
inductive Move : Option OpenTurn × Log → Option OpenTurn × Log → Prop
  | refuse (view : Option OpenTurn) (log : Log) (result : SessionResult) :
      Move (view, log) (view, log ++ [.command log.commands, .result log.commands result])
  | start (log : Log) (requestId : String) (rpcId : ℕ) :
      Move (none, log) (some ⟨requestId, rpcId, some log.commands, false⟩,
        log ++ [.command log.commands, .turn log.commands requestId rpcId])
  | message (view : Option OpenTurn) (log : Log) (value : Value) :
      Move (view, log) (view, log ++ [.message value])
  | reply (view : Option OpenTurn) (log : Log) (result : Except ProviderError Unit) :
      Move (view, log) (view, log ++ [.reply result])
  | reap (view : Option OpenTurn) (log : Log) : Move (view, log) (view, log ++ [.reaped])
  | settle {t : OpenTurn} {n : ℕ} (h : t.owed = some n) (log : Log) (result : SessionResult) :
      Move (some t, log) (some { t with owed := none }, log ++ [.result n result])
  | evidence {t : OpenTurn} {log : Log} {e : TerminalEvidence} (hnew : t.evidenced = false)
      (hid : e.requestId = t.requestId) (htrue : Evident ended t.rpcId log) :
      Move (some t, log) (some { t with evidenced := true }, log ++ [.evidence e])
  | close {t : OpenTurn} (howed : t.owed = none) (hsent : t.evidenced = true) (log : Log) :
      Move (some t, log) (none, log)

end

namespace Log

@[simp] theorem commands_append (l l' : Log) : commands (l ++ l') = commands l + commands l' :=
  List.countP_append

@[simp] theorem results_append (n : ℕ) (l l' : Log) :
    results n (l ++ l') = results n l ++ results n l' := List.filterMap_append

@[simp] theorem turns_append (l l' : Log) : turns (l ++ l') = turns l ++ turns l' :=
  List.filterMap_append

@[simp] theorem evidences_append (l l' : Log) : evidences (l ++ l') = evidences l ++ evidences l' :=
  List.filterMap_append

@[simp] theorem messages_append (l l' : Log) : messages (l ++ l') = messages l ++ messages l' :=
  List.filterMap_append

/-- Only a turn starts the count afresh. -/
theorem since_concat (log : Log) {entry : Entry}
    (h : ∀ n requestId rpcId, entry ≠ .turn n requestId rpcId) :
    since (log ++ [entry]) = since log ++ [entry] := by
  cases entry with
  | turn n requestId rpcId => exact absurd rfl (h n requestId rpcId)
  | _ => simp [since]

end Log

namespace Evident

variable {ended : ℕ → List Value → Prop} {rpcId : ℕ} {log : Log}

/-- Entries that are neither turns nor messages take nothing away. -/
theorem concat (h : Evident ended rpcId log) {entry : Entry}
    (hturn : ∀ n requestId rpcId, entry ≠ .turn n requestId rpcId)
    (hmessage : Log.messages [entry] = []) : Evident ended rpcId (log ++ [entry]) := by
  unfold Evident at h ⊢
  rw [Log.since_concat log hturn, Log.messages_append, hmessage, List.append_nil]
  exact h.imp (fun hmem => List.mem_append_left _ hmem) id

theorem settle (h : Evident ended rpcId log) (reply : Option ℕ) (result : SessionResult) :
    Evident ended rpcId (log.settle reply result) := by
  cases reply with
  | none => exact h
  | some n => exact h.concat nofun rfl

end Evident

section

variable {ended : ℕ → List Value → Prop} {view view' : Option OpenTurn} {log log' : Log}

variable (ended) in
/-- The invariant of the moves. -/
structure Balanced (view : Option OpenTurn) (log : Log) : Prop extends Truthful ended view log where
  unused : ∀ n, log.commands ≤ n → log.results n = []
  taken : ∀ n, owes view n → n < log.commands
  current : ∀ t, view = some t → log.turns.getLast? = some (t.requestId, t.rpcId)

theorem Balanced.empty : Balanced ended none [] where
  results := nofun
  owed := fun _ _ => rfl
  evidence := rfl
  fitting := List.justified_nil
  unused := fun _ _ => rfl
  taken := nofun
  current := nofun

/-- An entry that is neither a command, a result, a turn nor evidence changes nothing. -/
theorem Balanced.neutral (h : Balanced ended view log) {entry : Entry}
    (hcommands : Log.commands [entry] = 0) (hresults : ∀ n, Log.results n [entry] = [])
    (hturns : Log.turns [entry] = []) (hevidences : Log.evidences [entry] = []) :
    Balanced ended view (log ++ [entry]) := by
  have hfitting : Fitting ended log entry := by
    cases entry with
    | turn n requestId rpcId => cases hturns
    | evidence e => cases hevidences
    | _ => trivial
  constructor
  · constructor
    · simpa [hcommands, hresults] using h.results
    · simpa [hresults] using h.owed
    · simpa [hturns, hevidences] using h.evidence
    · exact List.justified_concat.mpr ⟨h.fitting, hfitting⟩
  · simpa [hcommands, hresults] using h.unused
  · simpa [hcommands] using h.taken
  · simpa [hturns] using h.current

theorem Log.results_result (n m : ℕ) (result : SessionResult) :
    Log.results n [.result m result] = if m = n then [result] else [] := by
  unfold Log.results
  split_ifs with h <;> simp [h]

theorem Balanced.refuse (h : Balanced ended view log) (result : SessionResult) :
    Balanced ended view (log ++ [.command log.commands, .result log.commands result]) := by
  have hcommands : Log.commands (log ++ [.command log.commands, .result log.commands result]) =
      log.commands + 1 := by
    simp [Log.commands]
  have hresults (n : ℕ) : Log.results n
    (log ++ [.command log.commands, .result log.commands result]) =
      log.results n ++ if log.commands = n then [result] else [] := by
    rw [← Log.results_result]
    simp [Log.results]
  constructor
  · constructor
    · intro n hn howes
      rw [hcommands] at hn
      rw [hresults]
      by_cases heq : log.commands = n
      · rw [if_pos heq, h.unused n (by omega)]
        exact ⟨result, rfl⟩
      · rw [if_neg heq, List.append_nil]
        exact h.results n (by omega) howes
    · intro n howes
      have hn := h.taken n howes
      rw [hresults, if_neg (by omega), List.append_nil]
      exact h.owed n howes
    · simpa [Log.turns, Log.evidences] using h.evidence
    · rw [show log ++ [Entry.command log.commands, .result log.commands result] =
        (log ++ [.command log.commands]) ++ [.result log.commands result] by simp]
      rw [List.justified_concat, List.justified_concat]
      exact ⟨⟨h.fitting, trivial⟩, trivial⟩
  · intro n hn
    rw [hcommands] at hn
    rw [hresults, if_neg (by omega), List.append_nil]
    exact h.unused n (by omega)
  · intro n howes
    rw [hcommands]
    exact Nat.lt_succ_of_lt (h.taken n howes)
  · simpa [Log.turns] using h.current

theorem Balanced.start (h : Balanced ended none log) (requestId : String) (rpcId : ℕ) :
    Balanced ended (some ⟨requestId, rpcId, some log.commands, false⟩)
      (log ++ [.command log.commands, .turn log.commands requestId rpcId]) := by
  have hcommands :
      Log.commands (log ++ [.command log.commands, .turn log.commands requestId rpcId]) =
      log.commands + 1 := by
    simp [Log.commands]
  have hresults (n : ℕ) :
      Log.results n (log ++ [.command log.commands, .turn log.commands requestId rpcId]) =
        log.results n := by
    simp [Log.results]
  have hevidence : log.turns.map Prod.fst = log.evidences.map TerminalEvidence.requestId := by
    simpa using h.evidence
  have howed (n : ℕ) : owes (some ⟨requestId, rpcId, some log.commands, false⟩) n ↔
      n = log.commands := by
    constructor
    · rintro ⟨t, ht, hn⟩
      cases ht
      cases hn
      rfl
    · rintro rfl
      exact ⟨_, rfl, rfl⟩
  constructor
  · constructor
    · intro n hn hnot
      rw [hcommands] at hn
      rw [howed] at hnot
      rw [hresults]
      exact h.results n (by omega) nofun
    · intro n howes
      rw [hresults]
      exact h.unused n (Nat.le_of_eq ((howed n).mp howes).symm)
    · simp [Log.turns, Log.evidences]
      simpa [Log.turns, Log.evidences] using hevidence
    · rw [show log ++ [Entry.command log.commands, .turn log.commands requestId rpcId] =
        (log ++ [.command log.commands]) ++ [.turn log.commands requestId rpcId] by simp]
      rw [List.justified_concat, List.justified_concat]
      refine ⟨⟨h.fitting, trivial⟩, ?_⟩
      have hlength := congrArg List.length hevidence
      simpa [Fitting, Log.turns, Log.evidences] using hlength.symm
  · intro n hn
    rw [hcommands] at hn
    rw [hresults]
    exact h.unused n (by omega)
  · intro n howes
    rw [hcommands, (howed n).mp howes]
    exact Nat.lt_succ_self _
  · rintro t ht
    cases ht
    simp [Log.turns]

theorem Balanced.settle {t : OpenTurn} {n : ℕ} (h : Balanced ended (some t) log)
    (ht : t.owed = some n) (result : SessionResult) :
    Balanced ended (some { t with owed := none }) (log ++ [.result n result]) := by
  have howed (m : ℕ) : owes (some t) m ↔ m = n := by
    constructor
    · rintro ⟨t', ht', hm⟩
      cases ht'
      rw [ht] at hm
      cases hm
      rfl
    · rintro rfl
      exact ⟨t, rfl, ht⟩
  have hfree (m : ℕ) : ¬owes (some { t with owed := none }) m := by
    rintro ⟨t', ht', hm⟩
    cases ht'
    cases hm
  have hcommands : Log.commands (log ++ [.result n result]) = log.commands := by
    simp [Log.commands]
  constructor
  · constructor
    · rintro m hm -
      rw [hcommands] at hm
      rw [Log.results_append, Log.results_result]
      by_cases heq : n = m
      · rw [if_pos heq, h.owed m ((howed m).mpr heq.symm)]
        exact ⟨result, rfl⟩
      · rw [if_neg heq, List.append_nil]
        exact h.results m hm fun howes => heq ((howed m).mp howes).symm
    · exact fun m howes => absurd howes (hfree m)
    · have hopen : ((some { t with owed := none }).toList.filter fun t => !t.evidenced).map
          OpenTurn.requestId = ((some t).toList.filter fun t => !t.evidenced).map
            OpenTurn.requestId := by
        cases hsent : t.evidenced <;> simp [hsent]
      rw [hopen, Log.turns_append, Log.evidences_append]
      simpa [Log.turns, Log.evidences] using h.evidence
    · exact List.justified_concat.mpr ⟨h.fitting, trivial⟩
  · intro m hm
    rw [hcommands] at hm
    have hn := h.taken n ((howed n).mpr rfl)
    rw [Log.results_append, Log.results_result, if_neg (by omega), List.append_nil]
    exact h.unused m hm
  · exact fun m howes => absurd howes (hfree m)
  · intro t' ht'
    cases ht'
    simpa [Log.turns] using h.current t rfl

theorem Balanced.evidenced {t : OpenTurn} {e : TerminalEvidence}
    (h : Balanced ended (some t) log) (hnew : t.evidenced = false)
    (hid : e.requestId = t.requestId) (htrue : Evident ended t.rpcId log) :
    Balanced ended (some { t with evidenced := true }) (log ++ [.evidence e]) := by
  have howed (n : ℕ) : owes (some { t with evidenced := true }) n ↔ owes (some t) n := by
    constructor <;> rintro ⟨t', ht', hn⟩ <;> cases ht' <;> exact ⟨_, rfl, hn⟩
  have hcommands : Log.commands (log ++ [.evidence e]) = log.commands := by
    simp [Log.commands]
  have hresults (n : ℕ) : Log.results n (log ++ [.evidence e]) = log.results n := by
    simp [Log.results]
  have hevidence : log.turns.map Prod.fst =
      log.evidences.map TerminalEvidence.requestId ++ [t.requestId] := by
    simpa [hnew] using h.evidence
  constructor
  · constructor
    · intro n hn hnot
      rw [hcommands] at hn
      rw [hresults]
      exact h.results n hn fun howes => hnot ((howed n).mpr howes)
    · intro n howes
      rw [hresults]
      exact h.owed n ((howed n).mp howes)
    · simp only [Log.turns_append, Log.evidences_append, List.map_append, hevidence]
      simp [Log.turns, Log.evidences, hid]
    · refine List.justified_concat.mpr ⟨h.fitting, t.rpcId, ?_, htrue⟩
      rw [hid]
      exact h.current t rfl
  · intro n hn
    rw [hcommands] at hn
    rw [hresults]
    exact h.unused n hn
  · intro n howes
    rw [hcommands]
    exact h.taken n ((howed n).mp howes)
  · intro t' ht'
    cases ht'
    simpa [Log.turns] using h.current t rfl

theorem Balanced.close {t : OpenTurn} (h : Balanced ended (some t) log) (howed : t.owed = none)
    (hsent : t.evidenced = true) : Balanced ended none log where
  results := by
    intro n hn _
    apply h.results n hn
    rintro ⟨t', ht', hn'⟩
    cases ht'
    rw [howed] at hn'
    cases hn'
  owed := nofun
  evidence := by simpa [hsent] using h.evidence
  fitting := h.fitting
  unused := h.unused
  taken := nofun
  current := nofun

theorem Balanced.move (h : Balanced ended view log) (hmove : Move ended (view, log) (view', log')) :
    Balanced ended view' log' := by
  cases hmove with
  | refuse _ _ result => exact h.refuse result
  | start _ requestId rpcId => exact h.start requestId rpcId
  | message _ _ value => exact h.neutral rfl (fun _ => rfl) rfl rfl
  | reply _ _ result => exact h.neutral rfl (fun _ => rfl) rfl rfl
  | reap => exact h.neutral rfl (fun _ => rfl) rfl rfl
  | settle ht _ result => exact h.settle ht result
  | evidence hnew hid htrue => exact h.evidenced hnew hid htrue
  | close howed hsent => exact h.close howed hsent

theorem Move.settled (t : OpenTurn) (log : Log) (result : SessionResult) :
    Relation.ReflTransGen (Move ended) (some t, log)
      (some { t with owed := none }, log.settle t.owed result) := by
  cases h : t.owed with
  | none =>
    have ht : { t with owed := none } = t := by
      rw [← h]
    rw [ht]
    exact .refl
  | some n => exact .single (.settle h log result)

/-- The end of a turn. -/
theorem Move.finished {t : OpenTurn} {e : TerminalEvidence} (howed : t.owed = none)
    (hnew : t.evidenced = false) (hid : e.requestId = t.requestId)
    (htrue : Evident ended t.rpcId log) :
    Relation.ReflTransGen (Move ended) (some t, log) (none, log ++ [.evidence e]) := by
  have hevidence : Move ended (some t, log)
      (some { t with evidenced := true }, log ++ [.evidence e]) := .evidence hnew hid htrue
  have hclose : Move ended (some { t with evidenced := true }, log ++ [.evidence e])
      (none, log ++ [.evidence e]) := .close (show ({ t with evidenced := true } : OpenTurn).owed =
        none from howed) rfl _
  exact (Relation.ReflTransGen.single hevidence).tail hclose

/-- What was given is not taken back. -/
theorem Move.extends (hmove : Move ended (view, log) (view', log')) : log <+: log' := by
  cases hmove with
  | close => exact List.prefix_rfl
  | _ => exact List.prefix_append _ _

theorem Move.extends_all (hmoves : Relation.ReflTransGen (Move ended) (view, log) (view', log')) :
    log <+: log' := by
  suffices ∀ p, Relation.ReflTransGen (Move ended) (view, log) p → log <+: p.2 from
    this _ hmoves
  intro p hp
  induction hp with
  | refl => exact List.prefix_rfl
  | tail _ hmove ih => exact ih.trans hmove.extends

/-- The turns and the evidence of a truthful log have the same places. -/
theorem Truthful.evidence_place (h : Truthful ended view log) {past : Log} {requestId : String}
    {rpcId : ℕ}
    (hbegins : past ++ [.command past.commands, .turn past.commands requestId rpcId] <+: log) :
    Evidenced view past log requestId := by
  obtain ⟨rest, rfl⟩ := hbegins
  have hturns : Log.turns [Entry.command past.commands, .turn past.commands requestId rpcId] =
      [(requestId, rpcId)] := rfl
  have hplace : (Log.turns (past ++ [.command past.commands, .turn past.commands requestId rpcId] ++
      rest))[past.turns.length]? = some (requestId, rpcId) := by
    rw [Log.turns_append, Log.turns_append, hturns, List.append_assoc,
      List.getElem?_append_right (Nat.le_refl _), Nat.sub_self]
    rfl
  refine ⟨rpcId, by simp, hplace, ?_⟩
  have hevidence := h.evidence
  generalize past ++ [Entry.command past.commands, .turn past.commands requestId rpcId] ++ rest =
    log at hplace hevidence ⊢
  have hid : (log.turns.map Prod.fst)[past.turns.length]? = some requestId := by
    rw [List.getElem?_map, hplace]
    rfl
  rw [hevidence, List.getElem?_append, List.length_map] at hid
  split at hid
  · left
    rw [List.getElem?_map, Option.map_eq_some_iff] at hid
    exact hid
  · next hopen =>
    right
    cases view with
    | none => simp at hid
    | some t =>
      cases hsent : t.evidenced with
      | true => simp [hsent] at hid
      | false =>
        simp only [Option.toList_some, hsent, Bool.not_false, List.filter_cons_of_pos,
          List.filter_nil, List.map_cons, List.map_nil, List.getElem?_singleton] at hid
        split at hid
        · next hzero => exact ⟨by omega, t, rfl, Option.some.inj hid, hsent⟩
        · cases hid

/-- A command was taken, and its turn written when it was accepted. -/
theorem Balanced.handled (h : Balanced ended view log) {past : Log} {requestId : String}
    {accepted : Prop} (htaken : past ++ [.command past.commands] <+: log)
    (hwritten : accepted → ∃ rpcId,
      past ++ [.command past.commands, .turn past.commands requestId rpcId] <+: log) :
    Handled view past log requestId accepted := by
  have hcommands : past.commands < log.commands := by
    obtain ⟨rest, rfl⟩ := htaken
    simp only [Log.commands_append]
    have hone : Log.commands [Entry.command (Log.commands past)] = 1 := rfl
    omega
  refine ⟨hcommands, h.results _ hcommands, fun haccepted => ?_⟩
  obtain ⟨rpcId, hbegins⟩ := hwritten haccepted
  exact h.toTruthful.evidence_place hbegins

/-- The run lemma. -/
theorem Balanced.moves (h : Balanced ended view log)
    (hmoves : Relation.ReflTransGen (Move ended) (view, log) (view', log')) :
    Balanced ended view' log' := by
  suffices ∀ p, Relation.ReflTransGen (Move ended) (view, log) p → Balanced ended p.1 p.2 from
    this _ hmoves
  intro p hp
  induction hp with
  | refl => exact h
  | tail _ hmove ih => exact ih.move hmove

end

end SessionRouter.Providers
