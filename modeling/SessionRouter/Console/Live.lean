import SessionRouter.Console.Stream
import Mathlib.Data.List.Infix
import Mathlib.Data.Nat.ModEq

/-!
Whole runs of the console in one workspace: events and replies come in any order, and the cursor
walks over the stored events one by one.
-/

namespace SessionRouter

inductive StreamInput where
  | connection (connection : Connection)
  | event (event : WorkspaceEvent)
  | beginRead (kind : ReadKind)
  | readDone (index : ℕ) (value : ReadValue)
  | flushAck (sent : Bool)
  | cancelReads
  | beginSwitch
  | switchRestored
  | replaceClient
  | enterPast
  | beginReturnToLive
  /-- Everything else the console does: task reads, forms and the composer. -/
  | edit (work : Work) (mutation : Option PreparedMutation) (tab : Tab)

namespace StreamInput

/-- The events an input carries towards the stream. -/
def offered : StreamInput → List WorkspaceEvent
  | .event e => [e]
  | .readDone _ (.history page) => page.events
  | .readDone _ (.subscription events _ _) => events
  | _ => []

/-- The input changes nothing outside the chat but through the events it carries. -/
def delivers : StreamInput → Bool
  | .event _ | .readDone .. => true
  | _ => false

/-- The input cancels the reads that have been begun. -/
def cancels : StreamInput → ℕ
  | .cancelReads | .beginSwitch | .replaceClient => 1
  | _ => 0

/-- The connection is gone, or is another one. -/
def interrupts (input : StreamInput) (s : UiState) : Bool :=
  match input with
  | .connection next => !next.isConnected || s.connection ≠ next
  | .beginSwitch | .replaceClient => true
  | _ => false

end StreamInput

/-- How often a gap was seen and the reads were cancelled. -/
structure Tally where
  gaps : ℕ := 0
  cancels : ℕ := 0

/-- The console with its past: the events applied so far, the gaps and cancellations, and how many
of them there were when each reader was begun. -/
structure Stream where
  owner : Controller
  applied : List WorkspaceEvent := []
  tally : Tally := {}
  since : List Tally := []

/-- What an input did: the fate of each event, and the cursor handed to the client. -/
structure Reaction where
  effects : List EventApplied := []
  handed : Option ℕ := none
  owner : Controller

namespace Controller

def withChat (c : Controller) (chat : ChatState) : Controller :=
  { c with state := { c.state with chat } }

variable [EventSize]

def react (c : Controller) : StreamInput → Reaction
  | .connection connection => { owner := c.connection connection }
  | .event event =>
    let (effects, owner) := c.event event
    { effects, owner }
  | .beginRead kind => { owner := c.beginRead kind }
  | .readDone index value =>
    match c.readers[index]? with
    | none => { owner := c }
    | some reader =>
      let (effects, owner) := ({ c with readers := c.readers.eraseIdx index } : Controller).readDone
        reader value
      { effects, owner }
  | .flushAck sent =>
    let (handed, owner) := c.flushAck sent
    { handed, owner }
  | .cancelReads => { owner := c.cancelReads }
  | .beginSwitch => { owner := c.beginSwitch }
  | .switchRestored => { owner := c.switchRestored }
  | .replaceClient => { owner := c.replaceClient }
  | .enterPast => { owner := c.withChat c.state.chat.enterPast }
  | .beginReturnToLive => { owner := c.withChat c.state.chat.beginReturnToLive }
  | .edit work mutation tab =>
    { owner := { c with state := { c.state with
        tasks := work.tasks
        composer := work.composer
        pendingRequests := work.pendingRequests
        mutation
        tab } } }

end Controller

namespace Stream

def ui (s : Stream) : UiState := s.owner.state
def cursor (s : Stream) : Option ℕ := s.ui.chat.appliedCursor
def synchronized (s : Stream) : Bool := s.ui.chat.synchronized

variable [EventSize]

def react (s : Stream) (input : StreamInput) : Reaction := s.owner.react input

/-- The readers keep their place: a new one comes last, and an answered one is taken out. -/
def sinceAfter (s : Stream) (input : StreamInput) : List Tally :=
  match input with
  | .beginRead _ =>
    s.since ++ List.replicate ((s.react input).owner.readers.length - s.since.length) s.tally
  | .readDone index _ => s.since.eraseIdx index
  | _ => s.since

def step (s : Stream) (input : StreamInput) : Stream where
  owner := (s.react input).owner
  applied := s.applied ++ UiState.appliedOf input.offered (s.react input).effects
  tally :=
    { gaps := s.tally.gaps + (s.react input).effects.countP fun effect => effect.disposition.isGap
      cancels := s.tally.cancels + input.cancels }
  since := s.sinceAfter input

def run (s : Stream) (inputs : List StreamInput) : Stream := inputs.foldl step s

/-- Fewer gaps and cancellations than a counter has values came since any read was begun that is
still open, so that the counters tell them apart. -/
def Counted (s : Stream) : Prop :=
  ∀ n ∈ s.since, s.tally.gaps < n.gaps + 2 ^ 64 ∧ s.tally.cancels < n.cancels + 2 ^ 64

end Stream

theorem wrappingSucc_modEq (n : ℕ) : wrappingSucc n ≡ n + 1 [MOD 2 ^ 64] := Nat.mod_modEq _ _

namespace Controller

theorem effect_frame (c : Controller) (stamp : WorkspaceStamp) (e : EventApplied) :
    (c.effect stamp e).state = c.state ∧ (c.effect stamp e).readers = c.readers ∧
      (c.effect stamp e).readGeneration = c.readGeneration ∧
      (c.effect stamp e).gapRevision ≡
        c.gapRevision + (if e.disposition.isGap then 1 else 0) [MOD 2 ^ 64] := by
  have hsucc := wrappingSucc_modEq c.gapRevision
  unfold effect
  cases e.ack with
  | none =>
    dsimp only
    split
    · exact ⟨rfl, rfl, rfl, hsucc⟩
    · exact ⟨rfl, rfl, rfl, .refl _⟩
  | some seq =>
    dsimp only
    split
    · exact ⟨rfl, rfl, rfl, hsucc⟩
    · exact ⟨rfl, rfl, rfl, .refl _⟩

theorem effects_frame (stamp : WorkspaceStamp) (es : List EventApplied) (c : Controller) :
    (c.effects stamp es).state = c.state ∧ (c.effects stamp es).readers = c.readers ∧
      (c.effects stamp es).readGeneration = c.readGeneration ∧
      (c.effects stamp es).gapRevision ≡
        c.gapRevision + (es.countP fun e => e.disposition.isGap) [MOD 2 ^ 64] := by
  induction es generalizing c with
  | nil => exact ⟨rfl, rfl, rfl, .refl _⟩
  | cons e es ih =>
    obtain ⟨hstate, hreaders, hgeneration, hgap⟩ := ih (c.effect stamp e)
    obtain ⟨hstate', hreaders', hgeneration', hgap'⟩ := effect_frame c stamp e
    refine ⟨hstate.trans hstate', hreaders.trans hreaders', hgeneration.trans hgeneration', ?_⟩
    rw [List.countP_cons, Nat.add_comm (es.countP _), ← Nat.add_assoc]
    exact hgap.trans (hgap'.add_right _)

/-- A bound on the waiting acknowledgement survives acknowledgements within it. -/
theorem effect_ack {P : ℕ → Prop} (c : Controller) (stamp : WorkspaceStamp) (e : EventApplied)
    (hpending : ∀ seq, c.pendingAck = some (stamp, seq) → P seq)
    (hack : ∀ seq, e.ack = some seq → P seq) :
    ∀ seq, (c.effect stamp e).pendingAck = some (stamp, seq) → P seq := by
  intro seq hseq
  have hsame : (c.effect stamp e).pendingAck = e.ack.elim c.pendingAck
      fun n => some (rememberAck c.pendingAck stamp n) := by
    unfold effect
    cases e.ack with
    | none => dsimp only; split <;> rfl
    | some n => dsimp only; split <;> rfl
  rw [hsame] at hseq
  cases hn : e.ack with
  | none =>
    rw [hn] at hseq
    exact hpending seq hseq
  | some n =>
    rw [hn, Option.elim_some] at hseq
    simp only [Option.some.injEq, rememberAck] at hseq
    split at hseq
    · next pendingStamp cursor hwait =>
      split at hseq
      · next hstamp =>
        simp only [Prod.mk.injEq] at hseq
        subst hstamp
        have hcursor := hpending cursor hwait
        have hn' := hack n hn
        rw [← hseq.2]
        rcases Nat.le_total cursor n with hle | hle
        · rwa [Nat.max_eq_right hle]
        · rwa [Nat.max_eq_left hle]
      · simp only [Prod.mk.injEq, true_and] at hseq
        exact hseq ▸ hack n hn
    · simp only [Prod.mk.injEq, true_and] at hseq
      exact hseq ▸ hack n hn

theorem effects_ack {P : ℕ → Prop} (stamp : WorkspaceStamp) {es : List EventApplied}
    (hacks : ∀ e ∈ es, ∀ seq, e.ack = some seq → P seq) (c : Controller)
    (hpending : ∀ seq, c.pendingAck = some (stamp, seq) → P seq) :
    ∀ seq, (c.effects stamp es).pendingAck = some (stamp, seq) → P seq := by
  induction es generalizing c with
  | nil => exact hpending
  | cons e es ih =>
    have hhead := effect_ack c stamp e hpending (hacks e (by simp))
    exact ih (fun e' he' => hacks e' (by simp [he'])) (c.effect stamp e) hhead

/-- What holds in one workspace all the time. -/
structure Sound (stamp : WorkspaceStamp) (c : Controller) : Prop where
  seated : c.state.stamp = some stamp
  synced : c.state.chat.synchronized = true → c.state.chat.appliedCursor.isSome = true
  acks : ∀ seq, c.pendingAck = some (stamp, seq) → c.state.Covers seq
  fenced : ∀ r ∈ c.readers, r.fence.stamp = some stamp ∧ ∀ t, r.ticket = some t → t.stamp = stamp

/-- The reply that lets the console count as synchronized. -/
def Rearms (c : Controller) (input : StreamInput) (r : Reaction) : Prop :=
  ∃ index events next reader, input = .readDone index (.subscription events next true) ∧
    c.readers[index]? = some reader ∧ reader.kind = .sync ∧
    reader.generation = c.readGeneration ∧ reader.revision = c.gapRevision ∧
    r.owner.state.chat.appliedCursor = some next ∧
    ∀ effect ∈ r.effects, effect.disposition.isGap = false ∧ effect.disposition ≠ .staleWorkspace

/-- All that a reaction can do. -/
structure Reacts (log : ℕ → WorkspaceEvent) (stamp : WorkspaceStamp) (c : Controller)
    (input : StreamInput) (r : Reaction) : Prop where
  sound : Sound stamp r.owner
  seeded : ∀ k, c.state.chat.appliedCursor = some k → ∃ n,
    r.owner.state.chat.appliedCursor = some (k + n) ∧
      UiState.appliedOf input.offered r.effects = (List.range' (k + 1) n).map log
  unseeded : c.state.chat.appliedCursor = none →
    r.owner.state.chat.appliedCursor = none ∧ UiState.appliedOf input.offered r.effects = [] ∨
    ∃ index page seed n, input = .readDone index (.history page) ∧
      r.owner.state.chat.appliedCursor = some (seed + n) ∧
      UiState.appliedOf input.offered r.effects = (List.range' (seed + 1) n).map log
  work : input.delivers = true → r.owner.state.work =
    (UiState.appliedOf input.offered r.effects).foldl (UiState.absorb stamp) c.state.work
  display : ∀ index value reader, input = .readDone index value →
    c.readers[index]? = some reader → reader.kind ≠ .sync →
    c.state.chat.appliedCursor.isSome = true → r.effects = []
  rises : r.owner.state.chat.synchronized = true →
    c.state.chat.synchronized = true ∨ Rearms c input r
  falls : ∀ effect ∈ r.effects, effect.disposition.isGap = true →
    r.owner.state.chat.synchronized = false
  interrupted : input.interrupts c.state = true → r.owner.state.chat.synchronized = false
  generation : r.owner.readGeneration ≡ c.readGeneration + input.cancels [MOD 2 ^ 64]
  gaps : r.owner.gapRevision ≡ c.gapRevision + r.effects.countP (fun e => e.disposition.isGap) +
    input.cancels [MOD 2 ^ 64]
  handed : ∀ seq, r.handed = some seq → c.state.Covers seq

namespace Reacts

variable {log : ℕ → WorkspaceEvent} {stamp : WorkspaceStamp} {c owner : Controller}
  {input : StreamInput} {handed : Option ℕ}

/-- An input that carries no event. -/
theorem quiet (hsound : Sound stamp c) (hdelivers : input.delivers = false)
    (hstamp : owner.state.stamp = c.state.stamp)
    (hcursor : owner.state.chat.appliedCursor = c.state.chat.appliedCursor)
    (hsync : owner.state.chat.synchronized = true → c.state.chat.synchronized = true)
    (hack : ∀ seq, owner.pendingAck = some (stamp, seq) → c.pendingAck = some (stamp, seq))
    (hfenced : ∀ r ∈ owner.readers,
      r.fence.stamp = some stamp ∧ ∀ t, r.ticket = some t → t.stamp = stamp)
    (hinterrupts : input.interrupts c.state = true → owner.state.chat.synchronized = false)
    (hgeneration : owner.readGeneration ≡ c.readGeneration + input.cancels [MOD 2 ^ 64])
    (hgaps : owner.gapRevision ≡ c.gapRevision + input.cancels [MOD 2 ^ 64])
    (hhanded : ∀ seq, handed = some seq → c.state.Covers seq) :
    Reacts log stamp c input { owner, handed } where
  sound := by
    refine ⟨hstamp.trans hsound.seated, fun h => ?_, fun seq h => ?_, hfenced⟩
    · exact (congrArg Option.isSome hcursor).trans (hsound.synced (hsync h))
    · obtain ⟨k, hk, hle⟩ := hsound.acks seq (hack seq h)
      exact ⟨k, hcursor.trans hk, hle⟩
  seeded := fun k hk => ⟨0, hcursor.trans hk, by simp⟩
  unseeded := fun hnone => .inl ⟨hcursor.trans hnone, by simp⟩
  work := fun h => absurd (h.symm.trans hdelivers) (by simp)
  display := fun _ _ _ _ _ _ _ => rfl
  rises := fun h => .inl (hsync h)
  falls := nofun
  interrupted := hinterrupts
  generation := hgeneration
  gaps := hgaps
  handed := hhanded

variable {state : UiState} {readers : List Reader} {es : List EventApplied}

/-- An input whose events have been applied to the state. -/
theorem landed (hsound : Sound stamp c) (hreaders : ∀ r ∈ readers, r ∈ c.readers)
    (hinterrupts : input.interrupts c.state = false) (hcancels : input.cancels = 0)
    (hstamp : state.stamp = c.state.stamp)
    (hseeded : ∀ k, c.state.chat.appliedCursor = some k → ∃ n,
      state.chat.appliedCursor = some (k + n) ∧
        UiState.appliedOf input.offered es = (List.range' (k + 1) n).map log)
    (hunseeded : c.state.chat.appliedCursor = none →
      state.chat.appliedCursor = none ∧ UiState.appliedOf input.offered es = [] ∨
      ∃ index page seed n, input = .readDone index (.history page) ∧
        state.chat.appliedCursor = some (seed + n) ∧
        UiState.appliedOf input.offered es = (List.range' (seed + 1) n).map log)
    (hwork : state.work =
      (UiState.appliedOf input.offered es).foldl (UiState.absorb stamp) c.state.work)
    (hdisplay : ∀ index value reader, input = .readDone index value →
      c.readers[index]? = some reader → reader.kind ≠ .sync →
      c.state.chat.appliedCursor.isSome = true → es = [])
    (hrises : state.chat.synchronized = true → c.state.chat.synchronized = true ∨
      Rearms c input { effects := es, owner := { c with state } })
    (hfalls : ∀ e ∈ es, e.disposition.isGap = true → state.chat.synchronized = false)
    (hacks : ∀ e ∈ es, ∀ seq, e.ack = some seq → state.Covers seq) :
    Reacts log stamp c input
      { effects := es, owner := ({ c with state, readers } : Controller).effects stamp es } := by
  obtain ⟨hstate, hreaders', hgeneration, hgaps⟩ :=
    effects_frame stamp es ({ c with state, readers } : Controller)
  have hcovers : ∀ seq, c.state.Covers seq → state.Covers seq := by
    rintro seq ⟨k, hk, hle⟩
    obtain ⟨n, hn, -⟩ := hseeded k hk
    exact ⟨k + n, hn, by omega⟩
  have hsynced : state.chat.synchronized = true → state.chat.appliedCursor.isSome = true := by
    intro hsync
    rcases hrises hsync with hbefore | ⟨_, _, next, _, _, _, _, _, _, hnext, _⟩
    · obtain ⟨k, hk⟩ := Option.isSome_iff_exists.mp (hsound.synced hbefore)
      obtain ⟨n, hn, -⟩ := hseeded k hk
      rw [hn]
      rfl
    · exact Option.isSome_iff_exists.mpr ⟨next, hnext⟩
  have hpending := effects_ack stamp hacks ({ c with state, readers } : Controller)
    fun seq hseq => hcovers seq (hsound.acks seq hseq)
  constructor
  · refine ⟨?_, ?_, ?_, ?_⟩
    · rw [hstate]
      exact hstamp.trans hsound.seated
    · rw [hstate]
      exact hsynced
    · rw [hstate]
      exact hpending
    · rw [hreaders']
      exact fun r hr => hsound.fenced r (hreaders r hr)
  · rw [hstate]
    exact hseeded
  · rw [hstate]
    exact hunseeded
  · rw [hstate]
    exact fun _ => hwork
  · exact hdisplay
  · rw [hstate]
    intro hsync
    refine (hrises hsync).imp_right fun h => ?_
    obtain ⟨index, events, next, reader, hinput, hreader, hkind, hcurrent, hrevision, hnext,
      hclean⟩ := h
    exact ⟨index, events, next, reader, hinput, hreader, hkind, hcurrent, hrevision,
      hstate ▸ hnext, hclean⟩
  · rw [hstate]
    exact hfalls
  · exact fun h => absurd (h.symm.trans hinterrupts) (by simp)
  · rw [hcancels, hgeneration]
    exact .refl _
  · rw [hcancels]
    exact hgaps
  · exact nofun

/-- The events were applied one by one to the state as it was. -/
theorem walked (hsound : Sound stamp c) (hreaders : ∀ r ∈ readers, r ∈ c.readers)
    (hinterrupts : input.interrupts c.state = false) (hcancels : input.cancels = 0)
    (hwalks : UiState.Walks log stamp c.state state (UiState.appliedOf input.offered es))
    (hdisplay : ∀ index value reader, input = .readDone index value →
      c.readers[index]? = some reader → reader.kind ≠ .sync →
      c.state.chat.appliedCursor.isSome = true → es = [])
    (hreports : ∀ e ∈ es,
      (e.disposition.isGap = true → c.state.chat.appliedCursor.isSome = true →
        state.chat.synchronized = false) ∧
      ∀ seq, e.ack = some seq → state.Covers seq) :
    Reacts log stamp c input
      { effects := es, owner := ({ c with state, readers } : Controller).effects stamp es } := by
  apply landed hsound hreaders hinterrupts hcancels hwalks.seat.stamp hwalks.seeded
    (fun hnone => .inl (hwalks.unseeded hnone)) hwalks.work hdisplay
    (fun hsync => .inl (hwalks.falls hsync))
  · intro e he hgap
    apply Bool.eq_false_iff.mpr
    intro hsync
    have hsome := hsound.synced (hwalks.falls hsync)
    exact absurd ((hreports e he).1 hgap hsome) (by simp [hsync])
  · exact fun e he => (hreports e he).2

end Reacts

theorem connectionChanged_chat (s : UiState) (next : Connection) :
    (s.connectionChanged next).2.stamp = s.stamp ∧
      (s.connectionChanged next).2.chat.appliedCursor = s.chat.appliedCursor ∧
      ((s.connectionChanged next).2.chat.synchronized = true → s.chat.synchronized = true) ∧
      ((!next.isConnected || s.connection ≠ next) = true →
        (s.connectionChanged next).2.chat.synchronized = false) := by
  unfold UiState.connectionChanged
  cases hnext : next.isConnected
  · exact ⟨rfl, rfl, nofun, fun _ => rfl⟩
  · by_cases hsame : s.connection = next
    · simp [hsame, UiState.stamp]
    · simp [hsame, UiState.stamp, UiState.invalidateReads]

variable {log : ℕ → WorkspaceEvent} {stamp : WorkspaceStamp} {c : Controller}

theorem connection_reacts (hsound : Sound stamp c) (next : Connection) :
    Reacts log stamp c (.connection next) { owner := c.connection next } := by
  obtain ⟨hstamp, hcursor, hsync, hinterrupt⟩ := connectionChanged_chat c.state next
  exact .quiet hsound rfl hstamp hcursor hsync (fun _ h => h) hsound.fenced hinterrupt
    (.refl _) (.refl _) nofun

theorem cancelReads_reacts (hsound : Sound stamp c) :
    Reacts log stamp c .cancelReads { owner := c.cancelReads } :=
  .quiet hsound rfl rfl rfl (fun h => h) (fun _ h => h) hsound.fenced nofun
    (wrappingSucc_modEq _) (wrappingSucc_modEq _) nofun

theorem beginSwitch_reacts (hsound : Sound stamp c) :
    Reacts log stamp c .beginSwitch { owner := c.beginSwitch } :=
  .quiet hsound rfl rfl rfl nofun (fun _ h => h) hsound.fenced (fun _ => rfl)
    (wrappingSucc_modEq _) (wrappingSucc_modEq _) nofun

theorem replaceClient_reacts (hsound : Sound stamp c) :
    Reacts log stamp c .replaceClient { owner := c.replaceClient } :=
  .quiet hsound rfl rfl rfl nofun nofun hsound.fenced (fun _ => rfl)
    (wrappingSucc_modEq _) (wrappingSucc_modEq _) nofun

theorem flushAck_reacts (hsound : Sound stamp c) (sent : Bool) :
    Reacts log stamp c (.flushAck sent)
      { handed := (c.flushAck sent).1, owner := (c.flushAck sent).2 } := by
  have hframe : (c.flushAck sent).2.state = c.state ∧ (c.flushAck sent).2.readers = c.readers ∧
      (c.flushAck sent).2.gapRevision = c.gapRevision ∧
      (c.flushAck sent).2.readGeneration = c.readGeneration ∧
      ((c.flushAck sent).2.pendingAck = c.pendingAck ∨ (c.flushAck sent).2.pendingAck = none) ∧
      ∀ seq, (c.flushAck sent).1 = some seq →
        ∃ pending, c.pendingAck = some (pending, seq) ∧ c.state.accepts pending = true := by
    unfold flushAck
    cases hpending : c.pendingAck with
    | none => exact ⟨rfl, rfl, rfl, rfl, .inl hpending, nofun⟩
    | some waiting =>
      obtain ⟨pending, seq⟩ := waiting
      dsimp only
      split
      · exact ⟨rfl, rfl, rfl, rfl, .inr rfl, nofun⟩
      · next haccepts =>
        have hhand : ∀ n, some seq = some n → ∃ p, some (pending, seq) = some (p, n) ∧
            c.state.accepts p = true := by
          rintro n ⟨⟩
          exact ⟨pending, rfl, by simpa using haccepts⟩
        cases sent
        · exact ⟨rfl, rfl, rfl, rfl, .inl hpending, hhand⟩
        · exact ⟨rfl, rfl, rfl, rfl, .inr rfl, hhand⟩
  obtain ⟨hstate, hreaders, hgap, hgeneration, hpending, hhanded⟩ := hframe
  apply Reacts.quiet hsound rfl
  · rw [hstate]
  · rw [hstate]
  · rw [hstate]
    exact fun h => h
  · intro seq hseq
    rcases hpending with heq | hnone
    · exact heq ▸ hseq
    · exact absurd (hnone.symm.trans hseq) (by simp)
  · rw [hreaders]
    exact hsound.fenced
  · exact nofun
  · exact hgeneration ▸ .refl _
  · exact hgap ▸ .refl _
  · intro seq hseq
    obtain ⟨pending, hwait, haccepts⟩ := hhanded seq hseq
    have hsame : pending = stamp := by
      have hseat := hsound.seated
      simp only [UiState.stamp, Option.map_eq_some_iff] at hseat
      obtain ⟨workspace, hworkspace, rfl⟩ := hseat
      simp only [UiState.accepts, Bool.and_eq_true, decide_eq_true_eq, hworkspace,
        Option.some.injEq] at haccepts
      rw [haccepts.1, haccepts.2]
    exact hsound.acks seq (hsame ▸ hwait)

theorem beginRead_reacts (hsound : Sound stamp c) (kind : ReadKind) :
    Reacts log stamp c (.beginRead kind) { owner := c.beginRead kind } := by
  have hstill : Reacts log stamp c (.beginRead kind) { owner := c } :=
    .quiet hsound rfl rfl rfl (fun h => h) (fun _ h => h) hsound.fenced nofun (.refl _) (.refl _)
      nofun
  have hbegun : ∀ (owner : Controller) (reader : Reader),
      owner.state.stamp = c.state.stamp →
      owner.state.chat.appliedCursor = c.state.chat.appliedCursor →
      owner.state.chat.synchronized = c.state.chat.synchronized →
      owner.pendingAck = c.pendingAck → owner.readGeneration = c.readGeneration →
      owner.gapRevision = c.gapRevision →
      owner.readers = c.readers ++ [reader] → reader.fence = c.fence →
      (∀ t, reader.ticket = some t → t.stamp = stamp) →
      Reacts log stamp c (.beginRead kind) { owner } := by
    intro owner reader hstamp hcursor hsync hack hgeneration hgap hreaders hfence hticket
    refine .quiet hsound rfl hstamp hcursor (fun h => hsync ▸ h) (fun seq h => hack ▸ h) ?_ nofun
      (hgeneration ▸ .refl _) (hgap ▸ .refl _) nofun
    intro r hr
    rw [hreaders, List.mem_append, List.mem_singleton] at hr
    rcases hr with hr | rfl
    · exact hsound.fenced r hr
    · rw [hfence]
      exact ⟨hsound.seated, hticket⟩
  have hticket : ∀ (chat : ChatState) (t : ReadTicket),
      some (chat.beginHistoryLoad stamp).1 = some t → t.stamp = stamp := by
    intro chat t ht
    cases ht
    rfl
  unfold beginRead
  rw [hsound.seated]
  cases kind with
  | recent => exact hbegun _ _ rfl rfl rfl rfl rfl rfl rfl rfl (hticket _)
  | previous =>
    dsimp only
    split
    · split
      · exact hstill
      · exact hbegun _ _ rfl rfl rfl rfl rfl rfl rfl rfl (hticket _)
    · exact hstill
  | next =>
    dsimp only
    split
    · exact hstill
    · exact hbegun _ _ rfl rfl rfl rfl rfl rfl rfl rfl (hticket _)
  | sync =>
    dsimp only
    split
    · exact hstill
    · exact hbegun _ _ rfl rfl rfl rfl rfl rfl rfl rfl nofun

section

variable [EventSize]

theorem event_reacts (hsound : Sound stamp c) {event : WorkspaceEvent}
    (hstored : UiState.Stored log event) :
    Reacts log stamp c (.event event)
      { effects := (c.event event).1, owner := (c.event event).2 } := by
  unfold Controller.event
  rw [hsound.seated]
  have hone : ∀ e ∈ [event], UiState.Stored log e := by
    simpa using hstored
  exact .walked hsound (fun _ h => h) rfl rfl (UiState.applyEvents_walks stamp hone c.state) nofun
    (UiState.applyEvents_reports stamp hone c.state)

omit [EventSize] in
/-- A read whose reply changes the display at most. -/
theorem shown_reacts (hsound : Sound stamp c) {index : ℕ} {value : ReadValue} {state : UiState}
    (hstamp : state.stamp = c.state.stamp)
    (hcursor : state.chat.appliedCursor = c.state.chat.appliedCursor)
    (hsync : state.chat.synchronized = c.state.chat.synchronized)
    (hwork : state.work = c.state.work) :
    Reacts log stamp c (.readDone index value)
      { owner := { c with state, readers := c.readers.eraseIdx index } } := by
  let owner : Controller := { c with state, readers := c.readers.eraseIdx index }
  have hlanded : Reacts log stamp c (.readDone index value)
      { effects := [], owner := owner.effects stamp [] } := by
    apply Reacts.landed hsound (fun _ h => List.mem_of_mem_eraseIdx h) rfl rfl hstamp
    · exact fun k hk => ⟨0, hcursor.trans hk, by simp⟩
    · exact fun hnone => .inl ⟨hcursor.trans hnone, by simp⟩
    · simpa using hwork
    · exact fun _ _ _ _ _ _ _ => rfl
    · exact fun h => .inl (hsync ▸ h)
    · exact nofun
    · exact nofun
  exact hlanded

theorem recent_reacts (hsound : Sound stamp c) {index : ℕ} {page : HistoryPage}
    {reader : Reader} {ticket : ReadTicket} (hreader : c.readers[index]? = some reader)
    (hticket : reader.ticket = some ticket)
    (hstored : ∀ e ∈ page.events, UiState.Stored log e) :
    (∃ es, (c.state.applyRecentPage ticket page).1 = .ok es ∧
      Reacts log stamp c (.readDone index (.history page))
        { effects := es,
          owner := ({ c with
            state := (c.state.applyRecentPage ticket page).2
            readers := c.readers.eraseIdx index } : Controller).effects stamp es }) ∨
    ∃ error, (c.state.applyRecentPage ticket page) = (.error error, c.state) := by
  have hfenced := (hsound.fenced reader (List.mem_of_getElem? hreader)).2 ticket hticket
  unfold UiState.applyRecentPage
  split
  · exact .inl ⟨[], rfl, shown_reacts hsound rfl rfl rfl rfl⟩
  split
  · exact .inr ⟨_, rfl⟩
  dsimp only
  cases hcursor : c.state.chat.appliedCursor with
  | some k =>
    refine .inl ⟨[], rfl, ?_⟩
    exact shown_reacts hsound rfl hcursor.symm rfl rfl
  | none =>
    dsimp only
    rw [hfenced]
    generalize hseed :
      (page.events.head?.map fun event => event.seq - 1).getD page.nextCursor = seed
    -- The page is applied from the seed on as a stream of its own.
    generalize hstart : ({ c.state with chat := _ } : UiState) = start
    have hat : start.chat.appliedCursor = some seed := by rw [← hstart]
    have hwalks := UiState.applyEvents_walks stamp hstored start
    have hreports := UiState.applyEvents_reports stamp hstored start
    refine .inl ⟨_, rfl, ?_⟩
    apply Reacts.landed hsound (fun _ h => List.mem_of_mem_eraseIdx h) rfl rfl
    · rw [hwalks.seat.stamp, ← hstart]
      rfl
    · intro k hk
      exact absurd (hcursor.symm.trans hk) (by simp)
    · intro _
      obtain ⟨n, hn, hdone⟩ := hwalks.seeded seed hat
      exact .inr ⟨index, page, seed, n, rfl, hn, hdone⟩
    · have hwork := hwalks.work
      rw [← hstart] at hwork
      rw [← hstart]
      exact hwork
    · intro _ _ _ _ _ _ hsome
      rw [hcursor] at hsome
      cases hsome
    · intro hsync
      have hbefore := hwalks.falls hsync
      rw [← hstart] at hbefore
      exact .inl hbefore
    · intro e he hgap
      exact (hreports e he).1 hgap (by simp [hat])
    · exact fun e he => (hreports e he).2

theorem sync_reacts (hsound : Sound stamp c) {index : ℕ} {reader : Reader}
    (hreader : c.readers[index]? = some reader) (hkind : reader.kind = .sync)
    (hcurrent : reader.generation = c.readGeneration) {events : List WorkspaceEvent} (next : ℕ)
    (live : Bool) (hstored : ∀ e ∈ events, UiState.Stored log e) :
    Reacts log stamp c (.readDone index (.subscription events next live))
      { effects := (({ c with readers := c.readers.eraseIdx index } : Controller).subscriptionDone
          stamp reader.revision events next live).1
        owner := (({ c with readers := c.readers.eraseIdx index } : Controller).subscriptionDone
          stamp reader.revision events next live).2 } := by
  have hwalks := UiState.applyEvents_walks stamp hstored c.state
  have hreports := UiState.applyEvents_reports stamp hstored c.state
  have hplain : Reacts log stamp c (.readDone index (.subscription events next live))
      { effects := (c.state.applyEvents stamp events).1
        owner := ({ c with
          state := (c.state.applyEvents stamp events).2
          readers := c.readers.eraseIdx index } : Controller).effects stamp
            (c.state.applyEvents stamp events).1 } := by
    apply Reacts.walked hsound (fun _ h => List.mem_of_mem_eraseIdx h) rfl rfl hwalks _ hreports
    intro index' value' reader' hinput hreader' hne
    cases hinput
    obtain rfl : reader = reader' := Option.some.inj (hreader.symm.trans hreader')
    exact absurd hkind hne
  unfold subscriptionDone
  dsimp only
  split
  · next hlive =>
    simp only [Bool.and_eq_true, decide_eq_true_eq, List.all_eq_true, Bool.not_eq_true'] at hlive
    obtain ⟨⟨rfl, hclean⟩, hrevision⟩ := hlive
    unfold UiState.subscriptionLive
    split
    · exact hplain
    · next hcursor =>
      simp only [Bool.or_eq_true, Bool.not_eq_true', decide_eq_true_eq, not_or, not_not] at hcursor
      apply Reacts.landed hsound (fun _ h => List.mem_of_mem_eraseIdx h) rfl rfl
      · exact hwalks.seat.stamp
      · exact hwalks.seeded
      · exact fun hnone => .inl (hwalks.unseeded hnone)
      · exact hwalks.work
      · exact hplain.display
      · exact fun _ => .inr ⟨index, events, next, reader, rfl, hreader, hkind, hcurrent, hrevision,
          hcursor.2, hclean⟩
      · intro e he hgap
        exact absurd (hgap.symm.trans (hclean e he).1) (by simp)
      · exact fun e he => (hreports e he).2
  · exact hplain

theorem applyPastPage_chat (s : UiState) (ticket : ReadTicket) (page : HistoryPage) :
    (s.applyPastPage ticket page).2.stamp = s.stamp ∧
      (s.applyPastPage ticket page).2.chat.appliedCursor = s.chat.appliedCursor ∧
      (s.applyPastPage ticket page).2.chat.synchronized = s.chat.synchronized ∧
      (s.applyPastPage ticket page).2.work = s.work := by
  unfold UiState.applyPastPage
  split
  · exact ⟨rfl, rfl, rfl, rfl⟩
  · split <;> exact ⟨rfl, rfl, rfl, rfl⟩

omit [EventSize] in
theorem applyPreviousPage_chat (s : UiState) (ticket : ReadTicket) (load : PreviousHistoryLoad) :
    (s.applyPreviousPage ticket load).2.stamp = s.stamp ∧
      (s.applyPreviousPage ticket load).2.chat.appliedCursor = s.chat.appliedCursor ∧
      (s.applyPreviousPage ticket load).2.chat.synchronized = s.chat.synchronized ∧
      (s.applyPreviousPage ticket load).2.work = s.work := by
  unfold UiState.applyPreviousPage
  split
  · exact ⟨rfl, rfl, rfl, rfl⟩
  · split <;> exact ⟨rfl, rfl, rfl, rfl⟩

theorem readDone_reacts (hsound : Sound stamp c) {index : ℕ} {reader : Reader} {value : ReadValue}
    (hreader : c.readers[index]? = some reader)
    (hstored : ∀ e ∈ (StreamInput.readDone index value).offered, UiState.Stored log e) :
    Reacts log stamp c (.readDone index value)
      { effects := (({ c with readers := c.readers.eraseIdx index } : Controller).readDone
          reader value).1
        owner := (({ c with readers := c.readers.eraseIdx index } : Controller).readDone
          reader value).2 } := by
  have hstill : Reacts log stamp c (.readDone index value)
      { owner := { c with readers := c.readers.eraseIdx index } } :=
    shown_reacts hsound rfl rfl rfl rfl
  have hfence := (hsound.fenced reader (List.mem_of_getElem? hreader)).1
  unfold Controller.readDone
  split
  · exact hstill
  next hopen =>
  simp only [Bool.or_eq_true, decide_eq_true_eq, not_or, not_not] at hopen
  split
  · next ticket page hkind hticket =>
    dsimp only
    rw [hfence]
    rcases recent_reacts hsound hreader hticket hstored with ⟨es, hok, hreacts⟩ | ⟨error, herror⟩
    · cases hpage : c.state.applyRecentPage ticket page with
      | mk result state =>
        rw [hpage] at hok hreacts
        dsimp only at hok hreacts ⊢
        subst hok
        exact hreacts
    · rw [herror]
      exact hstill
  · next ticket page hkind hticket =>
    obtain ⟨hstamp, hcursor, hsync, hwork⟩ := applyPastPage_chat c.state ticket page
    exact shown_reacts hsound hstamp hcursor hsync hwork
  · next ticket load hkind hticket =>
    obtain ⟨hstamp, hcursor, hsync, hwork⟩ := applyPreviousPage_chat c.state ticket load
    exact shown_reacts hsound hstamp hcursor hsync hwork
  · next events next live hkind =>
    rw [hfence]
    exact sync_reacts hsound hreader hkind hopen.1 next live hstored
  · exact hstill

theorem react_reacts (hsound : Sound stamp c) {input : StreamInput}
    (hstored : ∀ e ∈ input.offered, UiState.Stored log e) :
    Reacts log stamp c input (c.react input) := by
  cases input with
  | connection next => exact connection_reacts hsound next
  | event event => exact event_reacts hsound (hstored event (by simp [StreamInput.offered]))
  | beginRead kind => exact beginRead_reacts hsound kind
  | readDone index value =>
    simp only [react]
    cases hreader : c.readers[index]? with
    | some reader => exact readDone_reacts hsound hreader hstored
    | none =>
      have hsame : c.readers.eraseIdx index = c.readers :=
        List.eraseIdx_of_length_le (List.getElem?_eq_none_iff.mp hreader)
      have hstill : Reacts log stamp c (.readDone index value)
          { owner := { c with readers := c.readers.eraseIdx index } } :=
        shown_reacts hsound rfl rfl rfl rfl
      rw [hsame] at hstill
      exact hstill
  | flushAck sent => exact flushAck_reacts hsound sent
  | cancelReads => exact cancelReads_reacts hsound
  | beginSwitch => exact beginSwitch_reacts hsound
  | replaceClient => exact replaceClient_reacts hsound
  | switchRestored | enterPast | beginReturnToLive | edit =>
    exact .quiet hsound rfl rfl rfl (fun h => h) (fun _ h => h) hsound.fenced nofun
      (.refl _) (.refl _) nofun

omit [EventSize] in
theorem beginRead_readers (c : Controller) (kind : ReadKind) :
    (c.beginRead kind).readers = c.readers ∨ ∃ reader,
      (c.beginRead kind).readers = c.readers ++ [reader] ∧
      reader.generation = c.readGeneration ∧
      (reader.kind = .sync → reader.revision = c.gapRevision) := by
  unfold beginRead
  split
  · exact .inl rfl
  cases kind with
  | recent => exact .inr ⟨_, rfl, rfl, nofun⟩
  | previous =>
    dsimp only
    split
    · split
      · exact .inl rfl
      · exact .inr ⟨_, rfl, rfl, nofun⟩
    · exact .inl rfl
  | next =>
    dsimp only
    split
    · exact .inl rfl
    · exact .inr ⟨_, rfl, rfl, nofun⟩
  | sync =>
    dsimp only
    split
    · exact .inl rfl
    · exact .inr ⟨_, rfl, rfl, fun _ => rfl⟩

theorem readDone_readers (c : Controller) (reader : Reader) (value : ReadValue) :
    (c.readDone reader value).2.readers = c.readers := by
  unfold Controller.readDone
  split
  · rfl
  split
  · split
    · exact (effects_frame _ _ _).2.1
    · rfl
  · rfl
  · rfl
  · split
    · exact (effects_frame _ _ _).2.1
    · rfl
  · rfl

theorem event_readers (c : Controller) (event : WorkspaceEvent) :
    (c.event event).2.readers = c.readers := by
  unfold Controller.event
  split
  · rfl
  · exact (effect_frame _ _ _).2.1

omit [EventSize] in
theorem flushAck_readers (c : Controller) (sent : Bool) :
    (c.flushAck sent).2.readers = c.readers := by
  unfold flushAck
  split
  · rfl
  · split
    · rfl
    · cases sent <;> rfl

end

end Controller

namespace Stream

/-- The console has just joined the workspace. -/
structure Joined (stamp : WorkspaceStamp) (c : Controller) : Prop where
  seated : c.state.stamp = some stamp
  chat : c.state.chat = {}
  readers : c.readers = []
  pendingAck : ∀ seq, c.pendingAck ≠ some (stamp, seq)

/-- The counters a read was begun with are those of its owner, less what came since. -/
structure Dated (s : Stream) (r : Reader) (n : Tally) : Prop where
  gaps : n.gaps ≤ s.tally.gaps
  cancels : n.cancels ≤ s.tally.cancels
  generation : r.generation + s.tally.cancels ≡ s.owner.readGeneration + n.cancels [MOD 2 ^ 64]
  revision : r.kind = .sync → r.revision + s.tally.gaps + s.tally.cancels ≡
    s.owner.gapRevision + n.gaps + n.cancels [MOD 2 ^ 64]

/-- A read whose counters are those of its owner was begun after the last gap and cancellation. -/
theorem Dated.latest {s : Stream} {r : Reader} {n : Tally} (h : Dated s r n)
    (hcounted : s.tally.gaps < n.gaps + 2 ^ 64 ∧ s.tally.cancels < n.cancels + 2 ^ 64)
    (hkind : r.kind = .sync) (hgeneration : r.generation = s.owner.readGeneration)
    (hrevision : r.revision = s.owner.gapRevision) : n = s.tally := by
  have hsame : ∀ {a b c : ℕ}, a ≤ b → b < a + 2 ^ 64 → c + b ≡ c + a [MOD 2 ^ 64] → a = b := by
    intro a b c hle hlt hmod
    have hdvd := (Nat.modEq_iff_dvd' hle).mp (Nat.ModEq.add_left_cancel' c hmod).symm
    have hzero := Nat.eq_zero_of_dvd_of_lt hdvd (by omega)
    omega
  have hcancels := hsame h.cancels hcounted.2 (hgeneration ▸ h.generation)
  have hgaps : n.gaps = s.tally.gaps := by
    have hboth := h.revision hkind
    rw [hrevision, hcancels] at hboth
    exact hsame h.gaps hcounted.1 (Nat.ModEq.add_right_cancel' _ hboth)
  cases n
  cases htally : s.tally
  simp_all

/-- The invariant of a run. -/
structure Inv (log : ℕ → WorkspaceEvent) (stamp : WorkspaceStamp) (s : Stream) : Prop where
  sound : s.owner.Sound stamp
  lengths : s.since.length = s.owner.readers.length
  since : ∀ (i : ℕ) (r : Reader) (n : Tally), s.owner.readers[i]? = some r →
    s.since[i]? = some n → s.Dated r n
  walked : s.cursor = none ∧ s.applied = [] ∨
    ∃ seed n, s.cursor = some (seed + n) ∧ s.applied = (List.range' (seed + 1) n).map log

theorem Joined.inv {log : ℕ → WorkspaceEvent} {stamp : WorkspaceStamp} {c : Controller}
    (h : Joined stamp c) : Inv log stamp { owner := c } where
  sound := by
    refine ⟨h.seated, fun hsync => ?_, fun seq hseq => absurd hseq (h.pendingAck seq), ?_⟩
    · rw [h.chat] at hsync
      cases hsync
    · rw [h.readers]
      exact nofun
  lengths := by
    rw [h.readers]
    rfl
  since := by
    intro i r n hr
    rw [h.readers] at hr
    cases hr
  walked := by
    refine .inl ⟨?_, rfl⟩
    show c.state.chat.appliedCursor = none
    rw [h.chat]

variable [EventSize] {log : ℕ → WorkspaceEvent} {stamp : WorkspaceStamp} {s : Stream}

/-- How the readers and the gaps they have seen stay side by side. -/
theorem step_since (s : Stream) (input : StreamInput)
    (hlen : s.since.length = s.owner.readers.length) :
    (s.step input).since.length = (s.step input).owner.readers.length ∧
      ∀ (i : ℕ) (r : Reader) (n : Tally), (s.step input).owner.readers[i]? = some r →
        (s.step input).since[i]? = some n →
        (∃ j : ℕ, s.owner.readers[j]? = some r ∧ s.since[j]? = some n) ∨
          r.generation = s.owner.readGeneration ∧
            (r.kind = .sync → r.revision = s.owner.gapRevision) ∧ n = s.tally := by
  have hsame : (s.step input).owner.readers = s.owner.readers → (s.step input).since = s.since →
      (s.step input).since.length = (s.step input).owner.readers.length ∧
      ∀ (i : ℕ) (r : Reader) (n : Tally), (s.step input).owner.readers[i]? = some r →
        (s.step input).since[i]? = some n →
        (∃ j : ℕ, s.owner.readers[j]? = some r ∧ s.since[j]? = some n) ∨
          r.generation = s.owner.readGeneration ∧
            (r.kind = .sync → r.revision = s.owner.gapRevision) ∧ n = s.tally := by
    intro hreaders hsince
    rw [hreaders, hsince]
    exact ⟨hlen, fun i r n hr hn => .inl ⟨i, hr, hn⟩⟩
  cases input with
  | connection | cancelReads | beginSwitch | switchRestored | replaceClient | enterPast
  | beginReturnToLive | edit => exact hsame rfl rfl
  | event event => exact hsame (Controller.event_readers _ _) rfl
  | flushAck sent => exact hsame (Controller.flushAck_readers _ _) rfl
  | readDone index value =>
    have hreaders : (s.step (.readDone index value)).owner.readers =
        s.owner.readers.eraseIdx index := by
      simp only [step, react, Controller.react]
      cases hreader : s.owner.readers[index]? with
      | some reader => exact Controller.readDone_readers _ _ _
      | none => exact (List.eraseIdx_of_length_le (List.getElem?_eq_none_iff.mp hreader)).symm
    have hsince : (s.step (.readDone index value)).since = s.since.eraseIdx index := rfl
    rw [hreaders, hsince]
    refine ⟨by simp only [List.length_eraseIdx, hlen], fun i r n hr hn => .inl ?_⟩
    rw [List.getElem?_eraseIdx] at hr hn
    split at hr
    · next hlt => exact ⟨i, hr, by simpa [hlt] using hn⟩
    · next hlt => exact ⟨i + 1, hr, by simpa [hlt] using hn⟩
  | beginRead kind =>
    rcases Controller.beginRead_readers s.owner kind with
      hold | ⟨reader, hnew, hgeneration, hrevision⟩
    · apply hsame hold
      show s.since ++ List.replicate ((s.owner.beginRead kind).readers.length - _) _ = _
      rw [hold, hlen, Nat.sub_self]
      simp
    · have hreaders : (s.step (.beginRead kind)).owner.readers = s.owner.readers ++ [reader] := hnew
      have hsince : (s.step (.beginRead kind)).since = s.since ++ [s.tally] := by
        show s.since ++ List.replicate ((s.owner.beginRead kind).readers.length - _) _ = _
        rw [hnew, hlen, List.length_append, Nat.add_sub_cancel_left]
        rfl
      rw [hreaders, hsince]
      refine ⟨by simp [hlen], fun i r n hr hn => ?_⟩
      rw [List.getElem?_append] at hr hn
      rw [hlen] at hn
      split at hr
      · next hlt => exact .inl ⟨i, hr, by simpa [hlt] using hn⟩
      · next hlt =>
        rw [if_neg hlt] at hn
        have hr' := List.mem_singleton.mp (List.mem_of_getElem? hr)
        have hn' := List.mem_singleton.mp (List.mem_of_getElem? hn)
        subst hr' hn'
        exact .inr ⟨hgeneration, hrevision, rfl⟩

/-- The counters move on together with what is counted. -/
theorem Dated.step {r : Reader} {n : Tally} (h : Dated s r n) {input : StreamInput}
    (hreacts : Controller.Reacts log stamp s.owner input (s.owner.react input)) :
    Dated (s.step input) r n where
  gaps := h.gaps.trans (Nat.le_add_right _ _)
  cancels := h.cancels.trans (Nat.le_add_right _ _)
  generation := by
    have hold := h.generation.add_right input.cancels
    have hnew := hreacts.generation.add_right n.cancels
    rw [Nat.add_right_comm] at hnew
    rw [Nat.add_assoc] at hold
    exact hold.trans hnew.symm
  revision hkind := by
    have hgaps := hreacts.gaps
    have hrevision := h.revision hkind
    generalize hcount : (s.owner.react input).effects.countP (fun e => e.disposition.isGap) = k
      at hgaps
    have htally : (s.step input).tally.gaps = s.tally.gaps + k := congrArg _ hcount
    calc r.revision + (s.step input).tally.gaps + (s.tally.cancels + input.cancels)
      _ = r.revision + s.tally.gaps + s.tally.cancels + (k + input.cancels) := by omega
      _ ≡ s.owner.gapRevision + n.gaps + n.cancels + (k + input.cancels) [MOD 2 ^ 64] :=
        hrevision.add_right _
      _ = s.owner.gapRevision + k + input.cancels + (n.gaps + n.cancels) := by omega
      _ ≡ (s.owner.react input).owner.gapRevision + (n.gaps + n.cancels) [MOD 2 ^ 64] :=
        (hgaps.add_right _).symm
      _ = (s.owner.react input).owner.gapRevision + n.gaps + n.cancels :=
        (Nat.add_assoc _ _ _).symm

theorem step_inv (h : Inv log stamp s) {input : StreamInput}
    (hstored : ∀ e ∈ input.offered, UiState.Stored log e) : Inv log stamp (s.step input) := by
  have hreacts := Controller.react_reacts h.sound hstored
  obtain ⟨hlen, hsince⟩ := step_since s input h.lengths
  refine ⟨hreacts.sound, hlen, fun i r n hr hn => ?_, ?_⟩
  · rcases hsince i r n hr hn with ⟨j, hr', hn'⟩ | ⟨hgeneration, hrevision, rfl⟩
    · exact (h.since j r n hr' hn').step hreacts
    · exact Dated.step ⟨le_rfl, le_rfl, hgeneration ▸ .refl _, fun hkind =>
        hrevision hkind ▸ .refl _⟩ hreacts
  · have happlied : (s.step input).applied =
        s.applied ++ UiState.appliedOf input.offered (s.owner.react input).effects := rfl
    rcases h.walked with ⟨hnone, hempty⟩ | ⟨seed, n, hcursor, hwalked⟩
    · rcases hreacts.unseeded hnone with ⟨hnone', hdone⟩ | ⟨_, _, seed, n, _, hcursor', hdone⟩
      · exact .inl ⟨hnone', by rw [happlied, hempty, hdone]; rfl⟩
      · exact .inr ⟨seed, n, hcursor', by rw [happlied, hempty, hdone]; rfl⟩
    · obtain ⟨m, hcursor', hdone⟩ := hreacts.seeded _ hcursor
      refine .inr ⟨seed, n + m, by rw [← Nat.add_assoc]; exact hcursor', ?_⟩
      rw [happlied, hwalked, hdone, ← List.map_append, Nat.add_right_comm seed n 1,
        List.range'_append_1]

theorem run_inv {inputs : List StreamInput} (h : Inv log stamp s)
    (hstored : ∀ input ∈ inputs, ∀ e ∈ input.offered, UiState.Stored log e) :
    Inv log stamp (s.run inputs) := by
  induction inputs generalizing s with
  | nil => exact h
  | cons input inputs ih =>
    have hstep := step_inv h (hstored input (by simp))
    exact ih hstep fun i hi => hstored i (by simp [hi])

/-- The reply by which the console is synchronized: it was asked for after the last gap, its page
had none, and it ends where the console is. -/
def Rearmed (s : Stream) (input : StreamInput) : Prop :=
  ∃ index events next reader, input = .readDone index (.subscription events next true) ∧
    s.owner.readers[index]? = some reader ∧ reader.kind = .sync ∧
    (s.step input).cursor = some next ∧
    (∀ effect ∈ (s.react input).effects,
      effect.disposition.isGap = false ∧ effect.disposition ≠ .staleWorkspace) ∧
    s.since[index]? = some s.tally

/-- A gap is seen, or the connection is lost or replaced. -/
def Breaks (s : Stream) (input : StreamInput) : Prop :=
  (∃ effect ∈ (s.react input).effects, effect.disposition.isGap = true) ∨
    input.interrupts s.ui = true

/-- What one input may do to the stream. -/
structure Exact (log : ℕ → WorkspaceEvent) (stamp : WorkspaceStamp) (s : Stream)
    (input : StreamInput) : Prop where
  seeded : ∀ k, s.cursor = some k → ∃ n, (s.step input).cursor = some (k + n) ∧
    (s.step input).applied = s.applied ++ (List.range' (k + 1) n).map log ∧
    (input.delivers = true → (s.step input).ui.work =
      ((List.range' (k + 1) n).map log).foldl (UiState.absorb stamp) s.ui.work)
  histories : ∀ index value reader, input = .readDone index value →
    s.owner.readers[index]? = some reader → reader.kind ≠ .sync → s.cursor.isSome = true →
    (s.step input).cursor = s.cursor ∧ (s.step input).applied = s.applied
  acknowledged : ∀ seq, (s.react input).handed = some seq → ∃ k, s.cursor = some k ∧ seq ≤ k
  rises : s.synchronized = false → (s.step input).synchronized = true → s.Rearmed input
  falls : s.Breaks input → (s.step input).synchronized = false

theorem step_exact (h : Inv log stamp s) (hcounted : s.Counted) {input : StreamInput}
    (hstored : ∀ e ∈ input.offered, UiState.Stored log e) : Exact log stamp s input := by
  have hreacts := Controller.react_reacts h.sound hstored
  constructor
  · intro k hk
    obtain ⟨n, hn, hdone⟩ := hreacts.seeded k hk
    refine ⟨n, hn, congrArg (s.applied ++ ·) hdone, fun hdelivers => ?_⟩
    have hwork := hreacts.work hdelivers
    rw [hdone] at hwork
    exact hwork
  · intro index value reader hinput hreader hkind hsome
    obtain ⟨k, hk⟩ := Option.isSome_iff_exists.mp hsome
    obtain ⟨n, hn, hdone⟩ := hreacts.seeded k hk
    have hempty := hreacts.display index value reader hinput hreader hkind hsome
    rw [hempty, UiState.appliedOf_nil] at hdone
    have hzero : n = 0 := by simpa using hdone.symm
    subst hzero
    refine ⟨hn.trans hk.symm, ?_⟩
    show s.applied ++ UiState.appliedOf input.offered (s.owner.react input).effects = s.applied
    rw [hempty, UiState.appliedOf_nil, List.append_nil]
  · exact hreacts.handed
  · intro hbefore hafter
    rcases hreacts.rises hafter with hsync | hrearms
    · exact absurd (hsync.symm.trans hbefore) (by simp)
    · obtain ⟨index, events, next, reader, hinput, hreader, hkind, hgeneration, hrevision, hnext,
        hclean⟩ := hrearms
      refine ⟨index, events, next, reader, hinput, hreader, hkind, hnext, hclean, ?_⟩
      have hlt : index < s.since.length := by
        rw [h.lengths]
        exact (List.getElem?_eq_some_iff.mp hreader).1
      have hat : s.since[index]? = some s.since[index] := List.getElem?_eq_getElem hlt
      rw [hat, (h.since index reader _ hreader hat).latest
        (hcounted _ (List.getElem_mem hlt)) hkind hgeneration hrevision]
  · rintro (⟨effect, heffect, hgap⟩ | hinterrupts)
    · exact hreacts.falls effect heffect hgap
    · exact hreacts.interrupted hinterrupts

theorem rearmed_of_synchronized {inputs : List StreamInput} (h : Inv log stamp s)
    (hstored : ∀ input ∈ inputs, ∀ e ∈ input.offered, UiState.Stored log e)
    (hcounted : ∀ before, before <+: inputs → (s.run before).Counted)
    (hbefore : s.synchronized = false) (hafter : (s.run inputs).synchronized = true) :
    ∃ before input after, inputs = before ++ input :: after ∧ (s.run before).Rearmed input := by
  induction inputs generalizing s with
  | nil => exact absurd (hafter.symm.trans hbefore) (by simp)
  | cons input inputs ih =>
    have hhead := hstored input (by simp)
    have hfirst : s.Counted := hcounted [] List.nil_prefix
    have hrest : ∀ before, before <+: inputs → ((s.step input).run before).Counted :=
      fun before hprefix => hcounted (input :: before) (List.cons_prefix_cons.mpr ⟨rfl, hprefix⟩)
    cases hsync : (s.step input).synchronized with
    | true => exact ⟨[], input, inputs, rfl, (step_exact h hfirst hhead).rises hbefore hsync⟩
    | false =>
      obtain ⟨before, reply, after, hsplit, hrearmed⟩ :=
        ih (step_inv h hhead) (fun i hi => hstored i (by simp [hi])) hrest hsync hafter
      exact ⟨input :: before, reply, after, by rw [hsplit]; rfl, hrearmed⟩

/-- In every run of a workspace the live events are applied exactly. -/
theorem live_exact {c : Controller} (hjoined : Joined stamp c) {inputs : List StreamInput}
    (hstored : ∀ input ∈ inputs, ∀ e ∈ input.offered, UiState.Stored log e)
    (hcounted : ∀ before, before <+: inputs → (run { owner := c } before).Counted) :
    let s := run { owner := c } inputs
    (s.cursor = none ∧ s.applied = [] ∨
      ∃ seed n, s.cursor = some (seed + n) ∧ s.applied = (List.range' (seed + 1) n).map log) ∧
    (∀ input, (∀ e ∈ input.offered, UiState.Stored log e) → Exact log stamp s input) ∧
    ∀ before input after, inputs = before ++ input :: after →
      (run { owner := c } before).Breaks input → s.synchronized = true →
      ∃ middle reply rest, after = middle ++ reply :: rest ∧
        (run { owner := c } (before ++ input :: middle)).Rearmed reply := by
  have hrun : Inv log stamp (run { owner := c } inputs) := run_inv hjoined.inv hstored
  have hlast := hcounted inputs List.prefix_rfl
  refine ⟨hrun.walked, fun input hinput => step_exact hrun hlast hinput, ?_⟩
  intro before input after hsplit hbreaks hsync
  subst hsplit
  have hbefore : Inv log stamp (run { owner := c } before) :=
    run_inv hjoined.inv fun i hi => hstored i (by simp [hi])
  have hinput := hstored input (by simp)
  have hrest : ∀ i ∈ after, ∀ e ∈ i.offered, UiState.Stored log e :=
    fun i hi => hstored i (by simp [hi])
  have hupto := hcounted before (List.prefix_append _ _)
  have hrun' : ∀ later, run { owner := c } (before ++ input :: later) =
      ((run { owner := c } before).step input).run later := by
    intro later
    simp [run]
  have hlater : ∀ later, later <+: after →
      (((run { owner := c } before).step input).run later).Counted := by
    intro later hprefix
    rw [← hrun']
    exact hcounted _ ((List.prefix_append_right_inj before).mpr
      (List.cons_prefix_cons.mpr ⟨rfl, hprefix⟩))
  rw [hrun'] at hsync
  obtain ⟨middle, reply, rest, hafter, hrearmed⟩ := rearmed_of_synchronized
    (step_inv hbefore hinput) hrest hlater ((step_exact hbefore hupto hinput).falls hbreaks) hsync
  refine ⟨middle, reply, rest, hafter, ?_⟩
  rw [hrun']
  exact hrearmed

end Stream

namespace Stream.Sample

/-- Every event takes one byte. -/
scoped instance size : EventSize := ⟨fun _ => 1⟩

def workspace : WorkspaceName := ⟨"team", by decide⟩

def chat (seq : ℕ) : WorkspaceEvent where
  workspace := workspace
  seq := seq
  kind := .chat
  actorId := "operator"
  createdAt := 0
  requestId := none
  targetId := none
  taskId := none
  content := some (.text "hello")
  ok := none
  error := none

def joined : Controller where
  state := { connection := .connected 1, workspace := some workspace, generation := 1 }
  epoch := 1

/-- Two events are read, the third one comes live and once more in the reply to a subscription. The
fifth one comes too early: the reply asked for before it does not count, the next one does. -/
def inputs : List StreamInput :=
  [.beginRead .recent,
    .readDone 0 (.history
      { workspace, events := [chat 1, chat 2], nextCursor := 2, hasMore := false }),
    .beginRead .sync,
    .event (chat 3),
    .readDone 0 (.subscription [chat 3] 3 true),
    .beginRead .sync,
    .event (chat 5),
    .readDone 0 (.subscription [chat 4] 4 true),
    .beginRead .sync,
    .readDone 0 (.subscription [chat 5] 5 true)]

theorem inputs_stored : ∀ input ∈ inputs, ∀ e ∈ input.offered, UiState.Stored chat e := by
  unfold UiState.Stored
  decide

theorem inputs_counted : ∀ before, before <+: inputs →
    (run { owner := joined } before).Counted := by
  have hall : ∀ before ∈ inputs.inits, (run { owner := joined } before).Counted := by
    unfold Counted
    decide
  exact fun before hprefix => hall before ((List.mem_inits _ _).mpr hprefix)

/-- The console is synchronized by the last reply only, and the event after a missing one ends
that. -/
theorem live_exact_sample :
    (run { owner := joined } inputs).applied = [chat 1, chat 2, chat 3, chat 4, chat 5] ∧
      (run { owner := joined } inputs.dropLast).synchronized = false ∧
      (run { owner := joined } inputs).synchronized = true ∧
      ((run { owner := joined } inputs).step (.event (chat 7))).synchronized = false := by
  have hjoined : Joined ⟨1, workspace⟩ joined := ⟨rfl, rfl, rfl, nofun⟩
  have hexact := (live_exact hjoined inputs_stored inputs_counted).2.1 (.event (chat 7))
    (by unfold UiState.Stored; decide)
  refine ⟨by decide, by decide, by decide, hexact.falls (.inl ?_)⟩
  exact ⟨{ disposition := .gap 6 7 }, by decide, rfl⟩

end Stream.Sample

end SessionRouter
