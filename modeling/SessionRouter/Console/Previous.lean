import SessionRouter.Console.Buffer
import SessionRouter.Console.Live

/-!
The page before a boundary, collected through the forward-only history: the loop ends, and holds
exactly the events before the boundary.
-/

namespace SessionRouter

namespace PreviousHistoryLoad

def new (oldestSeq : ℕ) : PreviousHistoryLoad :=
  { boundary := oldestSeq
    after := oldestSeq - 101
    buffer := .new maxHistoryEvents
    done := oldestSeq ≤ 1 }

variable [EventSize]

/-- The events of a page up to the boundary; the flag tells whether one at or behind the boundary
was met. -/
def take (boundary : ℕ) : ℕ → EventBuffer → List WorkspaceEvent → ℕ × EventBuffer × Bool
  | after, buffer, [] => (after, buffer, false)
  | after, buffer, event :: events =>
    if boundary ≤ event.seq then (after, buffer, true)
    else if after < event.seq then take boundary event.seq (buffer.push event) events
    else take boundary after buffer events

def absorb (load : PreviousHistoryLoad) (page : HistoryPage) :
    Except StateError PreviousHistoryLoad :=
  if load.done then .ok load
  else if !validHistoryPage page page.workspace || page.nextCursor < load.after then
    .error .invalidPage
  else
    let (after, buffer, met) := take load.boundary load.after load.buffer page.events
    let done := met || !page.hasMore || load.boundary - 1 ≤ page.nextCursor
    if done then .ok { load with after, buffer, done }
    else if max after page.nextCursor ≤ load.after then .error .invalidPage
    else .ok { load with after := max after page.nextCursor, buffer, done }

/-- The loop of the reader of a previous page, within `fuel` replies; the pager gives the reply to
the `n`-th request. -/
def loop (pager : ℕ → ℕ → HistoryPage) :
    ℕ → ℕ → PreviousHistoryLoad → Option (Except StateError PreviousHistoryLoad)
  | 0, _, load => if load.done then some (.ok load) else none
  | fuel + 1, n, load =>
    if load.done then some (.ok load)
    else match load.absorb (pager n load.after) with
      | .error error => some (.error error)
      | .ok load => loop pager fuel (n + 1) load

end PreviousHistoryLoad

/-- The stored events with numbers from `first` on, `count` of them. -/
def storedEvents (log : ℕ → WorkspaceEvent) (first count : ℕ) : List WorkspaceEvent :=
  (List.range' first count).map log

/-- A gap-free history: every number from one on belongs to one event of the workspace. -/
structure GapFree (log : ℕ → WorkspaceEvent) (workspace : WorkspaceName) : Prop where
  seq : ∀ n, (log n).seq = n
  workspace : ∀ n, 0 < n → (log n).workspace = workspace

/-- An honest reply to a request for the events after `after`, while `latest` of them are stored:
a run of any length up to the limit that begins with the next one. -/
structure HonestPage (log : ℕ → WorkspaceEvent) (workspace : WorkspaceName) (latest after : ℕ)
    (page : HistoryPage) : Prop where
  workspace : page.workspace = workspace
  events : ∃ count, 0 < count ∧ count ≤ maxHistoryEvents ∧ after + count ≤ latest ∧
    page.events = storedEvents log (after + 1) count ∧ page.nextCursor = after + count
  hasMore : page.hasMore = true ↔ page.nextCursor < latest

section

variable {log : ℕ → WorkspaceEvent} {workspace : WorkspaceName}

theorem storedEvents_append (first count more : ℕ) :
    storedEvents log first count ++ storedEvents log (first + count) more =
      storedEvents log first (count + more) := by
  rw [storedEvents, storedEvents, ← List.map_append, List.range'_append_1]
  rfl

theorem storedEvents_cons (first count : ℕ) :
    storedEvents log first (count + 1) = log first :: storedEvents log (first + 1) count := rfl

@[simp]
theorem storedEvents_length (first count : ℕ) : (storedEvents log first count).length = count := by
  simp [storedEvents]

theorem mem_storedEvents {event : WorkspaceEvent} {first count : ℕ} :
    event ∈ storedEvents log first count ↔
      ∃ n, first ≤ n ∧ n < first + count ∧ log n = event := by
  simp [storedEvents, and_assoc]

theorem contiguous_range' (first count : ℕ) : contiguous (List.range' first count) = true := by
  induction count generalizing first with
  | zero => rfl
  | succ count ih =>
    cases count with
    | zero => rfl
    | succ count =>
      have hrest := ih (first + 1)
      rw [List.range'_succ] at hrest
      rw [List.range'_succ, List.range'_succ, contiguous, hrest]
      simp

theorem GapFree.seqs (h : GapFree log workspace) (first count : ℕ) :
    (storedEvents log first count).map WorkspaceEvent.seq = List.range' first count := by
  simp [storedEvents, Function.comp_def, h.seq]

/-- The console accepts every honest page. -/
theorem HonestPage.valid (h : GapFree log workspace) {latest after : ℕ} {page : HistoryPage}
    (hpage : HonestPage log workspace latest after page) :
    validHistoryPage page workspace = true := by
  obtain ⟨count, hpos, hmax, -, hevents, hcursor⟩ := hpage.events
  unfold validHistoryPage
  rw [hevents, hpage.workspace, h.seqs, contiguous_range']
  simp only [Bool.and_eq_true, decide_eq_true_eq, List.all_eq_true, storedEvents_length, true_and,
    and_true]
  refine ⟨⟨hmax, ?_⟩, ?_⟩
  · intro event hevent
    obtain ⟨n, hn, -, rfl⟩ := mem_storedEvents.mp hevent
    have hpos : 0 < n := by omega
    exact ⟨h.workspace n hpos, (h.seq n).symm ▸ hpos⟩
  · obtain ⟨more, rfl⟩ := Nat.exists_eq_add_of_lt hpos
    have hsplit : storedEvents log (after + 1) more ++ storedEvents log (after + 1 + more) 1 =
        storedEvents log (after + 1) (more + 1) := storedEvents_append _ _ _
    have hlast : (storedEvents log (after + 1) (0 + more + 1)).getLast? =
        some (log (after + 1 + more)) := by
      rw [Nat.zero_add, ← hsplit]
      simp [storedEvents]
    rw [hlast, hcursor]
    simp only [Option.all_some, decide_eq_true_eq, h.seq]
    omega

end

namespace PreviousHistoryLoad

variable [EventSize] {log : ℕ → WorkspaceEvent} {workspace : WorkspaceName}

/-- The events of a page that begins behind `after` are taken up to the boundary. -/
theorem take_spec (h : GapFree log workspace) {boundary after : ℕ} (count : ℕ)
    (buffer : EventBuffer) (hbefore : after + 1 ≤ boundary) :
    take boundary after buffer (storedEvents log (after + 1) count) =
      (min (after + count) (boundary - 1),
        UiState.pushAll buffer
          (storedEvents log (after + 1) (min (after + count) (boundary - 1) - after)),
        decide (boundary ≤ after + count)) := by
  induction count generalizing after buffer with
  | zero =>
    have hmin : min (after + 0) (boundary - 1) = after := by omega
    have hnot : ¬boundary ≤ after + 0 := by omega
    rw [hmin, decide_eq_false hnot, Nat.sub_self]
    rfl
  | succ count ih =>
    rw [storedEvents_cons]
    unfold take
    rw [h.seq]
    by_cases hmet : boundary ≤ after + 1
    · have hmin : min (after + (count + 1)) (boundary - 1) = after := by omega
      have hreach : boundary ≤ after + (count + 1) := by omega
      rw [if_pos hmet, hmin, decide_eq_true hreach, Nat.sub_self]
      rfl
    · have hsame : after + (count + 1) = after + 1 + count := by omega
      have hsub : min (after + 1 + count) (boundary - 1) - after =
          (min (after + 1 + count) (boundary - 1) - (after + 1)) + 1 := by omega
      rw [if_neg hmet, if_pos (Nat.lt_succ_self after), ih _ (by omega), hsame, hsub,
        storedEvents_cons]
      rfl

/-- What the load holds while it is collected: the events between its start and `after`. -/
structure Collects (log : ℕ → WorkspaceEvent) (b : ℕ) (load : PreviousHistoryLoad) : Prop where
  boundary : load.boundary = b
  start : b - 101 ≤ load.after
  buffer : load.buffer = UiState.pushAll (.new maxHistoryEvents)
    (storedEvents log (b - 101 + 1) (load.after - (b - 101)))
  done : load.done = true → load.after = b - 1
  undone : load.done = false → load.after + 1 < b

theorem collects_new {b : ℕ} (hb : 0 < b) : Collects log b (new b) := by
  refine ⟨rfl, Nat.le_refl _, ?_, ?_, ?_⟩
  · simp [new, storedEvents, UiState.pushAll]
  · intro hdone
    simp only [new, decide_eq_true_eq] at hdone ⊢
    omega
  · intro hdone
    simp only [new, decide_eq_false_iff_not] at hdone ⊢
    omega

/-- An honest page is never refused, and the load gets on. -/
theorem Collects.absorb (h : GapFree log workspace) {b latest : ℕ} {load : PreviousHistoryLoad}
    {page : HistoryPage} (hload : Collects log b load) (hopen : load.done = false)
    (hlatest : b ≤ latest + 1) (hpage : HonestPage log workspace latest load.after page) :
    ∃ load', load.absorb page = .ok load' ∧ Collects log b load' ∧
      (load'.done = false → load.after < load'.after) := by
  obtain ⟨hboundary, hstart, hbuffer, -, hundone⟩ := hload
  have hundone := hundone hopen
  obtain ⟨count, hpos, hmax, hstored, hrun, hcursor⟩ := hpage.events
  have hmore := hpage.hasMore
  rw [hcursor] at hmore
  have htake := take_spec h count load.buffer (Nat.le_of_lt hundone)
  have hreach : load.after < min (load.after + count) (b - 1) := by omega
  generalize hupto : min (load.after + count) (b - 1) = upto at hreach htake
  -- the events of the page that are taken follow those that are held
  have hjoin : UiState.pushAll load.buffer (storedEvents log (load.after + 1) (upto - load.after)) =
      UiState.pushAll (.new maxHistoryEvents)
        (storedEvents log (b - 101 + 1) (upto - (b - 101))) := by
    have hfirst : load.after + 1 = b - 101 + 1 + (load.after - (b - 101)) := by omega
    have hcount : upto - (b - 101) = load.after - (b - 101) + (upto - load.after) := by omega
    rw [hbuffer, UiState.pushAll, UiState.pushAll, UiState.pushAll, ← List.foldl_append, hfirst,
      storedEvents_append, hcount]
  rw [hjoin] at htake
  have hvalid : (!validHistoryPage page page.workspace || decide (page.nextCursor < load.after)) =
      false := by
    rw [hpage.workspace, hpage.valid h, hcursor]
    simp
  have hstart' : b - 101 ≤ upto := by omega
  unfold PreviousHistoryLoad.absorb
  rw [hopen, hvalid, hboundary, hrun, htake, hcursor]
  simp only [Bool.false_eq_true, ↓reduceIte]
  cases hdone : decide (b ≤ load.after + count) || !page.hasMore ||
      decide (b - 1 ≤ load.after + count) with
  | true =>
    refine ⟨_, rfl, ⟨rfl, hstart', rfl, ?_, nofun⟩, nofun⟩
    intro _
    show upto = b - 1
    simp only [Bool.or_eq_true, decide_eq_true_eq, Bool.not_eq_true'] at hdone
    rcases hdone with (hover | hlast) | hend
    · omega
    · have hnone : ¬load.after + count < latest := by
        intro hlt
        rw [hmore.mpr hlt] at hlast
        cases hlast
      omega
    · omega
  | false =>
    simp only [Bool.or_eq_false_iff, decide_eq_false_iff_not] at hdone
    have hnext : upto = load.after + count := by omega
    have hfar : max upto (load.after + count) = upto := by omega
    have hgoes : ¬upto ≤ load.after := by omega
    rw [hfar]
    simp only [Bool.false_eq_true, ↓reduceIte, hgoes]
    refine ⟨_, rfl, ⟨rfl, hstart', rfl, nofun, ?_⟩, ?_⟩
    · intro _
      show upto + 1 < b
      omega
    · intro _
      exact hreach

theorem loop_mono {pager : ℕ → ℕ → HistoryPage} {fuel more n : ℕ} {load : PreviousHistoryLoad}
    {result : Except StateError PreviousHistoryLoad} (h : loop pager fuel n load = some result)
    (hle : fuel ≤ more) : loop pager more n load = some result := by
  induction fuel generalizing more n load with
  | zero =>
    unfold loop at h
    split at h
    · next hdone =>
      cases more with
      | zero => simpa [loop, hdone] using h
      | succ more => simpa [loop, hdone] using h
    · cases h
  | succ fuel ih =>
    obtain ⟨more, rfl⟩ := Nat.exists_eq_add_of_le' (show 1 ≤ more by omega)
    unfold loop at h ⊢
    split at h
    · next hdone => simpa [hdone] using h
    · next hdone =>
      rw [if_neg hdone]
      cases habsorb : load.absorb (pager n load.after) with
      | error error =>
        rw [habsorb] at h
        exact h
      | ok next =>
        rw [habsorb] at h
        exact ih h (by omega)

/-- The loop of the reader ends within the replies that the boundary leaves room for. -/
theorem Collects.loop (h : GapFree log workspace) {b latest : ℕ} {pager : ℕ → ℕ → HistoryPage}
    (hlatest : b ≤ latest + 1)
    (hpager : ∀ n after, after < latest →
      ∃ stored, latest ≤ stored ∧ HonestPage log workspace stored after (pager n after))
    {fuel n : ℕ} {load : PreviousHistoryLoad} (hload : Collects log b load)
    (hfuel : b - 1 - load.after ≤ fuel) :
    ∃ load', loop pager fuel n load = some (.ok load') ∧ Collects log b load' ∧
      load'.done = true := by
  induction fuel generalizing n load with
  | zero =>
    cases hdone : load.done with
    | true => exact ⟨load, by simp [PreviousHistoryLoad.loop, hdone], hload, hdone⟩
    | false =>
      have hundone := hload.undone hdone
      omega
  | succ fuel ih =>
    unfold PreviousHistoryLoad.loop
    cases hdone : load.done with
    | true => exact ⟨load, rfl, hload, hdone⟩
    | false =>
      have hundone := hload.undone hdone
      obtain ⟨stored, hle, hpage⟩ := hpager n load.after (by omega)
      obtain ⟨next, habsorb, hnext, hgoes⟩ :=
        hload.absorb h hdone (Nat.le_trans hlatest (Nat.succ_le_succ hle)) hpage
      simp only [Bool.false_eq_true, ↓reduceIte, habsorb]
      cases hend : next.done with
      | true =>
        refine ⟨next, ?_, hnext, hend⟩
        cases fuel <;> simp [PreviousHistoryLoad.loop, hend]
      | false =>
        have hgoes := hgoes hend
        exact ih hnext (by omega)

end PreviousHistoryLoad

/-- Loading the previous page ends, is never refused, and holds exactly the events before the
boundary, which the console then shows. -/
theorem previous_page_exact [EventSize] {log : ℕ → WorkspaceEvent} {workspace : WorkspaceName}
    (h : GapFree log workspace) {b latest : ℕ} (hb : 1 < b) (hlatest : b ≤ latest + 1)
    (hroom : EventBuffer.bytesOf (storedEvents log (max 1 (b - 100)) (b - max 1 (b - 100))) ≤
      maxEventBytes)
    {pager : ℕ → ℕ → HistoryPage}
    (hpager : ∀ n after, after < latest →
      ∃ stored, latest ≤ stored ∧ HonestPage log workspace stored after (pager n after)) :
    ∃ load, (∀ fuel, b ≤ fuel →
        PreviousHistoryLoad.loop pager fuel 0 (.new b) = some (.ok load)) ∧
      load.buffer.events = storedEvents log (max 1 (b - 100)) (b - max 1 (b - 100)) ∧
      ∀ (s : UiState) (ticket : ReadTicket), s.acceptsHistory ticket = true →
        s.chat.mode = .past → ticket.stamp.workspace = workspace →
        (s.applyPreviousPage ticket load).1 = .ok true ∧
          (s.applyPreviousPage ticket load).2.chat.buffer = load.buffer := by
  have hfirst : max 1 (b - 100) = b - 101 + 1 := by omega
  have hcount : b - max 1 (b - 100) = b - 1 - (b - 101) := by omega
  rw [hcount, hfirst] at hroom ⊢
  have hnew : PreviousHistoryLoad.Collects log b (.new b) :=
    PreviousHistoryLoad.collects_new (by omega)
  have hfuel : b - 1 - (PreviousHistoryLoad.new b).after ≤ b :=
    Nat.le_trans (Nat.sub_le _ _) (Nat.sub_le _ _)
  obtain ⟨load, hloop, hload, hdone⟩ := hnew.loop h hlatest hpager (n := 0) hfuel
  have hbuffer := hload.buffer
  rw [hload.done hdone] at hbuffer
  have hlength : b - 1 - (b - 101) ≤ maxHistoryEvents := by
    unfold maxHistoryEvents
    omega
  have hlimit : (EventBuffer.new maxHistoryEvents).limit = maxHistoryEvents := rfl
  have hsize : (EventBuffer.new maxHistoryEvents).events.length +
      (storedEvents log (b - 101 + 1) (b - 1 - (b - 101))).length ≤
        (EventBuffer.new maxHistoryEvents).limit := by
    simpa [hlimit] using hlength
  have hfits := EventBuffer.pushAll_fits (EventBuffer.new_exact _) hsize (by simpa using hroom)
  have hevents : load.buffer.events = storedEvents log (b - 101 + 1) (b - 1 - (b - 101)) := by
    rw [hbuffer, hfits.1]
    rfl
  refine ⟨load, fun fuel hfuel => PreviousHistoryLoad.loop_mono hloop hfuel, hevents, ?_⟩
  intro s ticket haccepts hpast hstamp
  have hforeign : (load.buffer.events.any fun event => event.workspace ≠ ticket.stamp.workspace ||
      event.seq = 0 || load.boundary ≤ event.seq) = false := by
    rw [List.any_eq_false, hevents]
    intro event hevent
    obtain ⟨n, hlow, hhigh, rfl⟩ := mem_storedEvents.mp hevent
    have hworkspace := h.workspace n (by omega)
    rw [h.seq, hworkspace, hstamp, hload.boundary]
    simp only [ne_eq, not_true_eq_false, decide_false, Bool.false_or, Bool.or_eq_true,
      decide_eq_true_eq]
    omega
  have hrun : contiguous (load.buffer.events.map WorkspaceEvent.seq) = true := by
    rw [hevents, h.seqs]
    exact contiguous_range' _ _
  have hzero : ¬b = 0 := by omega
  unfold UiState.applyPreviousPage
  rw [haccepts, hpast, hdone, hforeign, hrun, hload.boundary]
  simp [hzero]

namespace PreviousHistoryLoad.Sample

open Stream.Sample

/-- Every reply holds one event only. -/
def pager (_n after : ℕ) : HistoryPage :=
  { workspace, events := [chat (after + 1)], nextCursor := after + 1, hasMore := after + 1 < 5 }

theorem chat_gapFree : GapFree chat workspace := ⟨fun _ => rfl, fun _ _ => rfl⟩

theorem pager_honest (after : ℕ) (hafter : after < 5) (n : ℕ) :
    ∃ stored, 5 ≤ stored ∧ HonestPage chat workspace stored after (pager n after) := by
  refine ⟨5, le_rfl, rfl, ⟨1, Nat.one_pos, ?_, hafter, rfl, rfl⟩, ?_⟩
  · decide
  · simp [pager]

theorem previous_page_exact_sample :
    ∃ load, (∀ fuel, 4 ≤ fuel → loop pager fuel 0 (new 4) = some (.ok load)) ∧
      load.buffer.events = [chat 1, chat 2, chat 3] ∧
      (({ joined.state with chat.mode := .past }).applyPreviousPage
        { stamp := ⟨1, workspace⟩, revision := 0 } load).1 = .ok true := by
  obtain ⟨load, hloop, hevents, happly⟩ := previous_page_exact chat_gapFree (b := 4)
    (by decide) (by decide : 4 ≤ 5 + 1) (by decide)
    (fun n after hafter => pager_honest after hafter n)
  refine ⟨load, hloop, hevents, ?_⟩
  exact (happly _ { stamp := ⟨1, workspace⟩, revision := 0 } rfl rfl rfl).1

end PreviousHistoryLoad.Sample

end SessionRouter
