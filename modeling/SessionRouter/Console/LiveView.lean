import SessionRouter.Console.Previous
import Mathlib.Algebra.Order.BigOperators.Group.List
import Mathlib.Data.List.Sort

/-!
The live view of the chat: which recent pages fit what is shown already, and that the view is free
of gaps and disorder as long as they do.
-/

namespace SessionRouter

open EventBuffer

section

variable [EventSize] {log : ℕ → WorkspaceEvent} {workspace : WorkspaceName}

/-- The buffer can hold the event. -/
def small (event : WorkspaceEvent) : Bool := eventBytes event ≤ maxEventBytes

/-- The stored events behind `lo` and up to `hi` that the buffer can hold. -/
def slice (log : ℕ → WorkspaceEvent) (lo hi : ℕ) : List WorkspaceEvent :=
  (storedEvents log (lo + 1) (hi - lo)).filter small

section

variable {lo mid hi limit : ℕ}

theorem mem_slice {event : WorkspaceEvent} :
    event ∈ slice log lo hi ↔ small event = true ∧ ∃ n, lo < n ∧ n ≤ hi ∧ log n = event := by
  simp only [slice, List.mem_filter, mem_storedEvents]
  constructor
  · rintro ⟨⟨n, hlow, hhigh, hevent⟩, hsmall⟩
    exact ⟨hsmall, n, by omega, by omega, hevent⟩
  · rintro ⟨hsmall, n, hlow, hhigh, hevent⟩
    exact ⟨⟨n, by omega, by omega, hevent⟩, hsmall⟩

@[simp]
theorem slice_self : slice log lo lo = [] := by
  simp [slice, storedEvents]

theorem slice_append (h : lo ≤ mid) (h' : mid ≤ hi) :
    slice log lo mid ++ slice log mid hi = slice log lo hi := by
  have hmid : mid + 1 = lo + 1 + (mid - lo) := by omega
  have hcount : mid - lo + (hi - mid) = hi - lo := by omega
  rw [slice, slice, slice, ← List.filter_append, hmid, storedEvents_append, hcount]

theorem slice_one :
    slice log lo (lo + 1) = if small (log (lo + 1)) then [log (lo + 1)] else [] := by
  have hone : lo + 1 - lo = 1 := by omega
  rw [slice, hone]
  simp [storedEvents, List.filter_cons]

theorem slice_ascending (h : GapFree log workspace) :
    (slice log lo hi).Pairwise fun a b => a.seq < b.seq := by
  apply List.Pairwise.filter
  rw [storedEvents, List.pairwise_map]
  have hrange : (List.range' (lo + 1) (hi - lo)).Pairwise (· < ·) := List.pairwise_lt_range' 1
  apply hrange.imp
  intro a b hlt
  rwa [h.seq, h.seq]

/-- What is left of a slice when its oldest events are dropped is a slice. -/
theorem slice_suffix (hle : lo ≤ hi) {dropped kept : List WorkspaceEvent}
    (h : slice log lo hi = dropped ++ kept) :
    ∃ mid, lo ≤ mid ∧ mid ≤ hi ∧ dropped = slice log lo mid ∧ kept = slice log mid hi := by
  induction hle using Nat.decreasingInduction generalizing dropped with
  | self =>
    rw [slice_self] at h
    obtain ⟨rfl, rfl⟩ := List.nil_eq_append_iff.mp h
    exact ⟨hi, le_rfl, le_rfl, slice_self.symm, slice_self.symm⟩
  | of_succ lo hlt ih =>
    cases dropped with
    | nil => exact ⟨lo, le_rfl, Nat.le_of_lt hlt, slice_self.symm, h.symm⟩
    | cons first dropped =>
      rw [← slice_append (Nat.le_succ lo) hlt, slice_one] at h
      split at h
      · next hsmall =>
        obtain ⟨rfl, hrest⟩ := List.cons.inj h
        obtain ⟨mid, hlow, hhigh, hdropped, hkept⟩ := ih hrest
        refine ⟨mid, Nat.le_of_succ_le hlow, hhigh, ?_, hkept⟩
        rw [← slice_append (Nat.le_succ lo) hlow, slice_one, if_pos hsmall, hdropped]
        rfl
      · next hlarge =>
        obtain ⟨mid, hlow, hhigh, hdropped, hkept⟩ := ih h
        refine ⟨mid, Nat.le_of_succ_le hlow, hhigh, ?_, hkept⟩
        rw [← slice_append (Nat.le_succ lo) hlow, slice_one, if_neg hlarge, hdropped]
        rfl

/-- The events behind `lo` and up to `hi` fit into an empty buffer. -/
structure Room (log : ℕ → WorkspaceEvent) (limit lo hi : ℕ) : Prop where
  length : (slice log lo hi).length ≤ limit
  bytes : bytesOf (slice log lo hi) ≤ maxEventBytes

theorem Room.sub {lo' hi' : ℕ} (h : Room log limit lo hi) (hlo : lo ≤ lo') (hhi : hi' ≤ hi) :
    Room log limit lo' hi' := by
  by_cases hle : lo' ≤ hi'
  · have hsplit : slice log lo lo' ++ slice log lo' hi' ++ slice log hi' hi = slice log lo hi := by
      rw [slice_append hlo hle, slice_append (hlo.trans hle) hhi]
    have hlength := h.length
    have hbytes := h.bytes
    rw [← hsplit] at hlength hbytes
    simp only [List.length_append, bytesOf_append] at hlength hbytes
    exact ⟨by omega, by omega⟩
  · have hnone : hi' - lo' = 0 := by omega
    have hempty : slice log lo' hi' = [] := by
      rw [slice, hnone]
      rfl
    constructor
    · rw [hempty]
      exact Nat.zero_le _
    · rw [hempty]
      exact Nat.zero_le _

theorem Room.one (hlimit : 0 < limit) : Room log limit lo (lo + 1) := by
  constructor
  · rw [slice_one]
    split
    · exact hlimit
    · exact Nat.zero_le _
  · rw [slice_one]
    split
    · next hsmall => simpa [small] using hsmall
    · exact Nat.zero_le _

/-- The buffer holds the events behind `lo` and up to `hi`. -/
structure Held (log : ℕ → WorkspaceEvent) (limit : ℕ) (b : EventBuffer) (lo hi : ℕ) : Prop where
  limit : b.limit = limit
  exact : b.Exact
  events : b.events = slice log lo hi
  le : lo ≤ hi

variable {b : EventBuffer} {k : ℕ}

theorem Held.new (hlimit : limit ≤ maxLiveEvents) : Held log limit (.new limit) lo lo :=
  ⟨Nat.min_eq_left hlimit, new_exact _, slice_self.symm, le_rfl⟩

/-- An event that is too large leaves the buffer as it is. -/
theorem Held.skip (h : Held log limit b lo hi) (hlarge : small (log (hi + 1)) = false) :
    Held log limit b lo (hi + 1) := by
  refine ⟨h.limit, h.exact, ?_, Nat.le_succ_of_le h.le⟩
  rw [h.events, ← slice_append h.le (Nat.le_succ hi), slice_one, hlarge]
  simp

/-- The next event is held, and so are those behind `k` as long as there is room for them. -/
theorem Held.push (h : Held log limit b lo hi) (hlimit : 0 < limit) (hlo : lo ≤ k)
    (hroom : Room log limit k (hi + 1)) :
    ∃ lo', lo' ≤ k ∧ Held log limit (b.push (log (hi + 1))) lo' (hi + 1) := by
  cases hsmall : small (log (hi + 1)) with
  | false =>
    have hlarge : maxEventBytes < eventBytes (log (hi + 1)) := by
      simpa [small] using hsmall
    obtain ⟨hevents, hbytes, hsame⟩ := push_large (b := b) hlarge
    obtain ⟨hheld, hexact, hslice, hle⟩ := h.skip hsmall
    refine ⟨lo, hlo, hsame.trans hheld, ?_, hevents.trans hslice, hle⟩
    unfold Exact
    rw [hbytes, hevents]
    exact hexact
  | true =>
    have hfits : eventBytes (log (hi + 1)) ≤ maxEventBytes := by simpa [small] using hsmall
    obtain ⟨dropped, kept, hsplit, hevents, hexact, hsame, hkeeps⟩ :=
      push_spec h.exact (by rw [h.limit]; omega) hfits
    -- the events behind `k`, or none of the old ones when `k` lies behind the buffer
    have hmin : lo ≤ min k hi := by
      have := h.le
      omega
    have hnew : Room log limit (min k hi) (hi + 1) := by
      by_cases hk : k ≤ hi
      · rwa [Nat.min_eq_left hk]
      · rw [Nat.min_eq_right (by omega)]
        exact Room.one hlimit
    have hlast : slice log (min k hi) (hi + 1) = slice log (min k hi) hi ++ [log (hi + 1)] := by
      rw [← slice_append (Nat.min_le_right k hi) (Nat.le_succ hi), slice_one, if_pos hsmall]
    have hlength := hnew.length
    have hbytes := hnew.bytes
    rw [hlast, List.length_append, List.length_singleton] at hlength
    rw [hlast, bytesOf_append, bytesOf_cons, bytesOf_nil] at hbytes
    obtain ⟨more, hmore⟩ := hkeeps (slice log lo (min k hi)) (slice log (min k hi) hi)
      (by rw [h.events, slice_append hmin (Nat.min_le_right k hi)]) (by rw [h.limit]; omega) hbytes
    have hdropped : dropped ++ more = slice log lo (min k hi) := by
      rw [h.events, hmore, ← slice_append hmin (Nat.min_le_right k hi), ← List.append_assoc]
        at hsplit
      exact (List.append_cancel_right hsplit).symm
    obtain ⟨mid, hlow, hhigh, -, hkept⟩ := slice_suffix hmin hdropped.symm
    refine ⟨mid, hhigh.trans (Nat.min_le_left k hi), hsame.trans h.limit, hexact, ?_, by omega⟩
    rw [hevents, hmore, hkept, slice_append hhigh (Nat.min_le_right k hi),
      ← slice_append (by omega : mid ≤ hi) (Nat.le_succ hi), slice_one, if_pos hsmall]

/-- A run of stored events is pushed. -/
theorem Held.pushEvents {count : ℕ} (h : Held log limit b lo hi) (hlimit : 0 < limit)
    (hlo : lo ≤ k) (hroom : Room log limit k (hi + count)) :
    ∃ lo', lo' ≤ k ∧
      Held log limit (UiState.pushAll b (storedEvents log (hi + 1) count)) lo' (hi + count) := by
  induction count generalizing b lo hi with
  | zero => exact ⟨lo, hlo, h⟩
  | succ count ih =>
    have hnext : hi + (count + 1) = hi + 1 + count := by omega
    obtain ⟨lo', hlo', hheld⟩ := h.push hlimit hlo (hroom.sub le_rfl (by omega))
    rw [hnext] at hroom ⊢
    exact ih hheld hlo' hroom

/-- A slice is pushed. -/
theorem Held.pushSlice {hi' : ℕ} (h : Held log limit b lo hi) (hlimit : 0 < limit) (hlo : lo ≤ k)
    (hle : hi ≤ hi') (hroom : Room log limit k hi') :
    ∃ lo', lo' ≤ k ∧ Held log limit (UiState.pushAll b (slice log hi hi')) lo' hi' := by
  induction hle using Nat.decreasingInduction generalizing b lo with
  | self =>
    rw [slice_self]
    exact ⟨lo, hlo, h⟩
  | of_succ hi hlt ih =>
    rw [← slice_append (Nat.le_succ hi) hlt, slice_one]
    split
    · next hsmall =>
      obtain ⟨lo', hlo', hheld⟩ := h.push hlimit hlo (hroom.sub le_rfl hlt)
      exact ih hheld hlo'
    · next hlarge => exact ih (h.skip (by simpa using hlarge)) hlo

end

/-- The events ascend, and between two of them only those are missing that no buffer can hold. -/
structure Gapless (log : ℕ → WorkspaceEvent) (events : List WorkspaceEvent) : Prop where
  ascending : events.Pairwise fun a b => a.seq < b.seq
  whole : ∀ a ∈ events, ∀ b ∈ events, ∀ n, a.seq < n → n < b.seq →
    log n ∈ events ∨ maxEventBytes < eventBytes (log n)

theorem gapless_slice (h : GapFree log workspace) (lo hi : ℕ) : Gapless log (slice log lo hi) := by
  refine ⟨slice_ascending h, ?_⟩
  intro a ha b hb n hlow hhigh
  obtain ⟨-, i, hi, -, rfl⟩ := mem_slice.mp ha
  obtain ⟨-, j, -, hj, rfl⟩ := mem_slice.mp hb
  rw [h.seq] at hlow hhigh
  by_cases hlarge : maxEventBytes < eventBytes (log n)
  · exact Or.inr hlarge
  · left
    exact mem_slice.mpr ⟨by simpa [small] using hlarge, n, by omega, by omega, rfl⟩

/-- What the chat shows: in the live mode a stretch of the history that reaches the live cursor. -/
structure ChatState.Fair (log : ℕ → WorkspaceEvent) (c : ChatState) : Prop where
  live : c.mode = .live → ∃ lo hi, Held log maxLiveEvents c.buffer lo hi ∧
    ∀ k, c.appliedCursor = some k → lo ≤ k ∧ k ≤ hi ∧ Room log maxLiveEvents k hi
  past : c.mode = .past → ∃ lo hi, c.buffer.events = slice log lo hi

/-- A recent page fits what the chat shows: it begins behind the live cursor at the latest, and
what follows its end, up to the live cursor and the last event shown, is shown already. -/
structure Meets (log : ℕ → WorkspaceEvent) (c : ChatState) (k : ℕ) (page : HistoryPage) : Prop where
  begins : ∀ first ∈ page.events.head?, first.seq ≤ k + 1
  shown : ∀ n, page.nextCursor < n → (n ≤ k ∨ ∃ e ∈ c.buffer.events, n ≤ e.seq) →
    small (log n) = true → log n ∈ c.buffer.events
  room : ∀ e ∈ c.buffer.events, Room log maxLiveEvents k e.seq

/-- An honest reply to a request for recent events, which a response can hold. It is empty when
nothing has been stored yet. -/
structure HonestRecent (log : ℕ → WorkspaceEvent) (workspace : WorkspaceName) (page : HistoryPage) :
    Prop where
  workspace : page.workspace = workspace
  events : ∃ before count, (count = 0 → before = 0) ∧ count ≤ maxHistoryEvents ∧
    page.events = storedEvents log (before + 1) count ∧ page.nextCursor = before + count
  bytes : bytesOf page.events ≤ maxEventBytes

namespace ChatState

variable {c c' : ChatState}

theorem Fair.congr (h : c.Fair log) (hbuffer : c'.buffer = c.buffer) (hmode : c'.mode = c.mode)
    (hcursor : c'.appliedCursor = c.appliedCursor) : c'.Fair log := by
  constructor
  · rw [hmode, hbuffer, hcursor]
    exact h.live
  · rw [hmode, hbuffer]
    exact h.past

theorem Fair.empty (limit : ℕ) (hmode : c.mode = .past) (hbuffer : c.buffer = .new limit) :
    c.Fair log := by
  constructor
  · rw [hmode]
    nofun
  · intro _
    refine ⟨0, 0, ?_⟩
    rw [hbuffer, slice_self]
    rfl

theorem Fair.fresh (hmode : c.mode = .live) (hbuffer : c.buffer = .new maxLiveEvents) :
    c.Fair log := by
  constructor
  · intro _
    refine ⟨c.appliedCursor.getD 0, c.appliedCursor.getD 0, ?_, ?_⟩
    · rw [hbuffer]
      exact Held.new le_rfl
    · intro k hk
      rw [hk]
      refine ⟨le_rfl, le_rfl, ?_, ?_⟩
      · rw [Option.getD_some, slice_self]
        exact Nat.zero_le _
      · rw [Option.getD_some, slice_self]
        exact Nat.zero_le _
  · rw [hmode]
    nofun

omit [EventSize] in
theorem showEvent_past [EventSize] (hmode : c.mode = .past) (event : WorkspaceEvent) :
    (UiState.showEvent c event).mode = .past ∧ (UiState.showEvent c event).buffer = c.buffer := by
  unfold UiState.showEvent
  rw [hmode]
  exact ⟨rfl, rfl⟩

theorem showEvent_live (hmode : c.mode = .live) (event : WorkspaceEvent) :
    (UiState.showEvent c event).mode = .live ∧
      (UiState.showEvent c event).appliedCursor = c.appliedCursor ∧
      (UiState.showEvent c event).buffer =
        if c.buffer.events.any fun old => old.seq = event.seq then c.buffer
        else c.buffer.push event := by
  unfold UiState.showEvent
  rw [hmode]
  cases c.follow with
  | true =>
    simp only [↓reduceIte]
    split <;> exact ⟨rfl, rfl, rfl⟩
  | false =>
    simp only [Bool.false_eq_true, ↓reduceIte]
    split <;> exact ⟨rfl, rfl, rfl⟩

/-- The event behind the live cursor is shown. -/
theorem Fair.showEvent (hlog : GapFree log workspace) (h : c.Fair log) {k : ℕ}
    (hk : c.appliedCursor = some k) (hbuffer : c'.buffer = c.buffer) (hmode : c'.mode = c.mode)
    (hcursor : c'.appliedCursor = some (k + 1)) :
    (UiState.showEvent c' (log (k + 1))).Fair log := by
  cases hkind : c.mode with
  | past =>
    obtain ⟨hmode', hbuffer'⟩ := showEvent_past (hmode.trans hkind) (log (k + 1))
    constructor
    · rw [hmode']
      nofun
    · intro _
      rw [hbuffer', hbuffer]
      exact h.past hkind
  | live =>
    obtain ⟨lo, hi, hheld, hreach⟩ := h.live hkind
    obtain ⟨hlo, hhi, hroom⟩ := hreach k hk
    obtain ⟨hmode', hcursor', hbuffer'⟩ := showEvent_live (hmode.trans hkind) (log (k + 1))
    rw [hcursor] at hcursor'
    rw [hbuffer] at hbuffer'
    constructor
    · intro _
      rw [hbuffer', hcursor']
      -- the event is among those a recent page has shown, or follows the last one
      by_cases hbehind : k + 1 ≤ hi
      · have hreach' : ∀ k', some (k + 1) = some k' →
            lo ≤ k' ∧ k' ≤ hi ∧ Room log maxLiveEvents k' hi := by
          rintro k' ⟨⟩
          exact ⟨Nat.le_succ_of_le hlo, hbehind, hroom.sub (Nat.le_succ k) le_rfl⟩
        split
        · exact ⟨lo, hi, hheld, hreach'⟩
        · next hnew =>
          have hlarge : maxEventBytes < eventBytes (log (k + 1)) := by
            by_contra hfits
            apply hnew
            rw [List.any_eq_true]
            refine ⟨log (k + 1), ?_, by simp⟩
            rw [hheld.events]
            exact mem_slice.mpr ⟨by simpa [small] using hfits, k + 1, by omega, hbehind, rfl⟩
          obtain ⟨hevents, hbytes, hlimit⟩ := push_large (b := c.buffer) hlarge
          refine ⟨lo, hi, ⟨hlimit.trans hheld.limit, ?_, hevents.trans hheld.events, hheld.le⟩,
            hreach'⟩
          unfold Exact
          rw [hbytes, hevents]
          exact hheld.exact
      · obtain rfl : k = hi := by omega
        have hany : ¬(c.buffer.events.any fun old => old.seq = (log (k + 1)).seq) = true := by
          rw [List.any_eq_true]
          rintro ⟨old, hold, heq⟩
          rw [hheld.events] at hold
          obtain ⟨-, n, -, hn, rfl⟩ := mem_slice.mp hold
          simp only [hlog.seq, decide_eq_true_eq] at heq
          omega
        rw [if_neg hany]
        obtain ⟨lo', hlo', hpush⟩ := hheld.push (k := k) (by decide) hlo (Room.one (by decide))
        refine ⟨lo', k + 1, hpush, ?_⟩
        rintro k' ⟨⟩
        exact ⟨by omega, le_rfl, (Room.one (by decide)).sub (Nat.le_succ k) le_rfl⟩
    · rw [hmode']
      nofun

end ChatState

namespace UiState

variable {s : UiState}

/-- What an event does to the chat. -/
theorem applyEvent_chat (s : UiState) (stamp : WorkspaceStamp) (event : WorkspaceEvent) :
    ((s.applyEvent stamp event).2.chat.buffer = s.chat.buffer ∧
      (s.applyEvent stamp event).2.chat.mode = s.chat.mode ∧
      (s.applyEvent stamp event).2.chat.appliedCursor = s.chat.appliedCursor) ∨
    ∃ k, s.chat.appliedCursor = some k ∧ event.seq = k + 1 ∧
      (s.applyEvent stamp event).2.chat =
        showEvent { s.chat with appliedCursor := some event.seq } event := by
  have hfinish : ∀ (s' : UiState) (refresh : Bool), s'.chat = s.chat →
      (s'.finishEvent event refresh).2.chat =
        showEvent { s.chat with appliedCursor := some event.seq } event := by
    intro s' refresh hchat
    have hframe := (settleRequest_frame s' event).2
    simp only [finishEvent, hframe, hchat]
  unfold applyEvent
  split
  · exact .inl ⟨rfl, rfl, rfl⟩
  split
  · exact .inl ⟨rfl, rfl, rfl⟩
  cases hcursor : s.chat.appliedCursor with
  | none => exact .inl ⟨rfl, rfl, hcursor⟩
  | some k =>
    dsimp only
    split
    · exact .inl ⟨rfl, rfl, hcursor⟩
    · split
      · exact .inl ⟨rfl, rfl, hcursor⟩
      · next hnext =>
        have hnext := not_not.mp hnext
        split
        · split
          · next taskEvent _ =>
            exact .inr ⟨k, rfl, hnext, hfinish _ _ (observeTaskEvent_frame s taskEvent).2⟩
          · exact .inl ⟨rfl, rfl, hcursor⟩
        · exact .inr ⟨k, rfl, hnext, hfinish s false rfl⟩

theorem applyEvent_fair (hlog : GapFree log workspace) (h : s.chat.Fair log)
    (stamp : WorkspaceStamp) {event : WorkspaceEvent} (hstored : Stored log event) :
    (s.applyEvent stamp event).2.chat.Fair log := by
  rcases applyEvent_chat s stamp event with ⟨hbuffer, hmode, hcursor⟩ | ⟨k, hk, hseq, hchat⟩
  · exact h.congr hbuffer hmode hcursor
  · have hevent : event = log (k + 1) := by
      rw [← hseq]
      exact hstored.2.symm
    rw [hchat, hseq, hevent]
    exact h.showEvent hlog hk rfl rfl rfl

theorem applyEvents_fair (hlog : GapFree log workspace) (stamp : WorkspaceStamp)
    {events : List WorkspaceEvent} (hstored : ∀ event ∈ events, Stored log event)
    (h : s.chat.Fair log) : (s.applyEvents stamp events).2.chat.Fair log := by
  induction events generalizing s with
  | nil => exact h
  | cons event events ih =>
    have hhead := applyEvent_fair hlog h stamp (hstored event (by simp))
    exact ih (fun e he => hstored e (by simp [he])) hhead

omit [EventSize] in
/-- The number of the last event, or zero. -/
theorem last_of_ascending {events : List WorkspaceEvent}
    (h : events.Pairwise fun a b => a.seq < b.seq) :
    ∃ q, (∀ e ∈ events, e.seq ≤ q) ∧ (q = 0 ∨ ∃ e ∈ events, e.seq = q) := by
  rcases List.eq_nil_or_concat events with rfl | ⟨init, last, rfl⟩
  · exact ⟨0, fun e he => absurd he List.not_mem_nil, Or.inl rfl⟩
  · rw [List.concat_eq_append] at h ⊢
    refine ⟨last.seq, ?_, Or.inr ⟨last, List.mem_concat_self, rfl⟩⟩
    intro e he
    rcases List.mem_append.mp he with hinit | hone
    · exact Nat.le_of_lt ((List.pairwise_append.mp h).2.2 e hinit last List.mem_cons_self)
    · rw [List.mem_singleton.mp hone]

/-- The kept events are those between the end of the page and the last event of interest. -/
theorem kept_events (hlog : GapFree log workspace) {c : ChatState} {lo hi k : ℕ}
    {page : HistoryPage} (hevents : c.buffer.events = slice log lo hi) (h : Meets log c k page) :
    ∃ last, page.nextCursor ≤ last ∧ k ≤ last ∧
      (c.buffer.events.filter fun event => page.nextCursor < event.seq) =
        slice log page.nextCursor last ∧
      (Room log maxLiveEvents k page.nextCursor → Room log maxLiveEvents k last) := by
  have hshown : c.buffer.events.Pairwise fun a b => a.seq < b.seq := by
    rw [hevents]
    exact slice_ascending hlog
  obtain ⟨q, hall, hlast⟩ := last_of_ascending hshown
  refine ⟨max page.nextCursor (max k q), by omega, by omega, ?_, ?_⟩
  · have hinj : ∀ a b : WorkspaceEvent, a.seq < b.seq → ¬b.seq < a.seq := fun _ _ h h' => by omega
    have : Std.Antisymm fun a b : WorkspaceEvent => a.seq < b.seq :=
      ⟨fun a b h h' => absurd h' (hinj a b h)⟩
    have : Std.Irrefl fun a b : WorkspaceEvent => a.seq < b.seq := ⟨fun a => lt_irrefl a.seq⟩
    apply (hshown.filter _).eq_of_mem_iff (slice_ascending hlog)
    intro e
    rw [List.mem_filter, mem_slice]
    simp only [decide_eq_true_eq]
    constructor
    · rintro ⟨hmem, hbehind⟩
      have hle := hall e hmem
      rw [hevents] at hmem
      obtain ⟨hsmall, n, -, -, rfl⟩ := mem_slice.mp hmem
      rw [hlog.seq] at hbehind hle
      exact ⟨hsmall, n, hbehind, by omega, rfl⟩
    · rintro ⟨hsmall, n, hbehind, hle, rfl⟩
      rw [hlog.seq]
      refine ⟨h.shown n hbehind ?_ hsmall, hbehind⟩
      by_cases hcursor : n ≤ k
      · exact Or.inl hcursor
      · right
        rcases hlast with rfl | ⟨e, he, rfl⟩
        · omega
        · exact ⟨e, he, by omega⟩
  · intro hroom
    rcases hlast with rfl | ⟨e, he, rfl⟩
    · by_cases hle : k ≤ page.nextCursor
      · have hsame : max page.nextCursor (max k 0) = page.nextCursor := by omega
        rwa [hsame]
      · have hsame : max page.nextCursor (max k 0) = k := by omega
        rw [hsame]
        exact (Room.one (by decide)).sub le_rfl (Nat.le_succ k)
    · have hshown := h.room e he
      rcases Nat.le_total page.nextCursor (max k e.seq) with hle | hle
      · rw [Nat.max_eq_right hle]
        rcases Nat.le_total k e.seq with hle' | hle'
        · rwa [Nat.max_eq_right hle']
        · rw [Nat.max_eq_left hle']
          exact (Room.one (by decide)).sub le_rfl (Nat.le_succ k)
      · rwa [Nat.max_eq_left hle]

/-- A recent page that meets what is shown keeps the live view whole. -/
theorem applyRecentPage_fair (hlog : GapFree log workspace) (h : s.chat.Fair log)
    {ticket : ReadTicket} {page : HistoryPage} (hpage : HonestRecent log workspace page)
    (hmeets : s.acceptsHistory ticket = true → ∀ k, s.chat.appliedCursor = some k →
      Meets log s.chat k page) :
    (s.applyRecentPage ticket page).2.chat.Fair log := by
  obtain ⟨before, count, hempty, hmax, hevents, hnext⟩ := hpage.events
  unfold applyRecentPage
  split
  · exact h
  next haccepts =>
  split
  · exact h
  dsimp only
  cases hcursor : s.chat.appliedCursor with
  | none =>
    apply applyEvents_fair hlog ticket.stamp
    · intro event hevent
      rw [hevents] at hevent
      obtain ⟨n, hn, -, rfl⟩ := mem_storedEvents.mp hevent
      constructor
      · rw [hlog.seq]
        omega
      · rw [hlog.seq]
    · exact .fresh rfl rfl
  | some k =>
    have hmeets := hmeets (by simpa using haccepts) k hcursor
    have hbegins : before ≤ k := by
      rcases Nat.eq_zero_or_pos count with hzero | hpos
      · rw [hempty hzero]
        exact Nat.zero_le k
      obtain ⟨more, rfl⟩ := Nat.exists_eq_add_of_lt hpos
      have hfirst := hmeets.begins (log (before + 1)) (by
        rw [hevents, Nat.zero_add, storedEvents_cons]
        rfl)
      rw [hlog.seq] at hfirst
      omega
    have hroom : Room log maxLiveEvents k page.nextCursor := by
      have hwhole : Room log maxLiveEvents before page.nextCursor := by
        have hsub : (slice log before page.nextCursor).Sublist page.events := by
          have hcount : before + count - before = count := by omega
          rw [slice, hnext, hcount, hevents]
          exact List.filter_sublist
        constructor
        · have hlength := hsub.length_le
          rw [hevents, storedEvents_length] at hlength
          unfold maxLiveEvents
          unfold maxHistoryEvents at hmax
          omega
        · exact Nat.le_trans ((hsub.map eventBytes).sum_le_sum fun _ _ => Nat.zero_le _)
            hpage.bytes
      exact hwhole.sub hbegins le_rfl
    have htake : page.events.take maxPageLimit = page.events := by
      apply List.take_of_length_le
      rw [hevents, storedEvents_length]
      exact hmax
    have hkept : ∃ lo hi, s.chat.buffer.events = slice log lo hi := by
      cases hmode : s.chat.mode with
      | live =>
        obtain ⟨lo, hi, hheld, -⟩ := h.live hmode
        exact ⟨lo, hi, hheld.events⟩
      | past => exact h.past hmode
    obtain ⟨lo, hi, hkept⟩ := hkept
    obtain ⟨last, hend, hreach, hfilter, hlast⟩ := kept_events hlog hkept hmeets
    have hnew : Held log maxLiveEvents (.new maxLiveEvents) before before := Held.new le_rfl
    rw [hnext] at hroom
    obtain ⟨lo₁, hlo₁, hheld₁⟩ := hnew.pushEvents (by decide) hbegins hroom
    rw [← hnext] at hroom
    rw [← hnext, ← hevents] at hheld₁
    obtain ⟨lo₂, hlo₂, hheld₂⟩ := hheld₁.pushSlice (by decide) hlo₁ hend (hlast hroom)
    rw [← hfilter] at hheld₂
    rw [htake]
    constructor
    · intro _
      refine ⟨lo₂, last, hheld₂, ?_⟩
      intro k' hk'
      cases hk'
      exact ⟨hlo₂, hreach, hlast hroom⟩
    · nofun

/-- A buffer that events were pushed into holds a stretch of the history. -/
theorem pushAll_slice {limit before : ℕ} (hlimit : 0 < limit) (hmax : limit ≤ maxLiveEvents)
    (count : ℕ) : ∃ lo hi,
      (pushAll (.new limit) (storedEvents log (before + 1) count)).events = slice log lo hi := by
  have hnew : Held log limit (.new limit) before before := Held.new hmax
  have hroom : Room log limit (before + count) (before + count) :=
    (Room.one hlimit).sub le_rfl (Nat.le_succ _)
  obtain ⟨lo, -, hheld⟩ := hnew.pushEvents hlimit (Nat.le_add_right before count) hroom
  exact ⟨lo, _, hheld.events⟩

theorem applyPastPage_fair (h : s.chat.Fair log) (ticket : ReadTicket) {page : HistoryPage}
    {before count : ℕ} (hmax : count ≤ maxHistoryEvents)
    (hevents : page.events = storedEvents log (before + 1) count) :
    (s.applyPastPage ticket page).2.chat.Fair log := by
  unfold applyPastPage
  split
  · exact h
  split
  · exact h
  dsimp only
  constructor
  · nofun
  · intro _
    have htake : page.events.take maxHistoryEvents = storedEvents log (before + 1) count := by
      rw [hevents]
      apply List.take_of_length_le
      rwa [storedEvents_length]
    rw [htake]
    exact pushAll_slice (by decide) (by decide) count

theorem applyPreviousPage_fair (h : s.chat.Fair log) (ticket : ReadTicket)
    {load : PreviousHistoryLoad} (hload : ∃ lo hi, load.buffer.events = slice log lo hi) :
    (s.applyPreviousPage ticket load).2.chat.Fair log := by
  unfold applyPreviousPage
  split
  · exact h
  next hpast =>
  split
  · exact h
  dsimp only
  simp only [Bool.or_eq_true, decide_eq_true_eq, not_or, not_not] at hpast
  constructor
  · intro hlive
    rw [hpast.2] at hlive
    cases hlive
  · exact fun _ => hload

end UiState

namespace StreamInput

/-- What an input carries comes from an honest router. -/
def Honest (log : ℕ → WorkspaceEvent) (workspace : WorkspaceName) : StreamInput → Prop
  | .event e => UiState.Stored log e
  | .readDone _ (.history page) => HonestRecent log workspace page
  | .readDone _ (.past page) => ∃ before count, count ≤ maxHistoryEvents ∧
      page.events = storedEvents log (before + 1) count
  | .readDone _ (.previous load) => ∃ b latest pager fuel, 0 < b ∧ b ≤ latest + 1 ∧
      (∀ n after, after < latest →
        ∃ stored, latest ≤ stored ∧ HonestPage log workspace stored after (pager n after)) ∧
      PreviousHistoryLoad.loop pager fuel 0 (.new b) = some (.ok load)
  | .readDone _ (.subscription events _ _) => ∀ e ∈ events, UiState.Stored log e
  | _ => True

/-- A recent page that is applied behind the live cursor meets what is shown. -/
def Meets (log : ℕ → WorkspaceEvent) (c : Controller) : StreamInput → Prop
  | .readDone index (.history page) => ∀ reader ticket k, c.readers[index]? = some reader →
      reader.ticket = some ticket → c.state.acceptsHistory ticket = true →
      c.state.chat.appliedCursor = some k → SessionRouter.Meets log c.state.chat k page
  | _ => True

end StreamInput

namespace PreviousHistoryLoad

/-- A load that an honest pager has completed holds a stretch of the history. -/
theorem loop_slice (hlog : GapFree log workspace) {b latest fuel : ℕ}
    {pager : ℕ → ℕ → HistoryPage} {load : PreviousHistoryLoad} (hb : 0 < b)
    (hlatest : b ≤ latest + 1)
    (hpager : ∀ n after, after < latest →
      ∃ stored, latest ≤ stored ∧ HonestPage log workspace stored after (pager n after))
    (h : loop pager fuel 0 (.new b) = some (.ok load)) :
    ∃ lo hi, load.buffer.events = slice log lo hi := by
  have hnew : Collects log b (new b) := collects_new hb
  have hfuel : b - 1 - (new b).after ≤ b := Nat.le_trans (Nat.sub_le _ _) (Nat.sub_le _ _)
  obtain ⟨load', hloop, hload, -⟩ := hnew.loop hlog hlatest hpager (n := 0) hfuel
  have hsame := (loop_mono h (Nat.le_max_left fuel b)).symm.trans
    (loop_mono hloop (Nat.le_max_right fuel b))
  cases hsame
  rw [hload.buffer]
  exact UiState.pushAll_slice (by decide) (by decide) _

end PreviousHistoryLoad

namespace Controller

variable {c : Controller}

theorem effects_fair (h : c.state.chat.Fair log) (stamp : WorkspaceStamp)
    (es : List EventApplied) : (c.effects stamp es).state.chat.Fair log := by
  rw [(effects_frame stamp es c).1]
  exact h

theorem subscriptionDone_fair (hlog : GapFree log workspace) (h : c.state.chat.Fair log)
    (stamp : WorkspaceStamp) (revision : ℕ) {events : List WorkspaceEvent} (next : ℕ) (live : Bool)
    (hstored : ∀ event ∈ events, UiState.Stored log event) :
    (c.subscriptionDone stamp revision events next live).2.state.chat.Fair log := by
  have happlied := UiState.applyEvents_fair hlog stamp hstored h
  unfold subscriptionDone
  dsimp only
  split
  · apply effects_fair
    unfold UiState.subscriptionLive
    split
    · exact happlied
    · exact happlied.congr rfl rfl rfl
  · exact effects_fair happlied _ _

theorem readDone_fair (hlog : GapFree log workspace) (h : c.state.chat.Fair log) {index : ℕ}
    {reader : Reader} {value : ReadValue} (hreader : c.readers[index]? = some reader)
    (hhonest : (StreamInput.readDone index value).Honest log workspace)
    (hmeets : (StreamInput.readDone index value).Meets log c) :
    (({ c with readers := c.readers.eraseIdx index } : Controller).readDone reader
      value).2.state.chat.Fair log := by
  unfold Controller.readDone
  split
  · exact h
  split
  · next ticket page hkind hticket =>
    have hpage := UiState.applyRecentPage_fair hlog h hhonest
      fun haccepts k hk => hmeets reader ticket k hreader hticket haccepts hk
    dsimp only
    cases hresult : c.state.applyRecentPage ticket page with
    | mk result state =>
      rw [hresult] at hpage
      cases result with
      | error error => exact hpage
      | ok es =>
        cases reader.fence.stamp with
        | none => exact hpage
        | some stamp => exact effects_fair hpage stamp es
  · next ticket page hkind hticket =>
    obtain ⟨before, count, hmax, hevents⟩ := hhonest
    exact UiState.applyPastPage_fair h ticket hmax hevents
  · next ticket load hkind hticket =>
    obtain ⟨b, latest, pager, fuel, hb, hlatest, hpager, hloop⟩ := hhonest
    exact UiState.applyPreviousPage_fair h ticket
      (PreviousHistoryLoad.loop_slice hlog hb hlatest hpager hloop)
  · next events next live hkind =>
    split
    · exact subscriptionDone_fair (c := { c with readers := c.readers.eraseIdx index }) hlog h _ _
        next live hhonest
    · exact h
  · exact h

theorem beginRead_fair (h : c.state.chat.Fair log) (kind : ReadKind) :
    (c.beginRead kind).state.chat.Fair log := by
  have hpast : c.state.chat.enterPast.Fair log := .empty maxHistoryEvents rfl rfl
  unfold beginRead
  split
  · exact h
  cases kind with
  | recent => exact h.congr rfl rfl rfl
  | previous =>
    dsimp only
    split
    · split
      · exact h
      · exact hpast.congr rfl rfl rfl
    · exact h
  | next =>
    dsimp only
    split
    · exact h
    · exact hpast.congr rfl rfl rfl
  | sync =>
    dsimp only
    split
    · exact h
    · exact h

omit [EventSize] in
theorem flushAck_state (c : Controller) (sent : Bool) : (c.flushAck sent).2.state = c.state := by
  unfold flushAck
  split
  · rfl
  · split
    · rfl
    · cases sent <;> rfl

theorem connection_fair (h : c.state.chat.Fair log) (next : Connection) :
    (c.connection next).state.chat.Fair log := by
  apply h.congr
  all_goals
    simp only [connection, UiState.connectionChanged]
    cases next.isConnected
    · rfl
    · by_cases hsame : c.state.connection = next
      · simp [hsame]
      · simp [hsame, UiState.invalidateReads]

/-- Every input keeps the view fair, as long as the recent pages meet it. -/
theorem react_fair (hlog : GapFree log workspace) (h : c.state.chat.Fair log) {input : StreamInput}
    (hhonest : input.Honest log workspace) (hmeets : input.Meets log c) :
    (c.react input).owner.state.chat.Fair log := by
  cases input with
  | connection next => exact connection_fair h next
  | event event =>
    simp only [react, Controller.event]
    split
    · exact h
    · rw [(effect_frame _ _ _).1]
      exact UiState.applyEvent_fair hlog h _ hhonest
  | beginRead kind => exact beginRead_fair h kind
  | readDone index value =>
    simp only [react]
    cases hreader : c.readers[index]? with
    | none => exact h
    | some reader => exact readDone_fair hlog h hreader hhonest hmeets
  | flushAck sent =>
    simp only [react]
    rw [flushAck_state]
    exact h
  | enterPast => exact .empty maxHistoryEvents rfl rfl
  | beginReturnToLive => exact .fresh rfl rfl
  | cancelReads | beginSwitch | switchRestored | replaceClient | edit => exact h.congr rfl rfl rfl

end Controller

namespace Stream

variable {stamp : WorkspaceStamp} {s : Stream}

/-- Every recent page of the run meets what is shown when it is applied. -/
def MeetingRun (log : ℕ → WorkspaceEvent) : Stream → List StreamInput → Prop
  | _, [] => True
  | s, input :: inputs => input.Meets log s.owner ∧ MeetingRun log (s.step input) inputs

theorem run_fair {inputs : List StreamInput} (hlog : GapFree log workspace)
    (h : s.ui.chat.Fair log) (hhonest : ∀ input ∈ inputs, input.Honest log workspace)
    (hmeets : MeetingRun log s inputs) : (s.run inputs).ui.chat.Fair log := by
  induction inputs generalizing s with
  | nil => exact h
  | cons input inputs ih =>
    have hstep := Controller.react_fair hlog h (hhonest input (by simp)) hmeets.1
    exact ih hstep (fun i hi => hhonest i (by simp [hi])) hmeets.2

/-- The live view has no gaps and no disorder in a run whose recent pages meet what is shown. -/
theorem live_view_gapless {c : Controller} (hjoined : Joined stamp c)
    (hlog : GapFree log stamp.workspace) {inputs : List StreamInput}
    (hhonest : ∀ input ∈ inputs, input.Honest log stamp.workspace)
    (hmeets : MeetingRun log { owner := c } inputs) :
    let s := run { owner := c } inputs
    s.ui.chat.mode = .live → Gapless log s.ui.chat.buffer.events := by
  intro s hlive
  have hfresh : c.state.chat.Fair log := by
    rw [hjoined.chat]
    exact .fresh rfl rfl
  have hfair : s.ui.chat.Fair log := run_fair (s := { owner := c }) hlog hfresh hhonest hmeets
  obtain ⟨lo, hi, hheld, -⟩ := hfair.live hlive
  rw [hheld.events]
  exact gapless_slice hlog lo hi

end Stream

end

namespace Stream.Sample

/-- A post whose content takes nearly half a response: three of them do not fit into one. -/
def post (seq : ℕ) : WorkspaceEvent :=
  { chat seq with content := some (.text (String.ofList (List.replicate 60000 '"'))) }

theorem post_gapFree : GapFree post workspace := ⟨fun _ => rfl, fun _ _ => rfl⟩

/-- The replies to two requests for recent events, the second one asked for by the return to the
live view, with live events before and one behind the second reply. -/
def returns (first : List WorkspaceEvent) (live : List ℕ) (second : List WorkspaceEvent)
    (next next' : ℕ) (hasMore : Bool) : List StreamInput :=
  .beginRead .recent ::
    .readDone 0 (.history { workspace, events := first, nextCursor := next, hasMore := false }) ::
    ((live.map fun seq => .event (post seq)) ++
      [.beginReturnToLive,
        .beginRead .recent,
        .event (post 4),
        .readDone 0 (.history { workspace, events := second, nextCursor := next', hasMore }),
        .event (post 5)])

theorem post_stored {seq : ℕ} (h : 0 < seq) : UiState.Stored post (post seq) :=
  ⟨Nat.ne_of_gt h, rfl⟩

theorem recent_honest (hasMore : Bool) (count : ℕ) (hmax : count ≤ 100) :
    HonestRecent post workspace
      { workspace, events := storedEvents post 1 count, nextCursor := count, hasMore } := by
  refine ⟨rfl, ⟨0, count, fun _ => rfl, hmax, rfl, (Nat.zero_add count).symm⟩, ?_⟩
  have hbytes : bytesOf (storedEvents post 1 count) = count := by
    simp [bytesOf, storedEvents, eventBytes, Function.comp_def]
  rw [hbytes]
  unfold maxEventBytes
  omega

theorem returns_honest (n m : ℕ) (hasMore : Bool) {live : List ℕ} (hlive : ∀ seq ∈ live, 0 < seq)
    (hn : n ≤ 100) (hm : m ≤ 100) :
    ∀ input ∈ returns (storedEvents post 1 n) live (storedEvents post 1 m) n m hasMore,
      input.Honest post workspace := by
  intro input hinput
  simp only [returns, List.mem_cons, List.mem_append, List.mem_map, List.not_mem_nil,
    or_false] at hinput
  rcases hinput with rfl | rfl | ⟨seq, hseq, rfl⟩ | rfl | rfl | rfl | rfl | rfl
  · trivial
  · exact recent_honest false n hn
  · exact post_stored (hlive seq hseq)
  · trivial
  · trivial
  · exact post_stored (by decide)
  · exact recent_honest hasMore m hm
  · exact post_stored (by decide)

theorem joined_joined : Joined ⟨1, workspace⟩ joined := ⟨rfl, rfl, rfl, nofun⟩

/-- The view of a workspace that begins without events. -/
theorem live_view_gapless_sample :
    let s := run { owner := joined } (returns [] [1, 2, 3] [post 1, post 2, post 3] 0 3 false)
    s.ui.chat.mode = .live ∧ s.ui.chat.buffer.events.map WorkspaceEvent.seq = [1, 2, 3, 4, 5] ∧
      Gapless post s.ui.chat.buffer.events := by
  have hmode : (run { owner := joined }
      (returns [] [1, 2, 3] [post 1, post 2, post 3] 0 3 false)).ui.chat.mode =
        .live := rfl
  refine ⟨hmode, rfl, live_view_gapless joined_joined post_gapFree
    (returns_honest 0 3 false (by decide) (by decide) (by decide)) ?_ hmode⟩
  refine ⟨trivial, ?_, trivial, trivial, trivial, trivial, trivial, trivial, ?_, trivial, trivial⟩
  · rintro reader ticket k - - - ⟨⟩
  · rintro reader ticket k - - - ⟨⟩
    refine ⟨?_, ?_, ?_⟩
    · rintro first ⟨⟩
      decide
    · intro n hlow hhigh _
      have hfour : n = 4 := by
        rcases hhigh with hle | ⟨e, he, hle⟩
        · exact Nat.le_antisymm hle hlow
        · obtain rfl := List.mem_singleton.mp he
          exact Nat.le_antisymm hle hlow
      subst hfour
      exact List.mem_singleton.mpr rfl
    · intro e he
      obtain rfl := List.mem_singleton.mp he
      exact (Room.one (by decide)).sub le_rfl (Nat.le_succ 4)

/-- A reply that was cut short before the live cursor leaves a gap. -/
theorem live_view_fails :
    (∀ hasMore, ∀ input ∈ returns [post 1, post 2] [3] [post 1, post 2] 2 2 hasMore,
      input.Honest post workspace) ∧
    let s := run { owner := joined } (returns [post 1, post 2] [3] [post 1, post 2] 2 2 true)
    s.ui.chat.mode = .live ∧ s.ui.chat.buffer.events.map WorkspaceEvent.seq = [1, 2, 4, 5] ∧
      ¬Gapless post s.ui.chat.buffer.events := by
  refine ⟨fun hasMore => returns_honest 2 2 hasMore (by decide) (by decide) (by decide),
    rfl, rfl, ?_⟩
  intro h
  have hevents : (run { owner := joined }
      (returns [post 1, post 2] [3] [post 1, post 2] 2 2 true)).ui.chat.buffer.events =
        [post 1, post 2, post 4, post 5] := rfl
  rw [hevents] at h
  rcases h.whole (post 2) (by simp) (post 4) (by simp) 3 (by decide) (by decide) with hin | hlarge
  · have hseq : (3 : ℕ) ∈ [1, 2, 4, 5] := List.mem_map_of_mem (f := WorkspaceEvent.seq) hin
    exact absurd hseq (by decide)
  · exact absurd hlarge (by decide)

end Stream.Sample

end SessionRouter
