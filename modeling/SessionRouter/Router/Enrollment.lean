import SessionRouter.Lib.Table
import SessionRouter.Lib.Window
import Mathlib.Data.List.Perm.Subperm

/-!
The sliding-window limit on enrollments: its queue of accepted calls, the count per peer beside
it, and what both let through over a whole sequence of calls.
-/

namespace SessionRouter

def enrollmentGlobalPerMinute : ℕ := 60
def enrollmentPeerPerMinute : ℕ := 10
def enrollmentPeerLimit : ℕ := 1024

/-- `ENROLLMENT_WINDOW`, in nanoseconds. -/
def enrollmentWindow : ℕ := 60 * 1000000000

/-- The accepted calls that have not expired, oldest first, and how many of them each peer made. -/
structure EnrollmentRate (Peer : Type) where
  recent : List (ℕ × Peer) := []
  peers : Table Peer ℕ := ∅

namespace EnrollmentRate

variable {Peer : Type} [DecidableEq Peer]

/-- One expired call leaves the count of its peer; `none` is the panic of a count that would go
below zero. -/
def forget (peers : Table Peer ℕ) (expiredPeer : Peer) : Option (Table Peer ℕ) :=
  match peers.get? expiredPeer with
  | none => some peers
  | some 0 => none
  | some (count + 1) =>
    some (if count = 0 then peers.remove expiredPeer else peers.put expiredPeer count)

/-- The loop at the head of `EnrollmentRate::record`. -/
def expire (now : ℕ) : List (ℕ × Peer) → Table Peer ℕ → Option (EnrollmentRate Peer)
  | [], peers => some { recent := [], peers := peers }
  | (instant, expiredPeer) :: rest, peers =>
    if enrollmentWindow ≤ now - instant then
      match forget peers expiredPeer with
      | some peers => expire now rest peers
      | none => none
    else some { recent := (instant, expiredPeer) :: rest, peers := peers }

/-- One of the three bounds is reached. -/
def full (rate : EnrollmentRate Peer) (peer : Peer) : Bool :=
  enrollmentGlobalPerMinute ≤ rate.recent.length ||
    enrollmentPeerPerMinute ≤ (rate.peers.get? peer).getD 0 ||
    (!rate.peers.contains peer && enrollmentPeerLimit ≤ rate.peers.size)

def push (rate : EnrollmentRate Peer) (peer : Peer) (now : ℕ) : EnrollmentRate Peer :=
  { recent := rate.recent ++ [(now, peer)]
    peers := rate.peers.put peer ((rate.peers.get? peer).getD 0 + 1) }

/-- `EnrollmentRate::record`: whether the call is accepted, and the rate after it. -/
def record (rate : EnrollmentRate Peer) (peer : Peer) (now : ℕ) :
    Option (Bool × EnrollmentRate Peer) :=
  match expire now rate.recent rate.peers with
  | none => none
  | some rate => if rate.full peer then some (false, rate) else some (true, rate.push peer now)

/-- A sequence of calls, each with its answer; `none` when one of them panics. -/
def serve (rate : EnrollmentRate Peer) :
    List (ℕ × Peer) → Option (List ((ℕ × Peer) × Bool) × EnrollmentRate Peer)
  | [] => some ([], rate)
  | (now, peer) :: calls =>
    match record rate peer now with
    | none => none
    | some (accepted, rate) =>
      (serve rate calls).map fun r => (((now, peer), accepted) :: r.1, r.2)

/-- The calls of `peer`. -/
def callsOf (peer : Peer) (log : List (ℕ × Peer)) : ℕ := log.countP fun call => call.2 = peer

theorem callsOf_cons (peer : Peer) (call : ℕ × Peer) (log : List (ℕ × Peer)) :
    callsOf peer (call :: log) = callsOf peer log + if call.2 = peer then 1 else 0 := by
  simp [callsOf, List.countP_cons]

theorem callsOf_concat (peer : Peer) (call : ℕ × Peer) (log : List (ℕ × Peer)) :
    callsOf peer (log ++ [call]) = callsOf peer log + if call.2 = peer then 1 else 0 := by
  simp [callsOf, List.countP_append, List.countP_cons]

/-- The two limits, in every half-open window of the log. -/
def Limited (log : List (ℕ × Peer)) : Prop :=
  ∀ t, (log.within enrollmentWindow t).length ≤ enrollmentGlobalPerMinute ∧
    ∀ peer, callsOf peer (log.within enrollmentWindow t) ≤ enrollmentPeerPerMinute

/-- The peers are those of the queue, each with the number of its calls. -/
def Counts (peers : Table Peer ℕ) (recent : List (ℕ × Peer)) : Prop :=
  ∀ peer, peers.get? peer =
    if callsOf peer recent = 0 then none else some (callsOf peer recent)

section Counts

variable {peers : Table Peer ℕ} {recent log : List (ℕ × Peer)} {instant now : ℕ} {peer : Peer}

theorem Counts.getD (h : Counts peers recent) (peer : Peer) :
    (peers.get? peer).getD 0 = callsOf peer recent := by
  rw [h peer]
  split
  · next hzero => simp [hzero]
  · rfl

theorem Counts.forget (h : Counts peers ((instant, peer) :: recent)) :
    ∃ peers', forget peers peer = some peers' ∧ Counts peers' recent := by
  have hself : callsOf peer ((instant, peer) :: recent) = callsOf peer recent + 1 := by
    simp [callsOf_cons]
  have hget : peers.get? peer = some (callsOf peer recent + 1) := by
    rw [h peer, hself]
    simp
  unfold EnrollmentRate.forget
  rw [hget]
  refine ⟨_, rfl, ?_⟩
  intro other
  have hother : other ≠ peer →
      callsOf other ((instant, peer) :: recent) = callsOf other recent := by
    intro hne
    simp [callsOf_cons, hne.symm]
  by_cases heq : other = peer
  · subst heq
    split
    · simp
    · simp
  · have hold := h other
    rw [hother heq] at hold
    split
    · rw [Table.get?_remove, if_neg heq, hold]
    · rw [Table.get?_put_ne _ _ heq, hold]

theorem Counts.push (h : Counts peers recent) :
    Counts (peers.put peer ((peers.get? peer).getD 0 + 1)) (recent ++ [(now, peer)]) := by
  intro other
  rw [h.getD, callsOf_concat]
  by_cases heq : other = peer
  · subst heq
    simp
  · rw [Table.get?_put_ne _ _ heq, h other]
    simp [Ne.symm heq]

/-- A peer with an entry has a call in the queue. -/
theorem Counts.size_le (h : Counts peers recent) : peers.size ≤ recent.length := by
  have hsize : peers.size = (peers.toList.map Prod.fst).length := by
    simp [Table.size, Table.toList, AList.keys, List.keys]
  have hsub : peers.toList.map Prod.fst ⊆ recent.map Prod.snd := by
    intro peer hpeer
    obtain ⟨⟨p, count⟩, hmem, rfl⟩ := List.mem_map.mp hpeer
    have hget := (Table.mem_toList peers p count).mp hmem
    rw [h p] at hget
    have hpos : callsOf p recent ≠ 0 := by
      intro hzero
      rw [if_pos hzero] at hget
      cases hget
    obtain ⟨call, hcall, heq⟩ := List.countP_pos_iff.mp (Nat.pos_of_ne_zero hpos)
    exact List.mem_map.mpr ⟨call, hcall, by simpa using heq⟩
  have hlen := ((Table.nodup_toList_keys peers).subperm hsub).length_le
  rw [hsize]
  simpa using hlen

theorem expire_spec (h : Counts peers recent)
    (hsorted : recent.Pairwise fun a b => a.1 ≤ b.1) :
    ∃ rate, expire now recent peers = some rate ∧
      rate.recent = recent.recentAt enrollmentWindow now ∧ Counts rate.peers rate.recent := by
  induction recent generalizing peers with
  | nil => exact ⟨_, rfl, rfl, h⟩
  | cons call rest ih =>
    obtain ⟨instant, expiredPeer⟩ := call
    unfold expire
    split
    · next hold =>
      have hgone : ¬now < instant + enrollmentWindow := by
        unfold enrollmentWindow at *
        omega
      obtain ⟨peers', hforget, hcounts⟩ := h.forget
      rw [hforget, List.recentAt_of_expired hgone]
      exact ih hcounts (List.pairwise_cons.mp hsorted).2
    · next hyoung =>
      have hkept : now < instant + enrollmentWindow := by omega
      refine ⟨_, rfl, ?_, h⟩
      rw [List.recentAt_of_kept hsorted hkept]

end Counts

/-- What a rate holds after the calls accepted in `log`, the last call made at `last`. -/
structure Fits (log : List (ℕ × Peer)) (last : ℕ) (rate : EnrollmentRate Peer) : Prop where
  sorted : log.Pairwise fun a b => a.1 ≤ b.1
  past : ∀ call ∈ log, call.1 ≤ last
  recent : rate.recent = log.recentAt enrollmentWindow last
  counts : Counts rate.peers rate.recent
  limited : Limited log

namespace Fits

variable {log : List (ℕ × Peer)} {last now : ℕ} {rate : EnrollmentRate Peer} {peer : Peer}

theorem initial : Fits [] 0 ({} : EnrollmentRate Peer) := by
  constructor
  · exact List.Pairwise.nil
  · nofun
  · rfl
  · intro peer
    rfl
  · intro t
    exact ⟨Nat.zero_le _, fun peer => Nat.zero_le _⟩

theorem expire (h : Fits log last rate) (hnow : last ≤ now) :
    ∃ rate', EnrollmentRate.expire now rate.recent rate.peers = some rate' ∧
      Fits log now rate' := by
  have hsorted : rate.recent.Pairwise fun a b => a.1 ≤ b.1 := by
    rw [h.recent]
    exact h.sorted.sublist List.recentAt_sublist
  obtain ⟨rate', hexpire, hrecent, hcounts⟩ :
      ∃ rate', EnrollmentRate.expire now rate.recent rate.peers = some rate' ∧
        rate'.recent = rate.recent.recentAt enrollmentWindow now ∧
        Counts rate'.peers rate'.recent := expire_spec h.counts hsorted
  refine ⟨rate', hexpire, h.sorted, ?_, ?_, hcounts, h.limited⟩
  · intro call hcall
    exact Nat.le_trans (h.past call hcall) hnow
  · rw [hrecent, h.recent, List.recentAt_recentAt hnow]

/-- The third bound is never the one that refuses. -/
theorem full_iff (h : Fits log now rate) :
    rate.full peer = true ↔ enrollmentGlobalPerMinute ≤ rate.recent.length ∨
      enrollmentPeerPerMinute ≤ callsOf peer rate.recent := by
  have hsize := h.counts.size_le
  unfold full
  rw [h.counts.getD]
  simp only [Bool.or_eq_true, Bool.and_eq_true, decide_eq_true_eq, or_assoc]
  constructor
  · rintro (hglobal | hpeer | ⟨-, hpeers⟩)
    · exact Or.inl hglobal
    · exact Or.inr hpeer
    · left
      unfold enrollmentPeerLimit enrollmentGlobalPerMinute at *
      omega
  · rintro (hglobal | hpeer)
    · exact Or.inl hglobal
    · exact Or.inr (Or.inl hpeer)

/-- A call that finds the rate full would break one of the limits. -/
theorem not_limited (h : Fits log now rate) (hfull : rate.full peer = true) :
    ¬Limited (log ++ [(now, peer)]) := by
  intro hlimited
  have hwindow : (0 : ℕ) < enrollmentWindow := by decide
  have hmem := hlimited (now + 1 - enrollmentWindow)
  rw [List.within_concat_of_mem (by omega) (by omega),
    List.within_eq_recentAt h.past, ← h.recent] at hmem
  obtain ⟨hglobal, hpeers⟩ := hmem
  have hpeer := hpeers peer
  rw [callsOf_concat] at hpeer
  rw [List.length_append] at hglobal
  rcases h.full_iff.mp hfull with hlen | hlen
  · simp only [List.length_cons, List.length_nil] at hglobal
    omega
  · simp only [if_true] at hpeer
    omega

theorem push (h : Fits log now rate) (hroom : ¬rate.full peer = true) :
    Fits (log ++ [(now, peer)]) now (rate.push peer now) := by
  rw [h.full_iff] at hroom
  have hglobal : rate.recent.length < enrollmentGlobalPerMinute := by omega
  have hpeer : callsOf peer rate.recent < enrollmentPeerPerMinute := by omega
  have hwindow : (0 : ℕ) < enrollmentWindow := by decide
  constructor
  · apply List.pairwise_append.mpr
    refine ⟨h.sorted, List.pairwise_singleton _ _, ?_⟩
    intro a ha b hb
    cases List.mem_singleton.mp hb
    exact h.past a ha
  · intro call hcall
    rcases List.mem_append.mp hcall with hcall | hcall
    · exact h.past call hcall
    · cases List.mem_singleton.mp hcall
      exact le_rfl
  · rw [List.recentAt_concat (by omega), ← h.recent]
    rfl
  · exact h.counts.push
  · intro t
    by_cases hin : t ≤ now ∧ now < t + enrollmentWindow
    · -- a window that holds the new call holds only calls that are still in the queue
      have hsub := List.within_sublist_recentAt (l := log) hin.2
      rw [← h.recent] at hsub
      rw [List.within_concat_of_mem hin.1 hin.2]
      constructor
      · have hlen := hsub.length_le
        rw [List.length_append, List.length_singleton]
        omega
      · intro other
        have hcount : callsOf other (log.within enrollmentWindow t) ≤ callsOf other rate.recent :=
          hsub.countP_le
        have hold := (h.limited t).2 other
        rw [callsOf_concat]
        split
        · next heq =>
          have heq : peer = other := heq
          subst heq
          omega
        · omega
    · rw [List.within_concat_of_not_mem hin]
      exact h.limited t

/-- One call never panics, and is accepted exactly when the limits allow it. -/
theorem record (h : Fits log last rate) (hnow : last ≤ now) (peer : Peer) :
    ∃ accepted rate', rate.record peer now = some (accepted, rate') ∧
      (accepted = true ↔ Limited (log ++ [(now, peer)])) ∧
      Fits (if accepted then log ++ [(now, peer)] else log) now rate' := by
  obtain ⟨expired, hexpire, hfits⟩ := h.expire hnow
  unfold EnrollmentRate.record
  rw [hexpire]
  by_cases hfull : expired.full peer = true
  · have hbreak := hfits.not_limited hfull
    refine ⟨false, expired, ?_, ?_, ?_⟩
    · simp [hfull]
    · simpa using hbreak
    · simpa using hfits
  · have hpush := hfits.push hfull
    refine ⟨true, expired.push peer now, ?_, ?_, ?_⟩
    · simp [hfull]
    · simpa using hpush.limited
    · simpa using hpush

end Fits

/-- The calls that were accepted. -/
def accepted (answered : List ((ℕ × Peer) × Bool)) : List (ℕ × Peer) :=
  (answered.filter Prod.snd).map Prod.fst

omit [DecidableEq Peer] in
theorem accepted_cons (call : ℕ × Peer) (b : Bool) (answered : List ((ℕ × Peer) × Bool)) :
    accepted ((call, b) :: answered) =
      if b then call :: accepted answered else accepted answered := by
  cases b <;> rfl

theorem Fits.serve {log : List (ℕ × Peer)} {last : ℕ} {rate : EnrollmentRate Peer}
    {calls : List (ℕ × Peer)} (h : Fits log last rate)
    (hsorted : calls.Pairwise fun a b => a.1 ≤ b.1) (hlast : ∀ call ∈ calls, last ≤ call.1) :
    ∃ answered rate', rate.serve calls = some (answered, rate') ∧
      answered.map Prod.fst = calls ∧
      (∀ past call b rest, answered = past ++ (call, b) :: rest →
        (b = true ↔ Limited (log ++ accepted past ++ [call]))) ∧
      ∃ now, Fits (log ++ accepted answered) now rate' := by
  induction calls generalizing log last rate with
  | nil =>
    refine ⟨[], rate, rfl, rfl, ?_, last, ?_⟩
    · intro past call b rest heq
      simp at heq
    · simpa [accepted] using h
  | cons call calls ih =>
    obtain ⟨now, peer⟩ := call
    obtain ⟨hafter, hsorted⟩ := List.pairwise_cons.mp hsorted
    obtain ⟨b, rate', hrecord, hanswer, hfits⟩ := h.record (hlast _ List.mem_cons_self) peer
    obtain ⟨answered, final, hserve, hcalls, hanswers, last', hfinal⟩ :=
      ih hfits hsorted hafter
    have hlog : ∀ past, (if b then log ++ [(now, peer)] else log) ++ accepted past =
        log ++ accepted (((now, peer), b) :: past) := by
      intro past
      rw [accepted_cons]
      cases b <;> simp
    refine ⟨((now, peer), b) :: answered, final, ?_, ?_, ?_, last', ?_⟩
    · simp [EnrollmentRate.serve, hrecord, hserve]
    · simp [hcalls]
    · intro past call b' rest heq
      cases past with
      | nil =>
        obtain ⟨hcall, -⟩ := List.cons.inj heq
        cases hcall
        simpa [accepted] using hanswer
      | cons first past =>
        obtain ⟨rfl, hrest⟩ := List.cons.inj heq
        have hnext := hanswers past call b' rest hrest
        rwa [hlog past] at hnext
    · rw [← hlog answered]
      exact hfinal

/-- Over any sequence of calls in the order of time no count underflows, every call is accepted
exactly when the two limits allow it, and the peers are the counts of the queue. -/
theorem enrollments_limited (calls : List (ℕ × Peer))
    (hsorted : calls.Pairwise fun a b => a.1 ≤ b.1) :
    ∃ answered rate, serve {} calls = some (answered, rate) ∧ answered.map Prod.fst = calls ∧
      Limited (accepted answered) ∧
      (∀ past call b rest, answered = past ++ (call, b) :: rest →
        (b = true ↔ Limited (accepted past ++ [call]))) ∧
      ∀ peer, rate.peers.get? peer =
        if callsOf peer rate.recent = 0 then none else some (callsOf peer rate.recent) := by
  obtain ⟨answered, rate, hserve, hcalls, hanswers, now, hfits⟩ :=
    Fits.initial.serve hsorted fun call _ => Nat.zero_le _
  exact ⟨answered, rate, hserve, hcalls, hfits.limited, hanswers, hfits.counts⟩

theorem enrollments_limited_sample :
    ∃ answered rate, serve {} [(0, 7), (0, 9), (enrollmentWindow, 7)] = some (answered, rate) ∧
      Limited (accepted answered) := by
  obtain ⟨answered, rate, hserve, -, hlimited, -⟩ :=
    enrollments_limited [(0, 7), (0, 9), (enrollmentWindow, 7)] (by decide)
  exact ⟨answered, rate, hserve, hlimited⟩

end EnrollmentRate

end SessionRouter
