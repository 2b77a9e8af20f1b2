import Mathlib.Data.List.Pairwise
import Mathlib.Tactic.Ring

/-!
Token buckets: a level that grows at a constant rate up to a capacity and pays for what passes. A
bucket that is lost starts again full, which the bounds count.
-/

structure TokenBucket where
  level : ℕ
  updatedAt : ℕ
  deriving DecidableEq

namespace TokenBucket

/-- Something asks to pass, or the bucket is lost. -/
inductive Event where
  | ask (now : ℕ)
  | lose (now : ℕ)
  deriving DecidableEq

def Event.time : Event → ℕ
  | ask now => now
  | lose now => now

section

variable (capacity rate cost : ℕ)

def refill (b : TokenBucket) (now : ℕ) : ℕ :=
  min (b.level + (now - b.updatedAt) * rate) capacity

/-- Whether the bucket pays for one passage, and what is left in it. -/
def take (b : TokenBucket) (now : ℕ) : Bool × TokenBucket :=
  if b.refill capacity rate now < cost then (false, ⟨b.refill capacity rate now, now⟩)
  else (true, ⟨b.refill capacity rate now - cost, now⟩)

/-- A bucket that is not there is a full one. -/
def orFull (b : Option TokenBucket) (now : ℕ) : TokenBucket := b.getD ⟨capacity, now⟩

def passes (b : Option TokenBucket) : Event → Bool
  | .ask now => ((orFull capacity b now).take capacity rate cost now).1
  | .lose _ => false

def next (b : Option TokenBucket) : Event → Option TokenBucket
  | .ask now => some ((orFull capacity b now).take capacity rate cost now).2
  | .lose _ => none

/-- The bucket after some events. -/
def after (b : Option TokenBucket) (events : List Event) : Option TokenBucket :=
  events.foldl (next capacity rate cost) b

/-- How often something passes from one time to another. -/
def passed (a z : ℕ) (b : Option TokenBucket) : List Event → ℕ
  | [] => 0
  | e :: events =>
    (if a ≤ e.time && e.time ≤ z && passes capacity rate cost b e then 1 else 0) +
      passed a z (next capacity rate cost b e) events

end

def Event.isLoss : Event → Bool
  | ask _ => false
  | lose _ => true

/-- How often the bucket is lost from one time to another. -/
def losses (a z : ℕ) (events : List Event) : ℕ :=
  events.countP fun e => a ≤ e.time && e.time ≤ z && e.isLoss

theorem losses_ask (a z now : ℕ) (events : List Event) :
    losses a z ([.ask now] ++ events) = losses a z events := by
  rw [losses, List.countP_append, List.countP_singleton, if_neg (by simp [Event.isLoss]),
    Nat.zero_add]
  rfl

theorem losses_lose (a z now : ℕ) (lost : Bool) :
    losses a z (if lost then [.lose now] else []) =
      if a ≤ now && now ≤ z && lost then 1 else 0 := by
  cases lost with
  | false =>
    rw [Bool.and_false]
    rfl
  | true => exact List.countP_singleton

section

variable {capacity rate cost : ℕ} {b : TokenBucket} {now : ℕ}

theorem refill_le : b.refill capacity rate now ≤ capacity := Nat.min_le_right _ _

theorem take_level_le : ((b.take capacity rate cost now).2).level ≤ capacity := by
  have h := @refill_le capacity rate b now
  unfold take
  split_ifs
  · exact h
  · exact (Nat.sub_le _ _).trans h

/-- What passes is paid for. -/
theorem take_level :
    ((b.take capacity rate cost now).2).level +
      (if (b.take capacity rate cost now).1 then cost else 0) = b.refill capacity rate now := by
  unfold take
  by_cases hlow : b.refill capacity rate now < cost
  · rw [if_pos hlow]
    rfl
  · rw [if_neg hlow]
    exact Nat.sub_add_cancel (Nat.not_lt.mp hlow)

theorem take_updatedAt : ((b.take capacity rate cost now).2).updatedAt = now := by
  unfold take
  split_ifs
  · rfl
  · rfl

theorem take_refused_iff :
    (b.take capacity rate cost now).1 = false ↔ b.refill capacity rate now < cost := by
  unfold take
  split_ifs with hlow
  · exact ⟨fun _ => hlow, fun _ => rfl⟩
  · exact ⟨nofun, fun h => absurd h hlow⟩

/-- A bucket grows no faster than its rate. -/
theorem refill_growth {earlier later : ℕ} (hb : b.updatedAt ≤ earlier) (h : earlier ≤ later) :
    b.refill capacity rate later ≤
      b.refill capacity rate earlier + (later - earlier) * rate := by
  have hspan : later - b.updatedAt = (earlier - b.updatedAt) + (later - earlier) := by omega
  unfold refill
  rw [hspan, Nat.add_mul]
  omega

end

section

variable (capacity rate cost : ℕ)

/-- What can be taken from a bucket that may be lost. -/
def room (b : Option TokenBucket) (now : ℕ) : ℕ :=
  (orFull capacity b now).refill capacity rate now

/-- The bucket was last used no later than `now`. -/
def Before (b : Option TokenBucket) (now : ℕ) : Prop := ∀ x, b = some x → x.updatedAt ≤ now

theorem room_le (b : Option TokenBucket) (now : ℕ) : room capacity rate b now ≤ capacity :=
  refill_le

theorem room_growth {b : Option TokenBucket} {earlier later : ℕ} (hb : Before b earlier)
    (h : earlier ≤ later) :
    room capacity rate b later ≤ room capacity rate b earlier + (later - earlier) * rate := by
  cases b with
  | none =>
    have hfull : room capacity rate none earlier = capacity := by
      simp [room, orFull, refill]
    rw [hfull]
    exact (room_le capacity rate none later).trans (Nat.le_add_right _ _)
  | some x => exact refill_growth (hb x rfl) h

theorem room_next_ask (b : Option TokenBucket) (now : ℕ) :
    room capacity rate (next capacity rate cost b (.ask now)) now +
      (if passes capacity rate cost b (.ask now) then cost else 0) = room capacity rate b now := by
  have hlevel := @take_level capacity rate cost (orFull capacity b now) now
  have hle := @take_level_le capacity rate cost (orFull capacity b now) now
  have hat := @take_updatedAt capacity rate cost (orFull capacity b now) now
  have hroom : room capacity rate (next capacity rate cost b (.ask now)) now =
      ((orFull capacity b now).take capacity rate cost now).2.level := by
    show min (((orFull capacity b now).take capacity rate cost now).2.level +
      (now - ((orFull capacity b now).take capacity rate cost now).2.updatedAt) * rate) capacity = _
    rw [hat, Nat.sub_self, Nat.zero_mul, Nat.add_zero, Nat.min_eq_left hle]
  rw [hroom]
  exact hlevel

theorem before_next (b : Option TokenBucket) (e : Event) :
    Before (next capacity rate cost b e) e.time := by
  intro x hx
  cases e with
  | ask now =>
    obtain rfl := Option.some.inj hx
    exact take_updatedAt.le
  | lose now => cases hx

theorem passed_late {a z : ℕ} {events : List Event} (h : ∀ e ∈ events, z < e.time)
    (b : Option TokenBucket) : passed capacity rate cost a z b events = 0 := by
  induction events generalizing b with
  | nil => rfl
  | cons e events ih =>
    obtain ⟨he, h⟩ := List.forall_mem_cons.mp h
    rw [passed, ih h, if_neg (by simp [Nat.not_le.mpr he])]

theorem after_append (b : Option TokenBucket) (events later : List Event) :
    after capacity rate cost b (events ++ later) =
      after capacity rate cost (after capacity rate cost b events) later :=
  List.foldl_append

theorem passed_append (a z : ℕ) (b : Option TokenBucket) (events later : List Event) :
    passed capacity rate cost a z b (events ++ later) = passed capacity rate cost a z b events +
      passed capacity rate cost a z (after capacity rate cost b events) later := by
  induction events generalizing b with
  | nil => exact (Nat.zero_add _).symm
  | cons e events ih =>
    rw [List.cons_append, passed, passed, ih, Nat.add_assoc]
    rfl

theorem losses_append (a z : ℕ) (events later : List Event) :
    losses a z (events ++ later) = losses a z events + losses a z later :=
  List.countP_append

/-- Something asks to pass, and the bucket may be lost right after. -/
theorem passed_ask (a z : ℕ) (b : Option TokenBucket) (now : ℕ) (lost : Bool) :
    passed capacity rate cost a z b ([.ask now] ++ if lost then [.lose now] else []) =
      if a ≤ now && now ≤ z && passes capacity rate cost b (.ask now) then 1 else 0 := by
  cases lost with
  | false => rfl
  | true =>
    show _ + ((if a ≤ now && now ≤ z && false then 1 else 0) + 0) = _
    rw [Bool.and_false]
    rfl

theorem passed_lose (a z : ℕ) (b : Option TokenBucket) (now : ℕ) (lost : Bool) :
    passed capacity rate cost a z b (if lost then [.lose now] else []) = 0 := by
  cases lost with
  | false => rfl
  | true =>
    show (if a ≤ now && now ≤ z && false then 1 else 0) + 0 = 0
    rw [Bool.and_false]
    rfl

/-- A bucket never holds more than its capacity. -/
theorem after_level_le {b : Option TokenBucket} (hb : ∀ x, b = some x → x.level ≤ capacity)
    {events : List Event} {x : TokenBucket} (hx : after capacity rate cost b events = some x) :
    x.level ≤ capacity := by
  induction events generalizing b with
  | nil => exact hb x hx
  | cons e events ih =>
    refine ih (fun y hy => ?_) hx
    cases e with
    | ask now =>
      obtain rfl := Option.some.inj hy
      exact take_level_le
    | lose now => cases hy

/-- What the bucket can pay from `now` on: its room and what it gains up to `z`, or a full bucket
and what it gains from `a` to `z` while the time `a` is still to come. -/
def budget (a z : ℕ) (b : Option TokenBucket) (now : ℕ) : ℕ :=
  if now < a then capacity + (z - a) * rate else room capacity rate b now + (z - now) * rate

theorem budget_le (a z : ℕ) (b : Option TokenBucket) (now : ℕ) :
    budget capacity rate a z b now ≤ capacity + (z - a) * rate := by
  unfold budget
  split_ifs with hearly
  · exact le_rfl
  · have hspan : (z - now) * rate ≤ (z - a) * rate := Nat.mul_le_mul_right _ (by omega)
    have hroom := room_le capacity rate b now
    omega

/-- The budget does not grow while time passes. -/
theorem budget_later {a z : ℕ} {b : Option TokenBucket} {earlier later : ℕ}
    (hb : Before b earlier) (h : earlier ≤ later) (ha : a ≤ later) (hz : later ≤ z) :
    room capacity rate b later + (z - later) * rate ≤ budget capacity rate a z b earlier := by
  unfold budget
  split_ifs with hearly
  · have hspan : (z - later) * rate ≤ (z - a) * rate := Nat.mul_le_mul_right _ (by omega)
    have hroom := room_le capacity rate b later
    omega
  · have hgrowth := room_growth capacity rate hb h
    have hspan : (z - earlier) * rate = (later - earlier) * rate + (z - later) * rate := by
      rw [← Nat.add_mul]
      congr 1
      omega
    omega

/-- The passages of a time span are paid for by its budget and by one full bucket for every loss. -/
theorem passed_le {a z : ℕ} {events : List Event} (hsorted : events.Pairwise (·.time ≤ ·.time))
    {b : Option TokenBucket} {now : ℕ} (hb : Before b now) (hnow : ∀ e ∈ events, now ≤ e.time) :
    passed capacity rate cost a z b events * cost ≤
      budget capacity rate a z b now + losses a z events * capacity := by
  induction events generalizing b now with
  | nil => simp [passed]
  | cons e events ih =>
    obtain ⟨hlater, hsorted⟩ := List.pairwise_cons.mp hsorted
    have hle : now ≤ e.time := hnow e List.mem_cons_self
    have hrest := ih hsorted (before_next capacity rate cost b e)
      hlater
    by_cases hearly : e.time < a
    · have hcount : losses a z (e :: events) = losses a z events := by
        simp [losses, Nat.not_le.mpr hearly]
      rw [passed, if_neg (by simp [Nat.not_le.mpr hearly]), hcount, Nat.zero_add]
      refine hrest.trans (Nat.add_le_add_right ?_ _)
      rw [budget, budget, if_pos hearly, if_pos (hle.trans_lt hearly)]
    · by_cases hlate : z < e.time
      · have hall : ∀ e' ∈ e :: events, z < e'.time := by
          intro e' he'
          cases he' with
          | head => exact hlate
          | tail _ he' => exact hlate.trans_le (hlater e' he')
        rw [passed_late capacity rate cost hall, Nat.zero_mul]
        exact Nat.zero_le _
      · have hbudget := budget_later capacity rate hb hle
          (Nat.not_lt.mp hearly) (Nat.not_lt.mp hlate)
        rw [budget, if_neg hearly] at hrest
        have hpay : (if a ≤ e.time && e.time ≤ z && passes capacity rate cost b e then 1 else 0) *
            cost ≤ if passes capacity rate cost b e then cost else 0 := by
          split_ifs with hcounted hpasses
          · exact (Nat.one_mul cost).le
          · exact absurd (Bool.and_eq_true_iff.mp hcounted).2 hpasses
          · exact (Nat.zero_mul cost).le.trans (Nat.zero_le _)
          · exact (Nat.zero_mul cost).le
        rw [passed, Nat.add_mul]
        cases e with
        | ask t =>
          have hroom := room_next_ask capacity rate cost b t
          have hcount : losses a z (.ask t :: events) = losses a z events := by
            simp [losses, Event.isLoss]
          rw [hcount]
          change room capacity rate (next capacity rate cost b (.ask t)) (Event.ask t).time + _ =
            room capacity rate b (Event.ask t).time at hroom
          omega
        | lose t =>
          have hcount : losses a z (.lose t :: events) = losses a z events + 1 := by
            simp only [losses, List.countP_cons]
            simp_all [Event.isLoss, Event.time]
          have hroom := room_le capacity rate (next capacity rate cost b (.lose t))
            (Event.lose t).time
          have hfree : (if passes capacity rate cost b (.lose t) then cost else 0) = 0 := rfl
          rw [hcount, Nat.add_mul, Nat.one_mul]
          omega

end

end TokenBucket
