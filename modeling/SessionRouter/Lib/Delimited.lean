import Mathlib.Data.List.Forall2
import Mathlib.Data.List.Basic
import Mathlib.Algebra.GroupWithZero.Nat

/-!
Streams that are put together of pieces. Two pieces are compared at the head of two equal streams:
what they tell apart, and that they end at the same place.
-/

/-- Where two pieces begin the same stream, the property holds of them and the same is left. -/
def Delimited {β : Type} (x y : List β) (P : Prop) : Prop :=
  ∀ rest rest', x ++ rest = y ++ rest' → P ∧ rest = rest'

namespace Delimited

variable {α α' β : Type} {x y x' y' : List β} {P Q : Prop}

theorem mono (h : Delimited x y P) (hPQ : P → Q) : Delimited x y Q := by
  intro rest rest' heq
  obtain ⟨hP, hrest⟩ := h rest rest' heq
  exact ⟨hPQ hP, hrest⟩

/-- Pieces that are read one after the other. -/
theorem append (h : Delimited x y P) (h' : P → Delimited x' y' Q) :
    Delimited (x ++ x') (y ++ y') (P ∧ Q) := by
  intro rest rest' heq
  rw [List.append_assoc, List.append_assoc] at heq
  obtain ⟨hP, heq⟩ := h _ _ heq
  obtain ⟨hQ, hrest⟩ := h' hP _ _ heq
  exact ⟨⟨hP, hQ⟩, hrest⟩

/-- Pieces of one length. -/
theorem fixed (h : x.length = y.length) : Delimited x y (x = y) :=
  fun _ _ heq => List.append_inj heq h

/-- Pieces that differ in their first symbol begin no common stream. -/
theorem head {a b : β} (h : a ≠ b) : Delimited (a :: x) (b :: y) P := by
  intro rest rest' heq
  rw [List.cons_append, List.cons_append, List.cons.injEq] at heq
  exact absurd heq.1 h

/-- As many pieces on either side, each told apart from the one at its place. -/
theorem flatMap {R : α → α' → Prop} {f : α → List β} {f' : α' → List β} {l : List α}
    {l' : List α'} (hlength : l.length = l'.length)
    (h : ∀ a ∈ l, ∀ a' ∈ l', Delimited (f a) (f' a') (R a a')) :
    Delimited (l.flatMap f) (l'.flatMap f') (List.Forall₂ R l l') := by
  induction l generalizing l' with
  | nil =>
    obtain rfl := List.length_eq_zero_iff.mp hlength.symm
    exact (fixed rfl).mono fun _ => .nil
  | cons a l ih =>
    cases l' with
    | nil => exact absurd hlength (Nat.succ_ne_zero _)
    | cons a' l' =>
      rw [List.flatMap_cons, List.flatMap_cons]
      have hhead := h a (by simp) a' (by simp)
      have htail := ih (Nat.succ.inj hlength) fun b hb b' hb' =>
        h b (List.mem_cons_of_mem _ hb) b' (List.mem_cons_of_mem _ hb')
      exact (hhead.append fun _ => htail).mono fun hboth => .cons hboth.1 hboth.2

end Delimited

/-- A number in bytes of ascending weight. -/
def leBytes : ℕ → ℕ → List UInt8
  | 0, _ => []
  | width + 1, n => UInt8.ofNat (n % 256) :: leBytes width (n / 256)

@[simp] theorem length_leBytes (width n : ℕ) : (leBytes width n).length = width := by
  induction width generalizing n with
  | zero => rfl
  | succ width ih => simp [leBytes, ih]

theorem leBytes_inj {width n m : ℕ} (hn : n < 256 ^ width) (hm : m < 256 ^ width)
    (h : leBytes width n = leBytes width m) : n = m := by
  induction width generalizing n m with
  | zero => omega
  | succ width ih =>
    rw [leBytes, leBytes, List.cons.injEq] at h
    rw [Nat.pow_succ] at hn hm
    have hbyte : n % 256 = m % 256 := by
      have := congrArg UInt8.toNat h.1
      simpa using this
    have hrest := ih (Nat.div_lt_of_lt_mul (by omega)) (Nat.div_lt_of_lt_mul (by omega)) h.2
    omega

namespace Delimited

/-- Numbers of one width. -/
theorem number {width n m : ℕ} (hn : n < 256 ^ width) (hm : m < 256 ^ width) :
    Delimited (leBytes width n) (leBytes width m) (n = m) :=
  (fixed (by simp)).mono (leBytes_inj hn hm)

/-- Bytes behind their number. -/
theorem prefixed {width : ℕ} {x y : List UInt8} (hx : x.length < 256 ^ width)
    (hy : y.length < 256 ^ width) :
    Delimited (leBytes width x.length ++ x) (leBytes width y.length ++ y) (x = y) :=
  ((number hx hy).append fixed).mono And.right

end Delimited
