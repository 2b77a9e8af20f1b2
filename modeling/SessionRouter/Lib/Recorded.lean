import SessionRouter.Lib.Effects
import Mathlib.Data.List.Nodup
import Mathlib.Order.Basic
import Mathlib.Order.Nat

/-!
Computations that record what leaves a state. A recorded computation is compared with a second one,
which it agrees with, and with the plain computation that it is without its record.
-/

variable {σ ι ε α β : Type}

namespace Actor

variable {x : Actor σ ε α} {f : α → Actor σ ε β} {s t : σ}

theorem bind_of_ok {a : α} (h : x s = (.ok a, t)) : (x >>= f) s = f a t := by
  simp only [Bind.bind, h]

theorem bind_of_error {e : ε} (h : x s = (.error e, t)) : (x >>= f) s = (.error e, t) := by
  simp only [Bind.bind, h]

end Actor

/-- A stateful computation over a state and the record of what left it. -/
abbrev Recorded (σ ι ε α : Type) := Actor (σ × List ι) ε α

namespace Recorded

/-- A computation that takes nothing away. -/
def quiet (x : Actor σ ε α) : Recorded σ ι ε α := fun st => ((x st.1).1, ((x st.1).2, st.2))

/-- Change the state and record what the change takes away. -/
def take (f : σ → σ) (gone : σ → List ι) : Recorded σ ι ε Unit := fun st =>
  (.ok (), (f st.1, st.2 ++ gone st.1))

section

variable (here : σ → ι → Prop) (size : σ → ℕ)

/-- Nothing came, nothing left. -/
structure Stays (s s' : σ) : Prop where
  same : ∀ i, here s' i ↔ here s i
  size_le : size s' ≤ size s

/-- Nothing came, and what left was recorded, each once. -/
structure Accounts (st st' : σ × List ι) : Prop where
  shrinks : ∀ i, here st'.1 i → here st.1 i
  recorded : ∃ gone, st'.2 = st.2 ++ gone ∧ gone.Nodup ∧
    ∀ i, i ∈ gone ↔ here st.1 i ∧ ¬here st'.1 i
  size_le : size st'.1 ≤ size st.1

/-- From `st`, two recorded computations are one, and it is the plain one with an account of what
leaves. -/
structure Tracks (st : σ × List ι) (x x' : Recorded σ ι ε α) (y : Actor σ ε α) : Prop where
  same : x' st = x st
  erases : ((x st).1, (x st).2.1) = y st.1
  accounts : Accounts here size st (x st).2

end

variable {here : σ → ι → Prop} {size : σ → ℕ}

instance : Std.Refl (Stays here size) := ⟨fun _ => ⟨fun _ => Iff.rfl, le_rfl⟩⟩

instance : IsTrans σ (Stays here size) :=
  ⟨fun _ _ _ h h' => ⟨fun i => (h'.same i).trans (h.same i), h'.size_le.trans h.size_le⟩⟩

theorem Stays.accounts {s s' : σ} (h : Stays here size s s') (record : List ι) :
    Accounts here size (s, record) (s', record) where
  shrinks i := (h.same i).mp
  recorded := by
    refine ⟨[], (List.append_nil _).symm, List.nodup_nil, fun i => ?_⟩
    rw [h.same i]
    simp
  size_le := h.size_le

theorem Accounts.trans {st st' st'' : σ × List ι} (h : Accounts here size st st')
    (h' : Accounts here size st' st'') : Accounts here size st st'' where
  shrinks i hi := h.shrinks i (h'.shrinks i hi)
  recorded := by
    obtain ⟨gone, hrecord, hnodup, hgone⟩ := h.recorded
    obtain ⟨gone', hrecord', hnodup', hgone'⟩ := h'.recorded
    refine ⟨gone ++ gone', by rw [hrecord', hrecord, List.append_assoc], ?_, ?_⟩
    · refine hnodup.append hnodup' fun i hi hi' => ?_
      exact ((hgone i).mp hi).2 ((hgone' i).mp hi').1
    · intro i
      rw [List.mem_append, hgone, hgone']
      constructor
      · rintro (⟨hi, hleft⟩ | ⟨hi, hleft⟩)
        · exact ⟨hi, fun hi'' => hleft (h'.shrinks i hi'')⟩
        · exact ⟨h.shrinks i hi, hleft⟩
      · rintro ⟨hi, hleft⟩
        by_cases hi' : here st'.1 i
        · exact .inr ⟨hi', hleft⟩
        · exact .inl ⟨hi, hi'⟩
  size_le := h'.size_le.trans h.size_le

namespace Tracks

variable {st : σ × List ι} {x x' : Recorded σ ι ε α} {y : Actor σ ε α}

theorem quiet (h : y.Moves (Stays here size)) (st : σ × List ι) :
    Tracks here size st (Recorded.quiet y) (Recorded.quiet y) y :=
  ⟨rfl, rfl, (h st.1).accounts st.2⟩

theorem pure (a : α) (st : σ × List ι) :
    Tracks here size st (Pure.pure a : Recorded σ ι ε α) (Pure.pure a) (Pure.pure a) :=
  ⟨rfl, rfl, (Std.Refl.refl st.1 : Stays here size st.1 st.1).accounts st.2⟩

/-- What is taken is recorded. -/
theorem take {f : σ → σ} {gone : σ → List ι} (hnodup : (gone st.1).Nodup)
    (hshrinks : ∀ i, here (f st.1) i → here st.1 i)
    (hgone : ∀ i, i ∈ gone st.1 ↔ here st.1 i ∧ ¬here (f st.1) i)
    (hsize : size (f st.1) ≤ size st.1) :
    Tracks here size st (Recorded.take f gone : Recorded σ ι ε Unit) (Recorded.take f gone)
      (Actor.modify f) :=
  ⟨rfl, rfl, hshrinks, ⟨gone st.1, rfl, hnodup, hgone⟩, hsize⟩

/-- The plain computation that runs is the one without the record. -/
theorem outcome (h : Tracks here size st x x' y) {δ : Type} :
    Tracks here size st (Actor.outcome x : Recorded σ ι δ (Except ε α)) (Actor.outcome x')
      (Actor.outcome y) where
  same := by
    unfold Actor.outcome
    rw [h.same]
  erases := by
    have := h.erases
    unfold Actor.outcome
    rw [← this]
  accounts := h.accounts

theorem bind {f f' : α → Recorded σ ι ε β} {g : α → Actor σ ε β}
    (h : Tracks here size st x x' y)
    (hf : ∀ a, (x st).1 = .ok a → Tracks here size (x st).2 (f a) (f' a) (g a)) :
    Tracks here size st (x >>= f) (x' >>= f') (y >>= g) := by
  have hsame := h.same
  have herases := h.erases
  have haccounts := h.accounts
  rcases hr : x st with ⟨r, st'⟩
  rw [hr] at hsame herases haccounts hf
  cases r with
  | error e =>
    refine ⟨?_, ?_, ?_⟩
    · rw [Actor.bind_of_error hr, Actor.bind_of_error hsame]
    · rw [Actor.bind_of_error hr, Actor.bind_of_error herases.symm]
    · rw [Actor.bind_of_error hr]
      exact haccounts
  | ok a =>
    obtain ⟨hsame', herases', haccounts'⟩ := hf a rfl
    refine ⟨?_, ?_, ?_⟩
    · rw [Actor.bind_of_ok hr, Actor.bind_of_ok hsame]
      exact hsame'
    · rw [Actor.bind_of_ok hr, Actor.bind_of_ok herases.symm]
      exact herases'
    · rw [Actor.bind_of_ok hr]
      exact haccounts.trans haccounts'

/-- A bound on the size lasts. -/
theorem bind_of_lt {n : ℕ} {f f' : α → Recorded σ ι ε β} {g : α → Actor σ ε β}
    (h : Tracks here size st x x' y) (hst : size st.1 < n)
    (hf : ∀ a st', size st'.1 < n → Tracks here size st' (f a) (f' a) (g a)) :
    Tracks here size st (x >>= f) (x' >>= f') (y >>= g) :=
  h.bind fun a _ => hf a _ (h.accounts.size_le.trans_lt hst)

/-- A traversal, where each element is tracked from every state within a bound. -/
theorem forEach {n : ℕ} {f f' : α → Recorded σ ι ε Unit} {g : α → Actor σ ε Unit} {l : List α}
    (h : ∀ a ∈ l, ∀ st, size st.1 < n → Tracks here size st (f a) (f' a) (g a))
    (hst : size st.1 < n) :
    Tracks here size st (Actor.forEach f l) (Actor.forEach f' l) (Actor.forEach g l) := by
  induction l generalizing st with
  | nil => exact pure () st
  | cons a l ih =>
    refine (h a List.mem_cons_self st hst).bind_of_lt hst fun _ st' hst' => ?_
    exact ih (fun b hb => h b (List.mem_cons_of_mem a hb)) hst'

end Tracks

end Recorded
