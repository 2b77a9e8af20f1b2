import Mathlib.Logic.Basic

/-!
Programs that act on a store one operation at a time and may be stopped between any two of them.
An invariant of the store is shown for all runs by showing it for every operation of every
program.
-/

/-- A program: each operation gets an answer, which decides how it goes on. -/
inductive Prog (ω ρ α : Type) where
  | ret (a : α)
  | op (o : ω) (k : ρ → Prog ω ρ α)

namespace Prog

variable {σ ω ρ α β : Type}

def bind : Prog ω ρ α → (α → Prog ω ρ β) → Prog ω ρ β
  | ret a, f => f a
  | op o k, f => op o fun r => (k r).bind f

instance : Monad (Prog ω ρ) where
  pure := ret
  bind := bind

section

variable (answers : σ → ω → ρ → σ → Prop) (inv : σ → Prop)

/-- Every operation keeps the invariant, and the result meets the postcondition. -/
def Safe (post : α → σ → Prop) : Prog ω ρ α → σ → Prop
  | ret a, s => post a s
  | op o k, s => ∀ r s', answers s o r s' → inv s' ∧ Safe post (k r) s'

end

variable {answers : σ → ω → ρ → σ → Prop} {inv : σ → Prop}

theorem Safe.mono {post post' : α → σ → Prop} {p : Prog ω ρ α} {s : σ} (hinv : inv s)
    (h : Safe answers inv post p s) (hpost : ∀ a s, inv s → post a s → post' a s) :
    Safe answers inv post' p s := by
  induction p generalizing s with
  | ret a => exact hpost a s hinv h
  | op o k ih =>
    intro r s' hanswer
    obtain ⟨hinv', hk⟩ := h r s' hanswer
    exact ⟨hinv', ih r hinv' hk⟩

/-- A stronger invariant may be kept for a part of a program. -/
theorem Safe.weaken {inv' : σ → Prop} {post post' : α → σ → Prop} {p : Prog ω ρ α} {s : σ}
    (hinv : inv' s) (h : Safe answers inv' post p s) (hweak : ∀ s, inv' s → inv s)
    (hpost : ∀ a s, inv' s → post a s → post' a s) : Safe answers inv post' p s := by
  induction p generalizing s with
  | ret a => exact hpost a s hinv h
  | op o k ih =>
    intro r s' hanswer
    obtain ⟨hinv', hk⟩ := h r s' hanswer
    exact ⟨hweak s' hinv', ih r hinv' hk⟩

theorem Safe.bind {mid : α → σ → Prop} {post : β → σ → Prop} {p : Prog ω ρ α}
    {f : α → Prog ω ρ β} {s : σ} (hinv : inv s) (h : Safe answers inv mid p s)
    (hf : ∀ a s, inv s → mid a s → Safe answers inv post (f a) s) :
    Safe answers inv post (p >>= f) s := by
  induction p generalizing s with
  | ret a => exact hf a s hinv h
  | op o k ih =>
    intro r s' hanswer
    obtain ⟨hinv', hk⟩ := h r s' hanswer
    exact ⟨hinv', ih r hinv' hk⟩

variable (answers) in
/-- The store and the program that runs on it. Programs run one after the other; a stop leaves the
store, a crash may change it. -/
inductive Reaches (allowed : Prog ω ρ Unit → Prop) (crash : σ → σ → Prop) (first : σ) :
    σ → Option (Prog ω ρ Unit) → Prop
  | start : Reaches allowed crash first first none
  | begin {s : σ} {p : Prog ω ρ Unit} (h : Reaches allowed crash first s none) (hp : allowed p) :
      Reaches allowed crash first s (some p)
  | step {s s' : σ} {o : ω} {k : ρ → Prog ω ρ Unit} {r : ρ}
      (h : Reaches allowed crash first s (some (.op o k))) (ha : answers s o r s') :
      Reaches allowed crash first s' (some (k r))
  | stop {s : σ} {p : Option (Prog ω ρ Unit)} (h : Reaches allowed crash first s p) :
      Reaches allowed crash first s none
  | crash {s s' : σ} {p : Option (Prog ω ρ Unit)} (h : Reaches allowed crash first s p)
      (hc : crash s s') : Reaches allowed crash first s' none

variable (answers) in
/-- A whole run of a program. -/
inductive Runs : Prog ω ρ α → σ → σ → α → Prop
  | ret (a : α) (s : σ) : Runs (.ret a) s s a
  | op {o : ω} {k : ρ → Prog ω ρ α} {r : ρ} {s s' s'' : σ} {a : α} (ha : answers s o r s')
      (h : Runs (k r) s' s'' a) : Runs (.op o k) s s'' a

theorem Runs.bind {p : Prog ω ρ α} {f : α → Prog ω ρ β} {s s' s'' : σ} {a : α} {b : β}
    (h : Runs answers p s s' a) (hf : Runs answers (f a) s' s'' b) :
    Runs answers (p >>= f) s s'' b := by
  induction h with
  | ret a s => exact hf
  | op ha _ ih => exact .op ha (ih hf)

theorem Safe.always {p : Prog ω ρ α} {s : σ} :
    Safe answers (fun _ => True) (fun _ _ => True) p s := by
  induction p generalizing s with
  | ret a => trivial
  | op o k ih => exact fun r s' _ => ⟨trivial, ih r⟩

/-- Nothing is asked of the first part. -/
theorem Safe.bind_any {post : β → σ → Prop} {p : Prog ω ρ α} {f : α → Prog ω ρ β} {s : σ}
    (hf : ∀ a s, Safe answers (fun _ => True) post (f a) s) :
    Safe answers (fun _ => True) post (p >>= f) s :=
  Safe.bind trivial .always fun a s _ _ => hf a s

theorem Safe.runs {post : α → σ → Prop} {p : Prog ω ρ α} {s s' : σ} {a : α}
    (h : Safe answers inv post p s) (hrun : Runs answers p s s' a) : post a s' := by
  induction hrun with
  | ret a s => exact h
  | op ha _ ih => exact ih (h _ _ ha).2

theorem Reaches.runs {allowed : Prog ω ρ Unit → Prop} {crash : σ → σ → Prop} {first s s' : σ}
    {p : Prog ω ρ Unit} {a : Unit} (h : Reaches answers allowed crash first s (some p))
    (hp : Runs answers p s s' a) : Reaches answers allowed crash first s' none := by
  induction hp with
  | ret a s => exact .stop h
  | op ha _ ih => exact ih (.step h ha)

/-- The rule for invariants. -/
theorem Reaches.invariant {allowed : Prog ω ρ Unit → Prop} {crash : σ → σ → Prop} {first s : σ}
    {p : Option (Prog ω ρ Unit)} (hfirst : inv first)
    (hallowed : ∀ p, allowed p → ∀ s, inv s → Safe answers inv (fun _ _ => True) p s)
    (hcrash : ∀ s s', inv s → crash s s' → inv s') (h : Reaches answers allowed crash first s p) :
    inv s ∧ ∀ q, p = some q → Safe answers inv (fun _ _ => True) q s := by
  induction h with
  | start => exact ⟨hfirst, nofun⟩
  | begin _ hp ih =>
    refine ⟨ih.1, fun q hq => ?_⟩
    cases hq
    exact hallowed _ hp _ ih.1
  | step _ ha ih =>
    obtain ⟨hinv, hk⟩ := ih.2 _ rfl _ _ ha
    refine ⟨hinv, fun q hq => ?_⟩
    cases hq
    exact hk
  | stop _ ih => exact ⟨ih.1, nofun⟩
  | crash _ hc ih => exact ⟨hcrash _ _ ih.1 hc, nofun⟩

end Prog
