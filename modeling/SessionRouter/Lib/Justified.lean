import Mathlib.Data.List.Basic

/-!
Histories in which every entry is justified by the entries before it.
-/

namespace List

variable {α : Type}

/-- Every entry meets its condition on the past. -/
def Justified (cond : List α → α → Prop) (l : List α) : Prop :=
  ∀ past x rest, l = past ++ x :: rest → cond past x

variable {cond : List α → α → Prop}

theorem justified_nil : Justified cond [] := by
  intro past x rest h
  simp at h

theorem justified_concat {l : List α} {x : α} :
    Justified cond (l ++ [x]) ↔ Justified cond l ∧ cond l x := by
  constructor
  · intro h
    refine ⟨?_, h l x [] rfl⟩
    intro past y rest heq
    apply h past y (rest ++ [x])
    rw [heq, append_assoc, cons_append]
  · rintro ⟨hl, hx⟩ past y rest heq
    rcases eq_nil_or_concat rest with rfl | ⟨rest, z, rfl⟩
    · obtain ⟨rfl, hy⟩ := append_inj' heq rfl
      cases hy
      exact hx
    · rw [concat_eq_append, ← cons_append, ← append_assoc] at heq
      exact hl past y rest (append_inj' heq rfl).1

end List
