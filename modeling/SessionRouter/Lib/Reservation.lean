import Mathlib.Data.List.Nodup
import Mathlib.Data.List.ReduceOption
import Mathlib.Logic.Relation

/-!
A ledger of reservations. A holder takes a place among at most `limit` and may take a key with it
that nobody else has; it gives both back at once. Whatever the order of takings and returns, the
count is the number of holders and the keys that are taken are those of the holders.
-/

/-- A counter, the keys that are taken and the keys of the present holders. -/
structure Ledger (κ : Type) where
  count : ℕ
  taken : List κ
  holders : List (Option κ)

namespace Ledger

variable {κ : Type} [BEq κ] [LawfulBEq κ] [DecidableEq κ] {limit : ℕ} {l l' : Ledger κ}

/-- The key becomes taken. -/
def mark (taken : List κ) (key : Option κ) : List κ := key.elim taken taken.insert

/-- The key becomes free. -/
def clear (taken : List κ) (key : Option κ) : List κ := taken.filter fun k => some k ≠ key

omit [DecidableEq κ] in
theorem mem_mark {taken : List κ} {key : Option κ} {k : κ} :
    k ∈ mark taken key ↔ k ∈ taken ∨ key = some k := by
  cases key with
  | none => simp [mark]
  | some k' =>
    simp only [mark, Option.elim_some, List.mem_insert_iff, Option.some.injEq]
    constructor
    · rintro (rfl | h)
      · exact .inr rfl
      · exact .inl h
    · rintro (h | rfl)
      · exact .inr h
      · exact .inl rfl

omit [BEq κ] [LawfulBEq κ] in
theorem mem_clear {taken : List κ} {key : Option κ} {k : κ} :
    k ∈ clear taken key ↔ k ∈ taken ∧ key ≠ some k := by
  simp only [clear, List.mem_filter, decide_eq_true_eq, ne_comm]

/-- A key that was free is free again after it was taken and given back. -/
theorem clear_mark {taken : List κ} {key : Option κ} (hfree : ∀ k, key = some k → k ∉ taken) :
    clear (mark taken key) key = taken := by
  cases key with
  | none => simp [clear, mark]
  | some k =>
    have hk := hfree k rfl
    simp only [clear, mark, Option.elim_some, List.insert_of_not_mem hk]
    rw [List.filter_cons_of_neg (by simp), List.filter_eq_self]
    intro k' hk'
    have hne : k' ≠ k := fun h => hk (h ▸ hk')
    simpa using hne

/-- A holder comes or goes. -/
inductive Turn (limit : ℕ) : Ledger κ → Ledger κ → Prop
  | take {l : Ledger κ} (key : Option κ) (hroom : l.count < limit)
      (hfree : ∀ k, key = some k → k ∉ l.taken) :
      Turn limit l
        { count := l.count + 1, taken := mark l.taken key, holders := l.holders ++ [key] }
  | giveBack {l : Ledger κ} {before after : List (Option κ)} {key : Option κ}
      (hholders : l.holders = before ++ key :: after) :
      Turn limit l
        { count := l.count - 1, taken := clear l.taken key, holders := before ++ after }

/-- Any number of turns. -/
def Turns (limit : ℕ) : Ledger κ → Ledger κ → Prop := Relation.ReflTransGen (Turn limit)

/-- The count and the keys are those of the holders, and no two holders have the same key. -/
structure Exact (limit : ℕ) (l : Ledger κ) : Prop where
  count : l.count = l.holders.length
  bound : l.count ≤ limit
  taken : ∀ k, k ∈ l.taken ↔ some k ∈ l.holders
  apart : l.holders.reduceOption.Nodup

omit [BEq κ] [LawfulBEq κ] [DecidableEq κ] in
theorem Exact.empty : Exact limit ({ count := 0, taken := [], holders := [] } : Ledger κ) where
  count := rfl
  bound := Nat.zero_le _
  taken := by simp
  apart := by simp

omit [DecidableEq κ] in
theorem Exact.take {key : Option κ} (h : Exact limit l) (hroom : l.count < limit)
    (hfree : ∀ k, key = some k → k ∉ l.taken) :
    Exact limit
      { count := l.count + 1, taken := mark l.taken key, holders := l.holders ++ [key] } where
  count := by
    show l.count + 1 = (l.holders ++ [key]).length
    rw [h.count, List.length_append, List.length_singleton]
  bound := hroom
  taken k := by
    show k ∈ mark l.taken key ↔ some k ∈ l.holders ++ [key]
    rw [mem_mark, h.taken, List.mem_append, List.mem_singleton]
    constructor
    · rintro (hk | hk)
      · exact .inl hk
      · exact .inr hk.symm
    · rintro (hk | hk)
      · exact .inl hk
      · exact .inr hk.symm
  apart := by
    show (l.holders ++ [key]).reduceOption.Nodup
    rw [List.reduceOption_append]
    cases key with
    | none => simpa [List.reduceOption_cons_of_none] using h.apart
    | some k =>
      have hk : some k ∉ l.holders := fun hmem => hfree k rfl ((h.taken k).mpr hmem)
      rw [List.reduceOption_cons_of_some, List.reduceOption_nil]
      refine List.nodup_append.mpr ⟨h.apart, List.nodup_singleton k, ?_⟩
      rintro a ha b hb rfl
      obtain rfl := List.mem_singleton.mp hb
      exact hk (List.reduceOption_mem_iff.mp ha)

omit [BEq κ] [LawfulBEq κ] in
theorem Exact.giveBack {before after : List (Option κ)} {key : Option κ} (h : Exact limit l)
    (hholders : l.holders = before ++ key :: after) :
    Exact limit
      { count := l.count - 1, taken := clear l.taken key, holders := before ++ after } where
  count := by
    show l.count - 1 = (before ++ after).length
    rw [h.count, hholders]
    simp only [List.length_append, List.length_cons]
    omega
  bound := Nat.le_trans (Nat.sub_le _ _) h.bound
  taken k := by
    show k ∈ clear l.taken key ↔ some k ∈ before ++ after
    have hapart := h.apart
    rw [mem_clear, h.taken, hholders]
    rw [hholders] at hapart
    constructor
    · rintro ⟨hk, hne⟩
      simp only [List.mem_append, List.mem_cons] at hk ⊢
      rcases hk with hk | hk | hk
      · exact .inl hk
      · exact absurd hk.symm hne
      · exact .inr hk
    · intro hk
      refine ⟨by simp only [List.mem_append, List.mem_cons] at hk ⊢; tauto, ?_⟩
      rintro rfl
      -- the key would be held twice
      rw [List.reduceOption_append, List.reduceOption_cons_of_some] at hapart
      have hmid := List.nodup_middle.mp hapart
      rw [← List.reduceOption_append, List.nodup_cons] at hmid
      exact hmid.1 (List.reduceOption_mem_iff.mpr hk)
  apart := by
    refine List.Nodup.sublist ?_ h.apart
    rw [hholders]
    apply List.Sublist.filterMap
    exact List.Sublist.append_left (List.sublist_cons_self _ _) _

theorem Turn.exact (h : Turn limit l l') (hl : Exact limit l) : Exact limit l' := by
  cases h with
  | take key hroom hfree => exact hl.take hroom hfree
  | giveBack hholders => exact hl.giveBack hholders

/-- Exactness survives every run of takings and returns. -/
theorem Turns.exact (h : Turns limit l l') (hl : Exact limit l) : Exact limit l' := by
  induction h with
  | refl => exact hl
  | tail _ hturn ih => exact hturn.exact ih

end Ledger
