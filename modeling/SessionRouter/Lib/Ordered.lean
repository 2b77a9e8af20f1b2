import SessionRouter.Lib.Table
import Mathlib.Data.List.Sort
import Mathlib.Order.Lattice

/-!
Tables whose keys are numbers, read in ascending order like a B-tree map.
-/

namespace Table

variable {ν : Type}

/-- The keys in ascending order. -/
def sortedKeys (m : Table ℕ ν) : List ℕ := (m.toList.map Prod.fst).insertionSort (· ≤ ·)

def firstKey? (m : Table ℕ ν) : Option ℕ := m.sortedKeys.head?

def lastKey? (m : Table ℕ ν) : Option ℕ := m.sortedKeys.getLast?

def popLast (m : Table ℕ ν) : Table ℕ ν :=
  match m.lastKey? with
  | some k => m.remove k
  | none => m

/-- Drop the largest keys, at most `fuel` of them, until `limit` are left. -/
def trim (limit : ℕ) : ℕ → Table ℕ ν → Table ℕ ν
  | 0, m => m
  | fuel + 1, m => if limit < m.size then trim limit fuel m.popLast else m

theorem mem_sortedKeys (m : Table ℕ ν) (k : ℕ) :
    k ∈ m.sortedKeys ↔ ∃ v, m.get? k = some v := by
  simp [sortedKeys, mem_toList]

theorem get?_firstKey {m : Table ℕ ν} {k : ℕ} (h : m.firstKey? = some k) :
    ∃ v, m.get? k = some v :=
  (mem_sortedKeys m k).mp (List.mem_of_mem_head? h)

theorem get?_lastKey {m : Table ℕ ν} {k : ℕ} (h : m.lastKey? = some k) :
    ∃ v, m.get? k = some v :=
  (mem_sortedKeys m k).mp (List.mem_of_getLast? h)

theorem le_lastKey {m : Table ℕ ν} {k k' : ℕ} {v : ν} (h : m.lastKey? = some k)
    (hk' : m.get? k' = some v) : k' ≤ k := by
  have hsorted : m.sortedKeys.Pairwise (· ≤ ·) := List.pairwise_insertionSort _ _
  obtain ⟨l, hl⟩ := List.getLast?_eq_some_iff.mp h
  have hin : k' ∈ m.sortedKeys := (mem_sortedKeys m k').mpr ⟨v, hk'⟩
  rw [hl] at hin hsorted
  rcases List.mem_append.mp hin with hleft | hright
  · exact (List.pairwise_append.mp hsorted).2.2 k' hleft k (by simp)
  · exact le_of_eq (List.mem_singleton.mp hright)

theorem lastKey?_of_get? {m : Table ℕ ν} {k : ℕ} {v : ν} (h : m.get? k = some v) :
    ∃ n, m.lastKey? = some n := by
  cases hl : m.lastKey? with
  | some n => exact ⟨n, rfl⟩
  | none =>
    have hin := (mem_sortedKeys m k).mpr ⟨v, h⟩
    rw [List.getLast?_eq_none_iff.mp hl] at hin
    cases hin

theorem get?_popLast {m : Table ℕ ν} {k : ℕ} {v : ν} (h : m.popLast.get? k = some v) :
    m.get? k = some v := by
  unfold popLast at h
  split at h
  · rw [get?_remove] at h
    split at h
    · cases h
    · exact h
  · exact h

theorem get?_of_trim {limit fuel : ℕ} {m : Table ℕ ν} {k : ℕ} {v : ν}
    (h : (trim limit fuel m).get? k = some v) : m.get? k = some v := by
  induction fuel generalizing m with
  | zero => exact h
  | succ fuel ih =>
    unfold trim at h
    split at h
    · exact get?_popLast (ih h)
    · exact h

/-- What trimming drops lies beyond everything it keeps. -/
theorem trim_dropped {limit fuel : ℕ} {m : Table ℕ ν} {k : ℕ} {v : ν} (h : m.get? k = some v)
    (hnone : (trim limit fuel m).get? k = none) {k' : ℕ} {v' : ν}
    (hk' : (trim limit fuel m).get? k' = some v') : k' < k := by
  induction fuel generalizing m v with
  | zero =>
    rw [trim] at hnone
    rw [h] at hnone
    cases hnone
  | succ fuel ih =>
    unfold trim at hnone hk'
    split at hnone
    · next hsize =>
      rw [if_pos hsize] at hk'
      cases hpop : m.popLast.get? k with
      | some w => exact ih hpop hnone hk'
      | none =>
        -- The key itself was popped, so it is the largest.
        have hin := get?_of_trim hk'
        unfold popLast at hpop hin
        split at hpop
        · next n hlast =>
          rw [get?_remove] at hpop
          split at hpop
          · next heq =>
            subst heq
            simp only [hlast, get?_remove] at hin
            split at hin
            · cases hin
            · next hne => exact lt_of_le_of_ne (le_lastKey hlast hin) hne
          · rw [h] at hpop
            cases hpop
        · rw [h] at hpop
          cases hpop
    · rw [h] at hnone
      cases hnone

/-- Trimming to a positive limit does not empty a table. -/
theorem trim_nonempty {limit fuel : ℕ} (hlimit : 0 < limit) {m : Table ℕ ν} {k : ℕ} {v : ν}
    (h : m.get? k = some v) : ∃ k' v', (trim limit fuel m).get? k' = some v' := by
  induction fuel generalizing m k v with
  | zero => exact ⟨k, v, h⟩
  | succ fuel ih =>
    unfold trim
    split
    · next hsize =>
      obtain ⟨n, hlast⟩ := lastKey?_of_get? h
      obtain ⟨w, hw⟩ := get?_lastKey hlast
      have hpop : m.popLast = m.remove n := by simp [popLast, hlast]
      have hcount := size_remove m hw
      -- More than one key is left, so another one survives the removal.
      have hother : ∃ k' v', (m.remove n).get? k' = some v' := by
        by_contra hempty
        have hnil : (m.remove n).toList = [] := by
          refine List.eq_nil_iff_forall_not_mem.mpr fun e he => hempty ⟨e.1, e.2, ?_⟩
          exact (mem_toList _ _ _).mp he
        have hzero : (m.remove n).size = 0 := by
          have hlen : (m.remove n).toList.length = (m.remove n).size := by
            simp [toList, size, AList.keys, List.keys]
          rw [← hlen, hnil]
          rfl
        omega
      obtain ⟨k', v', hk'⟩ := hother
      rw [hpop]
      exact ih hk'
    · exact ⟨k, v, h⟩

theorem trim_eq_self {limit fuel : ℕ} {m : Table ℕ ν} (h : m.size ≤ limit) :
    trim limit fuel m = m := by
  cases fuel with
  | zero => rfl
  | succ fuel => simp [trim, Nat.not_lt.mpr h]

end Table
