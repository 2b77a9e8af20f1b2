import Mathlib.Data.List.AList

/-!
Finite tables with one row per key. The rows of an SQL table under its primary key and the
entries of a hash map are both read through `get?`, so that no result depends on an order.
-/

/-- A finite map from keys to values. -/
def Table (κ ν : Type) := AList (fun _ : κ => ν)

namespace Table

variable {κ ν : Type} [DecidableEq κ]

instance : EmptyCollection (Table κ ν) := ⟨(∅ : AList fun _ : κ => ν)⟩

def get? (m : Table κ ν) (k : κ) : Option ν := AList.lookup k m

def contains (m : Table κ ν) (k : κ) : Bool := (m.get? k).isSome

def put (m : Table κ ν) (k : κ) (v : ν) : Table κ ν := AList.insert k v m

def remove (m : Table κ ν) (k : κ) : Table κ ν := AList.erase k m

/-- Apply `f` to the value stored under `k`, if there is one. -/
def adjust (m : Table κ ν) (k : κ) (f : ν → ν) : Table κ ν :=
  match m.get? k with
  | some v => m.put k (f v)
  | none => m

def toList (m : Table κ ν) : List (κ × ν) := (AList.entries m).map fun e => (e.1, e.2)

def ofFilter (m : Table κ ν) (p : κ → ν → Bool) : List (κ × ν) :=
  m.toList.filter fun e => p e.1 e.2

@[simp] theorem get?_empty (k : κ) : (∅ : Table κ ν).get? k = none := AList.lookup_empty k

@[grind =] theorem get?_put (m : Table κ ν) (k k' : κ) (v : ν) :
    (m.put k v).get? k' = if k' = k then some v else m.get? k' := by
  split
  · next h => subst h; exact AList.lookup_insert m
  · next h => exact AList.lookup_insert_ne h

@[simp] theorem get?_put_self (m : Table κ ν) (k : κ) (v : ν) : (m.put k v).get? k = some v := by
  simp [get?_put]

theorem get?_put_ne (m : Table κ ν) {k k' : κ} (v : ν) (h : k' ≠ k) :
    (m.put k v).get? k' = m.get? k' := by
  simp [get?_put, h]

@[grind =] theorem get?_remove (m : Table κ ν) (k k' : κ) :
    (m.remove k).get? k' = if k' = k then none else m.get? k' := by
  split
  · next h => subst h; exact AList.lookup_erase k' m
  · next h => exact AList.lookup_erase_ne h

@[simp] theorem get?_remove_self (m : Table κ ν) (k : κ) : (m.remove k).get? k = none := by
  simp [get?_remove]

@[grind =] theorem get?_adjust (m : Table κ ν) (k k' : κ) (f : ν → ν) :
    (m.adjust k f).get? k' = if k' = k then (m.get? k).map f else m.get? k' := by
  unfold adjust
  cases h : m.get? k with
  | none =>
    by_cases hk : k' = k
    · subst hk; simpa using h
    · simp [hk]
  | some v => simp [get?_put]

@[simp, grind =] theorem contains_iff (m : Table κ ν) (k : κ) :
    m.contains k = true ↔ ∃ v, m.get? k = some v := by
  simp [contains, Option.isSome_iff_exists]

@[grind =] theorem mem_toList (m : Table κ ν) (k : κ) (v : ν) :
    (k, v) ∈ m.toList ↔ m.get? k = some v := by
  refine Iff.trans ?_ (AList.mem_lookup_iff (a := k) (b := v) (s := m)).symm
  simp only [toList, List.mem_map, Prod.mk.injEq]
  constructor
  · rintro ⟨⟨a, b⟩, hm, rfl, rfl⟩
    exact hm
  · intro hm
    exact ⟨⟨k, v⟩, hm, rfl, rfl⟩

@[grind =] theorem mem_ofFilter (m : Table κ ν) (p : κ → ν → Bool) (k : κ) (v : ν) :
    (k, v) ∈ m.ofFilter p ↔ m.get? k = some v ∧ p k v = true := by
  simp [ofFilter, mem_toList]

omit [DecidableEq κ] in
theorem nodup_toList_keys (m : Table κ ν) : (m.toList.map Prod.fst).Nodup := by
  have h : (AList.keys m).Nodup := AList.keys_nodup m
  simpa [toList, AList.keys, List.keys, Function.comp_def] using h

/-- Store an entry, if there is one. -/
def putOption (m : Table κ ν) : Option (κ × ν) → Table κ ν
  | none => m
  | some e => m.put e.1 e.2

theorem get?_putOption (m : Table κ ν) (o : Option (κ × ν)) (k : κ) :
    (m.putOption o).get? k = if o.map Prod.fst = some k then o.map Prod.snd else m.get? k := by
  cases o with
  | none => rfl
  | some e =>
    simp only [putOption, get?_put, Option.map_some, Option.some.injEq]
    by_cases h : k = e.1
    · simp [h]
    · simp [h, Ne.symm h]

omit [DecidableEq κ] in
theorem nodupKeys_map (l : List (Sigma fun _ : κ => ν)) (f : ν → ν) (h : l.NodupKeys) :
    (l.map fun e => (⟨e.1, f e.2⟩ : Sigma fun _ : κ => ν)).NodupKeys := by
  simpa [List.NodupKeys, List.keys, Function.comp_def] using h

/-- Apply `f` to every value. -/
def mapValues (m : Table κ ν) (f : ν → ν) : Table κ ν :=
  (⟨(AList.entries m).map fun e => ⟨e.1, f e.2⟩, nodupKeys_map _ f (AList.nodupKeys m)⟩ :
    AList fun _ : κ => ν)

theorem get?_mapValues (m : Table κ ν) (f : ν → ν) (k : κ) :
    (m.mapValues f).get? k = (m.get? k).map f := by
  have hmap : ∀ l : List (Sigma fun _ : κ => ν),
      (l.map fun e => (⟨e.1, f e.2⟩ : Sigma fun _ : κ => ν)).dlookup k = (l.dlookup k).map f := by
    intro l
    induction l with
    | nil => rfl
    | cons e l ih =>
      obtain ⟨a, b⟩ := e
      by_cases hk : a = k
      · subst hk
        rw [List.map_cons, List.dlookup_cons_eq, List.dlookup_cons_eq, Option.map_some]
      · rw [List.map_cons, List.dlookup_cons_ne _ _ (Ne.symm hk),
          List.dlookup_cons_ne _ _ (Ne.symm hk), ih]
  exact hmap (AList.entries m)

/-- The number of keys in use. -/
def size (m : Table κ ν) : Nat := (AList.keys m).length

theorem size_remove (m : Table κ ν) {k : κ} {v : ν} (h : m.get? k = some v) :
    (m.remove k).size + 1 = m.size := by
  have hk : k ∈ AList.keys m := by
    have hs : (AList.lookup k m).isSome := by
      simp only [get?] at h
      simp [h]
    exact AList.lookup_isSome.mp hs
  have he : AList.keys (AList.erase k m) = (AList.keys m).erase k := AList.keys_erase k m
  have hpos : 0 < (AList.keys m).length := List.length_pos_of_mem hk
  unfold size remove
  rw [he, List.length_erase_of_mem hk]
  omega

theorem size_remove_le (m : Table κ ν) (k : κ) : (m.remove k).size ≤ m.size := by
  have he : AList.keys (AList.erase k m) = (AList.keys m).erase k := AList.keys_erase k m
  unfold size remove
  rw [he]
  exact List.length_erase_le

theorem get?_foldl_remove (ks : List κ) (m : Table κ ν) (k : κ) :
    (ks.foldl remove m).get? k = if k ∈ ks then none else m.get? k := by
  induction ks generalizing m with
  | nil => simp
  | cons k' ks ih =>
    rw [List.foldl_cons, ih, get?_remove]
    by_cases hk : k ∈ ks
    · simp [hk]
    · by_cases hk' : k = k'
      · simp [hk']
      · simp [hk, hk']

theorem size_foldl_remove_le (ks : List κ) (m : Table κ ν) :
    (ks.foldl remove m).size ≤ m.size := by
  induction ks generalizing m with
  | nil => exact Nat.le_refl _
  | cons k ks ih => exact Nat.le_trans (ih _) (size_remove_le m k)

theorem size_foldl_remove_lt {ks : List κ} {m : Table κ ν} {k : κ} {v : ν} (hk : k ∈ ks)
    (h : m.get? k = some v) : (ks.foldl remove m).size < m.size := by
  induction ks generalizing m with
  | nil => simp at hk
  | cons k' ks ih =>
    rw [List.foldl_cons]
    by_cases hk' : k = k'
    · subst hk'
      have hle := size_foldl_remove_le ks (m.remove k)
      have hlt := size_remove m h
      omega
    · have hmem : k ∈ ks := by
        rcases List.mem_cons.mp hk with heq | hmem
        · exact absurd heq hk'
        · exact hmem
      have hget : (m.remove k').get? k = some v := by rw [get?_remove, if_neg hk']; exact h
      exact Nat.lt_of_lt_of_le (ih hmem hget) (size_remove_le m k')

theorem size_put (m : Table κ ν) {k : κ} {v w : ν} (h : m.get? k = some w) :
    (m.put k v).size = m.size := by
  have hr := size_remove m h
  have hk : AList.keys (AList.insert k v m) = k :: (AList.keys m).erase k := AList.keys_insert m
  have he : AList.keys (AList.erase k m) = (AList.keys m).erase k := AList.keys_erase k m
  unfold size remove at hr
  unfold size put
  rw [he] at hr
  rw [hk]
  exact hr

omit [DecidableEq κ] in
@[simp] theorem size_empty : (∅ : Table κ ν).size = 0 := rfl

theorem size_put_le (m : Table κ ν) (k : κ) (v : ν) : (m.put k v).size ≤ m.size + 1 := by
  have hk : AList.keys (AList.insert k v m) = k :: (AList.keys m).erase k := AList.keys_insert m
  unfold size put
  rw [hk, List.length_cons]
  exact Nat.succ_le_succ List.length_erase_le

@[simp] theorem size_adjust (m : Table κ ν) (k : κ) (f : ν → ν) : (m.adjust k f).size = m.size := by
  unfold adjust
  split
  · next v h => exact size_put m h
  · rfl

theorem get?_foldl_adjust {f : ν → ν} (hf : ∀ v, f (f v) = f v) (ks : List κ) (m : Table κ ν)
    (k : κ) :
    (ks.foldl (fun m k => m.adjust k f) m).get? k =
      if k ∈ ks then (m.get? k).map f else m.get? k := by
  induction ks generalizing m with
  | nil => simp
  | cons k' ks ih =>
    rw [List.foldl_cons, ih, get?_adjust]
    by_cases hk : k = k'
    · subst hk
      cases hget : m.get? k with
      | none => simp
      | some v => by_cases hmem : k ∈ ks <;> simp [hmem, hf]
    · simp [hk]

theorem size_foldl_adjust (f : ν → ν) (ks : List κ) (m : Table κ ν) :
    (ks.foldl (fun m k => m.adjust k f) m).size = m.size := by
  induction ks generalizing m with
  | nil => rfl
  | cons k ks ih => rw [List.foldl_cons, ih, size_adjust]

end Table
