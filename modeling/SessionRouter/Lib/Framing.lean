import Mathlib.Data.List.Basic

/-!
Streams that arrive in pieces. A framing takes one item off the front of its input or waits for
more; what it makes of a stream does not depend on where the stream is cut.
-/

variable {ε α β : Type}

/-- A reader of single items. More input changes neither an item nor an error. -/
structure Framing (ε α β : Type) where
  next : List β → Except ε (Option (α × List β))
  shrinks : ∀ {xs a rest}, next xs = .ok (some (a, rest)) → rest.length < xs.length
  item_append : ∀ {xs a rest} (ys : List β), next xs = .ok (some (a, rest)) →
    next (xs ++ ys) = .ok (some (a, rest ++ ys))
  error_append : ∀ {xs e} (ys : List β), next xs = .error e → next (xs ++ ys) = .error e

namespace Framing

variable (F : Framing ε α β)

/-- Every item that is complete, and the input that is left. -/
def drain (xs : List β) : Except ε (List α × List β) :=
  match _hnext : F.next xs with
  | .error e => .error e
  | .ok none => .ok ([], xs)
  | .ok (some item) => (drain item.2).map fun r => (item.1 :: r.1, r.2)
termination_by xs.length
decreasing_by exact F.shrinks _hnext

/-- The chunks are drained one by one, each after what the ones before left. -/
def feed (rest : List β) : List (List β) → Except ε (List α × List β)
  | [] => .ok ([], rest)
  | chunk :: chunks =>
    (F.drain (rest ++ chunk)).bind fun r =>
      (feed r.2 chunks).map fun r' => (r.1 ++ r'.1, r'.2)

variable {F} {xs ys rest : List β} {a : α} {e : ε}

theorem drain_error (h : F.next xs = .error e) : F.drain xs = .error e := by
  rw [drain]
  split
  · next h' =>
    obtain rfl := Except.error.inj (h'.symm.trans h)
    rfl
  · next h' => cases h.symm.trans h'
  · next h' => cases h.symm.trans h'

theorem drain_wait (h : F.next xs = .ok none) : F.drain xs = .ok ([], xs) := by
  rw [drain]
  split
  · next h' => cases h.symm.trans h'
  · rfl
  · next h' => cases h.symm.trans h'

theorem drain_item (h : F.next xs = .ok (some (a, rest))) :
    F.drain xs = (F.drain rest).map fun r => (a :: r.1, r.2) := by
  rw [drain]
  split
  · next h' => cases h.symm.trans h'
  · next h' => cases h.symm.trans h'
  · next item h' =>
    obtain rfl : (a, rest) = item := by
      have heq := h.symm.trans h'
      simpa using heq
    rfl

/-- Draining stops when the rest holds no complete item. -/
theorem next_of_drain {r : List α × List β} (h : F.drain xs = .ok r) :
    F.next r.2 = .ok none := by
  induction xs using drain.induct F generalizing r with
  | case1 xs e hnext =>
    rw [drain_error hnext] at h
    cases h
  | case2 xs hnext =>
    rw [drain_wait hnext] at h
    cases h
    exact hnext
  | case3 xs item hnext ih =>
    rw [drain_item (a := item.1) hnext] at h
    cases hrest : F.drain item.2 with
    | error e =>
      rw [hrest] at h
      cases h
    | ok r' =>
      rw [hrest] at h
      cases h
      have hlast := ih hrest
      exact hlast

/-- Input that comes later is drained after what is left of the input before it. -/
theorem drain_append (xs ys : List β) : F.drain (xs ++ ys) =
    (F.drain xs).bind fun r => (F.drain (r.2 ++ ys)).map fun r' => (r.1 ++ r'.1, r'.2) := by
  induction xs using drain.induct F with
  | case1 xs e hnext =>
    rw [drain_error hnext, drain_error (F.error_append ys hnext)]
    rfl
  | case2 xs hnext =>
    rw [drain_wait hnext]
    show F.drain (xs ++ ys) = (F.drain (xs ++ ys)).map fun r' => ([] ++ r'.1, r'.2)
    cases F.drain (xs ++ ys) <;> rfl
  | case3 xs item hnext ih =>
    rw [drain_item (a := item.1) hnext, drain_item (F.item_append ys hnext), ih]
    cases F.drain item.2 with
    | error e => rfl
    | ok r =>
      show Except.map _ (Except.map _ (F.drain (r.2 ++ ys))) =
        Except.map _ (F.drain (r.2 ++ ys))
      cases F.drain (r.2 ++ ys) <;> rfl

/-- Chunks make what their concatenation makes. -/
theorem feed_eq_drain (chunks : List (List β)) (hrest : F.next rest = .ok none) :
    F.feed rest chunks = F.drain (rest ++ chunks.flatten) := by
  induction chunks generalizing rest with
  | nil =>
    rw [List.flatten_nil, List.append_nil, drain_wait hrest]
    rfl
  | cons chunk chunks ih =>
    rw [List.flatten_cons, ← List.append_assoc, drain_append]
    show (F.drain (rest ++ chunk)).bind _ = _
    cases hdrain : F.drain (rest ++ chunk) with
    | error e => rfl
    | ok r =>
      show (F.feed r.2 chunks).map _ = _
      rw [ih (next_of_drain hdrain)]
      rfl

/-- A list of whole items is drained in order. -/
theorem drain_items {items : List (α × List β)}
    (h : ∀ item ∈ items, ∀ tail, F.next (item.2 ++ tail) = .ok (some (item.1, tail)))
    (hnil : F.next [] = .ok none) :
    F.drain (items.map Prod.snd).flatten = .ok (items.map Prod.fst, []) := by
  induction items with
  | nil => exact drain_wait hnil
  | cons item items ih =>
    simp only [List.map_cons, List.flatten_cons]
    rw [drain_item (h item List.mem_cons_self _),
      ih fun other hother => h other (List.mem_cons_of_mem _ hother)]
    rfl

end Framing
