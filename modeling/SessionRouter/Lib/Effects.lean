import Mathlib.Order.Defs.Unbundled
import Mathlib.Tactic.SplitIfs

/-!
Two state monads with errors, their weakest preconditions and the moves of their runs. A `Txn`
loses its state when it fails, as a transaction that is rolled back does; an `Actor` keeps the
state it had reached.
-/

variable {σ ε δ α β : Type}

/-- A transaction over the state `σ`: an error leaves no trace. -/
def Txn (σ ε α : Type) := σ → Except ε (α × σ)

/-- A stateful computation whose state survives an error. -/
def Actor (σ ε α : Type) := σ → Except ε α × σ

namespace Txn

instance : Monad (Txn σ ε) where
  pure a := fun s => .ok (a, s)
  bind x f := fun s =>
    match x s with
    | .ok (a, s') => f a s'
    | .error e => .error e

def fail (e : ε) : Txn σ ε α := fun _ => .error e

def get : Txn σ ε σ := fun s => .ok (s, s)

def read (f : σ → α) : Txn σ ε α := fun s => .ok (f s, s)

def modify (f : σ → σ) : Txn σ ε Unit := fun s => .ok ((), f s)

/-- Succeed with `a`, or fail when there is none. -/
def orFail (e : ε) : Option α → Txn σ ε α
  | some a => pure a
  | none => fail e

def require (b : Bool) (e : ε) : Txn σ ε Unit := if b then pure () else fail e

def mapError (f : ε → δ) (x : Txn σ ε α) : Txn σ δ α := fun s =>
  match x s with
  | .ok r => .ok r
  | .error e => .error (f e)

/-- Run `f` on each element in turn. -/
def each (f : α → Txn σ ε β) : List α → Txn σ ε (List β)
  | [] => pure []
  | a :: as => do
    let b ← f a
    let bs ← each f as
    pure (b :: bs)

/-- A run of `x` from `s` ends in `Q` or fails with an error in `E`. -/
def wp (x : Txn σ ε α) (Q : α → σ → Prop) (E : ε → Prop) (s : σ) : Prop :=
  match x s with
  | .ok (a, s') => Q a s'
  | .error e => E e

variable {x : Txn σ ε α} {f : α → Txn σ ε β} {Q Q' : α → σ → Prop} {R : β → σ → Prop}
  {E E' : ε → Prop} {s : σ}

@[simp] theorem wp_pure (a : α) : wp (pure a : Txn σ ε α) Q E s ↔ Q a s := Iff.rfl

@[simp] theorem wp_bind : wp (x >>= f) R E s ↔ wp x (fun a s' => wp (f a) R E s') E s := by
  have hb : (x >>= f) s = match x s with | .ok (a, s') => f a s' | .error e => .error e := rfl
  unfold wp
  rw [hb]
  cases x s with
  | error e => rfl
  | ok r => rfl

@[simp] theorem wp_fail (e : ε) : wp (fail e : Txn σ ε α) Q E s ↔ E e := Iff.rfl

@[simp] theorem wp_get {Q : σ → σ → Prop} : wp (get : Txn σ ε σ) Q E s ↔ Q s s := Iff.rfl

@[simp] theorem wp_read (g : σ → α) : wp (read g : Txn σ ε α) Q E s ↔ Q (g s) s := Iff.rfl

@[simp] theorem wp_modify {Q : Unit → σ → Prop} (g : σ → σ) :
    wp (modify g : Txn σ ε Unit) Q E s ↔ Q () (g s) := Iff.rfl

theorem wp_orFail (e : ε) (o : Option α) :
    wp (orFail e o : Txn σ ε α) Q E s ↔ (∀ a, o = some a → Q a s) ∧ (o = none → E e) := by
  cases o with
  | none => simp [orFail]
  | some a => simp [orFail]

theorem wp_require {Q : Unit → σ → Prop} (b : Bool) (e : ε) :
    wp (require b e : Txn σ ε Unit) Q E s ↔ (b = true → Q () s) ∧ (b = false → E e) := by
  cases b <;> simp [require]

@[simp] theorem wp_mapError (g : ε → δ) {E : δ → Prop} :
    wp (mapError g x) Q E s ↔ wp x Q (fun e => E (g e)) s := by
  unfold wp mapError
  cases x s with
  | error e => rfl
  | ok r => rfl

theorem wp_ite {c : Prop} [Decidable c] {y : Txn σ ε α} :
    wp (if c then x else y) Q E s ↔ (c → wp x Q E s) ∧ (¬c → wp y Q E s) := by
  split_ifs with h <;> simp [h]

theorem wp_mono (h : wp x Q E s) (hQ : ∀ a s', Q a s' → Q' a s') (hE : ∀ e, E e → E' e) :
    wp x Q' E' s := by
  unfold wp at *
  cases hx : x s with
  | error e => rw [hx] at h; exact hE e h
  | ok r => rw [hx] at h; exact hQ r.1 r.2 h

theorem wp_and (h : wp x Q E s) (h' : wp x Q' E' s) :
    wp x (fun a s' => Q a s' ∧ Q' a s') (fun e => E e ∧ E' e) s := by
  unfold wp at *
  cases hx : x s with
  | error e => rw [hx] at h h'; exact ⟨h, h'⟩
  | ok r => rw [hx] at h h'; exact ⟨h, h'⟩

theorem wp_ok {a : α} {s' : σ} (h : wp x Q E s) (hx : x s = .ok (a, s')) : Q a s' := by
  unfold wp at h
  rw [hx] at h
  exact h

theorem wp_error {e : ε} (h : wp x Q E s) (hx : x s = .error e) : E e := by
  unfold wp at h
  rw [hx] at h
  exact h

theorem wp_of (hQ : ∀ a s', x s = .ok (a, s') → Q a s') (hE : ∀ e, x s = .error e → E e) :
    wp x Q E s := by
  unfold wp
  cases hx : x s with
  | error e => exact hE e hx
  | ok r => exact hQ r.1 r.2 hx

/-- Where errors do not matter, a step of which nothing is known may be passed over. -/
theorem wp_bind_any (h : ∀ a s', wp (f a) R (fun _ => True) s') :
    wp (x >>= f) R (fun _ => True) s := by
  rw [wp_bind]
  exact wp_of (fun a s' _ => h a s') fun _ _ => trivial

/-- What each element adds to the elements already done and their results holds of the whole
traversal. -/
theorem wp_each {f : α → Txn σ ε β} {I : List α → List β → σ → Prop} {l : List α} (hs : I [] [] s)
    (h : ∀ done results a rest s, l = done ++ a :: rest → I done results s →
      wp (f a) (fun b s' => I (done ++ [a]) (results ++ [b]) s') E s) :
    wp (each f l) (fun results s' => I l results s') E s := by
  have hfrom : ∀ rest done results s, l = done ++ rest → I done results s →
      wp (each f rest) (fun more s' => I l (results ++ more) s') E s := by
    intro rest
    induction rest with
    | nil =>
      intro done results s hl hI
      rw [List.append_nil] at hl
      subst hl
      simpa [each] using hI
    | cons a rest ih =>
      intro done results s hl hI
      simp only [each, wp_bind, wp_pure]
      refine wp_mono (h done results a rest s hl hI) (fun b s' hI' => ?_) (fun e he => he)
      refine wp_mono (ih (done ++ [a]) (results ++ [b]) s' (by simp [hl]) hI') ?_ fun e he => he
      intro more s'' hI''
      simpa using hI''
  exact hfrom l [] [] s rfl hs

/-- Every run of `x` that succeeds moves the state along `R`. -/
def Moves (R : σ → σ → Prop) (x : Txn σ ε α) : Prop := ∀ s a s', x s = .ok (a, s') → R s s'

namespace Moves

variable {T : σ → σ → Prop}

theorem of_wp (h : ∀ s, Txn.wp x (fun _ s' => T s s') (fun _ => True) s) : Moves T x :=
  fun s _ _ hx => Txn.wp_ok (Q := fun _ s' => T s s') (h s) hx

theorem wp (h : Moves T x) : Txn.wp x (fun _ s' => T s s') (fun _ => True) s :=
  wp_of (fun a s' hx => h s a s' hx) fun _ _ => trivial

theorem fail (e : ε) : Moves T (fail e : Txn σ ε α) := fun _ _ _ hx => by cases hx

theorem mapError (h : Moves T x) (g : ε → δ) : Moves T (mapError g x) :=
  of_wp fun s => by
    rw [wp_mapError]
    exact h.wp

theorem ite {c : Prop} [Decidable c] {y : Txn σ ε α} (h : Moves T x) (h' : Moves T y) :
    Moves T (if c then x else y) := by
  split_ifs
  · exact h
  · exact h'

/-- Two computations that move along different relations move along their composition. -/
theorem andThen {U V : σ → σ → Prop} (h : Moves U x) (hf : ∀ a, Moves V (f a))
    (htrans : ∀ {a b c}, U a b → V b c → T a c) : Moves T (x >>= f) :=
  of_wp fun s => by
    rw [wp_bind]
    refine wp_of (fun a s₁ hx => ?_) fun _ _ => trivial
    refine wp_mono (hf a).wp (fun _ s₂ h₂ => ?_) fun _ h => h
    exact htrans (h s a s₁ hx) h₂

theorem bind [IsTrans σ T] (h : Moves T x) (hf : ∀ a, Moves T (f a)) : Moves T (x >>= f) :=
  andThen h hf fun hab hbc => IsTrans.trans _ _ _ hab hbc

variable [Std.Refl T]

theorem pure (a : α) : Moves T (pure a : Txn σ ε α) := of_wp fun s => Std.Refl.refl s

theorem get : Moves T (get : Txn σ ε σ) := of_wp fun s => Std.Refl.refl s

theorem read (g : σ → α) : Moves T (read g : Txn σ ε α) := of_wp fun s => Std.Refl.refl s

theorem orFail (e : ε) (o : Option α) : Moves T (orFail e o : Txn σ ε α) := by
  cases o with
  | none => exact fail e
  | some a => exact pure a

theorem require (b : Bool) (e : ε) : Moves T (require b e : Txn σ ε Unit) := by
  cases b with
  | false => exact fail e
  | true => exact pure ()

theorem each [IsTrans σ T] {f : α → Txn σ ε β} (h : ∀ a, Moves T (f a)) (l : List α) :
    Moves T (each f l) := by
  induction l with
  | nil => exact pure []
  | cons a as ih => exact bind (h a) fun b => bind ih fun bs => pure (b :: bs)

end Moves

end Txn

namespace Actor

instance : Monad (Actor σ ε) where
  pure a := fun s => (.ok a, s)
  bind x f := fun s =>
    match x s with
    | (.ok a, s') => f a s'
    | (.error e, s') => (.error e, s')

def fail (e : ε) : Actor σ ε α := fun s => (.error e, s)

def get : Actor σ ε σ := fun s => (.ok s, s)

def read (f : σ → α) : Actor σ ε α := fun s => (.ok (f s), s)

def modify (f : σ → σ) : Actor σ ε Unit := fun s => (.ok (), f s)

def orFail (e : ε) : Option α → Actor σ ε α
  | some a => pure a
  | none => fail e

def require (b : Bool) (e : ε) : Actor σ ε Unit := if b then pure () else fail e

def mapError (f : ε → δ) (x : Actor σ ε α) : Actor σ δ α := fun s =>
  match x s with
  | (.ok a, s') => (.ok a, s')
  | (.error e, s') => (.error (f e), s')

/-- Run `x` and hand its outcome on as a value. -/
def outcome (x : Actor σ ε α) : Actor σ δ (Except ε α) := fun s => (.ok (x s).1, (x s).2)

/-- Continue from a computed outcome. -/
def ofExcept : Except ε α → Actor σ ε α
  | .ok a => pure a
  | .error e => fail e

/-- Run `f` on each element in turn and stop at the first error. -/
def forEach (f : α → Actor σ ε Unit) : List α → Actor σ ε Unit
  | [] => pure ()
  | a :: as => do
    f a
    forEach f as

/-- A run of `x` from `s` ends in `Q`, or with an error and a state in `E`. -/
def wp (x : Actor σ ε α) (Q : α → σ → Prop) (E : ε → σ → Prop) (s : σ) : Prop :=
  match x s with
  | (.ok a, s') => Q a s'
  | (.error e, s') => E e s'

variable {x : Actor σ ε α} {f : α → Actor σ ε β} {Q Q' : α → σ → Prop} {R : β → σ → Prop}
  {E E' : ε → σ → Prop} {s : σ}

@[simp] theorem wp_pure (a : α) : wp (pure a : Actor σ ε α) Q E s ↔ Q a s := Iff.rfl

@[simp] theorem wp_bind : wp (x >>= f) R E s ↔ wp x (fun a s' => wp (f a) R E s') E s := by
  have hb : (x >>= f) s = match x s with
    | (.ok a, s') => f a s' | (.error e, s') => (.error e, s') := rfl
  unfold wp
  rw [hb]
  rcases x s with ⟨r, s'⟩
  cases r with
  | error e => rfl
  | ok a => rfl

@[simp] theorem wp_fail (e : ε) : wp (fail e : Actor σ ε α) Q E s ↔ E e s := Iff.rfl

@[simp] theorem wp_get {Q : σ → σ → Prop} : wp (get : Actor σ ε σ) Q E s ↔ Q s s := Iff.rfl

@[simp] theorem wp_read (g : σ → α) : wp (read g : Actor σ ε α) Q E s ↔ Q (g s) s := Iff.rfl

@[simp] theorem wp_modify {Q : Unit → σ → Prop} (g : σ → σ) :
    wp (modify g : Actor σ ε Unit) Q E s ↔ Q () (g s) := Iff.rfl

theorem wp_orFail (e : ε) (o : Option α) :
    wp (orFail e o : Actor σ ε α) Q E s ↔ (∀ a, o = some a → Q a s) ∧ (o = none → E e s) := by
  cases o with
  | none => simp [orFail]
  | some a => simp [orFail]

theorem wp_require {Q : Unit → σ → Prop} (b : Bool) (e : ε) :
    wp (require b e : Actor σ ε Unit) Q E s ↔ (b = true → Q () s) ∧ (b = false → E e s) := by
  cases b <;> simp [require]

@[simp] theorem wp_mapError (g : ε → δ) {E : δ → σ → Prop} :
    wp (mapError g x) Q E s ↔ wp x Q (fun e s' => E (g e) s') s := by
  unfold wp mapError
  rcases x s with ⟨r, s'⟩
  cases r with
  | error e => rfl
  | ok a => rfl

@[simp] theorem wp_outcome {Q : Except ε α → σ → Prop} {E : δ → σ → Prop} :
    wp (outcome x : Actor σ δ (Except ε α)) Q E s ↔
      wp x (fun a s' => Q (.ok a) s') (fun e s' => Q (.error e) s') s := by
  unfold wp outcome
  rcases x s with ⟨r, s'⟩
  cases r with
  | error e => rfl
  | ok a => rfl

theorem wp_ite {c : Prop} [Decidable c] {y : Actor σ ε α} :
    wp (if c then x else y) Q E s ↔ (c → wp x Q E s) ∧ (¬c → wp y Q E s) := by
  split_ifs with h <;> simp [h]

theorem wp_mono (h : wp x Q E s) (hQ : ∀ a s', Q a s' → Q' a s')
    (hE : ∀ e s', E e s' → E' e s') : wp x Q' E' s := by
  unfold wp at *
  rcases hx : x s with ⟨r, s'⟩
  rw [hx] at h
  cases r with
  | error e => exact hE e s' h
  | ok a => exact hQ a s' h

theorem wp_and (h : wp x Q E s) (h' : wp x Q' E' s) :
    wp x (fun a s' => Q a s' ∧ Q' a s') (fun e s' => E e s' ∧ E' e s') s := by
  unfold wp at *
  rcases hx : x s with ⟨r, s'⟩
  rw [hx] at h h'
  cases r with
  | error e => exact ⟨h, h'⟩
  | ok a => exact ⟨h, h'⟩

theorem wp_of (hQ : ∀ a s', x s = (.ok a, s') → Q a s')
    (hE : ∀ e s', x s = (.error e, s') → E e s') : wp x Q E s := by
  unfold wp
  rcases hx : x s with ⟨r, s'⟩
  cases r with
  | error e => exact hE e s' hx
  | ok a => exact hQ a s' hx

/-- Both outcomes satisfy `P` exactly when the state reached does. -/
theorem wp_state {P : σ → Prop} :
    wp x (fun _ s' => P s') (fun _ s' => P s') s ↔ P (x s).2 := by
  unfold wp
  rcases x s with ⟨r, s'⟩
  cases r with
  | error e => rfl
  | ok a => rfl

/-- An invariant of every element's run is an invariant of the whole traversal. -/
theorem wp_forEach {f : α → Actor σ ε Unit} {I : σ → Prop} {l : List α} (hs : I s)
    (h : ∀ a ∈ l, ∀ s, I s → wp (f a) (fun _ s' => I s') E s) :
    wp (forEach f l) (fun _ s' => I s') E s := by
  induction l generalizing s with
  | nil => exact hs
  | cons a as ih =>
    simp only [forEach, wp_bind]
    refine wp_mono (h a (by simp) s hs) (fun _ s' hs' => ?_) (fun e s' he => he)
    exact ih hs' fun a' ha' => h a' (by simp [ha'])

/-- What holds of the elements still to come holds of none of them in the end. -/
theorem wp_forEach_rest {f : α → Actor σ ε Unit} {I : List α → σ → Prop} {l : List α} (hs : I l s)
    (h : ∀ a rest s, I (a :: rest) s → wp (f a) (fun _ s' => I rest s') E s) :
    wp (forEach f l) (fun _ s' => I [] s') E s := by
  induction l generalizing s with
  | nil => exact hs
  | cons a as ih =>
    simp only [forEach, wp_bind]
    exact wp_mono (h a as s hs) (fun _ s' hs' => ih hs') fun e s' he => he

/-- Every run of `x` moves the state along `R`, whether or not it fails. -/
def Moves (R : σ → σ → Prop) (x : Actor σ ε α) : Prop := ∀ s, R s (x s).2

namespace Moves

variable {T : σ → σ → Prop}

theorem of_wp (h : ∀ s, Actor.wp x (fun _ s' => T s s') (fun _ s' => T s s') s) : Moves T x :=
  fun s => wp_state.mp (h s)

theorem wp (h : Moves T x) : Actor.wp x (fun _ s' => T s s') (fun _ s' => T s s') s :=
  wp_state.mpr (h s)

theorem modify (g : σ → σ) (h : ∀ s, T s (g s)) : Moves T (modify g : Actor σ ε Unit) := h

theorem mapError (h : Moves T x) (g : ε → δ) : Moves T (mapError g x) :=
  of_wp fun s => by
    rw [wp_mapError]
    exact h.wp

theorem outcome (h : Moves T x) : Moves T (outcome x : Actor σ δ (Except ε α)) := h

theorem ite {c : Prop} [Decidable c] {y : Actor σ ε α} (h : Moves T x) (h' : Moves T y) :
    Moves T (if c then x else y) := by
  split_ifs
  · exact h
  · exact h'

theorem bind [IsTrans σ T] (h : Moves T x) (hf : ∀ a, Moves T (f a)) : Moves T (x >>= f) :=
  of_wp fun s => by
    rw [wp_bind]
    refine wp_mono h.wp (fun a s₁ h₁ => ?_) fun _ _ h => h
    have htrans : ∀ s₂, T s₁ s₂ → T s s₂ := fun s₂ h₂ => IsTrans.trans _ _ _ h₁ h₂
    exact wp_mono (hf a).wp (fun _ s₂ h₂ => htrans s₂ h₂) fun _ s₂ h₂ => htrans s₂ h₂

variable [Std.Refl T]

theorem pure (a : α) : Moves T (pure a : Actor σ ε α) := fun s => Std.Refl.refl s

theorem fail (e : ε) : Moves T (fail e : Actor σ ε α) := fun s => Std.Refl.refl s

theorem get : Moves T (get : Actor σ ε σ) := fun s => Std.Refl.refl s

theorem read (g : σ → α) : Moves T (read g : Actor σ ε α) := fun s => Std.Refl.refl s

theorem orFail (e : ε) (o : Option α) : Moves T (orFail e o : Actor σ ε α) := by
  cases o with
  | none => exact fail e
  | some a => exact pure a

theorem require (b : Bool) (e : ε) : Moves T (require b e : Actor σ ε Unit) := by
  cases b with
  | false => exact fail e
  | true => exact pure ()

theorem ofExcept (r : Except ε α) : Moves T (ofExcept r : Actor σ ε α) := by
  cases r with
  | error e => exact fail e
  | ok a => exact pure a

theorem forEach [IsTrans σ T] {f : α → Actor σ ε Unit} (h : ∀ a, Moves T (f a)) (l : List α) :
    Moves T (forEach f l) := by
  induction l with
  | nil => exact pure ()
  | cons a as ih => exact bind (h a) fun _ => ih

end Moves

end Actor
