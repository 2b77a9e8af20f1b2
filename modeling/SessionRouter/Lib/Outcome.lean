import Mathlib.Data.List.Forall2

/-!
Computations that may fail. `Ends` says what a result or an error satisfies; one computation follows
another when it has the same result wherever the other succeeds, up to the errors that are allowed.
-/

theorem Option.bind_of_some {α β : Type} {x : Option α} {a : α} {f : α → Option β}
    (h : x = some a) : (x >>= f) = f a := by
  rw [h]
  rfl

namespace Except

variable {ε α β : Type}

/-- Fail with `e` unless `b` holds. -/
def require (b : Bool) (e : ε) : Except ε Unit := if b then .ok () else .error e

/-- The result satisfies `Q`, or the error satisfies `E`. -/
def Ends (x : Except ε α) (Q : α → Prop) (E : ε → Prop) : Prop :=
  match x with
  | .ok a => Q a
  | .error e => E e

variable {x y : Except ε α} {f g : α → Except ε β} {Q Q' : α → Prop} {R : β → Prop}
  {E E' : ε → Prop}

@[simp] theorem ends_ok (a : α) : (Except.ok a : Except ε α).Ends Q E ↔ Q a := Iff.rfl

@[simp] theorem ends_error (e : ε) : (Except.error e : Except ε α).Ends Q E ↔ E e := Iff.rfl

@[simp] theorem ends_bind : (x >>= f).Ends R E ↔ x.Ends (fun a => (f a).Ends R E) E := by
  cases x <;> rfl

theorem ends_require {Q : Unit → Prop} {b : Bool} {e : ε} :
    (require b e).Ends Q E ↔ (b = true → Q ()) ∧ (b = false → E e) := by
  cases b <;> simp [require]

theorem ends_require_bind {b : Bool} {e : ε} {f : Unit → Except ε β} (hb : b = false → E e)
    (hf : b = true → (f ()).Ends R E) : (require b e >>= f).Ends R E := by
  cases b with
  | true => exact hf rfl
  | false => exact hb rfl

theorem of_map_ok {f : α → β} {b : β} (h : x.map f = .ok b) : ∃ a, x = .ok a ∧ f a = b := by
  cases x with
  | error e => cases h
  | ok a => exact ⟨a, rfl, Except.ok.inj h⟩

theorem require_ok {b : Bool} {e : ε} : require b e = .ok () ↔ b = true := by
  cases b <;> simp [require]

theorem Ends.mono (h : x.Ends Q E) (hQ : ∀ a, Q a → Q' a) (hE : ∀ e, E e → E' e) :
    x.Ends Q' E' := by
  cases x with
  | ok a => exact hQ a h
  | error e => exact hE e h

theorem Ends.imp_ok (h : x.Ends Q E) (hQ : ∀ a, x = .ok a → Q a → Q' a) : x.Ends Q' E := by
  cases x with
  | ok a => exact hQ a rfl h
  | error e => exact h

theorem Ends.and (h : x.Ends Q E) (h' : x.Ends Q' E') :
    x.Ends (fun a => Q a ∧ Q' a) fun e => E e ∧ E' e := by
  cases x with
  | ok a => exact ⟨h, h'⟩
  | error e => exact ⟨h, h'⟩

/-- A conclusion that does not depend on the result holds if no error is possible. -/
theorem Ends.resolve {P : Prop} (h : x.Ends (fun _ => P) E) (hE : ∀ e, ¬ E e) : P := by
  cases x with
  | ok a => exact h
  | error e => exact absurd h (hE e)

theorem Ends.ok_of {x : Except ε Unit} {Q : Unit → Prop} (h : x.Ends Q E) (hE : ∀ e, ¬ E e) :
    x = .ok () := by
  cases x with
  | ok a => rfl
  | error e => exact absurd h (hE e)

/-- Nothing is left to say about a computation once its conclusion is known. -/
theorem Ends.always (hQ : ∀ a, Q a) (hE : ∀ e, E e) : x.Ends Q E := by
  cases x with
  | ok a => exact hQ a
  | error e => exact hE e

theorem Ends.of_ok {a : α} (h : x = .ok a) (hQ : Q a) : x.Ends Q E := by
  rw [h]
  exact hQ

theorem bind_ok {b : β} : x >>= f = .ok b ↔ ∃ a, x = .ok a ∧ f a = .ok b := by
  cases x with
  | ok a =>
    constructor
    · exact fun h => ⟨a, rfl, h⟩
    · rintro ⟨_, ⟨⟩, h⟩
      exact h
  | error e =>
    constructor
    · nofun
    · rintro ⟨_, ⟨⟩, _⟩

theorem bind_of_ok {a : α} (h : x = .ok a) : x >>= f = f a := by
  rw [h]
  rfl

theorem bind_of_error {e : ε} (h : x = .error e) : x >>= f = .error e := by
  rw [h]
  rfl

theorem bind_unit_ok {x : Except ε Unit} {f : Unit → Except ε β} {b : β} :
    x >>= f = .ok b ↔ x = .ok () ∧ f () = .ok b := by
  rw [bind_ok]
  exact ⟨fun ⟨_, hx, h⟩ => ⟨hx, h⟩, fun ⟨hx, h⟩ => ⟨_, hx, h⟩⟩

theorem mapM_ok {l : List α} {bs : List β} :
    l.mapM f = .ok bs ↔ List.Forall₂ (fun a b => f a = .ok b) l bs := by
  induction l generalizing bs with
  | nil =>
    rw [List.mapM_nil, List.forall₂_nil_left_iff]
    exact ⟨fun h => (Except.ok.inj h).symm, fun h => h ▸ rfl⟩
  | cons a l ih =>
    rw [List.mapM_cons, bind_ok, List.forall₂_cons_left_iff]
    constructor
    · rintro ⟨b, hb, hrest⟩
      obtain ⟨rest, hl, hbs⟩ := bind_ok.mp hrest
      exact ⟨b, rest, hb, ih.mp hl, (Except.ok.inj hbs).symm⟩
    · rintro ⟨b, rest, hb, hl, rfl⟩
      exact ⟨b, hb, bind_ok.mpr ⟨rest, ih.mpr hl, rfl⟩⟩

theorem Ends.mapM {Q : α → β → Prop} {l : List α} (h : ∀ a ∈ l, (f a).Ends (Q a) E) :
    (l.mapM f).Ends (fun bs => List.Forall₂ Q l bs) E := by
  induction l with
  | nil => exact .nil
  | cons a l ih =>
    rw [List.mapM_cons, ends_bind]
    refine (h a List.mem_cons_self).mono (fun b hb => ?_) fun _ he => he
    rw [ends_bind]
    refine (ih fun a' ha' => h a' (List.mem_cons_of_mem a ha')).mono (fun bs hbs => ?_)
      fun _ he => he
    exact .cons hb hbs

theorem forM_ok {f : α → Except ε Unit} {l : List α} :
    l.forM f = .ok () ↔ ∀ a ∈ l, f a = .ok () := by
  induction l with
  | nil => exact ⟨fun _ => nofun, fun _ => rfl⟩
  | cons a l ih =>
    show (f a >>= fun _ => l.forM f) = _ ↔ _
    rw [bind_ok, List.forall_mem_cons]
    constructor
    · rintro ⟨_, ha, hl⟩
      exact ⟨ha, ih.mp hl⟩
    · rintro ⟨ha, hl⟩
      exact ⟨_, ha, ih.mpr hl⟩

/-- Where `x` succeeds, `y` has the same result or an error in `E`. -/
def Follows (E : ε → Prop) (x y : Except ε α) : Prop := ∀ a, x = .ok a → y.Ends (fun b => b = a) E

namespace Follows

protected theorem refl (x : Except ε α) : Follows E x x := by
  rintro a rfl
  rfl

protected theorem mono (h : Follows E x y) (hE : ∀ e, E e → E' e) : Follows E' x y :=
  fun a hx => (h a hx).mono (fun _ hb => hb) hE

theorem error (e : ε) (y : Except ε α) : Follows E (.error e) y := nofun

protected theorem bind (h : Follows E x y) (hf : ∀ a, Follows E (f a) (g a)) :
    Follows E (x >>= f) (y >>= g) := by
  intro b hb
  obtain ⟨a, hx, hfa⟩ := bind_ok.mp hb
  rw [ends_bind]
  refine (h a hx).mono ?_ fun _ he => he
  rintro _ rfl
  exact hf _ b hfa

/-- Where no error is allowed, the second computation succeeds with the first. -/
theorem ok {a : α} (h : Follows (fun _ => False) x y) (hx : x = .ok a) : y = .ok a := by
  have hy := h a hx
  cases y with
  | ok b => rw [show b = a from hy]
  | error e => exact hy.elim

/-- Step over a computation that follows one that succeeded. -/
theorem bind_ends {a : α} (h : Follows E x y) (hx : x = .ok a)
    (hg : y = .ok a → (g a).Ends R E) : (y >>= g).Ends R E := by
  rw [ends_bind]
  exact (h a hx).imp_ok fun b hb hba => hba ▸ hg (hba ▸ hb)

theorem ite {p : Prop} [Decidable p] {x' y' : Except ε α} (h : Follows E x y)
    (h' : Follows E x' y') : Follows E (if p then x else x') (if p then y else y') := by
  split
  · exact h
  · exact h'

theorem mapM {f g : α → Except ε β} {l : List α} (h : ∀ a ∈ l, Follows E (f a) (g a)) :
    Follows E (l.mapM f) (l.mapM g) := by
  induction l with
  | nil => exact .refl _
  | cons a l ih =>
    rw [List.mapM_cons, List.mapM_cons]
    refine .bind (h a List.mem_cons_self) fun _ => .bind (ih ?_) fun _ => .refl _
    exact fun b hb => h b (List.mem_cons_of_mem a hb)

theorem forM {f g : α → Except ε Unit} {l : List α} (h : ∀ a ∈ l, Follows E (f a) (g a)) :
    Follows E (l.forM f) (l.forM g) := by
  induction l with
  | nil => exact .refl _
  | cons a l ih =>
    refine .bind (h a List.mem_cons_self) fun _ => ih ?_
    exact fun b hb => h b (List.mem_cons_of_mem a hb)

end Follows

end Except
