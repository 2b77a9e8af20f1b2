import SessionRouter.Lib.Json

/-!
How a struct is read of a JSON value: its fields by name, without unknown and repeated ones.
-/

namespace JsonValue

/-- The fields of a struct without unknown and repeated ones; an array has them in their order. -/
def fieldsOf (names : List String) : JsonValue → Option (List (String × JsonValue))
  | .obj fields =>
    if decide (fields.map Prod.fst).Nodup && fields.all fun field => names.contains field.1 then
      some fields
    else none
  | .arr items => if items.length ≤ names.length then some (names.zip items) else none
  | _ => none

def field (fields : List (String × JsonValue)) (name : String) : Option JsonValue :=
  (fields.find? fun field => field.1 = name).map Prod.snd

/-- A field that may be left out or `null`. -/
def optionalField {α : Type} (fields : List (String × JsonValue)) (name : String)
    (read : JsonValue → Option α) : Option (Option α) :=
  match field fields name with
  | none | some .null => some none
  | some value => (read value).map some

def string : JsonValue → Option String
  | .str s => some s
  | _ => none

/-- A machine integer below a bound. -/
def integer (bound : ℕ) : JsonValue → Option ℕ
  | .num n => if n < bound then some n else none
  | _ => none

def array : JsonValue → Option (List JsonValue)
  | .arr items => some items
  | _ => none

/-- The name of a variant without data. -/
def variant : JsonValue → Option String
  | .str s => some s
  | .obj [(s, .null)] => some s
  | _ => none

theorem mapM_map {α β : Type} {write : α → β} {read : β → Option α} {l : List α}
    (h : ∀ a ∈ l, read (write a) = some a) : (l.map write).mapM read = some l := by
  induction l with
  | nil => rfl
  | cons a l ih =>
    obtain ⟨ha, hl⟩ := List.forall_mem_cons.mp h
    rw [List.map_cons, List.mapM_cons, ha, ih hl]
    rfl

theorem fieldsOf_obj {names keys : List String} {fields : List (String × JsonValue)}
    (hkeys : fields.map Prod.fst = keys) (hnodup : keys.Nodup)
    (hknown : ∀ key ∈ keys, key ∈ names) : fieldsOf names (.obj fields) = some fields := by
  subst hkeys
  have hall : (fields.all fun field => names.contains field.1) = true :=
    List.all_eq_true.mpr fun field hmem =>
      List.contains_iff_mem.mpr (hknown _ (List.mem_map_of_mem hmem))
  rw [fieldsOf, hall, decide_eq_true hnodup, Bool.and_true, if_pos rfl]

end JsonValue
