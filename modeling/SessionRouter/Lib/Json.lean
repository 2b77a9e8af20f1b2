import Mathlib.Algebra.GroupWithZero.Nat
import Mathlib.Data.String.Basic
import Mathlib.Tactic.SplitIfs

/-!
JSON values and their compact encoding: no blanks, object fields in the given order, and strings
escaped with the two-character forms where they exist and with the six-character unicode form for
the other control characters.
-/

inductive JsonValue where
  | null
  | bool (value : Bool)
  | num (value : ℕ)
  | str (value : String)
  | arr (items : List JsonValue)
  | obj (fields : List (String × JsonValue))

namespace JsonValue

def hexDigit (d : ℕ) : Char := if d < 10 then Char.ofNat (48 + d) else Char.ofNat (87 + d)

/-- One character inside an encoded string. -/
def escapeChar (c : Char) : List Char :=
  if c = '"' then ['\\', '"']
  else if c = '\\' then ['\\', '\\']
  else if c = '\n' then ['\\', 'n']
  else if c = '\r' then ['\\', 'r']
  else if c = '\t' then ['\\', 't']
  else if c.toNat = 8 then ['\\', 'b']
  else if c.toNat = 12 then ['\\', 'f']
  else if c.toNat < 32 then ['\\', 'u', '0', '0', hexDigit (c.toNat / 16), hexDigit (c.toNat % 16)]
  else [c]

def encodeString (s : String) : List Char := '"' :: s.toList.flatMap escapeChar ++ ['"']

/-- Decimal digits, with enough fuel for every machine integer. -/
def encodeNat : ℕ → ℕ → List Char
  | 0, _ => []
  | fuel + 1, n =>
    if n < 10 then [hexDigit n] else encodeNat fuel (n / 10) ++ [hexDigit (n % 10)]

mutual

def encode : JsonValue → List Char
  | null => "null".toList
  | bool true => "true".toList
  | bool false => "false".toList
  | num n => encodeNat 20 n
  | str s => encodeString s
  | arr items => '[' :: encodeItems items ++ [']']
  | obj fields => '\x7b' :: encodeFields fields ++ ['\x7d']

def encodeItems : List JsonValue → List Char
  | [] => []
  | [item] => encode item
  | item :: items => encode item ++ ',' :: encodeItems items

def encodeFields : List (String × JsonValue) → List Char
  | [] => []
  | [(key, value)] => encodeString key ++ ':' :: encode value
  | (key, value) :: fields => encodeString key ++ ':' :: encode value ++ ',' :: encodeFields fields

end

/-- Bytes of a list of characters. -/
def byteLen (cs : List Char) : ℕ := (cs.map Char.utf8Size).sum

/-- Bytes of the compact encoding. -/
def encodedLen (v : JsonValue) : ℕ := byteLen v.encode

/-- Bytes of an encoded string with its quotation marks. -/
def stringLen (s : String) : ℕ := byteLen (encodeString s)

/-- Encode an optional value, absent as `null`. -/
def opt {α : Type} (f : α → JsonValue) : Option α → JsonValue
  | some a => f a
  | none => null

/-- A field that is left out when the value is absent. -/
def optField {α : Type} (key : String) (f : α → JsonValue) : Option α → List (String × JsonValue)
  | some a => [(key, f a)]
  | none => []

@[simp] theorem byteLen_append (as bs : List Char) :
    byteLen (as ++ bs) = byteLen as + byteLen bs := by
  simp [byteLen]

theorem byteLen_toList (s : String) : byteLen s.toList = s.utf8ByteSize := by
  have hlen : ∀ cs : List Char, byteLen cs = String.utf8Len cs := by
    intro cs
    induction cs with
    | nil => rfl
    | cons c cs ih => simp [byteLen, String.utf8Len] at *; omega
  rw [hlen, ← String.utf8ByteSize_ofList, String.ofList_toList]

theorem utf8Size_hexDigit {d : ℕ} (h : d < 16) : (hexDigit d).utf8Size = 1 := by
  have : ∀ i : Fin 16, (hexDigit i).utf8Size = 1 := by decide
  exact this ⟨d, h⟩

theorem byteLen_escapeChar (c : Char) : byteLen (escapeChar c) ≤ 6 * c.utf8Size := by
  have hpos : 0 < c.utf8Size := c.utf8Size_pos
  have hascii : ∀ d ∈ ['"', '\\', 'n', 'r', 't', 'b', 'f', 'u', '0'], Char.utf8Size d = 1 := by
    simp only [List.forall_mem_cons]
    exact ⟨rfl, rfl, rfl, rfl, rfl, rfl, rfl, rfl, rfl, by simp⟩
  by_cases h : 32 ≤ c.toNat
  · unfold escapeChar
    split_ifs <;> simp [byteLen, hascii] <;> omega
  · have ha := utf8Size_hexDigit (d := c.toNat / 16) (by omega)
    have hb := utf8Size_hexDigit (d := c.toNat % 16) (by omega)
    unfold escapeChar
    split_ifs <;> simp [byteLen, hascii, ha, hb] <;> omega

/-- Escaping multiplies the size of a string by at most six. -/
theorem stringLen_le (s : String) : stringLen s ≤ 2 + 6 * s.utf8ByteSize := by
  have hflat : ∀ cs : List Char, byteLen (cs.flatMap escapeChar) ≤ 6 * byteLen cs := by
    intro cs
    induction cs with
    | nil => simp [byteLen]
    | cons c cs ih =>
      have hc := byteLen_escapeChar c
      have hcons : byteLen (c :: cs) = c.utf8Size + byteLen cs := by simp [byteLen]
      rw [List.flatMap_cons, byteLen_append, hcons]
      omega
  have h := hflat s.toList
  rw [byteLen_toList] at h
  have hq : byteLen ['"'] = 1 := by decide
  have hcons : stringLen s = 1 + byteLen (s.toList.flatMap escapeChar) + 1 := by
    have : encodeString s = ['"'] ++ s.toList.flatMap escapeChar ++ ['"'] := rfl
    rw [stringLen, this, byteLen_append, byteLen_append, hq]
  omega

theorem hexDigit_ne {d : ℕ} (h : d < 16) : hexDigit d ≠ '\n' := by
  have : ∀ i : Fin 16, hexDigit i ≠ '\n' := by decide
  exact this ⟨d, h⟩

theorem escapeChar_whole (c : Char) : '\n' ∉ escapeChar c := by
  by_cases h : 32 ≤ c.toNat
  · unfold escapeChar
    have hne : c ≠ '\n' := by
      rintro rfl
      exact absurd h (by decide)
    split_ifs <;> simp [hne.symm]
    omega
  · have ha := @hexDigit_ne (c.toNat / 16) (by omega)
    have hb := @hexDigit_ne (c.toNat % 16) (by omega)
    unfold escapeChar
    split_ifs <;> simp [ha.symm, hb.symm]
    omega

theorem encodeString_whole (s : String) : '\n' ∉ encodeString s := by
  intro h
  rw [encodeString, List.mem_append, List.mem_cons, List.mem_flatMap] at h
  rcases h with (h | ⟨c, -, hc⟩) | h
  · cases h
  · exact escapeChar_whole c hc
  · cases List.mem_singleton.mp h

theorem encodeNat_whole (fuel n : ℕ) : '\n' ∉ encodeNat fuel n := by
  induction fuel generalizing n with
  | zero => exact List.not_mem_nil
  | succ fuel ih =>
    rw [encodeNat]
    split_ifs with h
    · intro hmem
      exact @hexDigit_ne n (by omega) (List.mem_singleton.mp hmem).symm
    · intro hmem
      rcases List.mem_append.mp hmem with hmem | hmem
      · exact ih _ hmem
      · exact @hexDigit_ne (n % 10) (by omega) (List.mem_singleton.mp hmem).symm

mutual

/-- A compact encoding is one line. -/
theorem encode_whole : ∀ v : JsonValue, '\n' ∉ v.encode
  | null => by decide
  | bool true => by decide
  | bool false => by decide
  | num n => encodeNat_whole 20 n
  | str s => encodeString_whole s
  | arr items => by
    rw [encode]
    simp [encodeItems_whole items]
  | obj fields => by
    rw [encode]
    simp [encodeFields_whole fields]

theorem encodeItems_whole : ∀ items : List JsonValue, '\n' ∉ encodeItems items
  | [] => List.not_mem_nil
  | [item] => encode_whole item
  | item :: next :: items => by
    rw [encodeItems]
    · simp [encode_whole item, encodeItems_whole (next :: items)]
    · nofun

theorem encodeFields_whole : ∀ fields : List (String × JsonValue), '\n' ∉ encodeFields fields
  | [] => List.not_mem_nil
  | [(key, value)] => by
    rw [encodeFields]
    simp [encodeString_whole key, encode_whole value]
  | (key, value) :: next :: fields => by
    rw [encodeFields]
    · simp [encodeString_whole key, encode_whole value, encodeFields_whole (next :: fields)]
    · nofun

end

theorem byteLen_cons (c : Char) (cs : List Char) :
    byteLen (c :: cs) = c.utf8Size + byteLen cs := rfl

theorem encodeFields_cons {key : String} {value : JsonValue} {fields : List (String × JsonValue)}
    (h : fields ≠ []) : encodeFields ((key, value) :: fields) =
      encodeString key ++ ':' :: encode value ++ ',' :: encodeFields fields := by
  cases fields with
  | nil => exact absurd rfl h
  | cons field fields => rw [encodeFields]; exact h

/-- The fields around one field are encoded alike, whatever the value of the field is. -/
theorem encodeFields_at (before : List (String × JsonValue)) (key : String)
    (after : List (String × JsonValue)) : ∃ front back, ∀ value,
      encodeFields (before ++ (key, value) :: after) = front ++ encode value ++ back := by
  induction before with
  | nil =>
    cases after with
    | nil =>
      refine ⟨encodeString key ++ [':'], [], fun value => ?_⟩
      simp [encodeFields]
    | cons field fields =>
      refine ⟨encodeString key ++ [':'], ',' :: encodeFields (field :: fields), fun value => ?_⟩
      rw [List.nil_append, encodeFields_cons (List.cons_ne_nil _ _)]
      simp
  | cons field before ih =>
    obtain ⟨front, back, h⟩ := ih
    refine ⟨encodeString field.1 ++ ':' :: encode field.2 ++ ',' :: front, back, fun value => ?_⟩
    rw [List.cons_append, encodeFields_cons (by simp), h]
    simp

theorem encodedLen_at (before : List (String × JsonValue)) (key : String)
    (after : List (String × JsonValue)) : ∃ size, ∀ value,
      encodedLen (.obj (before ++ (key, value) :: after)) = size + encodedLen value := by
  obtain ⟨front, back, h⟩ := encodeFields_at before key after
  refine ⟨2 + byteLen front + byteLen back, fun value => ?_⟩
  have hopen : '\x7b'.utf8Size = 1 := rfl
  have hclose : byteLen ['\x7d'] = 1 := rfl
  simp only [encodedLen, encode, h, List.cons_append, byteLen_cons, byteLen_append, hopen, hclose]
  omega

end JsonValue
