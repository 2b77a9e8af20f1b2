import SessionRouter.Lib.PathText
import Mathlib.Logic.Function.Basic

/-!
Directory trees without links: what stands at each list of names below the root, how paths are
resolved, and how directories and files are created.
-/

inductive Errno where
  | notFound | notDirectory | exists_ | isDirectory
  deriving DecidableEq

inductive FileNode (C : Type) where
  | dir (mode : ℕ)
  | file (mode : ℕ) (contents : C)
  deriving DecidableEq

abbrev FileTree (N C : Type) := List N → Option (FileNode C)

namespace FileTree

variable {N C : Type}

/-- Where a path leads from a directory, when all of it are directories. -/
def walk (t : FileTree N C) (here : List N) : PathText N → Except Errno (List N)
  | [] => .ok here
  | .empty :: path => walk t here path
  | .dot :: path => walk t here path
  | .dotdot :: path => walk t here.dropLast path
  | .name n :: path =>
    match t (here ++ [n]) with
    | some (.dir _) => walk t (here ++ [n]) path
    | some (.file _ _) => .error .notDirectory
    | none => .error .notFound

def isDir (t : FileTree N C) (path : PathText N) : Bool :=
  match t.walk [] path with
  | .ok _ => true
  | .error _ => false

section

variable [DecidableEq N]

def put (t : FileTree N C) (place : List N) (node : FileNode C) : FileTree N C :=
  Function.update t place (some node)

/-- Where an entry can be created: its directory is there and its name is free. -/
def free (t : FileTree N C) (path : PathText N) (n : N) : Except Errno (List N) := do
  let here ← t.walk [] path
  if (t (here ++ [n])).isSome then .error .exists_ else .ok (here ++ [n])

/-- A text of separators alone is the root. -/
def mkdir (t : FileTree N C) (mode : ℕ) (path : PathText N) : Except Errno (FileTree N C) :=
  match path.lastPart with
  | some (before, .name n) => do
    let place ← t.free before n
    pure (t.put place (.dir mode))
  | some (before, _) => do
    let _ ← t.walk [] before
    .error .exists_
  | none => .error .exists_

/-- Create a file that was not there. -/
def createNew (t : FileTree N C) (mode : ℕ) (contents : C) (path : PathText N) :
    Except Errno (FileTree N C) :=
  match path.lastPart with
  | some (before, .name n) => do
    let _ ← t.walk [] before
    if path.endsInSeparator then .error .isDirectory
    else do
      let place ← t.free before n
      pure (t.put place (.file mode contents))
  | some (before, _) => do
    let _ ← t.walk [] before
    .error .exists_
  | none => .error .isDirectory

/-- A directory that may be there already. -/
def ensureDir (t : FileTree N C) (mode : ℕ) (path : PathText N) : Except Errno (FileTree N C) :=
  match t.mkdir mode path with
  | .ok t' => .ok t'
  | .error e => if t.isDir path then .ok t else .error e

/-- Create the first of the paths, and the ones behind it where they are missing. -/
def createAll (t : FileTree N C) (mode : ℕ) : List (PathText N) → Except Errno (FileTree N C)
  | [] => .error .notFound
  | path :: above =>
    match t.mkdir mode path with
    | .error .notFound => do
      let t' ← createAll t mode above
      t'.ensureDir mode path
    | _ => t.ensureDir mode path

def createDirAll (t : FileTree N C) (mode : ℕ) (path : PathText N) :
    Except Errno (FileTree N C) :=
  t.createAll mode (path.ancestors path.length)

end

section

variable {t t' : FileTree N C} {here : List N}

theorem walk_append (here : List N) (path rest : PathText N) :
    t.walk here (path ++ rest) = (t.walk here path).bind fun place => t.walk place rest := by
  induction path generalizing here with
  | nil => rfl
  | cons segment path ih =>
    cases segment with
    | empty => exact ih here
    | dot => exact ih here
    | dotdot => exact ih here.dropLast
    | name n =>
      simp only [List.cons_append, walk]
      cases t (here ++ [n]) with
      | none => rfl
      | some node =>
        cases node with
        | dir mode => exact ih (here ++ [n])
        | file mode contents => rfl

/-- Where a list of names leads. -/
def descend (t : FileTree N C) (here ns : List N) : Except Errno (List N) :=
  t.walk here (ns.map .name)

theorem descend_append (here ns ms : List N) :
    t.descend here (ns ++ ms) = (t.descend here ns).bind fun place => t.descend place ms := by
  unfold descend
  rw [List.map_append, walk_append]

/-- All the names lead to directories. -/
def AllDirs (t : FileTree N C) (here ns : List N) : Prop :=
  ∀ p, p ≠ [] → p <+: ns → ∃ mode, t (here ++ p) = some (.dir mode)

/-- No file stands in the way of a list of names. -/
def Clear (t : FileTree N C) (here ns : List N) : Prop :=
  ∀ p, p ≠ [] → p <+: ns → ∀ mode contents, t (here ++ p) ≠ some (.file mode contents)

/-- What stands below `here` stands in directories. -/
def Closed (t : FileTree N C) (here : List N) : Prop :=
  ∀ p n, p ≠ [] → t (here ++ p ++ [n]) ≠ none → ∃ mode, t (here ++ p) = some (.dir mode)

theorem AllDirs.clear {ns : List N} (h : AllDirs t here ns) : Clear t here ns := by
  intro p hp hbegins mode contents hfile
  obtain ⟨mode', hdir⟩ := h p hp hbegins
  rw [hdir] at hfile
  cases hfile

theorem prefix_concat {p ns : List N} {n : N} (h : p <+: ns ++ [n]) :
    p <+: ns ∨ p = ns ++ [n] := by
  rcases List.prefix_concat_iff.mp h with h | h
  · exact .inr h
  · exact .inl h

theorem allDirs_concat {ns : List N} {n : N} :
    AllDirs t here (ns ++ [n]) ↔
      AllDirs t here ns ∧ ∃ mode, t (here ++ ns ++ [n]) = some (.dir mode) := by
  constructor
  · intro h
    refine ⟨fun p hp hbegins => h p hp (hbegins.trans (List.prefix_append _ _)), ?_⟩
    rw [List.append_assoc]
    exact h (ns ++ [n]) (by simp) List.prefix_rfl
  · rintro ⟨h, hlast⟩ p hp hbegins
    rcases prefix_concat hbegins with hshort | rfl
    · exact h p hp hshort
    · rw [← List.append_assoc]
      exact hlast

theorem clear_concat {ns : List N} {n : N} :
    Clear t here (ns ++ [n]) ↔ Clear t here ns ∧
      ∀ mode contents, t (here ++ ns ++ [n]) ≠ some (.file mode contents) := by
  constructor
  · intro h
    refine ⟨fun p hp hbegins => h p hp (hbegins.trans (List.prefix_append _ _)), ?_⟩
    rw [List.append_assoc]
    exact h (ns ++ [n]) (by simp) List.prefix_rfl
  · rintro ⟨h, hlast⟩ p hp hbegins
    rcases prefix_concat hbegins with hshort | rfl
    · exact h p hp hshort
    · rw [← List.append_assoc]
      exact hlast

theorem Closed.allDirs (h : Closed t here) {ns : List N} {n : N}
    (hthere : t (here ++ ns ++ [n]) ≠ none) : AllDirs t here ns := by
  induction ns using List.reverseRecOn generalizing n with
  | nil => exact fun p hp hbegins => absurd (List.prefix_nil.mp hbegins) hp
  | append_singleton ns m ih =>
    obtain ⟨mode, hdir⟩ := h (ns ++ [m]) n (by simp) hthere
    rw [← List.append_assoc] at hdir
    refine allDirs_concat.mpr ⟨ih (n := m) ?_, mode, hdir⟩
    rw [hdir]
    nofun

theorem descend_single (here : List N) (n : N) : t.descend here [n] =
    match t (here ++ [n]) with
    | some (.dir _) => .ok (here ++ [n])
    | some (.file _ _) => .error .notDirectory
    | none => .error .notFound := by
  unfold descend
  simp only [List.map_cons, List.map_nil, walk]

theorem descend_allDirs {ns : List N} (h : AllDirs t here ns) :
    t.descend here ns = .ok (here ++ ns) := by
  induction ns using List.reverseRecOn with
  | nil =>
    rw [List.append_nil]
    rfl
  | append_singleton ns n ih =>
    obtain ⟨hbefore, mode, hdir⟩ := allDirs_concat.mp h
    rw [descend_append, ih hbefore]
    show t.descend (here ++ ns) [n] = _
    rw [descend_single, hdir, List.append_assoc]

/-- In the way of a list of names something is missing, or there is a file. -/
theorem descend_stuck {ns : List N} (hclosed : Closed t here) (h : ¬AllDirs t here ns) :
    (Clear t here ns → t.descend here ns = .error .notFound) ∧
      (¬Clear t here ns → t.descend here ns = .error .notDirectory) := by
  induction ns using List.reverseRecOn with
  | nil => exact absurd (fun p hp hbegins => absurd (List.prefix_nil.mp hbegins) hp) h
  | append_singleton ns n ih =>
    rw [descend_append]
    by_cases hbefore : AllDirs t here ns
    · rw [descend_allDirs hbefore]
      show (_ → t.descend (here ++ ns) [n] = _) ∧ (_ → t.descend (here ++ ns) [n] = _)
      rw [descend_single]
      cases hnode : t (here ++ ns ++ [n]) with
      | none =>
        refine ⟨fun _ => rfl, fun hnot => absurd (clear_concat.mpr ⟨hbefore.clear, ?_⟩) hnot⟩
        intro mode contents hfile
        rw [hnode] at hfile
        cases hfile
      | some node =>
        cases node with
        | dir mode => exact absurd (allDirs_concat.mpr ⟨hbefore, mode, hnode⟩) h
        | file mode contents =>
          exact ⟨fun hclear => absurd hnode ((clear_concat.mp hclear).2 mode contents),
            fun _ => rfl⟩
    · obtain ⟨hmissing, hfile⟩ := ih hbefore
      have hgone : t (here ++ ns ++ [n]) = none := by
        by_contra hthere
        exact hbefore (hclosed.allDirs hthere)
      constructor
      · intro hclear
        rw [hmissing (clear_concat.mp hclear).1]
        rfl
      · intro hnot
        have hblocked : ¬Clear t here ns := by
          intro hclear
          apply hnot
          refine clear_concat.mpr ⟨hclear, fun mode contents hthere => ?_⟩
          rw [hgone] at hthere
          cases hthere
        rw [hfile hblocked]
        rfl

theorem walk_mono {path : PathText N} {here place : List N}
    (hkept : ∀ q mode, t q = some (.dir mode) → t' q = some (.dir mode))
    (h : t.walk here path = .ok place) : t'.walk here path = .ok place := by
  induction path generalizing here with
  | nil => exact h
  | cons segment path ih =>
    cases segment with
    | empty => exact ih h
    | dot => exact ih h
    | dotdot => exact ih h
    | name n =>
      simp only [walk] at h ⊢
      cases hnode : t (here ++ [n]) with
      | none =>
        rw [hnode] at h
        cases h
      | some node =>
        rw [hnode] at h
        cases node with
        | dir mode =>
          rw [hkept _ _ hnode]
          exact ih h
        | file mode contents => cases h

theorem isDir_iff {path : PathText N} :
    t.isDir path = true ↔ ∃ place, t.walk [] path = .ok place := by
  unfold isDir
  cases t.walk [] path with
  | ok place => exact ⟨fun _ => ⟨place, rfl⟩, fun _ => rfl⟩
  | error e => exact ⟨nofun, nofun⟩

end

section

variable [DecidableEq N] {t : FileTree N C} {path before : PathText N} {n : N} {mode : ℕ}
  {here : List N}

omit [DecidableEq N] in
theorem walk_blanks {blanks : PathText N} (h : ∀ s ∈ blanks, Segment.isJunk s = true)
    (here : List N) : t.walk here blanks = .ok here := by
  induction blanks with
  | nil => rfl
  | cons s blanks ih =>
    obtain ⟨hs, hrest⟩ := List.forall_mem_cons.mp h
    cases s with
    | empty => exact ih hrest
    | dot => exact ih hrest
    | dotdot => cases hs
    | name n => cases hs

omit [DecidableEq N] in
/-- The last part of a path is resolved where the text before it leads. -/
theorem walk_lastPart {last : Segment N} (h : path.lastPart = some (before, last))
    (here : List N) : t.walk here path = (t.walk here before).bind fun place =>
      t.walk place [last] := by
  obtain ⟨blanks, hblanks, rfl, -⟩ := PathText.lastPart_eq h
  rw [show before ++ last :: blanks = before ++ ([last] ++ blanks) by simp, walk_append]
  congr 1
  funext place
  rw [walk_append]
  cases t.walk place [last] with
  | error e => rfl
  | ok place => exact walk_blanks (fun s hs => Segment.isJunk_of_isEmpty (hblanks s hs)) place

omit [DecidableEq N] in
theorem free_eq (hbefore : t.walk [] before = .ok here) : t.free before n =
    if (t (here ++ [n])).isSome then .error .exists_ else .ok (here ++ [n]) := by
  rw [free, hbefore]
  rfl

theorem mkdir_below (h : path.lastPart = some (before, .name n))
    (hbefore : t.walk [] before = .ok here) : t.mkdir mode path =
      if (t (here ++ [n])).isSome then .error .exists_
      else .ok (t.put (here ++ [n]) (.dir mode)) := by
  have hmkdir : t.mkdir mode path =
      (t.free before n).bind fun place => .ok (t.put place (.dir mode)) := by
    rw [mkdir, h]
    rfl
  rw [hmkdir, free_eq hbefore]
  split_ifs
  · rfl
  · rfl

/-- A directory to be made in a directory that is there. -/
theorem ensureDir_below (h : path.lastPart = some (before, .name n))
    (hbefore : t.walk [] before = .ok here) : t.ensureDir mode path =
      match t (here ++ [n]) with
      | none => .ok (t.put (here ++ [n]) (.dir mode))
      | some (.dir _) => .ok t
      | some (.file _ _) => .error .exists_ := by
  have hwalk : t.walk [] path = t.walk here [.name n] := by
    rw [walk_lastPart h, hbefore]
    rfl
  rw [ensureDir, mkdir_below h hbefore, isDir, hwalk, walk]
  cases hnode : t (here ++ [n]) with
  | none => rfl
  | some node =>
    cases node with
    | dir mode => rfl
    | file mode contents => rfl

theorem mkdir_error {e : Errno} {last : Segment N} (h : path.lastPart = some (before, last))
    (hbefore : t.walk [] before = .error e) :
    t.mkdir mode path = .error e ∧ t.ensureDir mode path = .error e := by
  have hmkdir : t.mkdir mode path = .error e := by
    rw [mkdir, h]
    cases last with
    | name n =>
      show (t.free before n).bind _ = _
      rw [free, hbefore]
      rfl
    | _ =>
      show (t.walk [] before).bind _ = _
      rw [hbefore]
      rfl
  refine ⟨hmkdir, ?_⟩
  have hdir : t.isDir path = false := by
    rw [isDir, walk_lastPart h, hbefore]
    rfl
  rw [ensureDir, hmkdir, hdir]
  rfl

/-- A directory that is there can be made again. -/
theorem ensureDir_existing (h : t.walk [] path = .ok here) :
    t.mkdir mode path ≠ .error .notFound ∧ t.ensureDir mode path = .ok t := by
  have hmkdir : t.mkdir mode path = .error .exists_ := by
    cases hlast : path.lastPart with
    | none => rw [mkdir, hlast]
    | some part =>
      obtain ⟨before, last⟩ := part
      rw [walk_lastPart hlast] at h
      rw [mkdir, hlast]
      cases hbefore : t.walk [] before with
      | error e =>
        rw [hbefore] at h
        cases h
      | ok place =>
        rw [hbefore] at h
        cases last with
        | name n =>
          have hnode : t.walk place [.name n] = .ok here := h
          simp only [walk] at hnode
          show (t.free before n).bind _ = _
          rw [free, hbefore]
          show (if (t (place ++ [n])).isSome then _ else _ : Except Errno _).bind _ = _
          cases hthere : t (place ++ [n]) with
          | none =>
            rw [hthere] at hnode
            cases hnode
          | some node => rfl
        | _ =>
          show (t.walk [] before).bind _ = _
          rw [hbefore]
          rfl
  refine ⟨by rw [hmkdir]; nofun, ?_⟩
  have hdir : t.isDir path = true := isDir_iff.mpr ⟨here, h⟩
  rw [ensureDir, hmkdir, hdir]
  rfl

end

end FileTree

namespace FileTree

variable {N C : Type}

/-- What missing directories along a list of names were made. -/
structure Grown (t t' : FileTree N C) (mode : ℕ) (base ns : List N) : Prop where
  kept : ∀ q node, t q = some node → t' q = some node
  made : ∀ p, p ≠ [] → p <+: ns → t (base ++ p) = none → t' (base ++ p) = some (.dir mode)
  only : ∀ q, t q = none → (∀ p, p ≠ [] → p <+: ns → q ≠ base ++ p) → t' q = none

section

variable {t t' t'' : FileTree N C} {mode : ℕ} {base ns : List N} {n : N}

theorem Grown.of_allDirs (h : AllDirs t base ns) : Grown t t mode base ns where
  kept _ _ h := h
  made p hp hbegins hnone := by
    obtain ⟨mode', hdir⟩ := h p hp hbegins
    rw [hdir] at hnone
    cases hnone
  only _ hnone _ := hnone

theorem Grown.allDirs (h : Grown t t' mode base ns) (hclear : Clear t base ns) :
    AllDirs t' base ns := by
  intro p hp hbegins
  cases hnode : t (base ++ p) with
  | none => exact ⟨mode, h.made p hp hbegins hnode⟩
  | some node =>
    cases node with
    | dir mode' => exact ⟨mode', h.kept _ _ hnode⟩
    | file mode' contents => exact absurd hnode (hclear p hp hbegins mode' contents)

theorem walk_solid (t : FileTree N C) (here : List N) (path : PathText N) :
    t.walk here (PathText.solid path) = t.walk here path := by
  induction path generalizing here with
  | nil => rfl
  | cons s path ih =>
    cases s with
    | empty => exact ih here
    | dot => exact ih here
    | dotdot => exact ih here.dropLast
    | name n =>
      show t.walk here (.name n :: PathText.solid path) = t.walk here (.name n :: path)
      simp only [walk]
      cases t (here ++ [n]) with
      | none => rfl
      | some node =>
        cases node with
        | dir mode => exact ih (here ++ [n])
        | file mode contents => rfl

theorem walk_solid_eq {path root : PathText N} (hsolid : path.solid = root.solid ++ ns.map .name)
    (hroot : t.walk [] root = .ok base) : t.walk [] path = t.descend base ns := by
  rw [← walk_solid, hsolid, walk_append, walk_solid, hroot]
  rfl

theorem walk_reads {root path : PathText N} (h : PathText.Reads root path ns)
    (hroot : t.walk [] root = .ok base) : t.walk [] path = t.descend base ns :=
  walk_solid_eq h.solid_eq hroot

/-- The last of the names is there already. -/
theorem Grown.extend (h : Grown t t' mode base ns)
    (hthere : ∃ node, t (base ++ ns ++ [n]) = some node) :
    Grown t t' mode base (ns ++ [n]) where
  kept := h.kept
  made p hp hbegins hmissing := by
    rcases prefix_concat hbegins with hshort | rfl
    · exact h.made p hp hshort hmissing
    · obtain ⟨node, hnode⟩ := hthere
      rw [← List.append_assoc, hnode] at hmissing
      cases hmissing
  only q hmissing hother :=
    h.only q hmissing fun p hp hbegins => hother p hp (hbegins.trans (List.prefix_append _ _))

theorem ancestors_cons (fuel : ℕ) (path : PathText N) :
    ∃ above, path.ancestors fuel = path :: above := by
  cases fuel with
  | zero => exact ⟨_, rfl⟩
  | succ fuel => exact ⟨_, rfl⟩

variable [DecidableEq N]

theorem put_self (place : List N) (node : FileNode C) : t.put place node place = some node :=
  Function.update_self _ _ _

theorem put_ne {place q : List N} (node : FileNode C) (h : q ≠ place) :
    t.put place node q = t q := Function.update_of_ne h _ _

/-- The last of the names is made when it is missing. -/
theorem Grown.put (h : Grown t t' mode base ns) (hnone : t (base ++ ns ++ [n]) = none) :
    Grown t (t'.put (base ++ ns ++ [n]) (.dir mode)) mode base (ns ++ [n]) where
  kept q node hnode := by
    have hne : q ≠ base ++ ns ++ [n] := by
      rintro rfl
      rw [hnode] at hnone
      cases hnone
    rw [put_ne _ hne]
    exact h.kept q node hnode
  made p hp hbegins hmissing := by
    rcases prefix_concat hbegins with hshort | rfl
    · by_cases hsame : base ++ p = base ++ ns ++ [n]
      · rw [hsame, put_self]
      · rw [put_ne _ hsame]
        exact h.made p hp hshort hmissing
    · rw [← List.append_assoc, put_self]
  only q hmissing hother := by
    have hne : q ≠ base ++ ns ++ [n] := by
      have hq := hother (ns ++ [n]) (by simp) List.prefix_rfl
      rwa [← List.append_assoc] at hq
    rw [put_ne _ hne]
    exact h.only q hmissing fun p hp hbegins => hother p hp (hbegins.trans (List.prefix_append _ _))

theorem createAll_first {path : PathText N} {above : List (PathText N)}
    (h : t.mkdir mode path ≠ .error .notFound) :
    t.createAll mode (path :: above) = t.ensureDir mode path := by
  rw [createAll]
  split
  · next hmissing => exact absurd hmissing h
  · rfl

theorem createAll_above {path : PathText N} {above : List (PathText N)}
    (h : t.mkdir mode path = .error .notFound) :
    t.createAll mode (path :: above) =
      (t.createAll mode above).bind fun t' => t'.ensureDir mode path := by
  rw [createAll, h]
  rfl

/-- Directories are created along a list of names when no file is in the way. -/
theorem createAll_reads {root path : PathText N} {fuel : ℕ} (h : PathText.Reads root path ns)
    (hroot : t.walk [] root = .ok base) (hclosed : Closed t base) (hfuel : ns.length ≤ fuel) :
    (Clear t base ns → ∃ t', t.createAll mode (path.ancestors fuel) = .ok t' ∧
      Grown t t' mode base ns) ∧
      (¬Clear t base ns → ∃ e, t.createAll mode (path.ancestors fuel) = .error e) := by
  induction h generalizing fuel with
  | @here path hsolid =>
    have hwalk : t.walk [] path = .ok base := (walk_reads (.here hsolid) hroot).trans rfl
    obtain ⟨hmkdir, hensure⟩ := @ensureDir_existing N C _ t path mode base hwalk
    obtain ⟨above, habove⟩ := ancestors_cons fuel _
    rw [habove, createAll_first hmkdir]
    have hnone : ∀ p : List N, p ≠ [] → ¬p <+: [] :=
      fun p hp hbegins => hp (List.prefix_nil.mp hbegins)
    exact ⟨fun _ => ⟨t, hensure, .of_allDirs fun p hp hbegins => absurd hbegins (hnone p hp)⟩,
      fun hblocked => absurd (fun p hp hbegins => absurd hbegins (hnone p hp)) hblocked⟩
  | @beneath path before above n ns hlast hparent hsolid habove ih =>
    have hwalk : t.walk [] before = t.descend base ns := by
      rw [← walk_solid, hsolid, walk_solid]
      exact walk_reads habove hroot
    obtain ⟨rest, hrest⟩ := ancestors_cons fuel path
    by_cases hdirs : AllDirs t base ns
    · have hbefore : t.walk [] before = .ok (base ++ ns) := hwalk.trans (descend_allDirs hdirs)
      have hmkdir : t.mkdir mode path ≠ .error .notFound := by
        rw [mkdir_below hlast hbefore]
        split_ifs <;> nofun
      rw [hrest, createAll_first hmkdir, ensureDir_below hlast hbefore, clear_concat]
      cases hnode : t (base ++ ns ++ [n]) with
      | none =>
        refine ⟨fun _ => ⟨_, rfl, Grown.put (.of_allDirs hdirs) hnode⟩, fun hblocked => ?_⟩
        exact absurd ⟨hdirs.clear, nofun⟩ hblocked
      | some node =>
        cases node with
        | dir mode' =>
          refine ⟨fun _ => ⟨t, rfl, (Grown.of_allDirs hdirs).extend ⟨_, hnode⟩⟩, fun hblocked => ?_⟩
          exact absurd ⟨hdirs.clear, nofun⟩ hblocked
        | file mode' contents =>
          exact ⟨fun hclear => absurd rfl (hclear.2 mode' contents), fun _ => ⟨_, rfl⟩⟩
    · obtain ⟨hmissing, hfile⟩ := descend_stuck hclosed hdirs
      by_cases hclear : Clear t base ns
      · have hnone : t (base ++ ns ++ [n]) = none := by
          by_contra hthere
          exact hdirs (hclosed.allDirs hthere)
        have hmkdir : t.mkdir mode path = .error .notFound :=
          (mkdir_error hlast (hwalk.trans (hmissing hclear))).1
        obtain ⟨fuel, rfl⟩ : ∃ k, fuel = k + 1 := by
          rw [List.length_append, List.length_singleton] at hfuel
          exact ⟨fuel - 1, by omega⟩
        have hancestors : path.ancestors (fuel + 1) = path :: above.ancestors fuel := by
          rw [PathText.ancestors, hparent]
        have hfuel' : ns.length ≤ fuel := by
          rw [List.length_append, List.length_singleton] at hfuel
          omega
        obtain ⟨t', hcreate, hgrown⟩ := (ih hfuel').1 hclear
        have hroot' : t'.walk [] root = .ok base :=
          walk_mono (fun q mode h => hgrown.kept _ _ h) hroot
        have hbefore : t'.walk [] before = .ok (base ++ ns) := by
          rw [← walk_solid, hsolid, walk_solid, walk_reads habove hroot']
          exact descend_allDirs (hgrown.allDirs hclear)
        have hnone' : t' (base ++ ns ++ [n]) = none := by
          refine hgrown.only _ hnone fun p _ hbegins heq => ?_
          rw [List.append_assoc] at heq
          have hlength := hbegins.length_le
          rw [← List.append_cancel_left heq, List.length_append, List.length_singleton] at hlength
          omega
        rw [hancestors, createAll_above hmkdir, hcreate]
        show (_ → ∃ t'', t'.ensureDir mode path = _ ∧ _) ∧ (_ → ∃ e, t'.ensureDir mode path = _)
        rw [ensureDir_below hlast hbefore, hnone', clear_concat]
        refine ⟨fun _ => ⟨_, rfl, hgrown.put hnone⟩, fun hblocked => absurd ⟨hclear, ?_⟩ hblocked⟩
        intro mode' contents hthere
        rw [hnone] at hthere
        cases hthere
      · have herror := @mkdir_error N C _ t path before mode _ _ hlast (hwalk.trans (hfile hclear))
        have hmkdir : t.mkdir mode path ≠ .error .notFound := by
          rw [herror.1]
          nofun
        rw [hrest, createAll_first hmkdir, herror.2]
        exact ⟨fun hblocked => absurd (clear_concat.mp hblocked).1 hclear, fun _ => ⟨_, rfl⟩⟩

/-- A directory tree behind a root. -/
theorem createDirAll_reads {root path : PathText N} (h : PathText.Reads root path ns)
    (hroot : t.walk [] root = .ok base) (hclosed : Closed t base) :
    (Clear t base ns → ∃ t', t.createDirAll mode path = .ok t' ∧ Grown t t' mode base ns) ∧
      (¬Clear t base ns → ∃ e, t.createDirAll mode path = .error e) :=
  createAll_reads h hroot hclosed h.length_le

/-- A directory whose path ends in a dot cannot be created; it can only be there already. -/
theorem createDirAll_dotted {root path : PathText N} (h : PathText.Dotted root path ns)
    (hroot : t.walk [] root = .ok base) (hclosed : Closed t base) :
    (AllDirs t base ns → t.createDirAll mode path = .ok t) ∧
      (¬AllDirs t base ns → ∃ e, t.createDirAll mode path = .error e) := by
  obtain ⟨before, above, ns, n, hlast, hparent, rfl, hsolid, habove⟩ := h
  have hbefore : before.solid = root.solid ++ (ns ++ [n]).map .name := by
    rw [hsolid, habove.solid_eq, List.map_append, List.append_assoc]
    rfl
  have hwalk : ∀ s : FileTree N C, s.walk [] root = .ok base →
      s.walk [] before = s.descend base (ns ++ [n]) := fun s hs => walk_solid_eq hbefore hs
  obtain ⟨rest, hrest⟩ := ancestors_cons path.length path
  unfold createDirAll
  constructor
  · intro hdirs
    have hpath : t.walk [] path = .ok (base ++ (ns ++ [n])) := by
      rw [walk_lastPart hlast, hwalk t hroot, descend_allDirs hdirs]
      rfl
    obtain ⟨hmkdir, hensure⟩ := @ensureDir_existing N C _ t path mode _ hpath
    rw [hrest, createAll_first hmkdir, hensure]
  · intro hdirs
    obtain ⟨hmissing, hfile⟩ := descend_stuck hclosed hdirs
    by_cases hclear : Clear t base (ns ++ [n])
    · have hmkdir := (@mkdir_error N C _ t path before mode _ _ hlast
        ((hwalk t hroot).trans (hmissing hclear))).1
      obtain ⟨hbelow, hfree⟩ := clear_concat.mp hclear
      have hnone : t (base ++ ns ++ [n]) = none := by
        cases hnode : t (base ++ ns ++ [n]) with
        | none => rfl
        | some node =>
          cases node with
          | dir mode' =>
            have hreach : AllDirs t base ns := hclosed.allDirs (by rw [hnode]; nofun)
            exact absurd (allDirs_concat.mpr ⟨hreach, mode', hnode⟩) hdirs
          | file mode' contents => exact absurd hnode (hfree mode' contents)
      obtain ⟨fuel, hfuel⟩ : ∃ k, path.length = k + 1 := by
        obtain ⟨blanks, -, hpath, -⟩ := PathText.lastPart_eq hlast
        rw [hpath, List.length_append, List.length_cons]
        exact ⟨before.length + blanks.length, by omega⟩
      have hlength : ns.length ≤ fuel := by
        have hsolids := congrArg List.length (PathText.solid_lastPart hlast)
        rw [hbefore] at hsolids
        simp only [List.length_append, List.length_map, List.length_singleton] at hsolids
        have hfilter : path.solid.length ≤ path.length := List.length_filter_le _ _
        omega
      obtain ⟨t', hcreate, hgrown⟩ :=
        (@createAll_reads N C t mode base ns _ root above fuel habove hroot hclosed
        hlength).1 hbelow
      rw [hfuel, PathText.ancestors, hparent, createAll_above hmkdir, hcreate]
      have hnone' : t' (base ++ ns ++ [n]) = none := by
        refine hgrown.only _ hnone fun p _ hbegins heq => ?_
        rw [List.append_assoc] at heq
        have hle := hbegins.length_le
        rw [← List.append_cancel_left heq, List.length_append, List.length_singleton] at hle
        omega
      have hstuck : t'.walk [] before = .error .notFound := by
        rw [hwalk t' (walk_mono (fun q mode h => hgrown.kept _ _ h) hroot), descend_append,
          descend_allDirs (hgrown.allDirs hbelow)]
        show t'.descend (base ++ ns) [n] = _
        rw [descend_single, hnone']
      exact ⟨_, (@mkdir_error N C _ t' path before mode _ _ hlast hstuck).2⟩
    · have herror := @mkdir_error N C _ t path before mode _ _ hlast
        ((hwalk t hroot).trans (hfile hclear))
      have hmkdir : t.mkdir mode path ≠ .error .notFound := by
        rw [herror.1]
        nofun
      rw [hrest, createAll_first hmkdir]
      exact ⟨_, herror.2⟩

/-- A file is created in a directory that is there, when its name is free. -/
theorem createNew_below {path before : PathText N} {here : List N} {contents : C}
    (hlast : path.lastPart = some (before, .name n)) (hends : path.endsInSeparator = false)
    (hbefore : t.walk [] before = .ok here) : t.createNew mode contents path =
      if (t (here ++ [n])).isSome then .error .exists_
      else .ok (t.put (here ++ [n]) (.file mode contents)) := by
  rw [createNew, hlast]
  show ((t.walk [] before).bind fun _ => if path.endsInSeparator = true then _ else
    (t.free before n).bind _) = _
  rw [hbefore, hends, if_neg (by decide)]
  show (t.free before n).bind _ = _
  rw [free_eq hbefore]
  split_ifs
  · rfl
  · rfl

/-- No file is created at a path that ends in a separator or a dot. -/
theorem createNew_refused {path before : PathText N} {last : Segment N} {contents : C}
    (hlast : path.lastPart = some (before, last))
    (h : path.endsInSeparator = true ∨ last.name? = none) :
    ∃ e, t.createNew mode contents path = .error e := by
  rw [createNew, hlast]
  cases last with
  | name n =>
    have hends : path.endsInSeparator = true := h.resolve_right nofun
    show ∃ e, ((t.walk [] before).bind fun _ => if path.endsInSeparator = true then _ else _) = _
    cases t.walk [] before with
    | error e => exact ⟨e, rfl⟩
    | ok place =>
      rw [hends]
      exact ⟨.isDirectory, rfl⟩
  | _ =>
    show ∃ e, ((t.walk [] before).bind fun _ => _) = _
    cases t.walk [] before with
    | error e => exact ⟨e, rfl⟩
    | ok place => exact ⟨.exists_, rfl⟩

end

/-- What stands below `base`: these files, and these directories of one mode; elsewhere the tree is
as it was. -/
structure Shows (t₀ t : FileTree N C) (base : List N) (mode : ℕ)
    (files : List N → ℕ → C → Prop) (dirs : List N → Prop) : Prop where
  outside : ∀ q, (∀ p, p ≠ [] → q ≠ base ++ p) → t q = t₀ q
  files : ∀ p m c, p ≠ [] → (t (base ++ p) = some (.file m c) ↔ files p m c)
  dirs : ∀ p m, p ≠ [] → (t (base ++ p) = some (.dir m) ↔ m = mode ∧ dirs p)

section

variable {t₀ t t' : FileTree N C} {base ns : List N} {mode : ℕ}
  {files files' : List N → ℕ → C → Prop} {dirs dirs' : List N → Prop}

theorem Shows.congr (h : Shows t₀ t base mode files dirs)
    (hfiles : ∀ p m c, p ≠ [] → (files p m c ↔ files' p m c))
    (hdirs : ∀ p, p ≠ [] → (dirs p ↔ dirs' p)) : Shows t₀ t base mode files' dirs' where
  outside := h.outside
  files p m c hp := (h.files p m c hp).trans (hfiles p m c hp)
  dirs p m hp := (h.dirs p m hp).trans (and_congr_right fun _ => hdirs p hp)

theorem Shows.unique (h : Shows t₀ t base mode files dirs)
    (h' : Shows t₀ t' base mode files dirs) : t = t' := by
  funext q
  by_cases hbelow : ∃ p, p ≠ [] ∧ q = base ++ p
  · obtain ⟨p, hp, rfl⟩ := hbelow
    apply Option.ext
    intro node
    cases node with
    | dir m => exact (h.dirs p m hp).trans (h'.dirs p m hp).symm
    | file m c => exact (h.files p m c hp).trans (h'.files p m c hp).symm
  · have hq : ∀ p, p ≠ [] → q ≠ base ++ p := fun p hp heq => hbelow ⟨p, hp, heq⟩
    rw [h.outside q hq, h'.outside q hq]

theorem Shows.clear_iff (h : Shows t₀ t base mode files dirs) :
    Clear t base ns ↔ ∀ p m c, p ≠ [] → p <+: ns → ¬files p m c :=
  ⟨fun hclear p m c hp hbegins hfile => hclear p hp hbegins m c ((h.files p m c hp).mpr hfile),
    fun hnone p hp hbegins m c hfile => hnone p m c hp hbegins ((h.files p m c hp).mp hfile)⟩

theorem Shows.allDirs_iff (h : Shows t₀ t base mode files dirs) :
    AllDirs t base ns ↔ ∀ p, p ≠ [] → p <+: ns → dirs p := by
  constructor
  · intro hdirs p hp hbegins
    obtain ⟨m, hdir⟩ := hdirs p hp hbegins
    exact ((h.dirs p m hp).mp hdir).2
  · intro hdirs p hp hbegins
    exact ⟨mode, (h.dirs p mode hp).mpr ⟨rfl, hdirs p hp hbegins⟩⟩

theorem Shows.none_iff (h : Shows t₀ t base mode files dirs) (hns : ns ≠ []) :
    t (base ++ ns) = none ↔ (∀ m c, ¬files ns m c) ∧ ¬dirs ns := by
  constructor
  · intro hnone
    constructor
    · intro m c hfile
      rw [(h.files ns m c hns).mpr hfile] at hnone
      cases hnone
    · intro hdir
      rw [(h.dirs ns mode hns).mpr ⟨rfl, hdir⟩] at hnone
      cases hnone
  · rintro ⟨hfile, hdir⟩
    cases hnode : t (base ++ ns) with
    | none => rfl
    | some node =>
      cases node with
      | dir m => exact absurd ((h.dirs ns m hns).mp hnode).2 hdir
      | file m c => exact absurd ((h.files ns m c hns).mp hnode) (hfile m c)

theorem Shows.grow (h : Shows t₀ t base mode files dirs) (hclear : Clear t base ns)
    (hgrown : Grown t t' mode base ns) :
    Shows t₀ t' base mode files fun p => dirs p ∨ p <+: ns where
  outside q hq := by
    rw [← h.outside q hq]
    cases hnode : t q with
    | none => exact hgrown.only q hnode fun p hp _ => hq p hp
    | some node => exact hgrown.kept q node hnode
  files p m c hp := by
    rw [← h.files p m c hp]
    refine ⟨fun hfile => ?_, fun hfile => hgrown.kept _ _ hfile⟩
    cases hnode : t (base ++ p) with
    | some node =>
      rw [hgrown.kept _ _ hnode] at hfile
      exact hfile
    | none =>
      by_cases hbegins : p <+: ns
      · rw [hgrown.made p hp hbegins hnode] at hfile
        cases hfile
      · have hgone := hgrown.only _ hnode fun p' _ hbegins' heq =>
          hbegins (List.append_cancel_left heq ▸ hbegins')
        rw [hgone] at hfile
        cases hfile
  dirs p m hp := by
    cases hnode : t (base ++ p) with
    | some node =>
      rw [hgrown.kept _ _ hnode]
      cases node with
      | dir m' =>
        obtain ⟨rfl, hdir⟩ := (h.dirs p m' hp).mp hnode
        constructor
        · intro hsame
          cases hsame
          exact ⟨rfl, .inl hdir⟩
        · rintro ⟨rfl, -⟩
          rfl
      | file m' c =>
        refine ⟨nofun, ?_⟩
        rintro ⟨rfl, hdir | hbegins⟩
        · have hthere := (h.dirs p m hp).mpr ⟨rfl, hdir⟩
          rw [hnode] at hthere
          cases hthere
        · exact absurd hnode (hclear p hp hbegins m' c)
    | none =>
      have hdir : ¬dirs p := ((h.none_iff hp).mp hnode).2
      by_cases hbegins : p <+: ns
      · rw [hgrown.made p hp hbegins hnode]
        constructor
        · intro hsame
          cases hsame
          exact ⟨rfl, .inr hbegins⟩
        · rintro ⟨rfl, -⟩
          rfl
      · have hgone := hgrown.only _ hnode fun p' _ hbegins' heq =>
          hbegins (List.append_cancel_left heq ▸ hbegins')
        rw [hgone]
        exact ⟨nofun, fun h => (h.2.elim hdir hbegins).elim⟩

theorem Shows.create [DecidableEq N] (h : Shows t₀ t base mode files dirs) (hns : ns ≠ [])
    (hnone : t (base ++ ns) = none) (m : ℕ) (c : C) :
    Shows t₀ (t.put (base ++ ns) (.file m c)) base mode
      (fun p m' c' => files p m' c' ∨ p = ns ∧ m' = m ∧ c' = c) dirs where
  outside q hq := by
    rw [put_ne _ (hq ns hns)]
    exact h.outside q hq
  files p m' c' hp := by
    by_cases hsame : p = ns
    · subst hsame
      rw [put_self]
      constructor
      · intro heq
        cases heq
        exact .inr ⟨rfl, rfl, rfl⟩
      · rintro (hfile | ⟨-, rfl, rfl⟩)
        · exact absurd hfile (((h.none_iff hp).mp hnone).1 m' c')
        · rfl
    · rw [put_ne _ fun heq => hsame (List.append_cancel_left heq), h.files p m' c' hp]
      exact ⟨.inl, fun h => h.resolve_right fun h => hsame h.1⟩
  dirs p m' hp := by
    by_cases hsame : p = ns
    · subst hsame
      rw [put_self]
      exact ⟨nofun, fun hdir => absurd hdir.2 ((h.none_iff hp).mp hnone).2⟩
    · rw [put_ne _ fun heq => hsame (List.append_cancel_left heq)]
      exact h.dirs p m' hp

end

end FileTree
