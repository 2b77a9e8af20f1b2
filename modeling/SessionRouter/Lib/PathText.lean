import Mathlib.Data.List.DropRight
import Mathlib.Tactic.SplitIfs

/-!
The text of a path, cut at its separators: its components, the paths above it, and how a relative
path is read behind a root.
-/

/-- What stands between two separators of a path. -/
inductive Segment (N : Type) where
  | empty
  | dot
  | dotdot
  | name (n : N)
  deriving DecidableEq

namespace Segment

variable {N : Type}

def isEmpty : Segment N → Bool
  | empty => true
  | _ => false

/-- A segment that resolution passes over. -/
def isJunk : Segment N → Bool
  | empty | dot => true
  | _ => false

def isDotDot : Segment N → Bool
  | dotdot => true
  | _ => false

def name? : Segment N → Option N
  | name n => some n
  | _ => none

theorem isJunk_of_isEmpty {s : Segment N} (h : s.isEmpty = true) : s.isJunk = true := by
  cases s with
  | empty => rfl
  | _ => cases h

end Segment

/-- The text of a path, cut at its separators. -/
abbrev PathText (N : Type) := List (Segment N)

namespace PathText

variable {N : Type}

inductive Component (N : Type) where
  | root
  | cur
  | parent
  | normal (n : N)
  deriving DecidableEq

def body (path : PathText N) : List (Component N) := path.filterMap fun
  | .empty | .dot => none
  | .dotdot => some .parent
  | .name n => some (.normal n)

/-- A leading separator and a leading dot are components; other dots and separators are not. -/
def components : PathText N → List (Component N)
  | .empty :: segment :: path => .root :: body (segment :: path)
  | .dot :: path => .cur :: body path
  | path => body path

def isAbsolute : PathText N → Bool
  | .empty :: _ :: _ => true
  | _ => false

def names (path : PathText N) : List N := path.filterMap Segment.name?

/-- A relative path is appended behind one separator, an absolute one replaces the path. -/
def join (root path : PathText N) : PathText N :=
  if path.isAbsolute then path
  else if root.getLast?.any Segment.isEmpty then root.dropLast ++ path
  else root ++ path

/-- The last segment that is not empty, and the text before it. -/
def lastPart (path : PathText N) : Option (PathText N × Segment N) :=
  match path.reverse.dropWhile Segment.isEmpty with
  | [] => none
  | last :: before => some (before.reverse, last)

def endsInSeparator (path : PathText N) : Bool := path.getLast?.any Segment.isEmpty

/-- Before its last separators the path ends in a dot. -/
def endsInDot (path : PathText N) : Bool :=
  path.lastPart.any fun part => part.2.isJunk

/-- The text up to the last component of an absolute path, without trailing dots and separators. -/
def parent : PathText N → Option (PathText N)
  | .empty :: path =>
    match path.reverse.dropWhile Segment.isJunk with
    | [] => none
    | _ :: before =>
      match (before.dropWhile Segment.isJunk).reverse with
      | [] => some [.empty, .empty]
      | path => some (.empty :: path)
  | _ => none

/-- A path and the paths above it, as far as the fuel goes. -/
def ancestors : ℕ → PathText N → List (PathText N)
  | 0, path => [path]
  | fuel + 1, path =>
    path :: match path.parent with
      | some above => ancestors fuel above
      | none => []

end PathText

namespace PathText

variable {N : Type} {root path : PathText N} {n : N} {ns : List N}

theorem lastPart_eq {before : PathText N} {last : Segment N}
    (h : path.lastPart = some (before, last)) :
    ∃ blanks : PathText N, (∀ s ∈ blanks, Segment.isEmpty s = true) ∧
      path = before ++ last :: blanks ∧ last.isEmpty = false := by
  unfold lastPart at h
  have hsplit := List.takeWhile_append_dropWhile (p := Segment.isEmpty) (l := path.reverse)
  cases hdrop : path.reverse.dropWhile Segment.isEmpty with
  | nil =>
    rw [hdrop] at h
    cases h
  | cons s rest =>
    rw [hdrop] at h
    cases h
    refine ⟨(path.reverse.takeWhile Segment.isEmpty).reverse, ?_, ?_, ?_⟩
    · intro s hs
      exact List.mem_takeWhile_imp (List.mem_reverse.mp hs)
    · rw [hdrop] at hsplit
      have hpath := congrArg List.reverse hsplit
      simp only [List.reverse_append, List.reverse_cons, List.reverse_reverse] at hpath
      exact hpath.symm.trans (by simp)
    · have hhead := List.head_dropWhile_not (p := Segment.isEmpty) (l := path.reverse)
        (by rw [hdrop]; nofun)
      simpa [hdrop] using hhead

/-- What resolution does not pass over. -/
def solid (path : PathText N) : PathText N := path.filter fun s => !s.isJunk

theorem solid_append (path rest : PathText N) :
    solid (path ++ rest) = solid path ++ solid rest := List.filter_append _ _

theorem solid_junk {junk : PathText N} (h : ∀ s ∈ junk, Segment.isJunk s = true) :
    solid junk = [] := by
  rw [solid, List.filter_eq_nil_iff]
  intro s hs
  rw [h s hs]
  decide

theorem names_solid (path : PathText N) : names (solid path) = names path := by
  induction path with
  | nil => rfl
  | cons s path ih =>
    cases s with
    | empty => exact ih
    | dot => exact ih
    | dotdot => exact ih
    | name n => exact congrArg (n :: ·) ih

theorem names_append (path rest : PathText N) :
    names (path ++ rest) = names path ++ names rest := List.filterMap_append ..

theorem lastPart_append {blanks : PathText N} {s : Segment N}
    (hblanks : ∀ s ∈ blanks, Segment.isEmpty s = true) (hs : s.isEmpty = false) :
    lastPart (path ++ s :: blanks) = some (path, s) := by
  have hreverse : (path ++ s :: blanks).reverse = blanks.reverse ++ s :: path.reverse := by simp
  have hdrop : (path ++ s :: blanks).reverse.dropWhile Segment.isEmpty = s :: path.reverse := by
    rw [hreverse, List.dropWhile_append_of_pos fun s hs => hblanks s (List.mem_reverse.mp hs),
      List.dropWhile_cons_of_neg (by simp [hs])]
  rw [lastPart, hdrop]
  exact congrArg (fun p => some (p, s)) path.reverse_reverse

/-- A path without what resolution passes over at its end. -/
def trim (path : PathText N) : PathText N := (path.reverse.dropWhile Segment.isJunk).reverse

theorem trim_append {junk : PathText N} (hjunk : ∀ s ∈ junk, Segment.isJunk s = true) :
    trim (path ++ .name n :: junk) = path ++ [.name n] := by
  have hreverse : (path ++ .name n :: junk).reverse = junk.reverse ++ .name n :: path.reverse := by
    simp
  rw [trim, hreverse, List.dropWhile_append_of_pos fun s hs => hjunk s (List.mem_reverse.mp hs),
    List.dropWhile_cons_of_neg (by simp [Segment.isJunk])]
  simp

theorem solid_trim (path : PathText N) : solid (trim path) = solid path := by
  have hsplit : trim path ++ (path.reverse.takeWhile Segment.isJunk).reverse = path := by
    rw [trim, ← List.reverse_append, List.takeWhile_append_dropWhile, List.reverse_reverse]
  have hjunk : solid (path.reverse.takeWhile Segment.isJunk).reverse = [] :=
    solid_junk fun s hs => List.mem_takeWhile_imp (List.mem_reverse.mp hs)
  conv_rhs => rw [← hsplit, solid_append, hjunk, List.append_nil]

/-- What `parent` makes of the text above the last component. -/
theorem parent_eq {path : PathText N}
    (hdrop : junk.reverse.dropWhile Segment.isJunk = .name n :: path.reverse) :
    parent (.empty :: junk) = match trim path with
      | [] => some [Segment.empty, Segment.empty]
      | path => some (Segment.empty :: path) := by
  rw [parent, hdrop]
  rfl

/-- The text above an absolute path that ends in a name. -/
theorem parent_append {junk : PathText N} (hjunk : ∀ s ∈ junk, Segment.isJunk s = true) :
    parent (.empty :: (path ++ .name n :: junk)) =
      some (if trim path = [] then [.empty, .empty] else .empty :: trim path) := by
  have hdrop : (path ++ .name n :: junk).reverse.dropWhile Segment.isJunk =
      .name n :: path.reverse := by
    have htrim := congrArg List.reverse (@trim_append N path n junk hjunk)
    rw [trim, List.reverse_reverse] at htrim
    rw [htrim]
    simp
  rw [parent_eq hdrop]
  cases trim path with
  | nil => rfl
  | cons s rest => rfl

/-- A path below a root, as it is resolved; the names lead from the root to its end. -/
inductive Reads (root : PathText N) : PathText N → List N → Prop
  | here {path : PathText N} (hsolid : path.solid = root.solid) : Reads root path []
  | beneath {path before above : PathText N} {n : N} {ns : List N}
      (hlast : path.lastPart = some (before, .name n)) (hparent : path.parent = some above)
      (hsolid : before.solid = above.solid) (habove : Reads root above ns) :
      Reads root path (ns ++ [n])

theorem solid_lastPart {before : PathText N} {last : Segment N}
    (h : path.lastPart = some (before, last)) : path.solid = before.solid ++ solid [last] := by
  obtain ⟨blanks, hblanks, rfl, -⟩ := lastPart_eq h
  rw [show before ++ last :: blanks = before ++ ([last] ++ blanks) by simp, solid_append,
    solid_append, solid_junk fun s hs => Segment.isJunk_of_isEmpty (hblanks s hs),
    List.append_nil]

theorem Reads.solid_eq (h : Reads root path ns) :
    path.solid = root.solid ++ ns.map .name := by
  induction h with
  | here hsolid => rw [hsolid, List.map_nil, List.append_nil]
  | beneath hlast hparent hsolid habove ih =>
    rw [solid_lastPart hlast, hsolid, ih, List.map_append, List.append_assoc]
    rfl

theorem Reads.length_le (h : Reads root path ns) : ns.length ≤ path.length := by
  have hsolid := congrArg List.length h.solid_eq
  rw [List.length_append, List.length_map] at hsolid
  have hfilter : path.solid.length ≤ path.length := List.length_filter_le _ _
  omega

/-- A relative path that stays below where it starts, and starts with a name. -/
def Tame (path : PathText N) : Prop :=
  ∃ n rest, path = .name n :: rest ∧ ∀ s ∈ rest, Segment.isDotDot s = false

theorem Tame.split (h : Tame path) : ∃ before n junk, path = before ++ .name n :: junk ∧
    (∀ s ∈ junk, Segment.isJunk s = true) ∧ (before = [] ∨ Tame before) := by
  obtain ⟨m, rest, rfl, hrest⟩ := h
  induction rest using List.reverseRecOn with
  | nil => exact ⟨[], m, [], rfl, nofun, .inl rfl⟩
  | append_singleton rest s ih =>
    have hs : s.isDotDot = false := hrest s (by simp)
    have hrest' : ∀ s ∈ rest, Segment.isDotDot s = false :=
      fun s hs => hrest s (List.mem_append_left _ hs)
    obtain ⟨before, n, junk, hpath, hjunk, hbefore⟩ := ih hrest'
    by_cases hkind : s.isJunk = true
    · refine ⟨before, n, junk ++ [s], ?_, ?_, hbefore⟩
      · rw [← List.cons_append, hpath, List.append_assoc, List.cons_append]
      · intro s' hs'
        rcases List.mem_append.mp hs' with hs' | hs'
        · exact hjunk s' hs'
        · exact List.mem_singleton.mp hs' ▸ hkind
    · cases s with
      | empty => exact absurd rfl hkind
      | dot => exact absurd rfl hkind
      | dotdot => cases hs
      | name k => exact ⟨.name m :: rest, k, [], rfl, nofun, .inr ⟨m, rest, rfl, hrest'⟩⟩

theorem names_junk {before junk : PathText N} (hjunk : ∀ s ∈ junk, Segment.isJunk s = true) :
    names (before ++ .name n :: junk) = names before ++ [n] := by
  rw [names_append, ← names_solid (.name n :: junk)]
  show _ ++ names (.name n :: solid junk) = _
  rw [solid_junk hjunk]
  rfl

/-- The text above a path that continues an absolute one with a name. -/
def above (path : PathText N) : PathText N :=
  if trim path = [] then [.empty, .empty] else .empty :: trim path

theorem solid_above (path : PathText N) : solid (above path) = solid path := by
  unfold above
  split_ifs with hnil
  · rw [← solid_trim path, hnil]
    rfl
  · exact solid_trim path

theorem reads_next {blanks : PathText N} (hblanks : ∀ s ∈ blanks, Segment.isEmpty s = true)
    (h : Reads root (above path) ns) :
    Reads root (.empty :: (path ++ .name n :: blanks)) (ns ++ [n]) := by
  have hlast : lastPart (.empty :: (path ++ .name n :: blanks)) =
      some (.empty :: path, .name n) := by
    rw [← List.cons_append]
    exact lastPart_append hblanks rfl
  have hparent := @parent_append N path n blanks
    fun s hs => Segment.isJunk_of_isEmpty (hblanks s hs)
  exact .beneath hlast hparent (solid_above path).symm h

theorem reads_above {r before : PathText N} (hroot : solid r = root.solid)
    (hbefore : before = [] ∨ Tame before) : Reads root (above (r ++ before)) (names before) := by
  induction hlength : before.length using Nat.strong_induction_on generalizing before with
  | _ length ih =>
    rcases hbefore with rfl | htame
    · apply Reads.here
      rw [solid_above, List.append_nil, hroot]
    · obtain ⟨before', m, junk, rfl, hjunk, hbefore'⟩ := htame.split
      have htrim := @trim_append N (r ++ before') m junk hjunk
      rw [List.append_assoc] at htrim
      rw [names_junk hjunk, above, htrim, if_neg (by simp)]
      refine reads_next nofun (ih before'.length ?_ hbefore' rfl)
      rw [← hlength, List.length_append, List.length_cons]
      omega

/-- A tame path behind a root that ends in a name is read by its names. -/
theorem reads_append {r before blanks : PathText N} (hroot : solid r = root.solid)
    (hbefore : before = [] ∨ Tame before) (hblanks : ∀ s ∈ blanks, Segment.isEmpty s = true) :
    Reads root (.empty :: (r ++ (before ++ .name n :: blanks))) (names before ++ [n]) := by
  rw [← List.append_assoc]
  exact reads_next hblanks (reads_above hroot hbefore)

/-- A path that ends in a dot behind a list of names. -/
def Dotted (root path : PathText N) (ns : List N) : Prop :=
  ∃ before above ns' n, path.lastPart = some (before, .dot) ∧ path.parent = some above ∧
    ns = ns' ++ [n] ∧ before.solid = above.solid ++ [.name n] ∧ Reads root above ns'

theorem dotted_append {r before junk blanks : PathText N} (hroot : solid r = root.solid)
    (hbefore : before = [] ∨ Tame before) (hjunk : ∀ s ∈ junk, Segment.isJunk s = true)
    (hblanks : ∀ s ∈ blanks, Segment.isEmpty s = true) :
    Dotted root (.empty :: (r ++ (before ++ .name n :: (junk ++ .dot :: blanks))))
      (names before ++ [n]) := by
  have hends : ∀ s ∈ junk ++ .dot :: blanks, Segment.isJunk s = true := by
    intro s hs
    rcases List.mem_append.mp hs with hs | hs
    · exact hjunk s hs
    · rcases List.mem_cons.mp hs with rfl | hs
      · rfl
      · exact Segment.isJunk_of_isEmpty (hblanks s hs)
  have hparent := @parent_append N (r ++ before) n (junk ++ .dot :: blanks) hends
  rw [List.append_assoc] at hparent
  refine ⟨.empty :: (r ++ (before ++ .name n :: junk)), above (r ++ before), names before, n, ?_,
    hparent, rfl, ?_, reads_above hroot hbefore⟩
  · have hshape : (Segment.empty :: (r ++ (before ++ .name n :: (junk ++ .dot :: blanks))) :
        PathText N) = (.empty :: (r ++ (before ++ .name n :: junk))) ++ .dot :: blanks := by simp
    rw [hshape]
    exact lastPart_append hblanks rfl
  · rw [solid_above]
    show solid (r ++ (before ++ .name n :: junk)) = _
    rw [← List.append_assoc, solid_append]
    show _ ++ .name n :: solid junk = _
    rw [solid_junk hjunk]

theorem junk_cases {junk : PathText N} (hjunk : ∀ s ∈ junk, Segment.isJunk s = true) :
    (∀ s ∈ junk, Segment.isEmpty s = true) ∨ ∃ rest blanks, junk = rest ++ .dot :: blanks ∧
      (∀ s ∈ rest, Segment.isJunk s = true) ∧ ∀ s ∈ blanks, Segment.isEmpty s = true := by
  induction junk using List.reverseRecOn with
  | nil => exact .inl nofun
  | append_singleton junk s ih =>
    have hjunk' : ∀ s ∈ junk, Segment.isJunk s = true :=
      fun s hs => hjunk s (List.mem_append_left _ hs)
    cases s with
    | empty =>
      rcases ih hjunk' with hempty | ⟨rest, blanks, rfl, hrest, hblanks⟩
      · exact .inl (List.forall_mem_append.mpr ⟨hempty, by simp [Segment.isEmpty]⟩)
      · refine .inr ⟨rest, blanks ++ [.empty], by simp, hrest, ?_⟩
        exact List.forall_mem_append.mpr ⟨hblanks, by simp [Segment.isEmpty]⟩
    | dot => exact .inr ⟨junk, [], rfl, hjunk', nofun⟩
    | dotdot => exact absurd (hjunk .dotdot (by simp)) nofun
    | name k => exact absurd (hjunk (.name k) (by simp)) nofun

theorem join_absolute {rel : PathText N} (hroot : root.isAbsolute = true)
    (hrel : rel.isAbsolute = false) :
    ∃ r, solid r = root.solid ∧ root.join rel = .empty :: (r ++ rel) := by
  obtain ⟨s, rest, rfl⟩ : ∃ s rest, root = .empty :: s :: rest := by
    match root, hroot with
    | .empty :: s :: rest, _ => exact ⟨s, rest, rfl⟩
  unfold join
  rw [hrel, if_neg (by decide)]
  split_ifs with hends
  · obtain ⟨last, hlast, hempty⟩ := (Option.any_eq_true _ _).mp hends
    have hsplit := List.dropLast_append_getLast? last hlast
    refine ⟨(s :: rest).dropLast, ?_, ?_⟩
    · have hsolid := congrArg solid hsplit
      rw [solid_append, @solid_junk N [last]] at hsolid
      · rw [List.append_nil] at hsolid
        exact hsolid
      · intro s' hs'
        exact List.mem_singleton.mp hs' ▸ Segment.isJunk_of_isEmpty hempty
    · rfl
  · exact ⟨s :: rest, rfl, rfl⟩

/-- How a tame path is read behind a root: as its names, or as its names and a dot. -/
theorem Tame.reads {rel : PathText N} (h : Tame rel) (hroot : root.isAbsolute = true) :
    (if rel.endsInDot then Dotted root (root.join rel) (names rel)
      else Reads root (root.join rel) (names rel)) ∧
      (root.join rel).endsInSeparator = rel.endsInSeparator := by
  have hstart := h
  obtain ⟨m, tail, htame, -⟩ := hstart
  have hrel : rel.isAbsolute = false := by
    rw [htame]
    rfl
  obtain ⟨r, hsolid, hjoin⟩ := join_absolute hroot hrel
  rw [hjoin]
  constructor
  · obtain ⟨before, n, junk, rfl, hjunk, hbefore⟩ := h.split
    rw [names_junk hjunk]
    rcases junk_cases hjunk with hblanks | ⟨rest, blanks, rfl, hrest, hblanks⟩
    · rw [endsInDot, lastPart_append hblanks rfl]
      exact reads_append hsolid hbefore hblanks
    · have hlast : lastPart (before ++ .name n :: (rest ++ .dot :: blanks)) =
          some (before ++ .name n :: rest, .dot) := by
        rw [← List.cons_append, ← List.append_assoc]
        exact lastPart_append hblanks rfl
      rw [endsInDot, hlast]
      exact dotted_append hsolid hbefore hrest hblanks
  · rw [endsInSeparator, endsInSeparator, htame, ← List.cons_append, List.getLast?_append_cons]

theorem Tame.names_join {rel : PathText N} (h : Tame rel) (hroot : root.isAbsolute = true) :
    names (root.join rel) = names root ++ names rel := by
  have hstart := h
  obtain ⟨m, tail, htame, -⟩ := hstart
  have hrel : rel.isAbsolute = false := by
    rw [htame]
    rfl
  obtain ⟨r, hsolid, hjoin⟩ := join_absolute hroot hrel
  rw [hjoin]
  show names (r ++ rel) = _
  rw [names_append, ← names_solid r, hsolid, names_solid]

theorem Tame.names_ne {rel : PathText N} (h : Tame rel) : names rel ≠ [] := by
  obtain ⟨n, rest, rfl, -⟩ := h
  exact List.cons_ne_nil n (names rest)

/-- The text above a tame path behind a root. -/
theorem Tame.above {rel : PathText N} (h : Tame rel) (hroot : root.isAbsolute = true) :
    ∃ above, (root.join rel).parent = some above ∧ Reads root above (names rel).dropLast := by
  have hreads := (h.reads hroot).1
  split_ifs at hreads
  · obtain ⟨before, above, ns, n, -, hparent, hnames, -, habove⟩ := hreads
    rw [hnames, List.dropLast_concat]
    exact ⟨above, hparent, habove⟩
  · generalize hns : names rel = ns at hreads
    cases hreads with
    | here hsolid => exact absurd hns h.names_ne
    | beneath hlast hparent hsolid habove =>
      rw [List.dropLast_concat]
      exact ⟨_, hparent, habove⟩

/-- A path of names alone, when it is cut into components, is tame. -/
theorem tame_of_components (hpath : path ≠ [] ∧ path ≠ [.empty])
    (hnormal : ∀ c ∈ path.components, ∃ n, c = .normal n) :
    Tame path ∧ path.components = (names path).map .normal := by
  have hbody : ∀ rest : PathText N, (∀ c ∈ body rest, ∃ n, c = .normal n) →
      (∀ s ∈ rest, Segment.isDotDot s = false) ∧ body rest = (names rest).map .normal := by
    intro rest
    induction rest with
    | nil => exact fun _ => ⟨nofun, rfl⟩
    | cons s rest ih =>
      intro hall
      cases s with
      | empty => exact ⟨List.forall_mem_cons.mpr ⟨rfl, (ih hall).1⟩, (ih hall).2⟩
      | dot => exact ⟨List.forall_mem_cons.mpr ⟨rfl, (ih hall).1⟩, (ih hall).2⟩
      | dotdot =>
        obtain ⟨n, hn⟩ := hall .parent (by exact List.mem_cons_self)
        cases hn
      | name n =>
        have hrest : ∀ c ∈ body rest, ∃ n, c = .normal n :=
          fun c hc => hall c (List.mem_cons_of_mem _ hc)
        exact ⟨List.forall_mem_cons.mpr ⟨rfl, (ih hrest).1⟩,
          congrArg (Component.normal n :: ·) (ih hrest).2⟩
  match path, hpath, hnormal with
  | [], hpath, _ => exact absurd rfl hpath.1
  | [.empty], hpath, _ => exact absurd rfl hpath.2
  | .empty :: _ :: _, _, hnormal =>
    obtain ⟨n, hn⟩ := hnormal .root List.mem_cons_self
    cases hn
  | .dot :: rest, _, hnormal =>
    obtain ⟨n, hn⟩ := hnormal .cur List.mem_cons_self
    cases hn
  | .dotdot :: rest, _, hnormal =>
    obtain ⟨n, hn⟩ := hnormal .parent List.mem_cons_self
    cases hn
  | .name n :: rest, _, hnormal =>
    obtain ⟨hplain, hsame⟩ := hbody (.name n :: rest) hnormal
    exact ⟨⟨n, rest, rfl, (List.forall_mem_cons.mp hplain).2⟩, hsame⟩

end PathText
