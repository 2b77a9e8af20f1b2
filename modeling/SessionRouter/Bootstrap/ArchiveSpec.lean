import SessionRouter.Bootstrap.Archive
import SessionRouter.Lib.Outcome

/-!
What an extraction leaves behind: the entries alone decide it, in whatever order they come.
-/

namespace SessionRouter.Bundle

namespace ArchiveEntry

def names (e : ArchiveEntry) : List PathName := PathText.names (pathText e.path)

/-- The directories that an entry needs or names. -/
def dirNames (e : ArchiveEntry) : List PathName :=
  if e.isDirectory then e.names else e.names.dropLast

/-- Before its last separators the path ends in a dot. -/
def endsInDot (e : ArchiveEntry) : Bool := (pathText e.path).endsInDot

/-- What is checked of an entry alone. -/
structure Admitted (e : ArchiveEntry) : Prop where
  mode : ∃ m, e.mode = some m ∧ m &&& 0o6000 = 0
  kind : e.kind ≠ .other
  path : e.path ≠ []
  normal : ∀ c ∈ e.components, isNormal c = true
  allowed : allowedPath e.components e.isDirectory = true
  size : e.isDirectory = true → e.size = 0

theorem pathText_ne {bytes : List UInt8} (h : bytes ≠ []) :
    pathText bytes ≠ [] ∧ pathText bytes ≠ [.empty] := by
  have hjoin : List.intercalate [(47 : UInt8)] (bytes.splitOn 47) = bytes :=
    List.intercalate_splitOn 47
  constructor
  · intro hnil
    rw [pathText, List.map_eq_nil_iff] at hnil
    rw [hnil] at hjoin
    exact h hjoin.symm
  · intro hblank
    obtain ⟨piece, hpiece, hempty⟩ := List.map_eq_singleton_iff.mp hblank
    have hnil : piece = [] := by
      unfold segment at hempty
      split_ifs at hempty with hp
      exact hp
    rw [hpiece, hnil] at hjoin
    exact h hjoin.symm

theorem Admitted.tame {e : ArchiveEntry} (h : e.Admitted) :
    PathText.Tame (pathText e.path) ∧ e.components = normals e.names := by
  refine PathText.tame_of_components (pathText_ne h.path) fun c hc => ?_
  have hnormal := h.normal c hc
  cases c with
  | normal n => exact ⟨n, rfl⟩
  | _ => cases hnormal

theorem Admitted.names_ne {e : ArchiveEntry} (h : e.Admitted) : e.names ≠ [] :=
  h.tame.1.names_ne

theorem normals_injective : Function.Injective normals :=
  List.map_injective_iff.mpr fun _ _ h => PathText.Component.normal.inj h

/-- Where an entry may lie. -/
theorem Admitted.place {e : ArchiveEntry} (h : e.Admitted) :
    (e.isDirectory = true ∧ e.names ∈ bundleDirectories) ∨
      (e.isDirectory = false ∧ e.names = binary) ∨
      (integrations <+: e.names ∧ e.names ≠ integrations) := by
  have hallowed := h.allowed
  rw [h.tame.2, allowedPath, Bool.or_eq_true] at hallowed
  rcases hallowed with hentry | hbelow
  · cases hdir : e.isDirectory with
    | true =>
      rw [hdir, if_pos rfl, List.any_eq_true] at hentry
      obtain ⟨names, hmem, hsame⟩ := hentry
      refine .inl ⟨rfl, ?_⟩
      rw [normals_injective (of_decide_eq_true hsame)]
      exact hmem
    | false =>
      rw [hdir, if_neg (by decide)] at hentry
      exact .inr (.inl ⟨rfl, normals_injective (of_decide_eq_true hentry)⟩)
  · rw [Bool.and_eq_true, List.isPrefixOf_iff_prefix] at hbelow
    obtain ⟨hbegins, hmore⟩ := hbelow
    refine .inr (.inr ⟨?_, ?_⟩)
    · obtain ⟨suffix, hsuffix⟩ := hbegins
      obtain ⟨a, b, hab, ha, -⟩ := List.map_eq_append_iff.mp hsuffix.symm
      rw [hab, normals_injective ha]
      exact List.prefix_append _ _
    · intro hsame
      rw [hsame] at hmore
      simp at hmore

/-- What an entry alone needs to be created. -/
structure Creatable (root : PathText PathName) (e : ArchiveEntry) : Prop where
  nul : hasNul (root.join (pathText e.path)) = false
  file : e.isDirectory = false → e.endsInDot = false ∧
    (pathText e.path).endsInSeparator = false ∧ e.contents.length = e.size

end ArchiveEntry

open FileTree

section

variable {t t' : BundleTree} {root : PathText PathName} {base : List PathName} {e : ArchiveEntry}

theorem privateDirectoryTree_ok {path : PathText PathName} :
    privateDirectoryTree t path = .ok t' ↔
      hasNul path = false ∧ t.createDirAll 0o700 path = .ok t' := by
  unfold privateDirectoryTree
  cases hasNul path with
  | true => exact ⟨nofun, nofun⟩
  | false =>
    rw [if_neg (by decide)]
    cases t.createDirAll 0o700 path with
    | ok t₁ => simp
    | error err => simp

theorem newFile_ok {path : PathText PathName} {mode : ℕ} {contents : List UInt8} :
    newFile t mode contents path = .ok t' ↔
      hasNul path = false ∧ t.createNew mode contents path = .ok t' := by
  unfold newFile
  cases hasNul path with
  | true => exact ⟨nofun, nofun⟩
  | false =>
    rw [if_neg (by decide)]
    cases t.createNew mode contents path with
    | ok t₁ => simp
    | error err => simp

/-- A directory that an entry names is created, or it was there. -/
theorem create_directory (hdirectory : e.isDirectory = true) (h : e.Admitted)
    (habsolute : root.isAbsolute = true) (hroot : t.walk [] root = .ok base)
    (hclosed : Closed t base) :
    (Extraction.create t root e = .ok t' → e.Creatable root ∧ Clear t base e.dirNames ∧
      (e.endsInDot = true → AllDirs t base e.dirNames) ∧ Grown t t' 0o700 base e.dirNames) ∧
    (e.Creatable root → Clear t base e.dirNames →
      (e.endsInDot = true → AllDirs t base e.dirNames) →
      ∃ t', Extraction.create t root e = .ok t') := by
  have hcreate : Extraction.create t root e =
      privateDirectoryTree t (root.join (pathText e.path)) := by
    rw [Extraction.create, if_pos hdirectory]
  have hnames : e.dirNames = e.names := by
    rw [ArchiveEntry.dirNames, if_pos hdirectory]
  have hcreatable : hasNul (root.join (pathText e.path)) = false ↔ e.Creatable root :=
    ⟨fun hnul => ⟨hnul, fun hfile => absurd (hdirectory.symm.trans hfile) nofun⟩, fun h => h.nul⟩
  rw [hcreate, hnames, privateDirectoryTree_ok, hcreatable]
  have hreads := (h.tame.1.reads habsolute).1
  cases hdot : e.endsInDot with
  | true =>
    rw [show (pathText e.path).endsInDot = true from hdot, if_pos rfl] at hreads
    obtain ⟨hthere, hmissing⟩ := @createDirAll_dotted _ _ t 0o700 base _ _ _ _ hreads hroot hclosed
    constructor
    · rintro ⟨hok, hdone⟩
      by_cases hdirs : AllDirs t base e.names
      · rw [hthere hdirs] at hdone
        cases hdone
        exact ⟨hok, hdirs.clear, fun _ => hdirs, .of_allDirs hdirs⟩
      · obtain ⟨err, herr⟩ := hmissing hdirs
        rw [herr] at hdone
        cases hdone
    · intro hok _ hdirs
      exact ⟨t, privateDirectoryTree_ok.mpr ⟨hok.nul, hthere (hdirs rfl)⟩⟩
  | false =>
    rw [show (pathText e.path).endsInDot = false from hdot, if_neg (by decide)] at hreads
    obtain ⟨hfree, hblocked⟩ := @createDirAll_reads _ _ t 0o700 base _ _ _ _ hreads hroot hclosed
    constructor
    · rintro ⟨hok, hdone⟩
      by_cases hclear : Clear t base e.names
      · obtain ⟨t₁, hmade, hgrown⟩ := hfree hclear
        rw [hmade] at hdone
        cases hdone
        exact ⟨hok, hclear, nofun, hgrown⟩
      · obtain ⟨err, herr⟩ := hblocked hclear
        rw [herr] at hdone
        cases hdone
    · intro hok hclear _
      obtain ⟨t₁, hmade, -⟩ := hfree hclear
      exact ⟨t₁, privateDirectoryTree_ok.mpr ⟨hok.nul, hmade⟩⟩

/-- A file is created at the end of its names, when its path ends in a name. -/
theorem createNew_ok {mode : ℕ} {contents : List UInt8} (h : e.Admitted)
    (habsolute : root.isAbsolute = true) (hroot : t.walk [] root = .ok base)
    (hdirs : AllDirs t base e.names.dropLast) :
    t.createNew mode contents (root.join (pathText e.path)) = .ok t' ↔
      (e.endsInDot = false ∧ (pathText e.path).endsInSeparator = false) ∧
        t (base ++ e.names) = none ∧ t' = t.put (base ++ e.names) (.file mode contents) := by
  obtain ⟨hreads, hseparator⟩ := h.tame.1.reads habsolute
  cases hdot : e.endsInDot with
  | true =>
    rw [show (pathText e.path).endsInDot = true from hdot, if_pos rfl] at hreads
    obtain ⟨before, above, ns, n, hlast, -⟩ := hreads
    have hrefused : ∃ err, t.createNew mode contents (root.join (pathText e.path)) = .error err :=
      createNew_refused hlast (.inr rfl)
    obtain ⟨err, herr⟩ := hrefused
    rw [herr]
    exact ⟨nofun, fun hok => absurd hok.1.1 nofun⟩
  | false =>
    rw [show (pathText e.path).endsInDot = false from hdot, if_neg (by decide)] at hreads
    have hne : e.names ≠ [] := h.names_ne
    unfold ArchiveEntry.names at hdirs hne ⊢
    generalize PathText.names (pathText e.path) = ns at hreads hdirs hne ⊢
    cases hreads with
    | here hsolid => exact absurd rfl hne
    | @beneath path before above n ns hlast hparent hsolid habove =>
      rw [List.dropLast_concat] at hdirs
      have hbefore : t.walk [] before = .ok (base ++ ns) := by
        rw [← walk_solid, hsolid, walk_solid, walk_reads habove hroot]
        exact descend_allDirs hdirs
      cases hsep : (pathText e.path).endsInSeparator with
      | true =>
        rw [hsep] at hseparator
        have hrefused : ∃ err, t.createNew mode contents (root.join (pathText e.path)) =
            .error err := createNew_refused hlast (.inl hseparator)
        obtain ⟨err, herr⟩ := hrefused
        rw [herr]
        exact ⟨nofun, fun hok => absurd hok.1.2 nofun⟩
      | false =>
        rw [hsep] at hseparator
        rw [createNew_below hlast hseparator hbefore, ← List.append_assoc]
        cases hnode : t (base ++ ns ++ [n]) with
        | none =>
          constructor
          · intro hok
            cases hok
            exact ⟨⟨rfl, rfl⟩, rfl, rfl⟩
          · rintro ⟨-, -, rfl⟩
            rfl
        | some node => exact ⟨nofun, fun hok => absurd hok.2.1 nofun⟩

theorem hasNul_above {above : PathText PathName} (h : e.Admitted)
    (habsolute : root.isAbsolute = true) (habove : PathText.Reads root above e.names.dropLast)
    (hnul : hasNul (root.join (pathText e.path)) = false) : hasNul above = false := by
  rw [hasNul, h.tame.1.names_join habsolute, List.any_append, Bool.or_eq_false_iff] at hnul
  have hnames : PathText.names above = PathText.names root ++ e.names.dropLast := by
    rw [← PathText.names_solid, habove.solid_eq, PathText.names_append, PathText.names_solid]
    congr 1
    induction e.names.dropLast with
    | nil => rfl
    | cons n ns ih => exact congrArg (n :: ·) ih
  rw [hasNul, hnames, List.any_append, hnul.1, Bool.false_or, List.any_eq_false]
  intro n hn
  exact List.any_eq_false.mp hnul.2 n (List.dropLast_subset _ hn)

/-- A file that an entry names is created in directories made for it, when its place is free. -/
theorem create_file (hfile : e.isDirectory = false) (h : e.Admitted)
    (habsolute : root.isAbsolute = true) (hroot : t.walk [] root = .ok base)
    (hclosed : Closed t base) :
    (Extraction.create t root e = .ok t' → e.Creatable root ∧ Clear t base e.dirNames ∧
      t (base ++ e.names) = none ∧ ∃ t₁, Grown t t₁ 0o700 base e.dirNames ∧
        t' = t₁.put (base ++ e.names) (.file e.fileMode e.contents)) ∧
    (e.Creatable root → Clear t base e.dirNames → t (base ++ e.names) = none →
      ∃ t', Extraction.create t root e = .ok t') := by
  obtain ⟨above, hparent, habove⟩ := h.tame.1.above habsolute
  change PathText.Reads root above e.names.dropLast at habove
  have hnames : e.dirNames = e.names.dropLast := by
    rw [ArchiveEntry.dirNames, hfile, if_neg (by decide)]
  have hcreate : Extraction.create t root e = (privateDirectoryTree t above >>= fun t₁ =>
      newFile t₁ e.fileMode e.contents (root.join (pathText e.path)) >>= fun t₂ =>
        if e.contents.length = e.size then .ok t₂ else .error .invalidArchive) := by
    rw [Extraction.create, hfile, if_neg (by decide), hparent]
    rfl
  obtain ⟨hfree, hblocked⟩ := @createDirAll_reads _ _ t 0o700 base _ _ _ _ habove hroot hclosed
  -- the directories are there, and the place is as free as it was
  have hgrow : ∀ t₁, Clear t base e.dirNames → Grown t t₁ 0o700 base e.dirNames →
      t₁.walk [] root = .ok base ∧ AllDirs t₁ base e.names.dropLast ∧
        (t₁ (base ++ e.names) = none ↔ t (base ++ e.names) = none) := by
    intro t₁ hclear hgrown
    refine ⟨walk_mono (fun q m hq => hgrown.kept _ _ hq) hroot, hnames ▸ hgrown.allDirs hclear, ?_⟩
    constructor
    · intro hnone
      cases hnode : t (base ++ e.names) with
      | none => rfl
      | some node =>
        rw [hgrown.kept _ _ hnode] at hnone
        cases hnone
    · intro hnone
      refine hgrown.only _ hnone fun p hp hbegins heq => ?_
      rw [hnames, ← List.append_cancel_left heq] at hbegins
      have hlength := hbegins.length_le
      have hpos := List.length_pos_iff.mpr h.names_ne
      rw [List.length_dropLast] at hlength
      have hsame : e.names.length = (PathText.names (pathText e.path)).length := rfl
      omega
  rw [← hnames] at hfree hblocked
  constructor
  · intro hdone
    rw [hcreate] at hdone
    obtain ⟨t₁, hmade, hdone⟩ := Except.bind_ok.mp hdone
    obtain ⟨t₂, hnew, hdone⟩ := Except.bind_ok.mp hdone
    obtain ⟨hnul, hnew⟩ := newFile_ok.mp hnew
    obtain ⟨-, hmade⟩ := privateDirectoryTree_ok.mp hmade
    have hclear : Clear t base e.dirNames := by
      by_contra hclear
      obtain ⟨err, herr⟩ := hblocked hclear
      rw [herr] at hmade
      cases hmade
    obtain ⟨t₁', hmade', hgrown⟩ := hfree hclear
    rw [hmade] at hmade'
    cases hmade'
    obtain ⟨hroot₁, hdirs₁, hplace⟩ := hgrow t₁ hclear hgrown
    obtain ⟨htext, hnone, rfl⟩ := (createNew_ok h habsolute hroot₁ hdirs₁).mp hnew
    split_ifs at hdone with hsize
    cases hdone
    exact ⟨⟨hnul, fun _ => ⟨htext.1, htext.2, hsize⟩⟩, hclear, hplace.mp hnone, t₁, hgrown, rfl⟩
  · intro hok hclear hnone
    obtain ⟨t₁, hmade, hgrown⟩ := hfree hclear
    obtain ⟨hroot₁, hdirs₁, hplace⟩ := hgrow t₁ hclear hgrown
    obtain ⟨hdot, hseparator, hsize⟩ := hok.file hfile
    have hnew :=
      (@createNew_ok t₁ _ root base e e.fileMode e.contents h habsolute hroot₁ hdirs₁).mpr
      ⟨⟨hdot, hseparator⟩, hplace.mpr hnone, rfl⟩
    have htree : privateDirectoryTree t above = .ok t₁ :=
      privateDirectoryTree_ok.mpr ⟨hasNul_above h habsolute habove hok.nul, hmade⟩
    refine ⟨t₁.put (base ++ e.names) (.file e.fileMode e.contents), ?_⟩
    rw [hcreate, Except.bind_of_ok htree, Except.bind_of_ok (newFile_ok.mpr ⟨hok.nul, hnew⟩)]
    exact if_pos hsize

end

/-- The files and the directories that a list of entries stands for. -/
def filesOf (done : List ArchiveEntry) (p : List PathName) (m : ℕ) (c : List UInt8) : Prop :=
  ∃ e ∈ done, e.isDirectory = false ∧ e.names = p ∧ e.fileMode = m ∧ e.contents = c

def dirsOf (done : List ArchiveEntry) (p : List PathName) : Prop := ∃ e ∈ done, p <+: e.dirNames

/-- Two entries have different paths, and neither is a file where the other needs a directory. -/
def Compatible (e e' : ArchiveEntry) : Prop :=
  e.names ≠ e'.names ∧ (e.isDirectory = false → ¬e.names <+: e'.dirNames) ∧
    (e'.isDirectory = false → ¬e'.names <+: e.dirNames)

/-- A directory whose path ends in a dot was created by an entry before. -/
def Prepared (done : List ArchiveEntry) (e : ArchiveEntry) : Prop :=
  e.isDirectory = true → e.endsInDot = true → dirsOf done e.names

/-- What the loop remembers of the entries that are done. -/
structure Consistent (t₀ : BundleTree) (base : List PathName) (done : List ArchiveEntry)
    (st : Extraction) : Prop where
  admitted : ∀ e ∈ done, e.Admitted
  paths : st.paths = (done.map ArchiveEntry.components).reverse
  expanded : st.expanded = (done.map ArchiveEntry.size).sum
  shows : Shows t₀ st.tree base 0o700 (filesOf done) (dirsOf done)

namespace Extraction

theorem check_ok {st st' : Extraction} {e : ArchiveEntry} : st.check e = .ok st' ↔
    (st.paths.length < maxEntries ∧ e.Admitted ∧ e.components ∉ st.paths ∧
      st.expanded + e.size ≤ maxExpandedBytes) ∧
    st' = { st with paths := e.components :: st.paths, expanded := st.expanded + e.size } := by
  unfold check
  by_cases hmany : st.paths.length ≥ maxEntries
  · rw [if_pos hmany]
    exact ⟨nofun, fun h => absurd h.1.1 (by omega)⟩
  rw [if_neg hmany]
  cases hmode : e.mode with
  | none =>
    refine ⟨nofun, fun h => ?_⟩
    obtain ⟨m, hm, -⟩ := h.1.2.1.mode
    rw [hmode] at hm
    cases hm
  | some mode =>
    dsimp only
    by_cases hkind : (e.kind = .other || mode &&& 0o6000 ≠ 0) = true
    · rw [if_pos hkind]
      refine ⟨nofun, fun h => ?_⟩
      obtain ⟨m, hm, hbits⟩ := h.1.2.1.mode
      rw [hmode, Option.some.injEq] at hm
      subst hm
      simp only [Bool.or_eq_true, decide_eq_true_eq] at hkind
      rcases hkind with hother | hset
      · exact absurd hother h.1.2.1.kind
      · exact absurd hbits hset
    rw [if_neg hkind]
    simp only [Bool.or_eq_true, decide_eq_true_eq, not_or, ne_eq, not_not] at hkind
    by_cases hpath : (e.path.isEmpty || e.components.any (fun c => !isNormal c) ||
        !allowedPath e.components e.isDirectory || e.components ∈ st.paths) = true
    · rw [if_pos hpath]
      refine ⟨nofun, fun h => ?_⟩
      simp only [Bool.or_eq_true, List.any_eq_true, Bool.not_eq_true', decide_eq_true_eq,
        List.isEmpty_iff] at hpath
      obtain ⟨-, hadmitted, hfresh, -⟩ := h.1
      rcases hpath with ((hempty | ⟨c, hc, hbad⟩) | hplace) | hseen
      · exact absurd hempty hadmitted.path
      · rw [hadmitted.normal c hc] at hbad
        cases hbad
      · rw [hadmitted.allowed] at hplace
        cases hplace
      · exact absurd hseen hfresh
    rw [if_neg hpath]
    simp only [Bool.or_eq_true, List.any_eq_true, Bool.not_eq_true', decide_eq_true_eq,
      List.isEmpty_iff, not_or, not_exists, not_and, Bool.not_eq_false] at hpath
    obtain ⟨⟨⟨hempty, hnormal⟩, hplace⟩, hfresh⟩ := hpath
    by_cases hsize : (e.isDirectory && e.size ≠ 0) = true
    · rw [if_pos hsize]
      refine ⟨nofun, fun h => ?_⟩
      simp only [Bool.and_eq_true, decide_eq_true_eq] at hsize
      exact absurd (h.1.2.1.size hsize.1) hsize.2
    rw [if_neg hsize]
    simp only [Bool.and_eq_true, decide_eq_true_eq, not_and, ne_eq, not_not] at hsize
    by_cases hbytes : (2 ^ 64 ≤ st.expanded + e.size || maxExpandedBytes < st.expanded + e.size) =
        true
    · rw [if_pos hbytes]
      refine ⟨nofun, fun h => ?_⟩
      simp only [Bool.or_eq_true, decide_eq_true_eq] at hbytes
      have hmax : maxExpandedBytes < 2 ^ 64 := by decide
      have hsum := h.1.2.2.2
      omega
    rw [if_neg hbytes]
    simp only [Bool.or_eq_true, decide_eq_true_eq, not_or, not_lt, not_le] at hbytes
    have hadmitted : e.Admitted := {
      mode := ⟨mode, hmode, hkind.2⟩
      kind := hkind.1
      path := hempty
      normal := hnormal
      allowed := hplace
      size := hsize }
    constructor
    · intro hok
      cases hok
      exact ⟨⟨by omega, hadmitted, hfresh, hbytes.2⟩, rfl⟩
    · rintro ⟨-, rfl⟩
      rfl

end Extraction

section

variable {t₀ : BundleTree} {root : PathText PathName} {base : List PathName}
  {done : List ArchiveEntry} {st st' : Extraction} {e : ArchiveEntry}

theorem dirsOf_concat {p : List PathName} : dirsOf (done ++ [e]) p ↔
    dirsOf done p ∨ p <+: e.dirNames := by
  simp only [dirsOf, List.mem_append, List.mem_singleton, or_and_right, exists_or, exists_eq_left]

theorem filesOf_concat {p : List PathName} {m : ℕ} {c : List UInt8} :
    filesOf (done ++ [e]) p m c ↔ filesOf done p m c ∨
      (e.isDirectory = false ∧ e.names = p ∧ e.fileMode = m ∧ e.contents = c) := by
  simp only [filesOf, List.mem_append, List.mem_singleton, or_and_right, exists_or, exists_eq_left]

/-- Everything below the base stands in a directory. -/
theorem Consistent.closed (h : Consistent t₀ base done st) : Closed st.tree base := by
  intro p n hp hthere
  refine ⟨0o700, (h.shows.dirs p _ hp).mpr ⟨rfl, ?_⟩⟩
  have hne : p ++ [n] ≠ [] := by simp
  rw [List.append_assoc] at hthere
  obtain ⟨node, hnode⟩ := Option.ne_none_iff_exists'.mp hthere
  cases node with
  | dir m =>
    obtain ⟨-, e, he, hbegins⟩ := (h.shows.dirs _ _ hne).mp hnode
    exact ⟨e, he, (List.prefix_append p [n]).trans hbegins⟩
  | file m c =>
    obtain ⟨e, he, hfile, hnames, -⟩ := (h.shows.files _ _ _ hne).mp hnode
    have hdirs : e.dirNames = p := by
      rw [ArchiveEntry.dirNames, hfile, if_neg (by decide), hnames, List.dropLast_concat]
    exact ⟨e, he, hdirs ▸ List.prefix_rfl⟩

theorem Consistent.resolves (h : Consistent t₀ base done st) (hroot : t₀.walk [] root = .ok base)
    (hempty : ∀ p, p ≠ [] → t₀ (base ++ p) = none) : st.tree.walk [] root = .ok base := by
  refine walk_mono (fun q m hdir => ?_) hroot
  rw [h.shows.outside q fun p hp heq => ?_]
  · exact hdir
  · rw [heq, hempty p hp] at hdir
    cases hdir

/-- No file of an earlier entry is in the way of the directories of an entry. -/
theorem Consistent.clear_iff (h : Consistent t₀ base done st) : Clear st.tree base e.dirNames ↔
    ∀ e' ∈ done, e'.isDirectory = false → ¬e'.names <+: e.dirNames := by
  rw [h.shows.clear_iff]
  constructor
  · intro hnone e' he' hfile hbegins
    exact hnone e'.names e'.fileMode e'.contents (h.admitted e' he').names_ne hbegins
      ⟨e', he', hfile, rfl, rfl, rfl⟩
  · rintro hnone p m c hp hbegins ⟨e', he', hfile, rfl, -⟩
    exact hnone e' he' hfile hbegins

theorem Consistent.allDirs_iff (h : Consistent t₀ base done st) (hadmitted : e.Admitted) :
    AllDirs st.tree base e.names ↔ dirsOf done e.names := by
  rw [h.shows.allDirs_iff]
  constructor
  · exact fun hdirs => hdirs e.names hadmitted.names_ne List.prefix_rfl
  · rintro ⟨e', he', hnames⟩ p - hbegins
    exact ⟨e', he', hbegins.trans hnames⟩

theorem Consistent.fresh_iff (h : Consistent t₀ base done st) (hadmitted : e.Admitted) :
    e.components ∉ st.paths ↔ ∀ e' ∈ done, e'.names ≠ e.names := by
  rw [h.paths, List.mem_reverse, List.mem_map]
  constructor
  · intro hfresh e' he' hnames
    refine hfresh ⟨e', he', ?_⟩
    rw [(h.admitted e' he').tame.2, hadmitted.tame.2, hnames]
  · rintro hfresh ⟨e', he', hcomponents⟩
    rw [(h.admitted e' he').tame.2, hadmitted.tame.2] at hcomponents
    exact hfresh e' he' (ArchiveEntry.normals_injective hcomponents)

/-- What one more entry needs. -/
structure Fits (root : PathText PathName) (done : List ArchiveEntry) (e : ArchiveEntry) :
    Prop where
  count : done.length < maxEntries
  admitted : e.Admitted
  creatable : e.Creatable root
  compatible : ∀ e' ∈ done, Compatible e' e
  expanded : (done.map ArchiveEntry.size).sum + e.size ≤ maxExpandedBytes
  prepared : Prepared done e

/-- The paths of an entry fit the earlier ones when the tree has room for it. -/
theorem Consistent.compatible_iff (h : Consistent t₀ base done st) (hadmitted : e.Admitted) :
    (∀ e' ∈ done, Compatible e' e) ↔ e.components ∉ st.paths ∧
      Clear st.tree base e.dirNames ∧
        (e.isDirectory = false → st.tree (base ++ e.names) = none) := by
  rw [h.fresh_iff hadmitted, h.clear_iff, h.shows.none_iff hadmitted.names_ne]
  constructor
  · intro hall
    refine ⟨fun e' he' => (hall e' he').1, fun e' he' => (hall e' he').2.1, fun hfile => ⟨?_, ?_⟩⟩
    · rintro m c ⟨e', he', -, hnames, -⟩
      exact (hall e' he').1 hnames
    · rintro ⟨e', he', hbegins⟩
      exact (hall e' he').2.2 hfile hbegins
  · rintro ⟨hfresh, hclear, hplace⟩ e' he'
    exact ⟨hfresh e' he', hclear e' he', fun hfile hbegins => (hplace hfile).2 ⟨e', he', hbegins⟩⟩

/-- The entry that is done last, with the tree it leaves. -/
theorem Consistent.next {tree : BundleTree} (h : Consistent t₀ base done st)
    (hadmitted : e.Admitted)
    (hshows : Shows t₀ tree base 0o700 (filesOf (done ++ [e])) (dirsOf (done ++ [e]))) :
    Consistent t₀ base (done ++ [e])
      { paths := e.components :: st.paths, expanded := st.expanded + e.size, tree } where
  admitted e' he' := by
    rcases List.mem_append.mp he' with he' | he'
    · exact h.admitted e' he'
    · rw [List.mem_singleton.mp he']
      exact hadmitted
  paths := by
    show e.components :: st.paths = _
    rw [h.paths]
    simp
  expanded := by
    show st.expanded + e.size = _
    rw [h.expanded]
    simp
  shows := hshows

theorem Consistent.entry_directory (hdirectory : e.isDirectory = true) {t : BundleTree}
    (h : Consistent t₀ base done st) (hclear : Clear st.tree base e.dirNames)
    (hgrown : Grown st.tree t 0o700 base e.dirNames) :
    Shows t₀ t base 0o700 (filesOf (done ++ [e])) (dirsOf (done ++ [e])) := by
  refine (h.shows.grow hclear hgrown).congr (fun p m c _ => ?_) fun p _ => dirsOf_concat.symm
  rw [filesOf_concat]
  refine ⟨.inl, fun hfile => hfile.resolve_right fun hlast => ?_⟩
  exact absurd (hdirectory.symm.trans hlast.1) nofun

theorem Consistent.entry_file (hfile : e.isDirectory = false) {t : BundleTree}
    (h : Consistent t₀ base done st) (hadmitted : e.Admitted)
    (hclear : Clear st.tree base e.dirNames) (hnone : st.tree (base ++ e.names) = none)
    (hgrown : Grown st.tree t 0o700 base e.dirNames) :
    Shows t₀ (t.put (base ++ e.names) (.file e.fileMode e.contents)) base 0o700
      (filesOf (done ++ [e])) (dirsOf (done ++ [e])) := by
  have hdirs := h.shows.grow hclear hgrown
  have hplace : t (base ++ e.names) = none := by
    obtain ⟨hfree, hdir⟩ := (h.shows.none_iff hadmitted.names_ne).mp hnone
    refine (hdirs.none_iff hadmitted.names_ne).mpr ⟨hfree, ?_⟩
    rintro (hthere | hbegins)
    · exact hdir hthere
    · have hlength := hbegins.length_le
      have hpos := List.length_pos_iff.mpr hadmitted.names_ne
      rw [ArchiveEntry.dirNames, hfile, if_neg (by decide), List.length_dropLast] at hlength
      omega
  refine (hdirs.create hadmitted.names_ne hplace _ _).congr (fun p m c _ => ?_)
    fun p _ => dirsOf_concat.symm
  rw [filesOf_concat]
  refine or_congr_right ⟨?_, ?_⟩
  · rintro ⟨rfl, rfl, rfl⟩
    exact ⟨hfile, rfl, rfl, rfl⟩
  · rintro ⟨-, rfl, rfl, rfl⟩
    exact ⟨rfl, rfl, rfl⟩

/-- One entry is extracted exactly when it fits the earlier ones. -/
theorem entry_spec (habsolute : root.isAbsolute = true) (hroot : t₀.walk [] root = .ok base)
    (hempty : ∀ p, p ≠ [] → t₀ (base ++ p) = none) (h : Consistent t₀ base done st) :
    (Extraction.entry root st e = .ok st' →
      Fits root done e ∧ Consistent t₀ base (done ++ [e]) st') ∧
    (Fits root done e → ∃ st', Extraction.entry root st e = .ok st') := by
  have hcurrent := h.resolves hroot hempty
  have hcount : st.paths.length = done.length := by
    rw [h.paths, List.length_reverse, List.length_map]
  constructor
  · intro hdone
    obtain ⟨st₁, hcheck, hdone⟩ := Except.bind_ok.mp hdone
    obtain ⟨tree, hcreate, hdone⟩ := Except.bind_ok.mp hdone
    obtain ⟨⟨hmany, hadmitted, hfresh, hbytes⟩, rfl⟩ := Extraction.check_ok.mp hcheck
    cases hdone
    rw [hcount] at hmany
    rw [h.expanded] at hbytes
    cases hkind : e.isDirectory with
    | true =>
      obtain ⟨hcreatable, hclear, hdot, hgrown⟩ :=
        (create_directory hkind hadmitted habsolute hcurrent h.closed).1 hcreate
      have hcompatible := (h.compatible_iff hadmitted).mpr
        ⟨hfresh, hclear, fun hfile => absurd (hkind.symm.trans hfile) nofun⟩
      have hprepared : Prepared done e := by
        intro _ hends
        have hdirs := hdot hends
        rw [ArchiveEntry.dirNames, if_pos hkind] at hdirs
        exact (h.allDirs_iff hadmitted).mp hdirs
      exact ⟨⟨hmany, hadmitted, hcreatable, hcompatible, hbytes, hprepared⟩,
        h.next hadmitted (h.entry_directory hkind hclear hgrown)⟩
    | false =>
      obtain ⟨hcreatable, hclear, hnone, t, hgrown, rfl⟩ :=
        (create_file hkind hadmitted habsolute hcurrent h.closed).1 hcreate
      have hcompatible := (h.compatible_iff hadmitted).mpr ⟨hfresh, hclear, fun _ => hnone⟩
      have hprepared : Prepared done e := fun hdir => absurd (hkind.symm.trans hdir) nofun
      exact ⟨⟨hmany, hadmitted, hcreatable, hcompatible, hbytes, hprepared⟩,
        h.next hadmitted (h.entry_file hkind hadmitted hclear hnone hgrown)⟩
  · intro hfits
    have hadmitted := hfits.admitted
    obtain ⟨hfresh, hclear, hplace⟩ := (h.compatible_iff hadmitted).mp hfits.compatible
    have hcheck := Extraction.check_ok.mpr ⟨⟨hcount ▸ hfits.count, hadmitted, hfresh,
      h.expanded ▸ hfits.expanded⟩, rfl⟩
    have hmade : ∃ tree, Extraction.create st.tree root e = .ok tree := by
      cases hkind : e.isDirectory with
      | true =>
        refine (@create_directory st.tree st.tree root base e hkind hadmitted habsolute hcurrent
          h.closed).2 hfits.creatable hclear fun hends => ?_
        rw [ArchiveEntry.dirNames, if_pos hkind]
        exact (h.allDirs_iff hadmitted).mpr (hfits.prepared hkind hends)
      | false =>
        exact (@create_file st.tree st.tree root base e hkind hadmitted habsolute hcurrent
          h.closed).2 hfits.creatable hclear (hplace hkind)
    obtain ⟨tree, hcreate⟩ := hmade
    refine ⟨{ paths := e.components :: st.paths, expanded := st.expanded + e.size, tree }, ?_⟩
    rw [Extraction.entry, Except.bind_of_ok hcheck]
    exact Except.bind_of_ok hcreate

/-- What a list of entries needs, whatever its order, and the one thing its order decides. -/
structure Extractable (root : PathText PathName) (entries : List ArchiveEntry) : Prop where
  count : entries.length ≤ maxEntries
  admitted : ∀ e ∈ entries, e.Admitted
  creatable : ∀ e ∈ entries, e.Creatable root
  compatible : entries.Pairwise Compatible
  expanded : (entries.map ArchiveEntry.size).sum ≤ maxExpandedBytes
  prepared : ∀ before e after, entries = before ++ e :: after → Prepared before e

theorem extractable_concat :
    Extractable root (done ++ [e]) ↔ Extractable root done ∧ Fits root done e := by
  constructor
  · intro h
    have hcount := h.count
    have hexpanded := h.expanded
    obtain ⟨hpairs, -, hlast⟩ := List.pairwise_append.mp h.compatible
    rw [List.length_append, List.length_singleton] at hcount
    rw [List.map_append, List.sum_append, List.map_singleton, List.sum_singleton] at hexpanded
    constructor
    · refine ⟨by omega, fun e' he' => h.admitted e' (List.mem_append_left _ he'),
        fun e' he' => h.creatable e' (List.mem_append_left _ he'), hpairs, by omega, ?_⟩
      intro before e' after heq
      refine h.prepared before e' (after ++ [e]) ?_
      rw [heq, List.append_assoc, List.cons_append]
    · exact ⟨by omega, h.admitted e (by simp), h.creatable e (by simp),
        fun e' he' => hlast e' he' e (List.mem_singleton_self e), hexpanded,
        h.prepared done e [] rfl⟩
  · rintro ⟨h, hfits⟩
    have hcount := hfits.count
    constructor
    · rw [List.length_append, List.length_singleton]
      omega
    · exact List.forall_mem_append.mpr ⟨h.admitted, by simpa using hfits.admitted⟩
    · exact List.forall_mem_append.mpr ⟨h.creatable, by simpa using hfits.creatable⟩
    · refine List.pairwise_append.mpr ⟨h.compatible, List.pairwise_singleton _ _, ?_⟩
      intro e' he' e'' he''
      rw [List.mem_singleton.mp he'']
      exact hfits.compatible e' he'
    · rw [List.map_append, List.sum_append, List.map_singleton, List.sum_singleton]
      exact hfits.expanded
    · intro before e' after heq
      rcases List.eq_nil_or_concat after with rfl | ⟨after, last, rfl⟩
      · obtain ⟨rfl, hsame⟩ := List.append_inj' heq.symm rfl
        cases hsame
        exact hfits.prepared
      · rw [List.concat_eq_append, ← List.cons_append, ← List.append_assoc] at heq
        obtain ⟨hdone, -⟩ := List.append_inj' heq rfl
        exact h.prepared before e' after hdone

/-- The extraction of a list of entries, and what is left when it succeeds. -/
theorem extract_spec (habsolute : root.isAbsolute = true) (hroot : t₀.walk [] root = .ok base)
    (hempty : ∀ p, p ≠ [] → t₀ (base ++ p) = none) (entries : List ArchiveEntry) :
    (∀ st, extractArchive t₀ root entries = .ok st →
      Extractable root entries ∧ Consistent t₀ base entries st) ∧
    (Extractable root entries → ∃ st, extractArchive t₀ root entries = .ok st) := by
  induction entries using List.reverseRecOn with
  | nil =>
    refine ⟨fun st hdone => ?_, fun _ => ⟨_, rfl⟩⟩
    cases hdone
    refine ⟨⟨Nat.zero_le _, nofun, nofun, .nil, Nat.zero_le _, fun before e after heq => ?_⟩,
      ⟨nofun, rfl, rfl, fun q _ => rfl, fun p m c hp => ?_, fun p m hp => ?_⟩⟩
    · cases before <;> cases heq
    · show t₀ (base ++ p) = _ ↔ _
      rw [hempty p hp]
      exact ⟨nofun, fun ⟨e, he, _⟩ => absurd he List.not_mem_nil⟩
    · show t₀ (base ++ p) = _ ↔ _
      rw [hempty p hp]
      exact ⟨nofun, fun ⟨_, e, he, _⟩ => absurd he List.not_mem_nil⟩
  | append_singleton done e ih =>
    have hsplit : extractArchive t₀ root (done ++ [e]) =
        (extractArchive t₀ root done >>= fun st => Extraction.entry root st e) := by
      rw [extractArchive, List.foldlM_append]
      refine congrArg _ (funext fun st => ?_)
      exact bind_pure _
    rw [extractable_concat, hsplit]
    constructor
    · intro st hdone
      obtain ⟨st₁, hbefore, hlast⟩ := Except.bind_ok.mp hdone
      obtain ⟨hextractable, hconsistent⟩ := ih.1 st₁ hbefore
      obtain ⟨hfits, hnext⟩ := (entry_spec habsolute hroot hempty hconsistent).1 hlast
      exact ⟨⟨hextractable, hfits⟩, hnext⟩
    · rintro ⟨hextractable, hfits⟩
      obtain ⟨st₁, hbefore⟩ := ih.2 hextractable
      obtain ⟨-, hconsistent⟩ := ih.1 st₁ hbefore
      obtain ⟨st, hlast⟩ :=
        (@entry_spec t₀ root base done st₁ st₁ e habsolute hroot hempty hconsistent).2 hfits
      exact ⟨st, Except.bind_ok.mpr ⟨st₁, hbefore, hlast⟩⟩

/-- The order of the entries decides only whether the directories whose paths end in a dot are
prepared. -/
theorem Extractable.perm {entries entries' : List ArchiveEntry} (h : Extractable root entries)
    (hperm : entries'.Perm entries)
    (hprepared : ∀ before e after, entries' = before ++ e :: after → Prepared before e) :
    Extractable root entries' where
  count := hperm.length_eq ▸ h.count
  admitted e he := h.admitted e (hperm.mem_iff.mp he)
  creatable e he := h.creatable e (hperm.mem_iff.mp he)
  compatible := by
    refine (hperm.pairwise_iff fun {e e'} hcompatible => ?_).mpr h.compatible
    exact ⟨hcompatible.1.symm, hcompatible.2.2, hcompatible.2.1⟩
  expanded := (hperm.map ArchiveEntry.size).sum_nat ▸ h.expanded
  prepared := hprepared

theorem Consistent.perm {entries entries' : List ArchiveEntry}
    (h : Consistent t₀ base entries st) (h' : Consistent t₀ base entries' st')
    (hperm : entries'.Perm entries) : st'.tree = st.tree := by
  refine Shows.unique h'.shows (h.shows.congr (fun p m c _ => ?_) fun p _ => ?_)
  · exact exists_congr fun e => and_congr_left fun _ => hperm.mem_iff.symm
  · exact exists_congr fun e => and_congr_left fun _ => hperm.mem_iff.symm

end

/-- An extraction into an empty directory that succeeds creates nothing outside of it and in it
exactly the files of its entries, within the limits; in any order in which directories whose paths
end in a dot come after an entry that creates them the entries are extracted as well, to the same
tree. -/
theorem extract_archive_exact {t₀ : BundleTree} {root : PathText PathName} {base : List PathName}
    {entries : List ArchiveEntry} {st : Extraction} (habsolute : root.isAbsolute = true)
    (hroot : t₀.walk [] root = .ok base) (hempty : ∀ p, p ≠ [] → t₀ (base ++ p) = none)
    (h : extractArchive t₀ root entries = .ok st) :
    (∀ q, (∀ p, p ≠ [] → q ≠ base ++ p) → st.tree q = t₀ q) ∧
      (∀ p m c, p ≠ [] → (st.tree (base ++ p) = some (.file m c) ↔ ∃ e ∈ entries,
        e.kind = .file ∧ e.names = p ∧ e.fileMode = m ∧ e.contents = c)) ∧
      (∀ p m, p ≠ [] → (st.tree (base ++ p) = some (.dir m) ↔
        m = 0o700 ∧ ∃ e ∈ entries, p <+: e.dirNames)) ∧
      (entries.map ArchiveEntry.names).Nodup ∧
      (∀ e ∈ entries, e.kind = .file → e.contents.length = e.size ∧
        (e.names = binary ∨ integrations <+: e.names ∧ e.names ≠ integrations)) ∧
      entries.length ≤ maxEntries ∧ (entries.map ArchiveEntry.size).sum ≤ maxExpandedBytes ∧
      ∀ entries', entries'.Perm entries →
        ((∃ st', extractArchive t₀ root entries' = .ok st') ↔
          ∀ before e after, entries' = before ++ e :: after → e.kind = .directory →
            e.endsInDot = true → ∃ e' ∈ before, e.names <+: e'.dirNames) ∧
        ∀ st', extractArchive t₀ root entries' = .ok st' → st'.tree = st.tree := by
  obtain ⟨hextractable, hconsistent⟩ := (extract_spec habsolute hroot hempty entries).1 st h
  have hfile : ∀ e ∈ entries, (e.isDirectory = false ↔ e.kind = .file) := by
    intro e he
    have hkind := (hextractable.admitted e he).kind
    unfold ArchiveEntry.isDirectory
    cases hcase : e.kind with
    | file => decide
    | directory => decide
    | other => exact absurd hcase hkind
  refine ⟨hconsistent.shows.outside, fun p m c hp => ?_, hconsistent.shows.dirs, ?_,
    fun e he hkind => ?_, hextractable.count, hextractable.expanded, fun entries' hperm => ⟨?_, ?_⟩⟩
  · rw [hconsistent.shows.files p m c hp]
    exact exists_congr fun e => and_congr_right fun he => and_congr_left fun _ => hfile e he
  · exact List.pairwise_map.mpr (hextractable.compatible.imp fun h => h.1)
  · have hregular := (hfile e he).mpr hkind
    refine ⟨((hextractable.creatable e he).file hregular).2.2, ?_⟩
    rcases (hextractable.admitted e he).place with hplace | hplace | hplace
    · exact absurd (hregular.symm.trans hplace.1) nofun
    · exact .inl hplace.2
    · exact .inr hplace
  · constructor
    · rintro ⟨st', h'⟩ before e after heq hkind hends
      have hspec := ((extract_spec habsolute hroot hempty entries').1 st' h').1
      exact hspec.prepared before e after heq (decide_eq_true hkind) hends
    · intro hprepared
      refine (extract_spec habsolute hroot hempty entries').2 (hextractable.perm hperm ?_)
      intro before e after heq hkind hends
      exact hprepared before e after heq (of_decide_eq_true hkind) hends
  · intro st' h'
    exact hconsistent.perm ((extract_spec habsolute hroot hempty entries').1 st' h').2 hperm

namespace Sample

def place : List PathName := [ascii "r"]

def root : PathText PathName := [.empty, .name (ascii "r")]

/-- A tree with one empty directory. -/
def tree : BundleTree := fun q => if q = place then some (.dir 0o700) else none

def program : ArchiveEntry :=
  { kind := .file, mode := some 0o755, path := ascii "bin/asr", size := 1, contents := [7] }

def dotted : ArchiveEntry :=
  { kind := .directory, mode := some 0o755, path := ascii "bin/.", size := 0, contents := [] }

def extracted : Extraction :=
  (extractArchive tree root [program, dotted]).toOption.getD
    { paths := [], expanded := 0, tree := tree }

theorem extracts : (extractArchive tree root [program, dotted]).isOk = true := by decide +kernel

theorem extracted_ok : extractArchive tree root [program, dotted] = .ok extracted := by
  have hok := extracts
  unfold extracted
  cases hrun : extractArchive tree root [program, dotted] with
  | ok st => rfl
  | error err =>
    rw [hrun] at hok
    cases hok

theorem tree_empty (p : List PathName) (hp : p ≠ []) : tree (place ++ p) = none := by
  refine if_neg fun heq => hp ?_
  simpa using heq

theorem extract_archive_exact_sample :
    extracted.tree (place ++ binary) = some (.file 0o700 [7]) :=
  ((extract_archive_exact (by decide) (by rfl) tree_empty extracted_ok).2.1 binary 0o700 [7]
    (by decide)).mpr
    ⟨program, List.mem_cons_self, by decide, by decide +kernel, by decide +kernel, rfl⟩

/-- The same entries in another order are refused. -/
theorem extract_archive_ordered :
    (extractArchive tree root [program, dotted]).isOk = true ∧
      [dotted, program].Perm [program, dotted] ∧
      (extractArchive tree root [dotted, program]).isOk = false :=
  ⟨extracts, List.Perm.swap _ _ _, by decide +kernel⟩

end Sample

end SessionRouter.Bundle
