import SessionRouter.Onboarding.BundleDigest
import Mathlib.Data.List.Induction
import Mathlib.Data.Set.Function

/-!
The stream of a tree of integrations tells everything about it: each of its pieces shows where it
ends, so two trees with one stream hold the same names, kinds, permissions and digests.
-/

namespace SessionRouter.BundleDigest

/-- What `hexDigit` writes. -/
def hexValue (d : UInt8) : UInt8 := if d < 58 then d - 48 else d - 87

theorem hexValue_byte (b : UInt8) :
    hexValue (hexDigit (b / 16)) * 16 + hexValue (hexDigit (b % 16)) = b := by
  have hall : ∀ n ∈ List.range 256, hexValue (hexDigit (UInt8.ofNat n / 16)) * 16 +
      hexValue (hexDigit (UInt8.ofNat n % 16)) = UInt8.ofNat n := by
    decide +kernel
  have := hall b.toNat (List.mem_range.mpr b.toNat_lt)
  rwa [UInt8.ofNat_toNat] at this

theorem length_hexText (bytes : List UInt8) : (hexText bytes).length = 2 * bytes.length := by
  induction bytes with
  | nil => rfl
  | cons b bytes ih =>
    rw [hexText, List.flatMap_cons, List.length_append, ← hexText, ih, List.length_cons,
      List.length_cons, List.length_nil, List.length_cons]
    omega

theorem hexText_injective : Function.Injective hexText := by
  intro bytes bytes' h
  induction bytes generalizing bytes' with
  | nil =>
    cases bytes' with
    | nil => rfl
    | cons b bytes' => simp [hexText] at h
  | cons b bytes ih =>
    cases bytes' with
    | nil => simp [hexText] at h
    | cons b' bytes' =>
      change hexDigit (b / 16) :: hexDigit (b % 16) :: hexText bytes =
        hexDigit (b' / 16) :: hexDigit (b' % 16) :: hexText bytes' at h
      simp only [List.cons.injEq] at h
      obtain ⟨hhigh, hlow, hrest⟩ := h
      rw [← hexValue_byte b, hhigh, hlow, hexValue_byte b', ih hrest]

theorem permissions_lt (mode : ℕ) : mode &&& 0o777 < 256 ^ 4 :=
  Nat.and_le_right.trans_lt (by decide)

theorem sortNames_perm (names : List FileName) : (sortNames names).Perm names :=
  List.mergeSort_perm _ _

theorem countEntries_spec {count count' : ℕ} {names : List FileName}
    (h : countEntries count names = some count') :
    names.length ≤ maxBundleEntries := by
  suffices hcount : count ≤ maxBundleEntries → count + names.length ≤ maxBundleEntries by
    by_cases hle : count ≤ maxBundleEntries
    · have := hcount hle
      omega
    · cases names with
      | nil => exact Nat.zero_le _
      | cons name names =>
        rw [countEntries, if_pos (by omega)] at h
        cases h
  intro hle
  induction names generalizing count with
  | nil => exact hle
  | cons name names ih =>
    rw [countEntries] at h
    split_ifs at h with hover
    have := ih h (by omega)
    rw [List.length_cons]
    omega

namespace DirectoryTree

variable {t t' : DirectoryTree} {C : Type} {f : List UInt8 → C}

/-- What leads to a file is there. -/
theorem node_of_append {path : List FileName} (hpath : path ≠ []) (more : List FileName)
    (h : (t.node (path ++ more)).isSome) : (t.node path).isSome := by
  induction more using List.reverseRecOn with
  | nil => rwa [List.append_nil] at h
  | append_singleton more name ih =>
    rw [← List.append_assoc] at h
    rcases t.parent _ _ h with hnil | ⟨n, hn, -⟩
    · exact absurd (List.append_eq_nil_iff.mp hnil).1 hpath
    · exact ih (by rw [hn]; rfl)

/-- Nothing is below a file that is no directory. -/
theorem node_below_file {path : List FileName} {n : FileNode} (hpath : path ≠ [])
    (hn : t.node path = some n) (hkind : n.metadata.kind ≠ .directory) (name : FileName)
    (more : List FileName) : t.node (path ++ name :: more) = none := by
  by_contra hsome
  rw [← ne_eq, ← Option.isSome_iff_ne_none] at hsome
  rw [List.append_cons] at hsome
  have := node_of_append (List.append_ne_nil_of_right_ne_nil _ (List.cons_ne_nil _ _)) more hsome
  rcases t.parent path name this with hnil | ⟨n', hn', hdirectory⟩
  · exact hpath hnil
  · rw [hn, Option.some.injEq] at hn'
    exact hkind (hn' ▸ hdirectory)

/-- Two trees tell the same of what stands at a name and below it. -/
def AgreeFrom (t t' : DirectoryTree) (f : List UInt8 → C) (path : List FileName) : Prop :=
  ∀ more, (t.node (path ++ more)).map (fact f) = (t'.node (path ++ more)).map (fact f)

/-- Two trees tell the same of what stands below a directory. -/
def AgreeBelow (t t' : DirectoryTree) (f : List UInt8 → C) (here : List FileName) : Prop :=
  ∀ more, more ≠ [] → (t.node (here ++ more)).map (fact f) = (t'.node (here ++ more)).map (fact f)

theorem node_of_not_mem {here : List FileName} {name : FileName} (h : name ∉ t.entries here)
    (more : List FileName) : t.node (here ++ name :: more) = none := by
  by_contra hsome
  rw [← ne_eq, ← Option.isSome_iff_ne_none, List.append_cons] at hsome
  exact h ((t.mem_entries here name).mpr
    (node_of_append (List.append_ne_nil_of_right_ne_nil _ (List.cons_ne_nil _ _)) more hsome))

/-- Two directories that list the same names with the same below them. -/
theorem agree_of_entries {here : List FileName}
    (hnames : List.Forall₂ (fun name name' => name = name' ∧ AgreeFrom t t' f (here ++ [name]))
      (sortNames (t.entries here)) (sortNames (t'.entries here))) : AgreeBelow t t' f here := by
  intro path hpath
  have hsame : sortNames (t.entries here) = sortNames (t'.entries here) :=
    List.forall₂_eq_eq_eq ▸ hnames.imp fun _ _ h => h.1
  cases path with
  | nil => exact absurd rfl hpath
  | cons name more =>
    by_cases hmem : name ∈ sortNames (t.entries here)
    · rw [← hsame] at hnames
      have := (List.forall₂_same.mp hnames name hmem).2 more
      rwa [List.append_assoc] at this
    · have hmem' := hmem
      rw [hsame] at hmem'
      rw [(sortNames_perm _).mem_iff] at hmem hmem'
      rw [node_of_not_mem hmem, node_of_not_mem hmem']

end DirectoryTree

section

variable [Sha256]

/-- The text that stands for the contents of a file. -/
def digestText (contents : List UInt8) : List UInt8 := hexText (Sha256.digest contents)

/-- What an entry adds to the stream, with what the directory adds that it may be. -/
def entryStream (t : DirectoryTree) (treeStream : List FileName → List UInt8)
    (here : List FileName) (name : FileName) : List UInt8 :=
  match t.node (here ++ [name]) with
  | none => []
  | some n =>
    (leBytes 8 name.bytes.length ++ name.bytes) ++ (leBytes 4 (n.metadata.mode &&& 0o777) ++
      if n.metadata.kind = .directory then ascii "directory" ++ treeStream (here ++ [name])
      else ascii "file" ++ digestText n.contents)

/-- What a directory adds to the stream. -/
def treeStream (t : DirectoryTree) : ℕ → List FileName → List UInt8
  | 0, _ => []
  | levels + 1, here =>
    let names := sortNames (t.entries here)
    leBytes 8 names.length ++ names.flatMap (entryStream t (treeStream t levels) here)

/-- The tree ends within the levels, and no directory has too many entries. -/
def Fits (t : DirectoryTree) : ℕ → List FileName → Prop
  | 0, _ => False
  | levels + 1, here => (t.entries here).length ≤ maxBundleEntries ∧
    ∀ name ∈ t.entries here, ∀ n, t.node (here ++ [name]) = some n →
      n.metadata.kind = .directory → Fits t levels (here ++ [name])

theorem hashFile_spec {n : FileNode} {length budget : ℕ} {text : List UInt8} {rest : ℕ}
    (h : hashFile n length budget = some (text, rest)) : text = digestText n.contents := by
  unfold hashFile at h
  by_cases hbudget : budget < length
  · rw [if_pos hbudget] at h
    cases h
  · rw [if_neg hbudget] at h
    by_cases hlength : (n.contents.take (length + 1)).length = length
    · rw [if_neg (not_not.mpr hlength), Option.some.injEq, Prod.mk.injEq] at h
      rw [List.length_take] at hlength
      rw [← h.1, List.take_of_length_le (by omega)]
      rfl
    · rw [if_pos hlength] at h
      cases h

section

variable {user : ℕ} {t : DirectoryTree} {here : List FileName} {h h' : TreeHash}

/-- One entry extends the stream, given what a directory does. -/
theorem hashEntry_spec {levels : ℕ} {name : FileName}
    (ih : ∀ {path h h'}, hashTree user t levels path h = some h' →
      Fits t levels path ∧ h'.stream = h.stream ++ treeStream t levels path)
    (hrun : hashEntry user t (hashTree user t levels) here h name = some h') :
    (∀ n, t.node (here ++ [name]) = some n → n.metadata.kind = .directory →
        Fits t levels (here ++ [name])) ∧
      h'.stream = h.stream ++ entryStream t (treeStream t levels) here name := by
  obtain ⟨n, hn, hrun⟩ := Option.bind_eq_some_iff.mp hrun
  obtain ⟨m, hm, hrun⟩ := Option.bind_eq_some_iff.mp hrun
  obtain ⟨-, -, hrun⟩ := Option.bind_eq_some_iff.mp hrun
  have hmeta : m = n.metadata := by
    unfold FileNode.openFile at hm
    split_ifs at hm
    exact (Option.some.inj hm).symm
  subst hmeta
  unfold entryStream
  rw [hn]
  by_cases hkind : n.metadata.kind = .directory
  · rw [if_pos hkind] at hrun
    obtain ⟨hfits, hstream⟩ := ih hrun
    refine ⟨fun _ _ _ => hfits, ?_⟩
    rw [hstream]
    simp only [TreeHash.update, hkind, ↓reduceIte, List.append_assoc]
  · rw [if_neg hkind] at hrun
    obtain ⟨-, -, hrun⟩ := Option.bind_eq_some_iff.mp hrun
    obtain ⟨⟨digest, budget⟩, hdigest, hrun⟩ := Option.bind_eq_some_iff.mp hrun
    refine ⟨fun n' hn' hdirectory => ?_, ?_⟩
    · cases hn'
      exact absurd hdirectory hkind
    · rw [← Option.some.inj hrun, hashFile_spec hdigest]
      simp only [TreeHash.update, hkind, ↓reduceIte, List.append_assoc]

/-- The entries of a directory, one after the other. -/
theorem hashEntries_spec {levels : ℕ} {names : List FileName}
    (ih : ∀ {path h h'}, hashTree user t levels path h = some h' →
      Fits t levels path ∧ h'.stream = h.stream ++ treeStream t levels path)
    (hrun : names.foldlM (hashEntry user t (hashTree user t levels) here) h = some h') :
    (∀ name ∈ names, ∀ n, t.node (here ++ [name]) = some n → n.metadata.kind = .directory →
        Fits t levels (here ++ [name])) ∧
      h'.stream = h.stream ++ names.flatMap (entryStream t (treeStream t levels) here) := by
  induction names generalizing h with
  | nil =>
    obtain rfl := Option.some.inj hrun
    exact ⟨nofun, (List.append_nil _).symm⟩
  | cons name names step =>
    rw [List.foldlM_cons] at hrun
    obtain ⟨h₁, hentry, hrun⟩ := Option.bind_eq_some_iff.mp hrun
    obtain ⟨hfits, hstream⟩ := hashEntry_spec ih hentry
    obtain ⟨hfits', hstream'⟩ := step hrun
    refine ⟨?_, ?_⟩
    · intro name' hmem
      rcases List.mem_cons.mp hmem with rfl | hmem
      · exact hfits
      · exact hfits' name' hmem
    · rw [hstream', hstream, List.flatMap_cons, List.append_assoc]

/-- An accepted tree fits, and its stream is what the tree adds. -/
theorem hashTree_spec {levels : ℕ} (hrun : hashTree user t levels here h = some h') :
    Fits t levels here ∧ h'.stream = h.stream ++ treeStream t levels here := by
  induction levels generalizing here h h' with
  | zero => cases hrun
  | succ levels ih =>
    rw [hashTree] at hrun
    split_ifs at hrun
    obtain ⟨count, hcount, hrun⟩ := Option.bind_eq_some_iff.mp hrun
    obtain ⟨hfits, hstream⟩ := hashEntries_spec ih hrun
    refine ⟨⟨countEntries_spec hcount, fun name hmem => hfits name ?_⟩, ?_⟩
    · exact (sortNames_perm _).mem_iff.mpr hmem
    · rw [hstream]
      simp only [TreeHash.update, treeStream, List.append_assoc]

end

section

variable {t t' : DirectoryTree} {here : List FileName}

/-- Entries of two directories that begin one stream are of one name, with the same below it. -/
theorem entryStream_delimited {levels : ℕ} {name name' : FileName}
    (hname : name ∈ t.entries here) (hname' : name' ∈ t'.entries here)
    (ih : ∀ {path}, Fits t levels path → Fits t' levels path →
      Delimited (treeStream t levels path) (treeStream t' levels path)
        (DirectoryTree.AgreeBelow t t' digestText path))
    (hfits : ∀ n, t.node (here ++ [name]) = some n → n.metadata.kind = .directory →
      Fits t levels (here ++ [name]))
    (hfits' : ∀ n, t'.node (here ++ [name']) = some n → n.metadata.kind = .directory →
      Fits t' levels (here ++ [name'])) :
    Delimited (entryStream t (treeStream t levels) here name)
      (entryStream t' (treeStream t' levels) here name')
      (name = name' ∧ DirectoryTree.AgreeFrom t t' digestText (here ++ [name])) := by
  obtain ⟨n, hn⟩ := Option.isSome_iff_exists.mp ((t.mem_entries here name).mp hname)
  obtain ⟨n', hn'⟩ := Option.isSome_iff_exists.mp ((t'.mem_entries here name').mp hname')
  have hshort := name.short
  have hshort' := name'.short
  unfold entryStream
  rw [hn, hn']
  refine ((Delimited.prefixed (by omega) (by omega)).append (Q := DirectoryTree.AgreeFrom t t'
    digestText (here ++ [name])) fun hbytes => ?_).mono fun h => ⟨FileName.ext h.1, h.2⟩
  obtain rfl := FileName.ext hbytes
  refine ((Delimited.number (permissions_lt _) (permissions_lt _)).append
    (Q := DirectoryTree.AgreeFrom t t' digestText (here ++ [name])) fun hmode => ?_).mono And.right
  have hpath : here ++ [name] ≠ [] := List.append_ne_nil_of_right_ne_nil _ (List.cons_ne_nil _ _)
  by_cases hkind : n.metadata.kind = .directory
  · by_cases hkind' : n'.metadata.kind = .directory
    · rw [if_pos hkind, if_pos hkind']
      refine ((Delimited.fixed rfl).append fun _ =>
        ih (hfits n hn hkind) (hfits' n' hn' hkind')).mono fun h more => ?_
      cases more with
      | nil =>
        rw [List.append_nil, hn, hn']
        rw [Option.map_some, Option.map_some, DirectoryTree.fact, DirectoryTree.fact, if_pos hkind,
          if_pos hkind', hmode]
      | cons name more => exact h.2 _ (List.cons_ne_nil _ _)
    · rw [if_pos hkind, if_neg hkind']
      exact Delimited.head (by decide)
  · by_cases hkind' : n'.metadata.kind = .directory
    · rw [if_neg hkind, if_pos hkind']
      exact Delimited.head (by decide)
    · rw [if_neg hkind, if_neg hkind']
      refine ((Delimited.fixed rfl).append fun _ =>
        Delimited.fixed ?_).mono fun h more => ?_
      · rw [digestText, digestText, length_hexText, length_hexText, Sha256.length_digest,
          Sha256.length_digest]
      · cases more with
        | nil =>
          rw [List.append_nil, hn, hn']
          rw [Option.map_some, Option.map_some, DirectoryTree.fact, DirectoryTree.fact,
            if_neg hkind, if_neg hkind', hmode, h.2]
        | cons name more =>
          rw [DirectoryTree.node_below_file hpath hn hkind,
            DirectoryTree.node_below_file hpath hn' hkind']

/-- The streams of two trees that fit tell the trees apart. -/
theorem treeStream_delimited {levels : ℕ} (hfits : Fits t levels here)
    (hfits' : Fits t' levels here) :
    Delimited (treeStream t levels here) (treeStream t' levels here)
      (DirectoryTree.AgreeBelow t t' digestText here) := by
  induction levels generalizing here with
  | zero => exact hfits.elim
  | succ levels ih =>
    obtain ⟨hcount, hbelow⟩ := hfits
    obtain ⟨hcount', hbelow'⟩ := hfits'
    have hlength := (sortNames_perm (t.entries here)).length_eq
    have hlength' := (sortNames_perm (t'.entries here)).length_eq
    have hbound : ∀ n ≤ maxBundleEntries, n < 256 ^ 8 := fun n hn => hn.trans_lt (by decide)
    refine ((Delimited.number (hbound _ (hlength ▸ hcount)) (hbound _ (hlength' ▸ hcount'))).append
      fun hsame => Delimited.flatMap hsame fun name hname name' hname' => ?_).mono
      fun h => DirectoryTree.agree_of_entries h.2
    have hname := (sortNames_perm _).mem_iff.mp hname
    have hname' := (sortNames_perm _).mem_iff.mp hname'
    exact entryStream_delimited hname hname' ih (hbelow name hname) (hbelow' name' hname')

/-- Trees with the same digests have the same contents, when no two files share a digest that
differ. -/
theorem DirectoryTree.facts_id (hfacts : t.facts digestText = t'.facts digestText)
    (hfree : ∀ contents, t.Holds contents → ∀ contents', t'.Holds contents' →
      digestText contents = digestText contents' → contents = contents') :
    t.facts id = t'.facts id := by
  funext path
  have hpath := congrFun hfacts path
  unfold DirectoryTree.facts at hpath ⊢
  split_ifs at hpath ⊢ with hnil
  · rfl
  · cases hn : t.node path with
    | none =>
      rw [hn, Option.map_none] at hpath
      rw [Option.map_none, Option.map_eq_none_iff.mp hpath.symm, Option.map_none]
    | some n =>
      rw [hn, Option.map_some] at hpath
      obtain ⟨n', hn', hsame⟩ := Option.map_eq_some_iff.mp hpath.symm
      rw [hn', Option.map_some, Option.map_some]
      unfold DirectoryTree.fact at hsame ⊢
      by_cases hkind : n.metadata.kind = .directory
      · by_cases hkind' : n'.metadata.kind = .directory
        · rw [if_pos hkind, if_pos hkind', Fact.directory.injEq] at hsame
          rw [if_pos hkind, if_pos hkind', hsame]
        · rw [if_pos hkind, if_neg hkind'] at hsame
          cases hsame
      · by_cases hkind' : n'.metadata.kind = .directory
        · rw [if_neg hkind, if_pos hkind'] at hsame
          cases hsame
        · rw [if_neg hkind, if_neg hkind', Fact.file.injEq] at hsame
          have := hfree _ ⟨path, n, hn, hkind, rfl⟩ _ ⟨path, n', hn', hkind', rfl⟩ hsame.2.symm
          rw [if_neg hkind, if_neg hkind', hsame.1, id, id, this]

/-- The record of an accepted bundle holds the digest of what its integrations add. -/
theorem inspectBundle_integrations {user : ℕ} {b : Bundle} {r : BundleRecord}
    (h : inspectBundle user b = some r) :
    r.integrationsSha256 = digestText (treeStream b.integrations maxLevels []) := by
  obtain ⟨-, -, h⟩ := Option.bind_eq_some_iff.mp h
  obtain ⟨m, -, h⟩ := Option.bind_eq_some_iff.mp h
  obtain ⟨-, -, h⟩ := Option.bind_eq_some_iff.mp h
  obtain ⟨-, -, h⟩ := Option.bind_eq_some_iff.mp h
  obtain ⟨⟨text, budget⟩, -, h⟩ := Option.bind_eq_some_iff.mp h
  obtain ⟨-, -, h⟩ := Option.bind_eq_some_iff.mp h
  obtain ⟨tree, htree, h⟩ := Option.bind_eq_some_iff.mp h
  rw [← Option.some.inj h]
  change tree.finalize = _
  rw [TreeHash.finalize, (hashTree_spec htree).2]
  rfl

theorem inspectBundle_of {user budget : ℕ} {b : Bundle} {m : Metadata} {text : List UInt8}
    {h : TreeHash} (hopens : b.parentOpens = true) (hm : b.binary.openFile = some m)
    (hcheck : checkFile user m = some ()) (hexecutable : m.mode &&& 0o111 ≠ 0)
    (hfile : hashFile b.binary m.len maxBundleBytes = some (text, budget))
    (hopen : b.integrationsOpen = true)
    (hrun : integrationsHash user b.integrations budget = some h) :
    inspectBundle user b =
      some { version, binarySha256 := text, integrationsSha256 := h.finalize } := by
  unfold inspectBundle
  simp [hopens, hm, hcheck, hexecutable, hfile, hopen, hrun]

/-- Two accepted trees. Where their streams are one, they have the same names, kinds, permissions
and digests; where the hash tells apart what it was given, bundles with one recorded digest have
one tree. -/
theorem integrations_covered {user user' budget budget' : ℕ} {h h' : TreeHash}
    (hrun : integrationsHash user t budget = some h)
    (hrun' : integrationsHash user' t' budget' = some h') :
    (h.stream = h'.stream → t.facts digestText = t'.facts digestText) ∧
      (Set.InjOn Sha256.digest {bytes | bytes = h.stream ∨ bytes = h'.stream ∨ t.Holds bytes ∨
          t'.Holds bytes} →
        ∀ b b' r r', b.integrations = t → b'.integrations = t' → inspectBundle user b = some r →
          inspectBundle user' b' = some r' → r.integrationsSha256 = r'.integrationsSha256 →
          t.facts id = t'.facts id) := by
  obtain ⟨hfits, hstream⟩ := hashTree_spec hrun
  obtain ⟨hfits', hstream'⟩ := hashTree_spec hrun'
  rw [List.nil_append] at hstream hstream'
  have hcovered : h.stream = h'.stream → t.facts digestText = t'.facts digestText := by
    intro hsame
    rw [hstream, hstream'] at hsame
    obtain ⟨hbelow, -⟩ := treeStream_delimited hfits hfits' [] [] (by rw [hsame])
    funext path
    unfold DirectoryTree.facts
    split_ifs with hpath
    · rfl
    · exact hbelow path hpath
  refine ⟨hcovered, fun hfree b b' r r' hb hb' hr hr' hrecord => ?_⟩
  subst hb hb'
  rw [inspectBundle_integrations hr, inspectBundle_integrations hr', ← hstream, ← hstream']
    at hrecord
  have hdigests := hcovered (hfree (.inl rfl) (.inr (.inl rfl)) (hexText_injective hrecord))
  exact DirectoryTree.facts_id hdigests fun contents hc contents' hc' heq =>
    hfree (.inr (.inr (.inl hc))) (.inr (.inr (.inr hc'))) (hexText_injective heq)

end

end

namespace Sample

/-- The digests of the executable, of the two files and of the stream of the integrations. -/
def binaryDigest : List UInt8 :=
  [81, 161, 240, 90, 248, 94, 52, 46, 60, 132, 155, 71, 211, 135, 8, 100, 118, 40, 45, 95,
    80, 220, 36, 12, 25, 33, 109, 110, 223, 177, 235, 90]

def innerDigest : List UInt8 :=
  [143, 67, 67, 70, 100, 143, 107, 150, 223, 137, 221, 169, 1, 197, 23, 107, 16, 166, 216,
    57, 97, 221, 60, 26, 200, 139, 89, 178, 220, 50, 122, 164]

def outerDigest : List UInt8 :=
  [233, 5, 138, 177, 152, 246, 144, 143, 112, 33, 17, 176, 192, 251, 91, 54, 249, 157, 0,
    85, 69, 33, 136, 108, 64, 226, 137, 27, 52, 157, 199, 161]

def treeDigest : List UInt8 :=
  [106, 26, 9, 202, 38, 197, 115, 114, 90, 186, 58, 161, 247, 18, 21, 38, 10, 180, 101, 192,
    69, 118, 87, 74, 231, 120, 238, 17, 99, 168, 141, 17]

def directory : FileName := ⟨[100], by decide⟩

def inner : FileName := ⟨[102], by decide⟩

def outer : FileName := ⟨[103], by decide⟩

/-- The stream of a directory with a file in it, and of a file next to it. -/
def treeBytes : List UInt8 :=
  leBytes 8 2 ++
    (leBytes 8 1 ++ [100] ++ leBytes 4 0o755 ++ ascii "directory" ++
      (leBytes 8 1 ++
        (leBytes 8 1 ++ [102] ++ leBytes 4 0o644 ++ ascii "file" ++ hexText innerDigest))) ++
    (leBytes 8 1 ++ [103] ++ leBytes 4 0o600 ++ ascii "file" ++ hexText outerDigest)

def file (owner mode : ℕ) (contents : List UInt8) : FileNode where
  opens := true
  metadata := { kind := .file, mode, uid := owner, nlink := 1, len := contents.length }
  contents

def folder (owner : ℕ) : FileNode where
  opens := true
  metadata := { kind := .directory, mode := 0o40755, uid := owner, nlink := 2, len := 4096 }
  contents := []

/-- A directory with a file in it, and a file next to it, in the order in which they are
delivered. -/
def tree (owner : ℕ) (listed : List FileName) (h : listed.Perm [directory, outer]) :
    DirectoryTree where
  node path :=
    if path = [directory] then some (folder owner)
    else if path = [directory, inner] then some (file owner 0o100644 (ascii "hi"))
    else if path = [outer] then some (file owner 0o100600 (ascii "yo"))
    else none
  entries here := if here = [] then listed else if here = [directory] then [inner] else []
  readable _ := true
  nodup here := by
    split_ifs
    · exact h.nodup_iff.mpr (by decide)
    · exact List.pairwise_singleton _ _
    · exact .nil
  mem_entries here name := by
    rcases here with _ | ⟨first, _ | ⟨second, rest⟩⟩
    · have hne : outer ≠ directory := by decide
      rw [if_pos rfl, h.mem_iff]
      by_cases hdirectory : name = directory
      · simp [hdirectory]
      · by_cases houter : name = outer <;> simp [hdirectory, houter, hne]
    · by_cases hfirst : first = directory
      · by_cases hinner : name = inner <;> simp [hfirst, hinner]
      · simp [hfirst]
    · simp
  parent here name h := by
    rcases here with _ | ⟨first, _ | ⟨second, rest⟩⟩
    · exact .inl rfl
    · by_cases hfirst : first = directory
      · exact .inr ⟨folder owner, by rw [hfirst, if_pos rfl], rfl⟩
      · simp [hfirst] at h
    · simp at h

/-- The integrations of two owners, listed in different orders. -/
def mine : DirectoryTree := tree 1000 [outer, directory] (.swap _ _ _)

def theirs : DirectoryTree := tree 1001 [directory, outer] (.refl _)

def bundle (owner : ℕ) (integrations : DirectoryTree) : Bundle where
  parentOpens := true
  binary := file owner 0o100755 (ascii "bin")
  integrationsOpen := true
  integrations

/-- The hash function on the bytes of the example. -/
scoped instance : Sha256 where
  digest bytes :=
    if bytes = ascii "bin" then binaryDigest else if bytes = ascii "hi" then innerDigest
    else if bytes = ascii "yo" then outerDigest else if bytes = treeBytes then treeDigest
    else List.replicate 32 0
  length_digest bytes := by
    split_ifs
    · rfl
    · rfl
    · rfl
    · rfl
    · exact List.length_replicate

def treeHash (budget : ℕ) : TreeHash := { stream := treeBytes, budget, count := 3 }

def record : BundleRecord where
  version := version
  binarySha256 := hexText binaryDigest
  integrationsSha256 := hexText treeDigest

theorem sorted : sortNames [outer, directory] = [directory, outer] ∧
    sortNames [directory, outer] = [directory, outer] := by
  have hle : directory.bytes ≤ outer.bytes := by decide
  have hnot : ¬outer.bytes ≤ directory.bytes := by decide
  simp [sortNames, List.mergeSort, List.MergeSort.Internal.splitInTwo, hle, hnot]

theorem mine_hashed : ∀ budget ∈ [4, maxBundleBytes - 3],
    integrationsHash 1000 mine budget = some (treeHash (budget - 4)) := by
  intro budget hbudget
  show hashTree 1000 mine (128 + 1) [] _ = _
  rw [hashTree, show sortNames (mine.entries []) = [directory, outer] from sorted.1]
  revert budget
  decide +kernel

theorem theirs_hashed : ∀ budget ∈ [5, maxBundleBytes - 3],
    integrationsHash 1001 theirs budget = some (treeHash (budget - 4)) := by
  intro budget hbudget
  show hashTree 1001 theirs (128 + 1) [] _ = _
  rw [hashTree, show sortNames (theirs.entries []) = [directory, outer] from sorted.2]
  revert budget
  decide +kernel

theorem binary_hashed : ∀ owner ∈ [1000, 1001],
    checkFile owner (file owner 0o100755 (ascii "bin")).metadata = some () ∧
      hashFile (file owner 0o100755 (ascii "bin")) 3 maxBundleBytes =
        some (hexText binaryDigest, maxBundleBytes - 3) := by
  decide +kernel

theorem finalized (budget : ℕ) : (treeHash budget).finalize = hexText treeDigest := by
  have htree : Sha256.digest treeBytes = treeDigest := by decide +kernel
  exact congrArg hexText htree

theorem mine_inspected : inspectBundle 1000 (bundle 1000 mine) = some record := by
  obtain ⟨hcheck, hfile⟩ := binary_hashed 1000 (by simp)
  have hrun := mine_hashed (maxBundleBytes - 3) (by simp)
  rw [inspectBundle_of (b := bundle 1000 mine) rfl rfl hcheck (by decide) hfile rfl hrun, finalized]
  rfl

theorem theirs_inspected : inspectBundle 1001 (bundle 1001 theirs) = some record := by
  obtain ⟨hcheck, hfile⟩ := binary_hashed 1001 (by simp)
  have hrun := theirs_hashed (maxBundleBytes - 3) (by simp)
  rw [inspectBundle_of (b := bundle 1001 theirs) rfl rfl hcheck (by decide) hfile rfl hrun,
    finalized]
  rfl

theorem digest_injOn : ∀ bytes ∈ [treeBytes, ascii "hi", ascii "yo"],
    ∀ bytes' ∈ [treeBytes, ascii "hi", ascii "yo"],
      Sha256.digest bytes = Sha256.digest bytes' → bytes = bytes' := by
  decide +kernel

theorem tree_holds {owner : ℕ} {listed : List FileName} {h : listed.Perm [directory, outer]}
    {bytes : List UInt8} (hholds : (tree owner listed h).Holds bytes) :
    bytes ∈ [ascii "hi", ascii "yo"] := by
  obtain ⟨path, n, hn, hkind, rfl⟩ := hholds
  change (if path = [directory] then some (folder owner)
    else if path = [directory, inner] then some (file owner 0o100644 (ascii "hi"))
    else if path = [outer] then some (file owner 0o100600 (ascii "yo")) else none) = some n at hn
  split_ifs at hn
  · exact absurd ((Option.some.inj hn) ▸ rfl) hkind
  · exact (Option.some.inj hn) ▸ List.mem_cons_self
  · exact (Option.some.inj hn) ▸ List.mem_cons_of_mem _ List.mem_cons_self

end Sample

open Sample in
/-- The same directories of two owners. -/
theorem integrations_covered_sample : mine.facts digestText = theirs.facts digestText ∧
    mine.facts id = theirs.facts id := by
  obtain ⟨hdigests, hcontents⟩ := integrations_covered (mine_hashed 4 (by simp))
    (theirs_hashed 5 (by simp))
  refine ⟨hdigests rfl, hcontents ?_ (bundle 1000 mine) (bundle 1001 theirs) record record rfl rfl
    mine_inspected theirs_inspected rfl⟩
  have hhashed : ∀ bytes, bytes = treeBytes ∨ bytes = treeBytes ∨ mine.Holds bytes ∨
      theirs.Holds bytes → bytes ∈ [treeBytes, ascii "hi", ascii "yo"] := by
    rintro bytes (rfl | rfl | hbytes | hbytes)
    · exact List.mem_cons_self
    · exact List.mem_cons_self
    · exact List.mem_cons_of_mem _ (tree_holds hbytes)
    · exact List.mem_cons_of_mem _ (tree_holds hbytes)
  exact fun bytes hbytes bytes' hbytes' hsame =>
    digest_injOn bytes (hhashed bytes hbytes) bytes' (hhashed bytes' hbytes') hsame

end SessionRouter.BundleDigest
