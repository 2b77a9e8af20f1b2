import SessionRouter.Lib.Delimited
import Mathlib.Data.Nat.Bitwise

/-!
The digests of an installed bundle: its executable, and the stream of bytes that stands for the
tree of its integrations. Every failure is the same conflict.
-/

namespace SessionRouter.BundleDigest

def maxBundleBytes : ℕ := 2 * 1024 * 1024 * 1024

def maxBundleEntries : ℕ := 100000

def version : ℕ := 1

/-- The hash function, as the bytes of its digests. -/
class Sha256 where
  digest : List UInt8 → List UInt8
  length_digest : ∀ bytes, (digest bytes).length = 32

/-- A name in a directory; no text in memory is longer. -/
@[ext]
structure FileName where
  bytes : List UInt8
  short : bytes.length < 2 ^ 63
  deriving DecidableEq

inductive FileKind where
  | directory | file | other
  deriving DecidableEq

structure Metadata where
  kind : FileKind
  mode : ℕ
  uid : ℕ
  nlink : ℕ
  len : ℕ
  deriving DecidableEq

/-- What stands at a name: whether it can be opened without following a link, what the open file
tells about itself, and the bytes that are read from it. -/
structure FileNode where
  opens : Bool
  metadata : Metadata
  contents : List UInt8
  deriving DecidableEq

/-- The files below a directory, each by the names that lead to it, and what the directories list
in the order in which they deliver it. -/
structure DirectoryTree where
  node : List FileName → Option FileNode
  entries : List FileName → List FileName
  /-- Whether the entries of a directory can be read to their end. -/
  readable : List FileName → Bool
  nodup : ∀ here, (entries here).Nodup
  mem_entries : ∀ here name, name ∈ entries here ↔ (node (here ++ [name])).isSome
  parent : ∀ here name, (node (here ++ [name])).isSome → here = [] ∨
    ∃ n, node here = some n ∧ n.metadata.kind = .directory

/-- An open bundle: its executable, whether its directories could be opened, and its
integrations. -/
structure Bundle where
  parentOpens : Bool
  binary : FileNode
  integrationsOpen : Bool
  integrations : DirectoryTree

/-- The stream so far, and what may still be read and was counted. -/
structure TreeHash where
  stream : List UInt8
  budget : ℕ
  count : ℕ
  deriving DecidableEq

structure BundleRecord where
  version : ℕ
  binarySha256 : List UInt8
  integrationsSha256 : List UInt8
  deriving DecidableEq

def ascii (s : String) : List UInt8 := s.toList.map fun c => UInt8.ofNat c.toNat

/-- A lower-case hexadecimal digit. -/
def hexDigit (d : UInt8) : UInt8 := if d < 10 then 48 + d else 87 + d

/-- `{:x}` of a digest. -/
def hexText (bytes : List UInt8) : List UInt8 :=
  bytes.flatMap fun b => [hexDigit (b / 16), hexDigit (b % 16)]

def TreeHash.update (h : TreeHash) (bytes : List UInt8) : TreeHash :=
  { h with stream := h.stream ++ bytes }

/-- Count the entries of a directory as they are delivered. -/
def countEntries : ℕ → List FileName → Option ℕ
  | count, [] => some count
  | count, _ :: names =>
    if count + 1 > maxBundleEntries then none else countEntries (count + 1) names

section

variable (user : ℕ)

def checkOwner (m : Metadata) : Option Unit :=
  if m.uid ≠ user ∨ m.mode &&& 0o6022 ≠ 0 then none else some ()

def checkFile (m : Metadata) : Option Unit := do
  checkOwner user m
  if m.kind ≠ .file ∨ m.nlink ≠ 1 then none else some ()

def FileNode.openFile (n : FileNode) : Option Metadata :=
  if n.opens then some n.metadata else none

variable [Sha256]

/-- The text of the digest of a stream. -/
def TreeHash.finalize (h : TreeHash) : List UInt8 := hexText (Sha256.digest h.stream)

/-- `hash_file`: the text of the digest and the budget that is left. A file that is shorter or
longer than it was said to be is refused. -/
def hashFile (n : FileNode) (length budget : ℕ) : Option (List UInt8 × ℕ) :=
  if budget < length then none
  else
    let copied := n.contents.take (length + 1)
    if copied.length ≠ length then none
    else some (hexText (Sha256.digest copied), budget - length)

/-- One entry of a directory, with the hash of the directory it may be. -/
def hashEntry (t : DirectoryTree) (hashTree : List FileName → TreeHash → Option TreeHash)
    (here : List FileName) (h : TreeHash) (name : FileName) : Option TreeHash := do
  let n ← t.node (here ++ [name])
  let m ← n.openFile
  checkOwner user m
  let h := h.update (leBytes 8 name.bytes.length)
  let h := h.update name.bytes
  let h := h.update (leBytes 4 (m.mode &&& 0o777))
  if m.kind = .directory then hashTree (here ++ [name]) (h.update (ascii "directory"))
  else do
    checkFile user m
    let h := h.update (ascii "file")
    let (digest, budget) ← hashFile n m.len h.budget
    pure { h.update digest with budget }

/-- The names of a directory in the order of their bytes. -/
def sortNames (names : List FileName) : List FileName :=
  names.mergeSort fun a b => decide (a.bytes ≤ b.bytes)

/-- `hash_tree`, with the number of levels that may still be entered. -/
def hashTree (t : DirectoryTree) : ℕ → List FileName → TreeHash → Option TreeHash
  | 0, _, _ => none
  | levels + 1, here, h =>
    if t.readable here then do
      let count ← countEntries h.count (t.entries here)
      let names := sortNames (t.entries here)
      let h := { h with count }.update (leBytes 8 names.length)
      names.foldlM (hashEntry user t (hashTree t levels) here) h
    else none

/-- The directories that are entered: a depth of more than 128 is refused. -/
def maxLevels : ℕ := 129

def integrationsHash (t : DirectoryTree) (budget : ℕ) : Option TreeHash :=
  hashTree user t maxLevels [] { stream := [], budget, count := 0 }

/-- `inspect_bundle`. -/
def inspectBundle (b : Bundle) : Option BundleRecord := do
  guard b.parentOpens
  let m ← b.binary.openFile
  checkFile user m
  guard (m.mode &&& 0o111 ≠ 0)
  let (binarySha256, budget) ← hashFile b.binary m.len maxBundleBytes
  guard b.integrationsOpen
  let h ← integrationsHash user b.integrations budget
  pure { version, binarySha256, integrationsSha256 := h.finalize }

end

/-- What a tree holds at a name, with its files seen through a function. -/
inductive Fact (C : Type) where
  | directory (permissions : ℕ)
  | file (permissions : ℕ) (contents : C)
  deriving DecidableEq

namespace DirectoryTree

variable {C : Type}

def fact (f : List UInt8 → C) (n : FileNode) : Fact C :=
  if n.metadata.kind = .directory then .directory (n.metadata.mode &&& 0o777)
  else .file (n.metadata.mode &&& 0o777) (f n.contents)

/-- The names of a tree with the kinds and the permissions, and the files through a function. -/
def facts (t : DirectoryTree) (f : List UInt8 → C) (path : List FileName) : Option (Fact C) :=
  if path = [] then none else (t.node path).map (fact f)

/-- The contents of a file of the tree. -/
def Holds (t : DirectoryTree) (contents : List UInt8) : Prop :=
  ∃ path n, t.node path = some n ∧ n.metadata.kind ≠ .directory ∧ n.contents = contents

end DirectoryTree

end SessionRouter.BundleDigest
