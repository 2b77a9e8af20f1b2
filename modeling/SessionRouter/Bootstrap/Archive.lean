import SessionRouter.Lib.FileTree
import Mathlib.Algebra.GroupWithZero.Nat

/-!
Extraction of a bundle's archive below a private directory, entry by entry as the archive reader
delivers them.
-/

namespace SessionRouter.Bundle

def maxExpandedBytes : ℕ := 2 * 1024 * 1024 * 1024

def maxEntries : ℕ := 100000

inductive EntryKind where
  | file | directory | other
  deriving DecidableEq

/-- What the reader tells about an entry; the mode is missing when its field cannot be read. -/
structure ArchiveEntry where
  kind : EntryKind
  mode : Option ℕ
  path : List UInt8
  size : ℕ
  contents : List UInt8

/-- The errors that end an extraction. -/
inductive BundleInstallError where
  | invalidArchive | archiveLimit
  deriving DecidableEq

/-- The bytes between two separators. -/
abbrev PathName := List UInt8

abbrev BundleTree := FileTree PathName (List UInt8)

def ascii (s : String) : PathName := s.toList.map fun c => UInt8.ofNat c.toNat

def segment (bytes : List UInt8) : Segment PathName :=
  if bytes = [] then .empty
  else if bytes = ascii "." then .dot
  else if bytes = ascii ".." then .dotdot
  else .name bytes

def pathText (bytes : List UInt8) : PathText PathName := (bytes.splitOn 47).map segment

/-- A path that no call of the operating system takes. -/
def hasNul (path : PathText PathName) : Bool := (PathText.names path).any fun n => n.contains 0

def binary : List PathName := [ascii "bin", ascii "asr"]

def integrations : List PathName :=
  [ascii "share", ascii "agent-session-router", ascii "integrations"]

/-- The directories that an entry may name, besides the ones below the integrations. -/
def bundleDirectories : List (List PathName) :=
  [[ascii "bin"], [ascii "share"], [ascii "share", ascii "agent-session-router"], integrations]

def normals (names : List PathName) : List (PathText.Component PathName) := names.map .normal

def allowedPath (path : List (PathText.Component PathName)) (directory : Bool) : Bool :=
  (if directory then bundleDirectories.any fun names => path = normals names
    else path = normals binary) ||
  (normals integrations).isPrefixOf path && !(path.drop (normals integrations).length).isEmpty

def isNormal : PathText.Component PathName → Bool
  | .normal _ => true
  | _ => false

namespace ArchiveEntry

def isDirectory (e : ArchiveEntry) : Bool := e.kind = .directory

def components (e : ArchiveEntry) : List (PathText.Component PathName) :=
  PathText.components (pathText e.path)

/-- The mode of the file that is created for an entry. -/
def fileMode (e : ArchiveEntry) : ℕ :=
  if e.components = normals binary ∨ e.mode.getD 0 &&& 0o111 ≠ 0 then 0o700 else 0o600

end ArchiveEntry

def privateDirectoryTree (t : BundleTree) (path : PathText PathName) :
    Except BundleInstallError BundleTree :=
  if hasNul path then .error .invalidArchive
  else match t.createDirAll 0o700 path with
    | .ok t' => .ok t'
    | .error _ => .error .invalidArchive

def newFile (t : BundleTree) (mode : ℕ) (contents : List UInt8) (path : PathText PathName) :
    Except BundleInstallError BundleTree :=
  if hasNul path then .error .invalidArchive
  else match t.createNew mode contents path with
    | .ok t' => .ok t'
    | .error _ => .error .invalidArchive

/-- The paths and the bytes that were delivered so far, and the files. -/
structure Extraction where
  paths : List (List (PathText.Component PathName))
  expanded : ℕ
  tree : BundleTree

namespace Extraction

/-- The checks that an entry passes before it is created. -/
def check (st : Extraction) (e : ArchiveEntry) : Except BundleInstallError Extraction :=
  if st.paths.length ≥ maxEntries then .error .archiveLimit
  else match e.mode with
    | none => .error .invalidArchive
    | some mode =>
      if e.kind = .other || mode &&& 0o6000 ≠ 0 then .error .invalidArchive
      else if e.path.isEmpty || e.components.any (fun c => !isNormal c) ||
          !allowedPath e.components e.isDirectory || e.components ∈ st.paths then
        .error .invalidArchive
      else if e.isDirectory && e.size ≠ 0 then .error .invalidArchive
      else if 2 ^ 64 ≤ st.expanded + e.size || maxExpandedBytes < st.expanded + e.size then
        .error .archiveLimit
      else .ok { st with paths := e.components :: st.paths, expanded := st.expanded + e.size }

/-- Create what an entry names. -/
def create (t : BundleTree) (root : PathText PathName) (e : ArchiveEntry) :
    Except BundleInstallError BundleTree :=
  let destination := root.join (pathText e.path)
  if e.isDirectory then privateDirectoryTree t destination
  else match destination.parent with
    | none => .error .invalidArchive
    | some above => do
      let t ← privateDirectoryTree t above
      let t ← newFile t e.fileMode e.contents destination
      if e.contents.length = e.size then pure t else .error .invalidArchive

def entry (root : PathText PathName) (st : Extraction) (e : ArchiveEntry) :
    Except BundleInstallError Extraction := do
  let st ← st.check e
  let tree ← create st.tree root e
  pure { st with tree }

end Extraction

/-- The loop of `extract_archive` over the delivered entries. -/
def extractArchive (t : BundleTree) (root : PathText PathName) (entries : List ArchiveEntry) :
    Except BundleInstallError Extraction :=
  entries.foldlM (Extraction.entry root) { paths := [], expanded := 0, tree := t }

end SessionRouter.Bundle
