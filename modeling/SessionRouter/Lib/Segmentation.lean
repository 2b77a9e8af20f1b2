import Mathlib.Data.List.Basic

/-!
Texts cut into clusters by a rule that looks no further back than the start of the cluster, as the
rules for extended grapheme clusters do. A part of a text between two boundaries is cut as it is
within the text.
-/

/-- `joins cluster c` tells whether `c` continues the cluster before it. -/
structure Segmentation (α : Type) where
  joins : List α → α → Bool

namespace Segmentation

variable {α : Type} (S : Segmentation α)

/-- The clusters of a text that goes on after the cluster `current`. -/
def grow (current : List α) : List α → List (List α)
  | [] => [current]
  | c :: rest =>
    if S.joins current c then grow (current ++ [c]) rest else current :: grow [c] rest

/-- The clusters of a text. -/
def clusters : List α → List (List α)
  | [] => []
  | c :: rest => S.grow [c] rest

variable {S} {current text : List α} {gs hs : List (List α)} {g : List α} {c : α}

theorem flatten_grow (current text : List α) :
    (S.grow current text).flatten = current ++ text := by
  induction text generalizing current with
  | nil => simp [grow]
  | cons c rest ih =>
    unfold grow
    split
    · rw [ih, List.append_assoc]
      rfl
    · rw [List.flatten_cons, ih]
      rfl

@[simp] theorem flatten_clusters (text : List α) : (S.clusters text).flatten = text := by
  cases text with
  | nil => rfl
  | cons c rest => exact flatten_grow [c] rest

theorem ne_nil_of_mem_grow (hcurrent : current ≠ []) (h : g ∈ S.grow current text) : g ≠ [] := by
  induction text generalizing current with
  | nil =>
    obtain rfl := List.mem_singleton.mp h
    exact hcurrent
  | cons c rest ih =>
    unfold grow at h
    split at h
    · exact ih (by simp) h
    · rcases List.mem_cons.mp h with rfl | h
      · exact hcurrent
      · exact ih (by simp) h

theorem ne_nil_of_mem (h : g ∈ S.clusters text) : g ≠ [] := by
  cases text with
  | nil => simp [clusters] at h
  | cons c rest => exact ne_nil_of_mem_grow (by simp) h

@[simp] theorem clusters_eq_nil : S.clusters text = [] ↔ text = [] := by
  constructor
  · intro h
    rw [← flatten_clusters (S := S) text, h]
    rfl
  · rintro rfl
    rfl

/-- The first cluster ends where the next character does not continue it. -/
theorem grow_eq_cons (h : S.grow current text = g :: gs) :
    ∃ more rest, text = more ++ rest ∧ g = current ++ more ∧ S.grow current more = [g] ∧
      S.clusters rest = gs ∧ ∀ c, rest.head? = some c → S.joins g c = false := by
  induction text generalizing current with
  | nil =>
    cases h
    exact ⟨[], [], rfl, by simp, rfl, rfl, by simp⟩
  | cons c text ih =>
    unfold grow at h
    split at h
    · next hjoins =>
      obtain ⟨more, rest, rfl, rfl, hmore, hrest, hhead⟩ := ih h
      refine ⟨c :: more, rest, rfl, by simp, ?_, hrest, hhead⟩
      unfold grow
      rw [if_pos hjoins]
      exact hmore
    · next hjoins =>
      cases h
      refine ⟨[], c :: text, rfl, by simp, rfl, rfl, ?_⟩
      rintro _ ⟨⟩
      simpa using hjoins

theorem clusters_eq_cons (h : S.clusters text = g :: gs) :
    ∃ rest, text = g ++ rest ∧ S.clusters g = [g] ∧ S.clusters rest = gs ∧
      ∀ c, rest.head? = some c → S.joins g c = false := by
  cases text with
  | nil => simp [clusters] at h
  | cons c text =>
    obtain ⟨more, rest, rfl, rfl, hmore, hrest, hhead⟩ := grow_eq_cons h
    exact ⟨rest, rfl, hmore, hrest, hhead⟩

theorem grow_append (hhead : ∀ c, text.head? = some c → S.joins g c = false)
    {more : List α} (h : S.grow current more = [g]) :
    S.grow current (more ++ text) = g :: S.clusters text := by
  induction more generalizing current with
  | nil =>
    obtain rfl := (List.cons.inj h).1
    cases text with
    | nil => rfl
    | cons c text =>
      rw [List.nil_append]
      unfold grow
      rw [if_neg (by rw [hhead c rfl]; simp)]
      rfl
  | cons d more ih =>
    unfold grow at h
    rw [List.cons_append]
    unfold grow
    split at h
    · next hjoins =>
      rw [if_pos hjoins]
      exact ih h
    · next hjoins =>
      obtain ⟨rfl, hnil⟩ := List.cons.inj h
      have hflat := congrArg List.flatten hnil
      rw [flatten_grow] at hflat
      simp at hflat

/-- A text that does not continue a cluster is cut on its own. -/
theorem clusters_append (hg : S.clusters g = [g])
    (hhead : ∀ c, text.head? = some c → S.joins g c = false) :
    S.clusters (g ++ text) = g :: S.clusters text := by
  cases g with
  | nil => simp [clusters] at hg
  | cons c more => exact grow_append hhead hg

/-- The parts on both sides of a boundary are cut as they are in the whole. -/
theorem clusters_cut (h : S.clusters text = gs ++ hs) :
    S.clusters gs.flatten = gs ∧ S.clusters hs.flatten = hs := by
  induction gs generalizing text with
  | nil =>
    have htext := congrArg List.flatten h
    rw [flatten_clusters, List.nil_append] at htext
    exact ⟨rfl, htext ▸ h⟩
  | cons g gs ih =>
    obtain ⟨rest, rfl, hg, hrest, hhead⟩ := clusters_eq_cons h
    replace hrest : S.clusters rest = gs ++ hs := hrest
    obtain ⟨hgs, hhs⟩ := ih hrest
    refine ⟨?_, hhs⟩
    rw [List.flatten_cons, clusters_append hg, hgs]
    intro c hc
    apply hhead
    rw [← flatten_clusters (S := S) rest, hrest, List.flatten_append, List.head?_append, hc]
    rfl

/-- A text that continues no cluster of the text before it is cut on its own. -/
theorem clusters_concat {before : List α}
    (hhead : ∀ g ∈ S.clusters before, ∀ c, text.head? = some c → S.joins g c = false) :
    S.clusters (before ++ text) = S.clusters before ++ S.clusters text := by
  induction hgs : S.clusters before generalizing before with
  | nil =>
    obtain rfl := clusters_eq_nil.mp hgs
    rfl
  | cons g gs ih =>
    obtain ⟨rest, rfl, hg, hrest, hnext⟩ := clusters_eq_cons hgs
    rw [hgs] at hhead
    have htail := ih (fun g' hg' => hhead g' (by rw [hrest] at hg'; exact .tail _ hg')) hrest
    rw [List.append_assoc, clusters_append hg, htail]
    · rfl
    · intro c hc
      cases rest with
      | nil => exact hhead g List.mem_cons_self c hc
      | cons d rest => exact hnext c hc

/-- A character that neither continues a cluster nor is continued stands on its own. -/
theorem clusters_around {before : List α} {sep : α}
    (hbefore : ∀ g ∈ S.clusters before, S.joins g sep = false)
    (hafter : ∀ c, S.joins [sep] c = false) :
    S.clusters (before ++ sep :: text) = S.clusters before ++ [sep] :: S.clusters text := by
  have hsep : S.clusters (sep :: text) = [sep] :: S.clusters text :=
    clusters_append (g := [sep]) rfl fun c _ => hafter c
  rw [clusters_concat, hsep]
  rintro g hg c ⟨⟩
  exact hbefore g hg

theorem mem_of_mem_cluster (hg : g ∈ S.clusters text) (hc : c ∈ g) : c ∈ text := by
  rw [← flatten_clusters (S := S) text]
  exact List.mem_flatten.mpr ⟨g, hg, hc⟩

end Segmentation
