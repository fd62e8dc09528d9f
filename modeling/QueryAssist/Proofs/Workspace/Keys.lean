import QueryAssist.Workspace.Key
import QueryAssist.Proofs.Text.Splitting
import Mathlib.Data.List.TakeWhile
import Mathlib.Tactic.Common
/-!
# Keys as roots

The text of a path reads back as the path, and never begins like a file URI, so that a key that is
taken for a root gives itself.
-/

namespace QueryAssist.Workspace

/-! ## Parts of a path -/

namespace Path

def IsNormal (p : Path) : Prop :=
  ∀ part ∈ p.parts, isPart part.toList = true ∧ '/' ∉ part.toList

theorem isNormal_ofChars (cs : List Char) : (ofChars cs).IsNormal := by
  intro part hpart
  obtain ⟨piece, hpiece, rfl⟩ := List.mem_map.1 hpart
  obtain ⟨hmem, hkept⟩ := List.mem_filter.1 hpiece
  rw [String.toList_ofList]
  exact ⟨hkept, Text.not_mem_of_mem_splitOn hmem⟩

def joined (p : Path) : List Char :=
  ['/'].intercalate (p.parts.map String.toList)

variable {p : Path}

theorem toList_text (h : ¬(p.anchor = .relative ∧ p.parts = [])) :
    p.text.toList = p.anchor.text.toList ++ p.joined := by
  rw [text, if_neg h, String.toList_append, String.toList_intercalate]
  rfl

theorem splitOn_joined (h : p.IsNormal) (hparts : p.parts ≠ []) :
    p.joined.splitOn '/' = p.parts.map String.toList := by
  refine List.splitOn_intercalate '/' (fun part hpart => ?_) (by simpa using hparts)
  obtain ⟨s, hs, rfl⟩ := List.mem_map.1 hpart
  exact (h s hs).2

theorem takeWhile_joined (h : p.IsNormal) : p.joined.takeWhile (· == '/') = [] := by
  rw [joined]
  cases hparts : p.parts with
  | nil => rfl
  | cons part parts =>
      obtain ⟨hkept, hslash⟩ := h part (by rw [hparts]; exact List.mem_cons_self)
      cases hchars : part.toList with
      | nil => rw [hchars] at hkept; exact absurd hkept (by decide)
      | cons c cs =>
          rw [hchars, List.mem_cons, not_or] at hslash
          cases parts <;> simp [hchars, Ne.symm hslash.1]

theorem parts_joined (h : p.IsNormal) :
    ((p.joined.splitOn '/').filter isPart).map String.ofList = p.parts := by
  by_cases hparts : p.parts = []
  · rw [joined, hparts]
    rfl
  · have hkept : (p.parts.map String.toList).filter isPart = p.parts.map String.toList := by
      rw [List.filter_eq_self]
      intro part hpart
      obtain ⟨s, hs, rfl⟩ := List.mem_map.1 hpart
      exact (h s hs).1
    rw [splitOn_joined h hparts, hkept, List.map_map]
    exact List.map_id'' (fun part => String.ofList_toList) p.parts

theorem ofString_text (h : p.IsNormal) : ofString p.text = p := by
  obtain ⟨anchor, parts⟩ := p
  by_cases hdot : anchor = .relative ∧ parts = []
  · obtain ⟨rfl, rfl⟩ := hdot
    decide
  · have hslashes : ∀ slashes : List Char, (∀ c ∈ slashes, (c == '/') = true) →
        (slashes ++ joined ⟨anchor, parts⟩).takeWhile (· == '/') = slashes := by
      intro slashes hall
      rw [List.takeWhile_append_of_pos hall, takeWhile_joined h, List.append_nil]
    have hanchor : ∀ c ∈ anchor.text.toList, (c == '/') = true := by
      cases anchor <;> simp [Anchor.text]
    rw [ofString, ofChars, toList_text hdot, hslashes _ hanchor, List.drop_left, parts_joined h]
    cases anchor <;> rfl

theorem text_ne_empty (h : p.IsNormal) : p.text ≠ "" := by
  intro hempty
  have hread := ofString_text h
  rw [hempty] at hread
  rw [← hread] at hempty
  exact absurd hempty (by decide)

theorem splitOn_fileScheme (rest : List Char) :
    (Uri.fileScheme ++ rest).splitOn '/' = "file:".toList :: [] :: rest.splitOn '/' := by
  have hword : '/' ∉ "file:".toList := by decide
  have hscheme : Uri.fileScheme ++ rest = "file:".toList ++ '/' :: '/' :: rest := rfl
  rw [hscheme, List.splitOn_append_cons_self_of_not_mem hword, Text.splitOn_mark]

/-- Two slashes stand next to each other in front of the parts only. -/
theorem not_fileScheme_text (h : p.IsNormal) : ¬Uri.fileScheme <+: p.text.toList := by
  rintro ⟨rest, hrest⟩
  have hanchor : p.anchor = .relative := by
    rw [← ofString_text h, ofString, ← hrest]
    rfl
  have hparts : p.parts ≠ [] := by
    intro hnil
    rw [text, if_pos ⟨hanchor, hnil⟩] at hrest
    exact absurd (congrArg List.head? hrest) (by simp [Uri.fileScheme])
  rw [toList_text fun hdot => hparts hdot.2, hanchor, Anchor.text, String.toList_empty,
    List.nil_append] at hrest
  have hsplit := splitOn_joined h hparts
  rw [← hrest, splitOn_fileScheme] at hsplit
  have hempty : [] ∈ p.parts.map String.toList := by simp [← hsplit]
  obtain ⟨part, hpart, hchars⟩ := List.mem_map.1 hempty
  have hkept := (h part hpart).1
  rw [hchars] at hkept
  exact absurd hkept (by decide)

end Path

/-! ## Keys -/

theorem exists_ofChars_of_rootOfChars {cs : List Char} {path : Path}
    (h : rootOfChars cs = .ok path) : ∃ read, path = .ofChars read := by
  unfold rootOfChars at h
  split_ifs at h
  · cases hread : Uri.pathOf (cs.drop Uri.fileScheme.length) with
    | error fault => rw [hread] at h; cases h
    | ok read => rw [hread] at h; cases h; exact ⟨read, rfl⟩
  · cases h
    exact ⟨cs, rfl⟩

theorem isNormal_of_root? {root : Json} {path : Path} (h : root? root = .ok (some path)) :
    path.IsNormal := by
  unfold root? at h
  split at h
  · rename_i s
    split_ifs at h
    · cases h
    · cases hread : rootOfChars s.toList with
      | error fault => rw [hread] at h; cases h
      | ok read =>
          rw [hread] at h
          cases h
          obtain ⟨cs, rfl⟩ := exists_ofChars_of_rootOfChars hread
          exact Path.isNormal_ofChars cs
  · cases h

theorem root?_str {s : String} (h : s ≠ "") : root? (.str s) = (rootOfChars s.toList).map some :=
  if_neg (mt String.isEmpty_iff.1 h)

theorem root?_text {p : Path} (h : p.IsNormal) : root? (.str p.text) = .ok (some p) := by
  have hscheme : ¬Uri.fileScheme.isPrefixOf p.text.toList = true := by
    rw [List.isPrefixOf_iff_prefix]
    exact Path.not_fileScheme_text h
  rw [root?_str (Path.text_ne_empty h), rootOfChars, if_neg hscheme]
  exact congrArg (Except.ok ∘ some) (Path.ofString_text h)

/-- The key of no workspace, or the text of a path whose parts are neither empty nor a point, and
have no slash in them. -/
def IsCanonical (k : String) : Prop :=
  k = globalKey ∨ ∃ p : Path, p.IsNormal ∧ p.text = k

theorem isCanonical_of_key {root : Json} {k : String} (h : key root = .ok k) : IsCanonical k := by
  cases hroot : root? root with
  | error fault => rw [key, hroot] at h; cases h
  | ok path =>
      rw [key, hroot] at h
      cases h
      cases path with
      | none => exact .inl rfl
      | some p => exact .inr ⟨p, isNormal_of_root? hroot, rfl⟩

theorem key_eq_self_iff (k : String) : key (.str k) = .ok k ↔ IsCanonical k := by
  refine ⟨isCanonical_of_key, ?_⟩
  rintro (rfl | ⟨p, hnormal, rfl⟩)
  · rfl
  · exact congrArg (Except.map _) (root?_text hnormal)

theorem key_of_key {root : Json} {k : String} (h : key root = .ok k) : key (.str k) = .ok k :=
  (key_eq_self_iff k).2 (isCanonical_of_key h)

end QueryAssist.Workspace
