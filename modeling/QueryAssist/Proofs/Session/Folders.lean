import QueryAssist.Proofs.Text.Ending
import QueryAssist.Session.Editor
import Mathlib.Data.List.MinMax
/-!
# The folder of a document

Of the folders that contain a document the longest is taken. As no folder ends in two slashes it is
the deepest one, too, and the order of the folders has no part in the choice.
-/

namespace QueryAssist.Session

/-- Whatever follows in the lower path stands behind a slash. -/
def IsAncestor (upper lower : List Char) : Prop :=
  upper ++ ['/'] <+: lower

def folderPath (folder : String) : List Char :=
  dropTrailingSlashes folder.toList

def Contains (folder uri : String) : Prop :=
  IsAncestor (folderPath folder) uri.toList

/-- A folder that contains a document, and lies below all others that do, but for a slash at the
end. -/
structure IsDeepest (folders : List String) (uri root : String) : Prop where
  mem : root ∈ folders
  contains : Contains root uri
  above : ∀ folder ∈ folders, Contains folder uri →
    folderPath folder = folderPath root ∨ IsAncestor (folderPath folder) (folderPath root)

theorem inFolder_iff {uri folder : String} : inFolder uri folder = true ↔ Contains folder uri :=
  List.isPrefixOf_iff_prefix

theorem mem_filter_inFolder {folders : List String} {uri folder : String} :
    folder ∈ folders.filter (inFolder uri) ↔ folder ∈ folders ∧ Contains folder uri := by
  rw [List.mem_filter, inFolder_iff]

/-! ## Slashes at the end -/

theorem exists_toList_eq (folder : String) :
    ∃ n, folder.toList = folderPath folder ++ List.replicate n '/' := by
  have hslash : ∀ c ∈ folder.toList.rtakeWhile (· == '/'), c = '/' := by
    intro c hc
    have hc := List.mem_rtakeWhile_imp hc
    exact beq_iff_eq.1 hc
  refine ⟨(folder.toList.rtakeWhile (· == '/')).length, ?_⟩
  rw [← List.eq_replicate_of_mem hslash]
  exact List.rdropWhile_append_rtakeWhile.symm

theorem not_slash_suffix_folderPath (folder : String) : ¬['/'] <:+ folderPath folder := by
  intro hsuffix
  have hne : folderPath folder ≠ [] := by
    intro hnil
    rw [hnil] at hsuffix
    exact absurd (List.suffix_nil.1 hsuffix) (List.cons_ne_nil _ _)
  obtain ⟨front, hfront⟩ := hsuffix
  apply List.rdropWhile_last_not (· == '/') folder.toList hne
  have hlast : (folderPath folder).getLast hne = '/' := by simp [← hfront]
  exact beq_iff_eq.2 hlast

theorem length_folderPath_le (folder : String) : (folderPath folder).length ≤ folder.length := by
  obtain ⟨n, hn⟩ := exists_toList_eq folder
  rw [← String.length_toList, hn, List.length_append]
  exact Nat.le_add_right _ _

theorem length_le_length_folderPath {folder : String} (h : ¬['/', '/'] <:+ folder.toList) :
    folder.length ≤ (folderPath folder).length + 1 := by
  obtain ⟨n, hn⟩ := exists_toList_eq folder
  have hle : n ≤ 1 := by
    by_contra hlt
    apply h
    obtain ⟨m, rfl⟩ := Nat.exists_eq_add_of_le (Nat.lt_of_not_le hlt)
    rw [hn, Nat.add_comm, List.replicate_add, ← List.append_assoc]
    exact List.suffix_append _ _
  rw [← String.length_toList, hn, List.length_append, List.length_replicate]
  omega

theorem eq_of_folderPath_eq {f g : String} (hpath : folderPath f = folderPath g)
    (hlength : f.length = g.length) : f = g := by
  obtain ⟨m, hm⟩ := exists_toList_eq f
  obtain ⟨n, hn⟩ := exists_toList_eq g
  have hslashes : m = n := by
    rw [← String.length_toList, ← String.length_toList, hm, hn, hpath] at hlength
    simpa using hlength
  rw [← String.toList_inj, hm, hn, hpath, hslashes]

/-! ## Folders of one document -/

theorem length_lt_of_isAncestor {f g : String} (hf : ¬['/', '/'] <:+ f.toList)
    (h : IsAncestor (folderPath f) (folderPath g)) : f.length < g.length := by
  have hle := h.length_le
  have hne : (folderPath f ++ ['/']).length ≠ (folderPath g).length := by
    intro heq
    apply not_slash_suffix_folderPath g
    rw [← h.eq_of_length heq]
    exact List.suffix_append _ _
  have hupper := length_le_length_folderPath hf
  have hlower := length_folderPath_le g
  rw [List.length_append, List.length_singleton] at hle hne
  omega

theorem eq_or_isAncestor_of_prefix {upper lower : List Char}
    (h : upper ++ ['/'] <+: lower ++ ['/']) : upper = lower ∨ IsAncestor upper lower := by
  rcases List.prefix_concat_iff.1 h with heq | hprefix
  · exact .inl (List.append_cancel_right heq)
  · exact .inr hprefix

theorem isAncestor_or_isAncestor {f g uri : String} (hf : Contains f uri) (hg : Contains g uri) :
    folderPath f = folderPath g ∨ IsAncestor (folderPath f) (folderPath g) ∨
      IsAncestor (folderPath g) (folderPath f) := by
  rcases List.prefix_or_prefix_of_prefix hf hg with h | h
  · rcases eq_or_isAncestor_of_prefix h with heq | hancestor
    · exact .inl heq
    · exact .inr (.inl hancestor)
  · rcases eq_or_isAncestor_of_prefix h with heq | hancestor
    · exact .inl heq.symm
    · exact .inr (.inr hancestor)

theorem eq_of_length_eq {f g uri : String} (hf : ¬['/', '/'] <:+ f.toList)
    (hg : ¬['/', '/'] <:+ g.toList) (hfuri : Contains f uri) (hguri : Contains g uri)
    (hlength : f.length = g.length) : f = g := by
  rcases isAncestor_or_isAncestor hfuri hguri with hpath | hbelow | habove
  · exact eq_of_folderPath_eq hpath hlength
  · exact absurd hlength (length_lt_of_isAncestor hf hbelow).ne
  · exact absurd hlength (length_lt_of_isAncestor hg habove).ne'

/-! ## The longest one -/

theorem longest?_eq_argmax (texts : List String) : longest? texts = texts.argmax String.length := by
  induction texts with
  | nil => rfl
  | cons s rest ih =>
      rw [longest?, List.argmax_cons, ih]
      cases rest.argmax String.length with
      | none => rfl
      | some best =>
          dsimp only
          split <;> rfl

theorem longest?_of_perm {texts permuted : List String} (hperm : permuted.Perm texts)
    (hlength : ∀ s ∈ texts, ∀ t ∈ texts, s.length = t.length → s = t) :
    longest? permuted = longest? texts := by
  rw [longest?_eq_argmax, longest?_eq_argmax]
  cases hs : permuted.argmax String.length with
  | none =>
      rw [List.argmax_eq_none] at hs
      rw [hs] at hperm
      rw [List.nil_perm.1 hperm, List.argmax_nil]
  | some s =>
      cases ht : texts.argmax String.length with
      | none =>
          rw [List.argmax_eq_none] at ht
          rw [ht] at hperm
          rw [List.perm_nil.1 hperm, List.argmax_nil] at hs
          cases hs
      | some t =>
          have hsmem := hperm.mem_iff.1 (List.argmax_mem hs)
          have htmem := List.argmax_mem ht
          have hle := List.le_of_mem_argmax hsmem ht
          have hge := List.le_of_mem_argmax (hperm.mem_iff.2 htmem) hs
          rw [hlength s hsmem t htmem (Nat.le_antisymm hle hge)]

theorem rootForUri_text (folders : List String) (uri : String) :
    rootForUri folders (.str uri) =
      .ok ((longest? (folders.filter (inFolder uri))).or folders.head?) := by
  cases folders with
  | nil => rfl
  | cons first rest =>
      by_cases hempty : uri = ""
      · have hnone : (first :: rest).filter (inFolder "") = [] := by
          rw [List.filter_eq_nil_iff]
          intro folder _ hin
          have hslash := List.prefix_nil.1 (inFolder_iff.1 hin)
          exact List.append_ne_nil_of_right_ne_nil _ (List.cons_ne_nil _ _) hslash
        rw [hempty, hnone]
        rfl
      · rw [rootForUri, if_neg (by simp [Json.isTruthy, hempty])]
        cases longest? ((first :: rest).filter (inFolder uri)) <;> rfl

theorem longest?_filter_eq_none_iff {folders : List String} {uri : String} :
    longest? (folders.filter (inFolder uri)) = none ↔
      ∀ folder ∈ folders, ¬Contains folder uri := by
  simp only [longest?_eq_argmax, List.argmax_eq_none, List.filter_eq_nil_iff, inFolder_iff]

theorem mem_of_rootForUri {folders : List String} {uri root : String}
    (h : rootForUri folders (.str uri) = .ok (some root)) : root ∈ folders := by
  rw [rootForUri_text] at h
  rcases Option.or_eq_some_iff.1 (Except.ok.inj h) with hlongest | ⟨-, hfirst⟩
  · rw [longest?_eq_argmax] at hlongest
    exact (mem_filter_inFolder.1 (List.argmax_mem hlongest)).1
  · exact List.mem_of_head? hfirst

theorem isDeepest_of_longest? {folders : List String} {uri root : String}
    (hslashes : ∀ folder ∈ folders, ¬['/', '/'] <:+ folder.toList)
    (h : longest? (folders.filter (inFolder uri)) = some root) : IsDeepest folders uri root := by
  rw [longest?_eq_argmax] at h
  obtain ⟨hmem, hcontains⟩ := mem_filter_inFolder.1 (List.argmax_mem h)
  refine ⟨hmem, hcontains, ?_⟩
  intro folder hfolder hfolderuri
  have hle := List.le_of_mem_argmax (mem_filter_inFolder.2 ⟨hfolder, hfolderuri⟩) h
  rcases isAncestor_or_isAncestor hfolderuri hcontains with hpath | hbelow | habove
  · exact .inl hpath
  · exact .inr hbelow
  · exact absurd hle (length_lt_of_isAncestor (hslashes root hmem) habove).not_ge

/-- A document belongs to the deepest folder that contains it, in whatever order the folders come,
and to the first one if none does. -/
theorem rootForUri_deepest {folders : List String}
    (hslashes : ∀ folder ∈ folders, ¬['/', '/'] <:+ folder.toList) (uri : String) :
    ((∃ folder ∈ folders, Contains folder uri) →
      ∃ root, rootForUri folders (.str uri) = .ok (some root) ∧ IsDeepest folders uri root ∧
        ∀ permuted : List String, permuted.Perm folders →
          rootForUri permuted (.str uri) = .ok (some root)) ∧
    ((∀ folder ∈ folders, ¬Contains folder uri) →
      rootForUri folders (.str uri) = .ok folders.head?) ∧
    (rootForUri folders (.str uri) = .ok none ↔ folders = []) := by
  simp only [rootForUri_text, Except.ok.injEq]
  refine ⟨?_, ?_, ?_⟩
  · rintro ⟨folder, hfolder, hcontains⟩
    cases hlongest : longest? (folders.filter (inFolder uri)) with
    | none => exact absurd hcontains (longest?_filter_eq_none_iff.1 hlongest folder hfolder)
    | some root =>
        refine ⟨root, rfl, isDeepest_of_longest? hslashes hlongest, ?_⟩
        intro permuted hperm
        have hlength : ∀ f ∈ folders.filter (inFolder uri), ∀ g ∈ folders.filter (inFolder uri),
            f.length = g.length → f = g := by
          intro f hf g hg
          obtain ⟨hfmem, hfuri⟩ := mem_filter_inFolder.1 hf
          obtain ⟨hgmem, hguri⟩ := mem_filter_inFolder.1 hg
          exact eq_of_length_eq (hslashes f hfmem) (hslashes g hgmem) hfuri hguri
        rw [longest?_of_perm (hperm.filter _) hlength, hlongest]
        rfl
  · intro hnone
    rw [longest?_filter_eq_none_iff.2 hnone]
    rfl
  · rw [Option.or_eq_none_iff, List.head?_eq_none_iff]
    refine ⟨And.right, ?_⟩
    rintro rfl
    exact ⟨rfl, rfl⟩

def nestedFolders : List String :=
  ["file:///w/", "file:///w/ab", "file:///w/a", "file:///w/a/b/"]

theorem rootForUri_deepest_nested :
    (∀ folder ∈ nestedFolders, ¬['/', '/'] <:+ folder.toList) ∧
      IsDeepest nestedFolders "file:///w/a/q.json" "file:///w/a" ∧
      ∀ permuted : List String, permuted.Perm nestedFolders →
        rootForUri permuted (.str "file:///w/a/q.json") = .ok (some "file:///w/a") := by
  have hslashes : ∀ folder ∈ nestedFolders, ¬['/', '/'] <:+ folder.toList := by decide
  have hcontains : Contains "file:///w/a" "file:///w/a/q.json" := inFolder_iff.1 (by decide)
  have hroot : rootForUri nestedFolders (.str "file:///w/a/q.json") = .ok (some "file:///w/a") :=
    rfl
  obtain ⟨root, hfound, hdeepest, hperm⟩ := (rootForUri_deepest hslashes "file:///w/a/q.json").1
    ⟨"file:///w/a", by decide, hcontains⟩
  cases hroot.symm.trans hfound
  exact ⟨hslashes, hdeepest, hperm⟩

end QueryAssist.Session
