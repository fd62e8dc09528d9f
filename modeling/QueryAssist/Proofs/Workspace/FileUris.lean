import QueryAssist.Proofs.Text.Escapes
import QueryAssist.Proofs.Workspace.Keys
/-!
# Paths as file URIs

An absolute path and its file URI have one key, unless the path looks like one with a drive letter,
which a URI has a slash before.
-/

namespace QueryAssist.Workspace

def fileUri (path : String) : String :=
  "file://" ++ String.ofList (Text.escape path.toList)

theorem toList_fileUri (path : String) :
    (fileUri path).toList = Uri.fileScheme ++ Text.escape path.toList :=
  String.toList_append.trans (congrArg _ String.toList_ofList)

namespace Uri

theorem not_isDropped_of_mem_escape {cs : List Char} {c : Char} (h : c ∈ Text.escape cs) :
    isDropped c = false := by
  rw [isDropped, ← Bool.not_eq_true]
  intro hdropped
  simp only [Bool.or_eq_true, beq_iff_eq] at hdropped
  rcases hdropped with (rfl | rfl) | rfl <;> exact absurd (Text.mem_escape h) (by decide)

theorem not_endsPath_of_mem_escape {cs : List Char} {c : Char} (h : c ∈ Text.escape cs) :
    endsPath c = false := by
  rw [endsPath, ← Bool.not_eq_true]
  intro hends
  simp only [Bool.or_eq_true, beq_iff_eq] at hends
  rcases hends with rfl | rfl <;> exact absurd (Text.mem_escape h) (by decide)

theorem pathOf_escape {cs : List Char} (h : cs.head? = some '/') :
    pathOf (Text.escape cs) = .ok (dropDriveSlash cs) := by
  have hkept : (Text.escape cs).filter (fun c => !isDropped c) = Text.escape cs := by
    rw [List.filter_eq_self]
    intro c hc
    rw [not_isDropped_of_mem_escape hc, Bool.not_false]
  have hauthority : (Text.escape cs).takeWhile (fun c => !endsAuthority c) = [] := by
    obtain ⟨rest, rfl⟩ := List.head?_eq_some_iff.1 h
    rw [Text.escape_cons_of_isUnreserved (by decide)]
    exact List.takeWhile_cons_of_neg (by decide)
  have hpath : (Text.escape cs).takeWhile (fun c => !endsPath c) = Text.escape cs := by
    rw [List.takeWhile_eq_self_iff]
    intro c hc
    rw [not_endsPath_of_mem_escape hc, Bool.not_false]
  have hnone : authorityFault? [] = none := rfl
  simp only [pathOf, hkept, hauthority, List.length_nil, List.drop_zero, hpath, hnone,
    Text.unescape_escape, List.isEmpty_nil, if_true, List.nil_append]

theorem dropDriveSlash_of_ne {cs : List Char} (h : cs[2]? ≠ some ':') : dropDriveSlash cs = cs := by
  unfold dropDriveSlash
  split
  · exact absurd rfl h
  · rfl

theorem ofChars_dropDriveSlash_ne {cs : List Char} (hslash : cs.head? = some '/')
    (hcolon : cs[2]? = some ':') : Path.ofChars (dropDriveSlash cs) ≠ Path.ofChars cs := by
  obtain ⟨letter, rest, rfl⟩ : ∃ letter rest, cs = '/' :: letter :: ':' :: rest := by
    match cs, hslash, hcolon with
    | _ :: letter :: _ :: rest, rfl, rfl => exact ⟨letter, rest, rfl⟩
  intro heq
  have hanchor := congrArg Path.anchor heq
  by_cases hletter : letter = '/'
  · subst hletter
    exact absurd hanchor (by simp [Path.ofChars, dropDriveSlash, Anchor.ofSlashes])
  · have hne : (letter == '/') = false := beq_eq_false_iff_ne.2 hletter
    exact absurd hanchor (by simp [Path.ofChars, dropDriveSlash, Anchor.ofSlashes, hne])

end Uri

theorem Path.eq_of_text_eq {p q : Path} (hp : p.IsNormal) (hq : q.IsNormal)
    (h : p.text = q.text) : p = q := by
  rw [← ofString_text hp, h, ofString_text hq]

/-! ## Keys -/

theorem rootOfChars_of_slash {cs : List Char} (h : cs.head? = some '/') :
    rootOfChars cs = .ok (Path.ofChars cs) := by
  obtain ⟨rest, rfl⟩ := List.head?_eq_some_iff.1 h
  rfl

theorem rootOfChars_fileUri {path : String} (h : path.toList.head? = some '/') :
    rootOfChars (fileUri path).toList = .ok (Path.ofChars (Uri.dropDriveSlash path.toList)) := by
  rw [rootOfChars, toList_fileUri, if_pos (List.isPrefixOf_iff_prefix.2 (List.prefix_append _ _)),
    List.drop_left, Uri.pathOf_escape h]
  rfl

theorem key_of_rootOfChars {root : String} {p : Path} (hne : root ≠ "")
    (h : rootOfChars root.toList = .ok p) : key (.str root) = .ok p.text := by
  rw [key, root?_str hne, h]
  rfl

/-- An absolute path has the key of its file URI exactly if it does not look like one with a drive
letter. -/
theorem key_fileUri_eq_iff {path : String} (h : path.toList.head? = some '/') :
    key (.str path) = .ok (Path.ofString path).text ∧
      (key (.str (fileUri path)) = key (.str path) ↔ path.toList[2]? ≠ some ':') := by
  have hpath : path ≠ "" := by
    rintro rfl
    cases h
  have huri : fileUri path ≠ "" := by
    intro hempty
    have hchars := toList_fileUri path
    rw [hempty] at hchars
    cases hchars
  rw [key_of_rootOfChars hpath (rootOfChars_of_slash h),
    key_of_rootOfChars huri (rootOfChars_fileUri h)]
  refine ⟨rfl, fun hkeys hcolon => ?_, fun hcolon => by rw [Uri.dropDriveSlash_of_ne hcolon]⟩
  have hpaths := Path.eq_of_text_eq (Path.isNormal_ofChars _) (Path.isNormal_ofChars _)
    (Except.ok.inj hkeys)
  exact Uri.ofChars_dropDriveSlash_ne h hcolon hpaths

def oddPath : String := "//a b/?#;%2F//😀"

theorem key_fileUri_oddPath :
    oddPath.toList.head? = some '/' ∧ oddPath.toList[2]? ≠ some ':' ∧
      fileUri oddPath = "file:////a%20b/%3F%23%3B%252F//%F0%9F%98%80" ∧
      key (.str (fileUri oddPath)) = key (.str oddPath) := by
  have hslash : oddPath.toList.head? = some '/' := rfl
  have hcolon : oddPath.toList[2]? ≠ some ':' := by decide
  exact ⟨hslash, hcolon, by decide +kernel, (key_fileUri_eq_iff hslash).2.2 hcolon⟩

end QueryAssist.Workspace
