import QueryAssist.Cursor.Context
import QueryAssist.Proofs.Catalog.Names
/-!
# Kinds of contexts

What the kind of a context tells about the path, the key and the colon before the cursor. An empty
path is the root, whatever the key. Below the root a key that takes a field or one of a few values
decides behind its colon, and the path decides elsewhere.
-/

namespace QueryAssist.Cursor

open Catalog

theorem mem_keywords_of_innermostKeyword? {path : List String} {kind : ContextKind}
    (h : innermostKeyword? path = some kind) : kind = .aggDef ∨ ∃ key, (key, kind) ∈ keywords := by
  cases path with
  | nil => exact absurd h (Option.some_ne_none kind).symm
  | cons last outer =>
      rcases Option.or_eq_some_iff.1 h with hlast | ⟨-, houter⟩
      · exact .inr ⟨last, Keyed.mem_of_lookup_eq_some hlast⟩
      · obtain ⟨inner, hinner, rfl⟩ := Option.map_eq_some_iff.1 houter
        obtain ⟨key, -, hkey⟩ := List.exists_of_findSome?_eq_some hinner
        split_ifs
        · exact .inl rfl
        · exact .inr ⟨key, Keyed.mem_of_lookup_eq_some hkey⟩

def keyedKinds : List ContextKind := [.root, .fieldValue, .value]

theorem not_mem_keyedKinds_of_path (path : List String) :
    (innermostKeyword? path.reverse).getD (if path.any isClauseName then .query else .unknown) ∉
      keyedKinds := by
  have hkeywords : ∀ entry ∈ keywords, entry.2 ∉ keyedKinds := by decide
  cases hkeyword : innermostKeyword? path.reverse with
  | none =>
      rw [Option.getD_none]
      split_ifs <;> decide
  | some kind =>
      rw [Option.getD_some]
      rcases mem_keywords_of_innermostKeyword? hkeyword with rfl | ⟨key, hmem⟩
      · decide
      · exact hkeywords _ hmem

/-- Why a context is of a kind. Each rule applies where none before it does, and the keys on the path
have the last word. -/
inductive Decides (path : List String) (currentKey : Option String) (afterColon : Bool) :
    ContextKind → Prop
  | top (hpath : path = []) : Decides path currentKey afterColon .root
  | fieldKey (hpath : path ≠ []) (hcolon : afterColon = true)
      (hkey : currentKey.any fieldKeys.contains = true) : Decides path currentKey afterColon .fieldValue
  | valueKey (hpath : path ≠ []) (hcolon : afterColon = true)
      (hfield : currentKey.any fieldKeys.contains = false)
      (hkey : currentKey.any valueKeys.contains = true) : Decides path currentKey afterColon .value
  | keys {kind : ContextKind} (hpath : path ≠ [])
      (hfield : (afterColon && currentKey.any fieldKeys.contains) = false)
      (hvalue : (afterColon && currentKey.any valueKeys.contains) = false)
      (hkind : kind ∉ keyedKinds) : Decides path currentKey afterColon kind

theorem decides_classify (path : List String) (currentKey : Option String) (afterColon : Bool) :
    Decides path currentKey afterColon (classify path currentKey afterColon) := by
  have hpath := not_mem_keyedKinds_of_path path
  by_cases hempty : path = []
  · rw [classify, if_pos (List.isEmpty_iff.2 hempty)]
    exact .top hempty
  · rw [classify, if_neg (mt List.isEmpty_iff.1 hempty)]
    by_cases hfield : (afterColon && currentKey.any fieldKeys.contains) = true
    · rw [if_pos hfield]
      rw [Bool.and_eq_true] at hfield
      exact .fieldKey hempty hfield.1 hfield.2
    · rw [if_neg hfield]
      rw [Bool.not_eq_true] at hfield
      by_cases hvalue : (afterColon && currentKey.any valueKeys.contains) = true
      · rw [if_pos hvalue]
        rw [Bool.and_eq_true] at hvalue
        rw [hvalue.1, Bool.true_and] at hfield
        exact .valueKey hempty hvalue.1 hfield hvalue.2
      · rw [if_neg hvalue]
        rw [Bool.not_eq_true] at hvalue
        exact .keys hempty hfield hvalue hpath

section Decides

variable {path : List String} {currentKey : Option String} {afterColon : Bool} {kind : ContextKind}

theorem Decides.afterColon_of_value (h : Decides path currentKey afterColon .value) :
    afterColon = true := by
  cases h with
  | valueKey _ hcolon _ _ => exact hcolon
  | keys _ _ _ hkind => exact absurd (by decide) hkind

theorem Decides.fieldKey_of_fieldValue (h : Decides path currentKey afterColon .fieldValue) :
    (afterColon && currentKey.any fieldKeys.contains) = true := by
  cases h with
  | fieldKey _ hcolon hkey => rw [hcolon, hkey, Bool.and_self]
  | keys _ _ _ hkind => exact absurd (by decide) hkind

theorem Decides.kind_of_fieldKey (h : Decides path currentKey afterColon kind)
    (hkey : (afterColon && currentKey.any fieldKeys.contains) = true) :
    (path = [] ∧ kind = .root) ∨ (path ≠ [] ∧ kind = .fieldValue) := by
  cases h with
  | top hpath => exact .inl ⟨hpath, rfl⟩
  | fieldKey hpath _ _ => exact .inr ⟨hpath, rfl⟩
  | valueKey _ hcolon hfield _ =>
      rw [hcolon, hfield] at hkey
      exact absurd hkey Bool.false_ne_true
  | keys _ hfield _ _ =>
      rw [hfield] at hkey
      exact absurd hkey Bool.false_ne_true

end Decides

theorem classify_ne_fieldValue (path : List String) (currentKey : Option String) :
    classify path currentKey false ≠ .fieldValue := by
  intro h
  have hrule := decides_classify path currentKey false
  rw [h] at hrule
  exact Bool.false_ne_true hrule.fieldKey_of_fieldValue

/-! ## Contexts in a text -/

namespace Context

variable {ctx : Context}

def IsClassified (ctx : Context) : Prop :=
  Decides ctx.path ctx.currentKey ctx.afterColon ctx.kind

theorem isClassified_contextAt (text : String) (cursor : Int) :
    (contextAt text cursor).IsClassified :=
  decides_classify _ _ _

theorem IsClassified.afterColon_of_value (h : ctx.IsClassified) (hkind : ctx.kind = .value) :
    ctx.afterColon = true := by
  rw [IsClassified, hkind] at h
  exact Decides.afterColon_of_value h

theorem IsClassified.expectsField_eq (h : ctx.IsClassified) :
    ctx.expectsField = (ctx.afterColon && ctx.currentKey.any fieldKeys.contains) := by
  rw [expectsField]
  by_cases hkind : ctx.kind = .fieldValue
  · rw [IsClassified, hkind] at h
    rw [Decides.fieldKey_of_fieldValue h, Bool.or_true]
  · rw [decide_eq_false hkind, Bool.false_or]

theorem IsClassified.kind_of_expectsField (h : ctx.IsClassified) (hfield : ctx.expectsField = true) :
    (ctx.path = [] ∧ ctx.kind = .root) ∨ (ctx.path ≠ [] ∧ ctx.kind = .fieldValue) :=
  Decides.kind_of_fieldKey h (h.expectsField_eq ▸ hfield)

theorem IsClassified.not_expectsField (h : ctx.IsClassified) (hkind : ctx.kind ∉ keyedKinds) :
    ctx.expectsField = false := by
  by_contra hfield
  rcases h.kind_of_expectsField (eq_true_of_ne_false hfield) with ⟨-, hroot⟩ | ⟨-, hfieldValue⟩
  · exact hkind (by rw [hroot]; decide)
  · exact hkind (by rw [hfieldValue]; decide)

theorem IsClassified.afterColon_of_expectsField (h : ctx.IsClassified)
    (hfield : ctx.expectsField = true) : ctx.afterColon = true := by
  rw [h.expectsField_eq, Bool.and_eq_true] at hfield
  exact hfield.1

end Context

end QueryAssist.Cursor
