import QueryAssist.Proofs.Grammar.Basic
import Mathlib.Data.List.Induction
import Mathlib.Data.List.TakeWhile
import Mathlib.Tactic.Common
/-!
# Reading strings

What stands between the quotes of a string spells code points, one with each character or escape. A
text between quotes is read as a string if and only if it spells some, and as itself if and only if it
needs no escapes.
-/

namespace QueryAssist.Json

open Grammar

/-- A character that stands for itself in a string. -/
def IsVerbatim (c : Char) : Prop :=
  c ≠ '"' ∧ c ≠ '\\' ∧ 0x20 ≤ c.toNat

instance : DecidablePred IsVerbatim := fun c =>
  inferInstanceAs (Decidable (c ≠ '"' ∧ c ≠ '\\' ∧ 0x20 ≤ c.toNat))

/-- The code points that the characters between the quotes of a string stand for. -/
inductive Spells : List Char → List Nat → Prop
  | nil : Spells [] []
  | plain {c : Char} {rest : List Char} {codes : List Nat} (hc : IsVerbatim c)
      (h : Spells rest codes) : Spells (c :: rest) (c.toNat :: codes)
  | short {e d : Char} {rest : List Char} {codes : List Nat} (he : shortEscape? e = some d)
      (h : Spells rest codes) : Spells ('\\' :: e :: rest) (d.toNat :: codes)
  | unicode {a b c d : Char} {code : Nat} {rest : List Char} {codes : List Nat}
      (hcode : unicodeEscape? [a, b, c, d, '"'] = some code) (h : Spells rest codes) :
      Spells ('\\' :: 'u' :: a :: b :: c :: d :: rest) (code :: codes)

/-! ## The reader of string bodies -/

theorem unicodeEscape?_eq_some_iff {a b c d : Char} {rest : List Char} {code : Nat} :
    unicodeEscape? (a :: b :: c :: d :: rest) = some code ↔
      rest ≠ [] ∧ unicodeEscape? [a, b, c, d, '"'] = some code := by
  cases rest with
  | nil => exact iff_of_false (by rintro ⟨⟩) fun h => h.1 rfl
  | cons next more => exact (and_iff_right (List.cons_ne_nil next more)).symm

section Steps

variable (opening : List Char) (read : List Nat) {rest : List Char}

theorem readBody_quote : readBody opening read ('"' :: rest) = .ok (read.reverse, rest) := by
  rw [readBody.eq_def]
  rfl

theorem readBody_verbatim {c : Char} (hc : IsVerbatim c) :
    readBody opening read (c :: rest) = readBody opening (c.toNat :: read) rest := by
  obtain ⟨hquote, hescape, hcontrol⟩ := hc
  rw [readBody.eq_def]
  simp only [if_neg hquote, if_neg hescape, if_neg (Nat.not_lt.2 hcontrol)]

theorem readBody_short {e d : Char} (he : shortEscape? e = some d) :
    readBody opening read ('\\' :: e :: rest) = readBody opening (d.toNat :: read) rest := by
  have hne : e ≠ 'u' := by
    rintro rfl
    exact Option.some_ne_none d he.symm
  rw [readBody.eq_def]
  simp [hne, he]

theorem readBody_unicode {a b c d : Char} {code : Nat}
    (hcode : unicodeEscape? (a :: b :: c :: d :: rest) = some code) :
    readBody opening read ('\\' :: 'u' :: a :: b :: c :: d :: rest) =
      readBody opening (code :: read) rest := by
  rw [readBody.eq_def]
  simp [hcode]

end Steps

theorem readBody_of_spells {body : List Char} {codes : List Nat} (h : Spells body codes)
    (opening : List Char) (read : List Nat) (rest : List Char) :
    readBody opening read (body ++ '"' :: rest) = .ok (read.reverse ++ codes, rest) := by
  induction h generalizing read with
  | nil => rw [List.nil_append, readBody_quote, List.append_nil]
  | plain hc _ ih =>
      rw [List.cons_append, readBody_verbatim _ _ hc, ih, List.reverse_cons, ← List.append_cons]
  | short he _ ih =>
      rw [List.cons_append, List.cons_append, readBody_short _ _ he, ih, List.reverse_cons,
        ← List.append_cons]
  | @unicode a b c d code body codes hcode _ ih =>
      have hmore : body ++ '"' :: rest ≠ [] :=
        List.append_ne_nil_of_right_ne_nil body (List.cons_ne_nil _ _)
      rw [List.append_cons read.reverse, ← List.reverse_cons, ← ih]
      exact readBody_unicode opening read (unicodeEscape?_eq_some_iff.2 ⟨hmore, hcode⟩)

theorem exists_spells_of_readBody {opening : List Char} {read codes : List Nat}
    {cs rest : List Char} (h : readBody opening read cs = .ok (codes, rest)) :
    ∃ body spelled, cs = body ++ '"' :: rest ∧ Spells body spelled ∧
      codes = read.reverse ++ spelled := by
  fun_induction readBody opening read cs with
  | case1 | case3 | case5 | case6 | case8 | case9 => exact absurd h (by simp)
  | case2 read more =>
      obtain ⟨rfl, rfl⟩ := Prod.mk.inj (Except.ok.inj h)
      exact ⟨[], [], rfl, .nil, (List.append_nil _).symm⟩
  | case4 read a b c d after code hcode _ ih =>
      obtain ⟨body, spelled, rfl, hbody, hcodes⟩ := ih h
      rw [List.reverse_cons, ← List.append_cons] at hcodes
      exact ⟨'\\' :: 'u' :: a :: b :: c :: d :: body, code :: spelled, rfl,
        .unicode (unicodeEscape?_eq_some_iff.1 hcode).2 hbody, hcodes⟩
  | case7 read e more _ d he _ ih =>
      obtain ⟨body, spelled, rfl, hbody, hcodes⟩ := ih h
      rw [List.reverse_cons, ← List.append_cons] at hcodes
      exact ⟨'\\' :: e :: body, d.toNat :: spelled, rfl, .short he hbody, hcodes⟩
  | case10 read c more hquote hescape hcontrol ih =>
      obtain ⟨body, spelled, rfl, hbody, hcodes⟩ := ih h
      rw [List.reverse_cons, ← List.append_cons] at hcodes
      have hc : IsVerbatim c := ⟨hquote, hescape, Nat.not_lt.1 hcontrol⟩
      exact ⟨c :: body, c.toNat :: spelled, rfl, .plain hc hbody, hcodes⟩

theorem readBody_eq_ok_iff {opening cs rest : List Char} {codes : List Nat} :
    readBody opening [] cs = .ok (codes, rest) ↔
      ∃ body, cs = body ++ '"' :: rest ∧ Spells body codes := by
  constructor
  · intro h
    obtain ⟨body, spelled, hcs, hbody, hcodes⟩ := exists_spells_of_readBody h
    rw [List.reverse_nil, List.nil_append] at hcodes
    exact ⟨body, hcs, hcodes ▸ hbody⟩
  · rintro ⟨body, rfl, hbody⟩
    exact readBody_of_spells hbody opening [] rest

/-! ## Whole texts in quotes -/

theorem readText_quote (room : Nat) (rest : List Char) :
    readText room ('"' :: rest) =
      match readBody ('"' :: rest) [] rest with
      | .error fault => .error fault
      | .ok (codes, after) =>
          match skipSpacing after with
          | [] => .ok (str (String.ofList (joinSurrogates codes)))
          | found => .error (.found .extraData found) := by
  have hvalue : readValue room (2 * ('"' :: rest).length + 2) (skipSpacing ('"' :: rest)) =
      (readString rest).bind fun read => .ok (str read.1, read.2) := rfl
  rw [readText.eq_def]
  simp only [hvalue, readString]
  cases readBody ('"' :: rest) [] rest with
  | error fault => rfl
  | ok read => rfl

theorem eq_of_quote_append_eq {body spelled after : List Char}
    (h : body ++ ['"'] = spelled ++ '"' :: after) (hblank : ∀ c ∈ after, isSpacing c = true) :
    after = [] ∧ spelled = body := by
  induction after using List.reverseRecOn with
  | nil => exact ⟨rfl, (List.append_inj_left' h rfl).symm⟩
  | append_singleton after c _ =>
      rw [← List.cons_append, ← List.append_assoc] at h
      have hc : ['"'] = [c] := List.append_inj_right' h rfl
      have hquote := hblank c (List.mem_append_right _ List.mem_cons_self)
      rw [← List.head_eq_of_cons_eq hc] at hquote
      exact absurd hquote (by decide)

theorem parse_eq_ok_iff {room : Nat} {cs : List Char} {v : Json} :
    parse room cs = .ok v ↔ readText room cs = .ok v := by
  rw [parse]
  cases readText room cs with
  | error fault => exact iff_of_false (fun h => nomatch h) fun h => nomatch h
  | ok read => simp [Except.mapError]

theorem parse_quoted_iff {room : Nat} {body : List Char} {v : Json} :
    parse room ('"' :: (body ++ ['"'])) = .ok v ↔
      ∃ codes, Spells body codes ∧ v = str (String.ofList (joinSurrogates codes)) := by
  rw [parse_eq_ok_iff, readText_quote]
  constructor
  · intro h
    cases hread : readBody ('"' :: (body ++ ['"'])) [] (body ++ ['"']) with
    | error fault =>
        rw [hread] at h
        exact absurd h fun h => nomatch h
    | ok read =>
        obtain ⟨codes, after⟩ := read
        obtain ⟨spelled, hbody, hspells⟩ := readBody_eq_ok_iff.1 hread
        cases hafter : skipSpacing after with
        | cons c more =>
            simp only [hread, hafter] at h
            exact absurd h fun h => nomatch h
        | nil =>
            simp only [hread, hafter] at h
            obtain ⟨-, rfl⟩ := eq_of_quote_append_eq hbody (List.dropWhile_eq_nil_iff.1 hafter)
            exact ⟨codes, hspells, (Except.ok.inj h).symm⟩
  · rintro ⟨codes, hspells, rfl⟩
    rw [readBody_eq_ok_iff.2 ⟨body, rfl, hspells⟩]
    rfl

/-! ## Texts that stand for themselves -/

theorem length_joinSurrogates_le (codes : List Nat) :
    (joinSurrogates codes).length ≤ codes.length := by
  fun_induction joinSurrogates codes with
  | case1 => exact le_rfl
  | case2 high low rest _ ih => exact (Nat.succ_le_succ ih).trans (Nat.le_succ _)
  | case3 high low rest _ ih => exact Nat.succ_le_succ ih
  | case4 code => exact le_rfl

theorem not_isSurrogate_toNat (c : Char) :
    isHighSurrogate c.toNat = false ∧ isLowSurrogate c.toNat = false := by
  have hvalid : c.toNat < 0xD800 ∨ 0xDFFF < c.toNat ∧ c.toNat < 0x110000 := c.valid
  simp only [isHighSurrogate, isLowSurrogate, Bool.and_eq_false_iff, decide_eq_false_iff_not]
  omega

theorem joinSurrogates_map_toNat (cs : List Char) : joinSurrogates (cs.map Char.toNat) = cs := by
  induction cs with
  | nil => rfl
  | cons c rest ih =>
      obtain ⟨hhigh, hlow⟩ := not_isSurrogate_toNat c
      cases rest with
      | nil => simp [joinSurrogates, charOfCode, hhigh, hlow, Char.ofNat_toNat]
      | cons d rest =>
          rw [List.map_cons] at ih
          rw [List.map_cons, List.map_cons, joinSurrogates, ih]
          simp [charOfCode, hhigh, hlow, Char.ofNat_toNat]

theorem Spells.length_le {body : List Char} {codes : List Nat} (h : Spells body codes) :
    codes.length ≤ body.length := by
  induction h with
  | nil => exact le_rfl
  | plain _ _ ih => exact Nat.succ_le_succ ih
  | short _ _ ih => exact Nat.succ_le_succ (Nat.le_succ_of_le ih)
  | unicode _ _ ih => simp only [List.length_cons]; omega

/-- An escape takes more characters than it stands for. -/
theorem Spells.isVerbatim_of_length_le {body : List Char} {codes : List Nat} (h : Spells body codes)
    (hlength : body.length ≤ codes.length) : ∀ c ∈ body, IsVerbatim c := by
  induction h with
  | nil => exact fun c hc => absurd hc List.not_mem_nil
  | plain hc _ ih => exact List.forall_mem_cons.2 ⟨hc, ih (Nat.le_of_succ_le_succ hlength)⟩
  | short _ h _ =>
      have hle := h.length_le
      simp only [List.length_cons] at hlength
      omega
  | unicode _ h _ =>
      have hle := h.length_le
      simp only [List.length_cons] at hlength
      omega

theorem spells_map_toNat {body : List Char} (h : ∀ c ∈ body, IsVerbatim c) :
    Spells body (body.map Char.toNat) := by
  induction body with
  | nil => exact .nil
  | cons c body ih =>
      exact .plain (h c List.mem_cons_self) (ih fun d hd => h d (List.mem_cons_of_mem c hd))

theorem parse_quoted_self_iff {room : Nat} {name : String} :
    parse room ('"' :: (name.toList ++ ['"'])) = .ok (str name) ↔ ∀ c ∈ name.toList, IsVerbatim c := by
  rw [parse_quoted_iff]
  constructor
  · rintro ⟨codes, hspells, hname⟩
    have hlist : name.toList = joinSurrogates codes := by
      rw [Json.str.inj hname, String.toList_ofList]
    apply hspells.isVerbatim_of_length_le
    rw [hlist]
    exact length_joinSurrogates_le codes
  · intro h
    refine ⟨_, spells_map_toNat h, ?_⟩
    rw [joinSurrogates_map_toNat, String.ofList_toList]

/-! ## Strings of the grammar -/

theorem exists_unicodeEscape?_iff {a b c d : Char} :
    (∃ code, unicodeEscape? [a, b, c, d, '"'] = some code) ↔
      ∀ x ∈ [a, b, c, d], (Text.hexValue? x).isSome := by
  simp only [unicodeEscape?, List.forall_mem_cons, List.not_mem_nil, Option.isSome_iff_exists]
  cases Text.hexValue? a <;> cases Text.hexValue? b <;> cases Text.hexValue? c <;>
    cases Text.hexValue? d <;> simp

theorem isStringBody_iff {body : List Char} : IsStringBody body ↔ ∃ codes, Spells body codes := by
  constructor
  · intro h
    induction h with
    | nil => exact ⟨_, .nil⟩
    | plain hquote hescape hcontrol _ ih =>
        obtain ⟨codes, ih⟩ := ih
        exact ⟨_, .plain ⟨hquote, hescape, hcontrol⟩ ih⟩
    | short he _ ih =>
        obtain ⟨codes, ih⟩ := ih
        obtain ⟨d, he⟩ := Option.isSome_iff_exists.1 he
        exact ⟨_, .short he ih⟩
    | unicode hdigits _ ih =>
        obtain ⟨codes, ih⟩ := ih
        obtain ⟨code, hcode⟩ := exists_unicodeEscape?_iff.2 hdigits
        exact ⟨_, .unicode hcode ih⟩
  · rintro ⟨codes, h⟩
    induction h with
    | nil => exact .nil
    | plain hc _ ih => exact .plain hc.1 hc.2.1 hc.2.2 ih
    | short he _ ih => exact .short (Option.isSome_iff_exists.2 ⟨_, he⟩) ih
    | unicode hcode _ ih => exact .unicode (exists_unicodeEscape?_iff.1 ⟨_, hcode⟩) ih

end QueryAssist.Json
