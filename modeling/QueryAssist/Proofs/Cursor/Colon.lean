import QueryAssist.Cursor.Context
import QueryAssist.Proofs.Cursor.Strings
/-!
# The colon before a cursor

Looking back for a colon knows nothing of strings, so it may stop at one that is part of a string. The
pass over the text expects a value there only if the string is a value itself.
-/

namespace QueryAssist.Cursor

open Text Registers

/-- A colon with nothing but blanks and quotes behind it. -/
structure SeesColon (cs : List Char) (i : Nat) : Prop where
  colon : cs[i]? = some ':'
  skipped : ∀ c ∈ cs.drop (i + 1), isBlank c = true ∨ c = '"'

/-! ## Looking back -/

theorem meetsColon_cons_skipped {c : Char} (hc : isBlank c = true ∨ c = '"') (rest : List Char) :
    meetsColon (c :: rest) = meetsColon rest := by
  have hcolon : c ≠ ':' := by rintro rfl; revert hc; decide
  have hstop : ¬(c = ',' ∨ c = '\x7b' ∨ c = '[') := by
    rintro (rfl | rfl | rfl) <;> revert hc <;> decide
  rw [meetsColon, if_neg hcolon, if_neg hstop, if_pos hc]

theorem meetsColon_append_skipped {gap : List Char} (h : ∀ c ∈ gap, isBlank c = true ∨ c = '"')
    (rest : List Char) : meetsColon (gap ++ rest) = meetsColon rest := by
  induction gap with
  | nil => rfl
  | cons c gap ih =>
      rw [List.cons_append, meetsColon_cons_skipped (h c List.mem_cons_self),
        ih fun d hd => h d (List.mem_cons_of_mem c hd)]

theorem exists_of_meetsColon {cs : List Char} (h : meetsColon cs = true) :
    ∃ gap rest, cs = gap ++ ':' :: rest ∧ ∀ c ∈ gap, isBlank c = true ∨ c = '"' := by
  induction cs with
  | nil => exact absurd h Bool.false_ne_true
  | cons c cs ih =>
      by_cases hcolon : c = ':'
      · exact ⟨[], cs, by rw [hcolon]; rfl, by simp⟩
      · by_cases hc : isBlank c = true ∨ c = '"'
        · rw [meetsColon_cons_skipped hc] at h
          obtain ⟨gap, rest, rfl, hgap⟩ := ih h
          exact ⟨c :: gap, rest, rfl, List.forall_mem_cons.2 ⟨hc, hgap⟩⟩
        · rw [meetsColon, if_neg hcolon, if_neg hc] at h
          simp at h

theorem seesColon_append {gap : List Char} (h : ∀ c ∈ gap, isBlank c = true ∨ c = '"')
    (before : List Char) : SeesColon (before ++ ':' :: gap) before.length := by
  refine ⟨by simp, fun c hc => h c ?_⟩
  have hdrop : (before ++ ':' :: gap).drop (before.length + 1) = gap := by
    rw [List.append_cons]
    exact List.drop_left' (by simp)
  rwa [hdrop] at hc

theorem SeesColon.split {cs : List Char} {i : Nat} (h : SeesColon cs i) :
    cs = cs.take i ++ ':' :: cs.drop (i + 1) := by
  obtain ⟨hi, hcolon⟩ := List.getElem?_eq_some_iff.1 h.colon
  rw [← hcolon, List.getElem_cons_drop, List.take_append_drop]

theorem endsAfterColon_iff {cs : List Char} : endsAfterColon cs = true ↔ ∃ i, SeesColon cs i := by
  constructor
  · intro h
    obtain ⟨gap, rest, hcs, hgap⟩ := exists_of_meetsColon h
    have hsplit : cs = rest.reverse ++ ':' :: gap.reverse := by
      rw [← List.reverse_reverse cs, hcs]
      simp
    rw [hsplit]
    exact ⟨_, seesColon_append (fun c hc => hgap c (List.mem_reverse.1 hc)) _⟩
  · rintro ⟨i, h⟩
    rw [endsAfterColon, h.split, List.reverse_append, List.reverse_cons, List.append_assoc,
      meetsColon_append_skipped fun c hc => h.skipped c (List.mem_reverse.1 hc)]
    rfl

/-! ## Reading on from a colon -/

theorem isQuiet_of_isBlank {c : Char} (h : isBlank c = true) : isQuiet c = true :=
  isQuiet_of_marks (by decide) h

namespace Registers

theorem expectingValue_step_in_string {r : Registers} {s : OpenString} (h : r.string = some s)
    (c : Char) : (r.step c).expectingValue = r.expectingValue := by
  simp only [step, h, readInString, closeString]
  split_ifs <;> rfl

theorem expectingValue_step_skipped (r : Registers) {c : Char} (hc : isBlank c = true ∨ c = '"') :
    (r.step c).expectingValue = r.expectingValue := by
  cases hstring : r.string with
  | some s => exact expectingValue_step_in_string hstring c
  | none =>
      rcases hc with hblank | rfl
      · rw [step_quiet hstring (isQuiet_of_isBlank hblank)]
      · rw [step_outside hstring]
        rfl

theorem expectingValue_readFrom_skipped (r : Registers) {gap : List Char}
    (h : ∀ c ∈ gap, isBlank c = true ∨ c = '"') :
    (r.readFrom gap).expectingValue = r.expectingValue := by
  induction gap generalizing r with
  | nil => rfl
  | cons c gap ih =>
      rw [readFrom_cons, ih _ fun d hd => h d (List.mem_cons_of_mem c hd)]
      exact expectingValue_step_skipped r (h c List.mem_cons_self)

theorem expectingValue_step_colon (r : Registers) :
    (r.step ':').expectingValue = (r.string.isNone || r.expectingValue) := by
  cases hstring : r.string with
  | none =>
      rw [step_outside hstring]
      rfl
  | some s => exact expectingValue_step_in_string hstring ':'

theorem expectingValue_of_seesColon {cs : List Char} {i : Nat} (h : SeesColon cs i) :
    (run cs).expectingValue =
      ((run (cs.take i)).string.isNone || (run (cs.take i)).expectingValue) := by
  calc
    (run cs).expectingValue
      = (((run (cs.take i)).step ':').readFrom (cs.drop (i + 1))).expectingValue := by
        conv_lhs => rw [h.split, run_append, readFrom_cons]
    _ = ((run (cs.take i)).step ':').expectingValue :=
        expectingValue_readFrom_skipped _ h.skipped
    _ = _ := expectingValue_step_colon _

end Registers

/-! ## Both ways of looking -/

theorem expectingValue_scan_of_seesColon {text : String} {cursor : Int} {i : Nat}
    (h : SeesColon (before text cursor) i) :
    (scan text cursor).expectingValue =
      (!(scan text i).inString || (scan text i).expectingValue) := by
  have hi : i < (before text cursor).length := (List.getElem?_eq_some_iff.1 h.colon).1
  have hbefore : (before text cursor).take i = before text i := by
    rw [before, List.length_take] at hi
    rw [before, before, List.take_take, Int.toNat_natCast, Nat.min_eq_left (by omega)]
  have hstring : (scan text i).inString = (run (before text i)).string.isSome := Option.isSome_map
  have hexpecting := expectingValue_of_seesColon h
  rw [hbefore] at hexpecting
  rw [hstring, Option.not_isSome]
  exact hexpecting

/-- The look back for a colon and the context agree with the pass over the text if and only if the
colon that can be seen from the cursor, if any, stands outside strings or in one that is a value. -/
theorem afterColon_eq_expectingValue_iff (text : String) (cursor : Int) :
    (isAfterColon text cursor = true → (scan text cursor).expectingValue = true) ∧
        (contextAt text cursor).afterColon = (scan text cursor).expectingValue ↔
      ∀ i : Nat, SeesColon (before text cursor) i → (scan text i).inString = true →
        (scan text i).expectingValue = true := by
  have hcontext : (contextAt text cursor).afterColon =
      (isAfterColon text cursor || (scan text cursor).expectingValue) := rfl
  constructor
  · rintro ⟨hlook, -⟩ i hi hstring
    have hexpecting := hlook (endsAfterColon_iff.2 ⟨i, hi⟩)
    rwa [expectingValue_scan_of_seesColon hi, hstring] at hexpecting
  · intro h
    have hlook : isAfterColon text cursor = true → (scan text cursor).expectingValue = true := by
      intro hcolon
      obtain ⟨i, hi⟩ := endsAfterColon_iff.1 hcolon
      rw [expectingValue_scan_of_seesColon hi]
      cases hstring : (scan text i).inString with
      | false => rfl
      | true => exact h i hi hstring
    refine ⟨hlook, ?_⟩
    rw [hcontext]
    cases hcolon : isAfterColon text cursor with
    | false => rfl
    | true => rw [hlook hcolon, Bool.true_or]

theorem isAfterColon_in_strings :
    (isAfterColon "\x7b\"a:\"" 5 = true ∧ (scan "\x7b\"a:\"" 5).expectingValue = false ∧
      (contextAt "\x7b\"a:\"" 5).afterColon = true) ∧
    isAfterColon "[\"a:\"" 5 = true ∧ (scan "[\"a:\"" 5).expectingValue = false ∧
      (contextAt "[\"a:\"" 5).afterColon = true := by
  decide

end QueryAssist.Cursor
