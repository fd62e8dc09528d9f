import QueryAssist.Proofs.Completion.Provide
import QueryAssist.Proofs.Cursor.Strings
/-!
# Accepting a completion

What a candidate inserts brings its own quotes, whether or not the cursor is in an open string. So
behind an insertion with a plain label a string is open if one was open before.
-/

namespace QueryAssist.Completion

open Catalog Cursor

/-- The text with an insertion in the place of what lies between an offset and the cursor. -/
def accept (text : String) (cursor : Int) (start : Nat) (inserted : String) : String :=
  String.ofList (text.toList.take start ++ inserted.toList ++ text.toList.drop cursor.toNat)

def placeAfter (text : String) (cursor : Int) (start : Nat) (inserted : String) : Place :=
  scan (accept text cursor start inserted) (start + inserted.length : Nat)

theorem before_accept {text : String} {start : Nat} (h : start ≤ text.toList.length) (cursor : Int)
    (inserted : String) :
    before (accept text cursor start inserted) (start + inserted.length : Nat) =
      text.toList.take start ++ inserted.toList := by
  have hlength : (text.toList.take start ++ inserted.toList).length = start + inserted.length := by
    rw [List.length_append, List.length_take, Nat.min_eq_left h, String.length_toList]
  rw [before, accept, String.toList_ofList, Int.toNat_natCast, ← hlength]
  exact List.take_left

theorem take_before {text : String} {cursor : Int} {start : Nat}
    (h : start ≤ (before text cursor).length) :
    (before text cursor).take start = text.toList.take start := by
  rw [before, List.length_take] at h
  rw [before, List.take_take, Nat.min_eq_left (by omega)]

/-! ## Quotes before and in an insertion -/

theorem escaped_of_wordEnding_eq_nil {cs : List Char} (h : wordEnding cs = []) :
    (cs.foldl QuoteState.step ⟨false, false⟩).escaped = false := by
  have hsound : QuoteState.Sound ⟨false, false⟩ := id
  induction cs using List.reverseRecOn with
  | nil => rfl
  | append_singleton cs c _ =>
      rw [List.foldl_append]
      refine QuoteState.escaped_step (hsound.foldl cs) ?_
      rintro rfl
      rw [wordEnding_eq_rtakeWhile, List.rtakeWhile_concat_pos _ _ _ (by decide)] at h
      exact List.append_ne_nil_of_right_ne_nil _ (List.cons_ne_nil _ _) h

theorem quotes_take_wordStart (cs : List Char) :
    (cs.take (wordStart cs)).foldl QuoteState.step ⟨false, false⟩ = ⟨endsInString cs, false⟩ := by
  have hword : ∀ c ∈ cs.drop (wordStart cs), c ≠ '"' := by
    rintro c hc rfl
    exact absurd ((isLongestWord_wordStart cs).noDelimiter _ hc) (by decide)
  have hinside : endsInString cs =
      ((cs.take (wordStart cs)).foldl QuoteState.step ⟨false, false⟩).inside := by
    conv_lhs => rw [endsInString, ← List.take_append_drop (wordStart cs) cs, List.foldl_append]
    exact QuoteState.inside_foldl _ hword
  have hescaped := escaped_of_wordEnding_eq_nil (wordEnding_take_wordStart cs)
  exact congrArg₂ QuoteState.mk hinside.symm hescaped

theorem toList_keyText (name : String) :
    (keyText name).toList = '"' :: (name.toList ++ ['"', ':', ' ']) := by
  simp [keyText]

theorem toList_valueText (name : String) :
    (valueText name).toList = '"' :: (name.toList ++ ['"']) := by
  simp [valueText]

theorem exists_insertText_eq {data : Option Snapshot} {c : Candidate} (h : Offered data c)
    (hkind : c.kind ≠ .snippet) :
    ∃ tail : List Char, (∀ x ∈ tail, x ≠ '"') ∧
      c.insertText.toList = '"' :: (c.label.toList ++ '"' :: tail) := by
  cases h with
  | query _ => exact ⟨_, by simp, toList_keyText _⟩
  | aggregation _ => exact ⟨_, by simp, toList_keyText _⟩
  | part _ _ _ => exact ⟨_, by simp, toList_keyText _⟩
  | option _ => exact ⟨_, by simp, toList_keyText _⟩
  | nestedAggs => exact ⟨_, by simp, toList_keyText _⟩
  | snippet _ => exact absurd rfl hkind
  | value _ => exact ⟨_, by simp, toList_valueText _⟩
  | field _ hfield =>
      obtain ⟨path, boost, detail, info, rfl⟩ := exists_fieldOffer_of_mem_allFieldOffers hfield
      exact ⟨_, by simp, toList_valueText _⟩

theorem isPlain_label {data : Option Snapshot} {c : Candidate} (h : Offered data c)
    (hkind : c.kind ≠ .field) : IsPlain c.label :=
  isPlain_of_isNameChar (isNameChar_label h hkind)

/-! ## Quotes behind an insertion -/

theorem inside_label {cs label tail : List Char} (htail : ∀ x ∈ tail, x ≠ '"') :
    endsInString (cs.take (wordStart cs) ++ '"' :: (label ++ '"' :: tail)) =
      ((label ++ ['"']).foldl QuoteState.step ⟨!endsInString cs, false⟩).inside := by
  have hopening : QuoteState.step ⟨endsInString cs, false⟩ '"' = ⟨!endsInString cs, false⟩ :=
    QuoteState.step_quote rfl
  rw [endsInString, List.foldl_append, quotes_take_wordStart, List.foldl_cons, hopening,
    List.append_cons, List.foldl_append]
  exact QuoteState.inside_foldl _ htail

theorem inString_placeAfter {text : String} {cursor : Int} {data : Option Snapshot}
    {explicit : Bool} {found : Completions} {c : Candidate}
    (h : provide text cursor data explicit = some found) (hc : c ∈ found.options)
    (hkind : c.kind ≠ .snippet) :
    (placeAfter text cursor found.start c.insertText).inString =
      ((c.label.toList ++ ['"']).foldl QuoteState.step
        ⟨!(scan text cursor).inString, false⟩).inside := by
  have hstart := start_of_provide h
  have hle : found.start ≤ (before text cursor).length := hstart ▸ wordStart_le _
  obtain ⟨tail, htail, hinsert⟩ := exists_insertText_eq (offered_of_provide h hc) hkind
  have hbefore : before (accept text cursor found.start c.insertText)
      (found.start + c.insertText.length : Nat) =
      (before text cursor).take (wordStart (before text cursor)) ++
        '"' :: (c.label.toList ++ '"' :: tail) := by
    have hbound : found.start ≤ text.toList.length := hle.trans (List.length_take_le' _ _)
    rw [before_accept hbound, ← take_before hle, hinsert, hstart]
  rw [placeAfter, scan, scan, Registers.inString_place_run, Registers.inString_place_run, hbefore]
  exact inside_label htail

/-- The quote before the label opens a string if none is open at the cursor, and closes it if one is,
and the quote after a plain label turns that back. All labels but those of fields are plain. -/
theorem inString_after_accepting {text : String} {cursor : Int} {data : Option Snapshot}
    {explicit : Bool} {found : Completions} {c : Candidate}
    (h : provide text cursor data explicit = some found) (hc : c ∈ found.options)
    (hkind : c.kind ≠ .snippet) :
    (IsPlain c.label → (placeAfter text cursor found.start c.insertText).inString =
      (scan text cursor).inString) ∧
    (c.kind ≠ .field → IsPlain c.label) ∧
    (explicit = false → (scan text cursor).inString = false) := by
  refine ⟨fun hplain => ?_, isPlain_label (offered_of_provide h hc), ?_⟩
  · rw [inString_placeAfter h hc hkind, List.foldl_append, QuoteState.foldl_plain rfl hplain,
      List.foldl_cons, QuoteState.step_quote rfl]
    exact Bool.not_not _
  · rintro rfl
    exact (Registers.inString_place_run _).trans (isInString_of_provide h)

def sizeOffer : Candidate :=
  ofProperty .property ⟨"size", "number", "Number of hits to return"⟩

theorem inString_after_accepting_size :
    ∃ found, provide "\x7bsi" 3 none true = some found ∧ sizeOffer ∈ found.options ∧
      sizeOffer.kind ≠ .snippet ∧
      (placeAfter "\x7bsi" 3 found.start sizeOffer.insertText).inString = false := by
  obtain ⟨found, h⟩ : ∃ found, provide "\x7bsi" 3 none true = some found := ⟨_, rfl⟩
  have hc : sizeOffer ∈ found.options := (mem_options_of_provide h).2 (by decide +kernel)
  have hkind : sizeOffer.kind ≠ .snippet := by decide
  have hkept := (inString_after_accepting h hc hkind).1 (by decide)
  have houtside : (scan "\x7bsi" 3).inString = false := by decide
  exact ⟨found, h, hc, hkind, hkept.trans houtside⟩

theorem exists_inString_after_accepting :
    ∃ found, provide "\x7b\"si" 4 none true = some found ∧ sizeOffer ∈ found.options ∧
      sizeOffer.kind ≠ .snippet ∧
      (placeAfter "\x7b\"si" 4 found.start sizeOffer.insertText).inString = true := by
  obtain ⟨found, h⟩ : ∃ found, provide "\x7b\"si" 4 none true = some found := ⟨_, rfl⟩
  have hc : sizeOffer ∈ found.options := (mem_options_of_provide h).2 (by decide +kernel)
  have hstart : found.start = 2 := (start_of_provide h).trans (by decide)
  refine ⟨found, h, hc, by decide, ?_⟩
  rw [hstart]
  decide

end QueryAssist.Completion
