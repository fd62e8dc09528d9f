import QueryAssist.Proofs.Completion.Accept
import QueryAssist.Proofs.Grammar.Reading
/-!
# Accepting a key

A key that is accepted where keys may come has its value awaited behind it, in the containers that were
open at the cursor.
-/

namespace QueryAssist.Completion

open Catalog Cursor Cursor.Registers Grammar

/-! ## The word before the cursor -/

theorem agrees_run_take_wordStart {cs : List Char} (h : (run cs).string = none) :
    (run (cs.take (wordStart cs))).string = none ∧
      (run (cs.take (wordStart cs))).Agrees (run cs) := by
  have hstring : (run (cs.take (wordStart cs))).string = none := by
    rw [string_run_eq_none_iff, endsInString, quotes_take_wordStart]
    exact string_run_eq_none_iff.1 h
  have hquiet : ∀ c ∈ cs.drop (wordStart cs), isQuiet c = true := fun c hc =>
    isQuiet_of_not_isDelimiter ((isLongestWord_wordStart cs).noDelimiter c hc)
  have hrun : run cs = (run (cs.take (wordStart cs))).readFrom (cs.drop (wordStart cs)) := by
    conv_lhs => rw [← List.take_append_drop (wordStart cs) cs, run_append]
  refine ⟨hstring, ?_⟩
  rw [hrun]
  exact (throughout_quiet hstring hquiet).atEnd

theorem place_eq_of_agrees {r s : Registers} (h : r.Agrees s) (hr : r.string = none)
    (hs : s.string = none) : s.place = r.place := by
  rw [h, hs]
  simp [place, hr]

/-! ## The key -/

theorem place_readFrom_keyText {name : String} (hname : IsPlain name) {r : Registers}
    (hstring : r.string = none) (hpending : r.pendingKey = none) (hvalue : r.expectingValue = false) :
    (r.readFrom (keyText name).toList).place =
      { r.place with currentKey := some name, expectingValue := true } := by
  have hsplit : (keyText name).toList = '"' :: name.toList ++ ['"'] ++ [':', ' '] := by
    simp [toList_keyText]
  have hquoted := readFrom_quoted (throughout_plain hname) hstring
  have hclosed : (r.readFrom ('"' :: name.toList ++ ['"'])).string = none := by rw [hquoted, hstring]
  have hcolon := step_colon hclosed
  have hblank := step_quiet (r := (r.readFrom ('"' :: name.toList ++ ['"'])).step ':')
    (c := ' ') (by rw [hcolon]; exact hclosed) rfl
  rw [hsplit, readFrom_append, readFrom_cons, readFrom_cons, readFrom_nil, hblank, hcolon, hquoted]
  simp [place, colon, hpending, hvalue]

def keyKinds : List CandidateKind := [.property, .queryType, .aggType, .keyword]

theorem insertText_eq_keyText {data : Option Snapshot} {c : Candidate} (h : Offered data c)
    (hkind : c.kind ∈ keyKinds) : c.insertText = keyText c.label := by
  cases h with
  | query _ => rfl
  | aggregation _ => rfl
  | part _ _ _ => rfl
  | option _ => rfl
  | nestedAggs => rfl
  | snippet _ => exact absurd hkind (by simp [ofSnippet, keyKinds])
  | value _ => exact absurd hkind (by simp [ofValue, keyKinds])
  | field _ hmem =>
      obtain ⟨path, boost, detail, info, rfl⟩ := exists_fieldOffer_of_mem_allFieldOffers hmem
      exact absurd hkind (by simp [fieldOffer, keyKinds])

/-- A key that is accepted outside strings, where neither a value is expected nor a key pending, is the
current key behind the insertion, and its value is expected. Nothing else is known otherwise than it
was at the cursor. -/
theorem scan_after_accepting_key {text : String} {cursor : Int} {data : Option Snapshot}
    {explicit : Bool} {found : Completions} {c : Candidate}
    (h : provide text cursor data explicit = some found) (hc : c ∈ found.options)
    (hkind : c.kind ∈ keyKinds) (hstring : (scan text cursor).inString = false)
    (hvalue : (scan text cursor).expectingValue = false)
    (hpending : (run (before text cursor)).pendingKey = none) :
    let edited := String.ofList (text.toList.take found.start) ++ c.insertText
    scan edited edited.length =
        { scan text cursor with currentKey := some c.label, expectingValue := true } ∧
      (scan edited edited.length).inString = false := by
  intro edited
  have hoffered := offered_of_provide h hc
  have hplain : IsPlain c.label := by
    refine isPlain_label hoffered fun hfield => ?_
    rw [hfield] at hkind
    exact absurd hkind (by decide)
  have hnone : (run (before text cursor)).string = none := by
    simpa [scan, Place.inString, place] using hstring
  obtain ⟨hword, hagrees⟩ := agrees_run_take_wordStart hnone
  have hstart := start_of_provide h
  have hle : found.start ≤ (before text cursor).length := hstart ▸ wordStart_le _
  have hbefore : before edited edited.length =
      (before text cursor).take (wordStart (before text cursor)) ++ (keyText c.label).toList := by
    rw [before_length, String.toList_append, String.toList_ofList, ← take_before hle, hstart,
      insertText_eq_keyText hoffered hkind]
  have hplace : scan edited edited.length =
      { scan text cursor with currentKey := some c.label, expectingValue := true } := by
    rw [scan, hbefore, run_append, place_readFrom_keyText hplain hword,
      ← place_eq_of_agrees hagrees hword hnone]
    · rfl
    · rw [hagrees] at hpending
      exact hpending
    · rw [scan, hagrees] at hvalue
      exact hvalue
  refine ⟨hplace, ?_⟩
  rw [hplace]
  exact hstring

def secondClause : String :=
  "\x7b\"query\":\x7b\"bool\":\x7b\"filter\":[\x7b\"term\":\x7b\x7d\x7d], mu"

def mustOffer : Candidate :=
  ofProperty .keyword ⟨"must", "array", "All clauses must match (AND)"⟩

theorem scan_after_accepting_key_must :
    ∃ found, provide secondClause 44 none false = some found ∧ mustOffer ∈ found.options ∧
      mustOffer.kind ∈ keyKinds ∧ (scan secondClause 44).inString = false ∧
      (scan secondClause 44).expectingValue = false ∧
      (run (before secondClause 44)).pendingKey = none ∧
      let edited := String.ofList (secondClause.toList.take found.start) ++ mustOffer.insertText
      scan edited edited.length =
          { scan secondClause 44 with currentKey := some "must", expectingValue := true } ∧
        (scan edited edited.length).inString = false := by
  obtain ⟨found, h⟩ : ∃ found, provide secondClause 44 none false = some found :=
    Option.isSome_iff_exists.1 (by decide +kernel)
  have hc : mustOffer ∈ found.options := (mem_options_of_provide h).2 (by decide +kernel)
  have hkind : mustOffer.kind ∈ keyKinds := by decide
  have hstring : (scan secondClause 44).inString = false := by decide
  have hvalue : (scan secondClause 44).expectingValue = false := by decide
  have hpending : (run (before secondClause 44)).pendingKey = none := by decide
  exact ⟨found, h, hc, hkind, hstring, hvalue, hpending,
    scan_after_accepting_key h hc hkind hstring hvalue hpending⟩

end QueryAssist.Completion
