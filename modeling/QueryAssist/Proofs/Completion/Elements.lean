import QueryAssist.Proofs.Completion.Fields
import QueryAssist.Proofs.Cursor.Kinds
import QueryAssist.Proofs.Grammar.Reading
/-!
# Behind the elements of an array

A comma ends the value of a key, also where it stands between the elements of an array that is the
value. So the key of an array counts for its first element only, and from the second on the path alone
says what may come.
-/

namespace QueryAssist.Completion

open Catalog Cursor Cursor.Registers Grammar

/-! ## The context behind a comma -/

theorem readyForItem_run_bracket {cs : List Char} (h : endsInString cs = false) :
    ReadyForItem .bracket (run (cs ++ ['['])) := by
  have hstring : (run cs).string = none := string_run_eq_none_iff.2 h
  rw [run_append, readFrom_cons, readFrom_nil]
  have hstep := step_opener hstring .bracket
  refine ⟨?_, ?_, fun hbrace => absurd hbrace (by decide)⟩
  · exact (congrArg Registers.string hstep).trans hstring
  · exact congrArg Registers.pendingKey hstep

theorem place_after_elements {cs : List Char} (h : endsInString cs = false)
    (items : Items .bracket) :
    (run (cs ++ '[' :: (items.text ++ [',']))).place =
      { (run (cs ++ ['['])).place with currentKey := none, expectingValue := false } := by
  have hready := readyForItem_run_bracket h
  obtain ⟨hstring, hsame⟩ := readFrom_items items hready
  have hrun : run (cs ++ '[' :: (items.text ++ [','])) =
      ((run (cs ++ ['['])).readFrom items.text).step ',' := by
    rw [List.append_cons, run_append, readFrom_append]
    rfl
  rw [hrun, step_comma hstring]
  simp [place, comma, hstring, hready.string, hsame.path, hsame.frames, hsame.arrayDepths, hsame.depth]

theorem context_after_elements {cs : List Char} (h : endsInString cs = false)
    (items : Items .bracket) :
    Context.after (cs ++ '[' :: (items.text ++ [','])) =
      { Context.after (cs ++ ['[']) with
        kind := classify (Context.after (cs ++ ['['])).path none false
        currentKey := none
        cursor := (cs ++ '[' :: (items.text ++ [','])).length
        afterColon := false } := by
  have hplace := place_after_elements h items
  have hlast : cs ++ '[' :: (items.text ++ [',']) = (cs ++ '[' :: items.text) ++ [','] := by simp
  have hcolon : endsAfterColon (cs ++ '[' :: (items.text ++ [','])) = false := by
    rw [hlast, endsAfterColon, List.reverse_append]
    rfl
  have hword : wordEnding (cs ++ '[' :: (items.text ++ [','])) = [] := by
    rw [hlast, wordEnding_eq_rtakeWhile]
    exact List.rtakeWhile_concat_neg _ _ _ (by decide)
  have hfirst : wordEnding (cs ++ ['[']) = [] := by
    rw [wordEnding_eq_rtakeWhile]
    exact List.rtakeWhile_concat_neg _ _ _ (by decide)
  have hstring : endsInString (cs ++ '[' :: (items.text ++ [','])) = endsInString (cs ++ ['[']) := by
    rw [← inString_place_run, ← inString_place_run, hplace]
    rfl
  simp only [Context.after, hplace, hcolon, hword, hfirst, hstring, Bool.or_self, Place.inArray]

/-! ## The fields on offer -/

def fieldCandidates (ctx : Context) (data : Option Snapshot) (explicit : Bool) : List Candidate :=
  (candidates ctx ctx.word data explicit).filter (·.kind = .field)

theorem fieldCandidates_of_listsFields {ctx : Context} (h : listsFields ctx = true)
    (data : Option Snapshot) (explicit : Bool) :
    fieldCandidates ctx data explicit = fieldOffers data ctx.word := by
  rw [fieldCandidates, candidates_eq_fieldOffers h, List.filter_eq_self]
  intro c hc
  rw [decide_eq_true_iff]
  exact kind_of_mem_fieldOffers hc

theorem fieldCandidates_of_not_listsFields {ctx : Context} (h : listsFields ctx = false)
    (data : Option Snapshot) (explicit : Bool) : fieldCandidates ctx data explicit = [] := by
  rw [fieldCandidates, List.filter_eq_nil_iff]
  intro c hc
  rw [decide_eq_true_iff]
  exact kind_ne_field_of_mem_candidates h hc

/-- Where the first element of an array is the name of a field, no later one is known to be. Fields are
offered for the later ones only where the path alone says so, which is in a sort. -/
theorem fields_after_elements {cs : List Char} (h : endsInString cs = false)
    (hkind : (Context.after (cs ++ ['['])).kind = .fieldValue) (items : Items .bracket) :
    let first := Context.after (cs ++ ['['])
    let later := Context.after (cs ++ '[' :: (items.text ++ [',']))
    later.path = first.path ∧ later.currentKey = none ∧ later.afterColon = false ∧
      later.kind = classify first.path none false ∧ later.kind ≠ first.kind ∧
      ∀ data explicit, fieldCandidates later data explicit = fieldCandidates first data explicit ↔
        later.kind = .sort ∨ fieldCandidates first data explicit = [] := by
  intro first later
  have hlater : later = _ := context_after_elements h items
  have hkinds : later.kind ≠ first.kind := by
    rw [hkind, hlater]
    exact classify_ne_fieldValue _ _
  have hcolon : later.afterColon = false := by rw [hlater]
  have hword : later.word = first.word := by rw [hlater]
  have hlists : listsFields later = decide (later.kind = .sort) := by
    rw [hkind] at hkinds
    simp [listsFields_of_not_afterColon hcolon, hkinds]
  refine ⟨by rw [hlater], by rw [hlater], hcolon, by rw [hlater], hkinds, fun data explicit => ?_⟩
  by_cases hsort : later.kind = .sort
  · have hfirst : listsFields first = true := by
      unfold listsFields
      rw [hkind]
    rw [fieldCandidates_of_listsFields (by rw [hlists, decide_eq_true hsort]),
      fieldCandidates_of_listsFields hfirst, hword]
    exact iff_of_true rfl (.inl hsort)
  · rw [fieldCandidates_of_not_listsFields (by rw [hlists, decide_eq_false hsort])]
    constructor
    · intro hsame
      exact .inr hsame.symm
    · rintro (hnot | hempty)
      · exact absurd hnot hsort
      · exact hempty.symm

/-- `"a"` and `0`, with line feeds around them. -/
def textAndNumber : Items .bracket :=
  let feed : Spacing := ⟨['\n'], by simp [Json.isSpacing]⟩
  let letter : StringToken := ⟨['a'], .plain (by decide) (by decide) (by decide) .nil⟩
  let zero : Scalar := ⟨[] ++ ['0'] ++ [] ++ [], .number (by simp) .zero .absent .absent⟩
  .more (.of .element feed (.string letter) feed) (.last (.of .element feed (.scalar zero) feed))

/-- The body of a search for some fields, up to the first of their names. -/
def sourceArray : List Char :=
  "\x7b\"_source\":".toList

theorem fields_after_elements_source :
    endsInString sourceArray = false ∧
      (Context.after (sourceArray ++ ['['])).kind = .fieldValue ∧
      let first := Context.after (sourceArray ++ ['['])
      let later := Context.after (sourceArray ++ '[' :: (textAndNumber.text ++ [',']))
      later.path = first.path ∧ later.currentKey = none ∧ later.afterColon = false ∧
        later.kind = classify first.path none false ∧ later.kind ≠ first.kind ∧
        ∀ data explicit,
          fieldCandidates later data explicit = fieldCandidates first data explicit ↔
            later.kind = .sort ∨ fieldCandidates first data explicit = [] := by
  have hstring : endsInString sourceArray = false := by decide
  have hkind : (Context.after (sourceArray ++ ['['])).kind = .fieldValue := by decide
  exact ⟨hstring, hkind, fields_after_elements hstring hkind textAndNumber⟩

/-- The second element of an array of fields is taken for a key of an object. -/
theorem second_field_not_offered :
    (contextAt "\x7b\"_source\":[" 12).kind = .fieldValue ∧
      (contextAt "\x7b\"_source\":[\"a\"," 16).kind = .source ∧
      fieldCandidates (contextAt "\x7b\"_source\":[" 12) (some (keywordFields ["a"])) false =
        [fieldOffer "a" 85 "keyword" none] ∧
      fieldCandidates (contextAt "\x7b\"_source\":[\"a\"," 16) (some (keywordFields ["a"]))
        false = [] := by
  decide +kernel

end QueryAssist.Completion
