import QueryAssist.Proofs.Completion.Surroundings
import QueryAssist.Proofs.Completion.Unasked
import QueryAssist.Proofs.Cursor.Growing
/-!
# Fewer options for longer words

As a word is typed on, nothing of the catalog comes up that has not come up before. What begins with
the longer word begins with the shorter one, since no name of the catalog has a sigma, and the context
stays, since none has a blank.
-/

namespace QueryAssist.Completion

open Catalog Cursor Text

/-! ## Names that begin with a word -/

section Names

variable {data : Option Snapshot} {word typed : String} {c : Candidate}

theorem Fits.spelled (h : Fits word c) (hkind : c.kind ≠ .field)
    (hname : ∀ d ∈ c.label.toList, isNameChar d = true) {d : Char} (hd : d ∈ word.toList) :
    d ≠ '\u03A3' ∧ isBlank d = false := by
  rw [Fits, if_neg hkind] at h
  exact of_lowerChars_prefix hname h hd

theorem Fits.of_append (h : Fits (word ++ typed) c) (hkind : c.kind ≠ .field)
    (hname : ∀ d ∈ c.label.toList, isNameChar d = true) : Fits word c := by
  have hsigma : ¬SigmaTurns word.toList typed.toList := by
    rintro ⟨before, passed, hword, -⟩
    have hmem : '\u03A3' ∈ (word ++ typed).toList := by simp [hword]
    exact (h.spelled hkind hname hmem).1 rfl
  rw [Fits, if_neg hkind, String.toList_append] at h
  rw [Fits, if_neg hkind]
  exact (lowerChars_prefix_append hsigma).trans h

end Names

/-! ## Candidates for a longer word -/

section Candidates

variable {ctx : Context} {word typed : String} {data : Option Snapshot} {explicit : Bool}
  {c : Candidate}

theorem candidates_eq_asked (h : explicit = true ∨ 2 ≤ word.length) :
    candidates ctx word data explicit = candidates ctx word data true := by
  cases explicit with
  | true => rfl
  | false =>
      have hlong : 2 ≤ word.length := h.resolve_left Bool.false_ne_true
      rw [candidates_unasked, if_neg fun hshort => absurd hshort.2 (Nat.not_lt.2 hlong)]

theorem mem_candidates_iff (hword : word ≠ "") (hasked : explicit = true ∨ 2 ≤ word.length) :
    c ∈ candidates ctx word data explicit ↔ c ∈ everyOffer ctx data ∧ Fits word c := by
  rw [candidates_eq_asked hasked, candidates_eq_filter hword, List.mem_filter, decide_eq_true_iff]

theorem mem_candidates_of_append (hword : word ≠ "")
    (hasked : explicit = true ∨ 2 ≤ word.length)
    (h : c ∈ candidates ctx (word ++ typed) data explicit) (hkind : c.kind ≠ .field) :
    c ∈ candidates ctx word data explicit ∧ ∀ d ∈ word.toList, isBlank d = false := by
  have hname := isNameChar_label (offered_of_mem_candidates h) hkind
  have hlonger : explicit = true ∨ 2 ≤ (word ++ typed).length :=
    hasked.imp_right fun hlong => hlong.trans (by simp)
  rw [mem_candidates_iff (by simp [hword]) hlonger] at h
  have hfits := h.2.of_append hkind hname
  exact ⟨(mem_candidates_iff hword hasked).2 ⟨h.1, hfits⟩,
    fun d hd => (hfits.spelled hkind hname hd).2⟩

theorem candidates_of_sameSpot {a b : List Char} (h : SameSpot a b) :
    candidates (Context.after b) word data explicit =
      candidates (Context.after a) word data explicit := by
  rw [h.context]
  rfl

end Candidates

/-! ## Answers for a longer word -/

section Answers

variable {text word typed : String}

theorem currentWord_append_word (htext : ∀ d ∈ text.toList.getLast?, isDelimiter d = true)
    (hword : ∀ d ∈ word.toList, isDelimiter d = false) :
    currentWord (text ++ word) (text ++ word).length = word := by
  have hnone : wordEnding text.toList = [] := by
    rw [wordEnding_eq_rtakeWhile, List.rtakeWhile_eq_nil_iff]
    intro hne
    rw [htext _ (List.getLast?_eq_some_getLast hne), Bool.not_true]
    exact Bool.false_ne_true
  rw [currentWord_length, String.toList_append, wordEnding_append hword, hnone, List.nil_append,
    String.ofList_toList]

/-- As a word is typed on, nothing but fields comes up that has not come up for the shorter word, on
request or from two characters on. -/
theorem mem_options_of_longer_word (htext : ∀ d ∈ text.toList.getLast?, isDelimiter d = true)
    (hword : word ≠ "") (hchars : ∀ d ∈ (word ++ typed).toList, isDelimiter d = false)
    {data : Option Snapshot} {explicit : Bool} (hasked : explicit = true ∨ 2 ≤ word.length)
    {later : Completions}
    (h : provide (text ++ word ++ typed) (text ++ word ++ typed).length data explicit = some later)
    {c : Candidate} (hc : c ∈ later.options) (hkind : c.kind ≠ .field) :
    ∃ found, provide (text ++ word) (text ++ word).length data explicit = some found ∧
      c ∈ found.options := by
  rw [String.append_assoc] at h
  obtain ⟨houtside, hlater⟩ := exists_mem_options_iff.1 ⟨later, h, hc⟩
  rw [currentWord_append_word htext hchars] at hlater
  obtain ⟨hmem, hvisible⟩ := mem_candidates_of_append hword hasked hlater hkind
  rw [String.toList_append] at hchars
  have hshorter : ∀ d ∈ word.toList, isDelimiter d = false := fun d hd =>
    hchars d (List.mem_append_left _ hd)
  -- The word is not empty, so one of its characters is not blank.
  obtain ⟨first, hfirst⟩ := List.exists_mem_of_ne_nil word.toList (by simpa using hword)
  have hspot : SameSpot (text ++ word).toList (text ++ (word ++ typed)).toList := by
    simp only [String.toList_append]
    exact sameSpot_append_word hchars ⟨first, hfirst, hvisible first hfirst⟩ text.toList
  have hinString : isInString (text ++ word) (text ++ word).length =
      isInString (text ++ (word ++ typed)) (text ++ (word ++ typed)).length := by
    rw [isInString, isInString, before_length, before_length]
    exact (congrArg Context.inString hspot.context).symm
  refine exists_mem_options_iff.2 ⟨fun hunasked => hinString.trans (houtside hunasked), ?_⟩
  rw [currentWord_append_word htext hshorter, contextAt_length]
  rwa [contextAt_length, candidates_of_sameSpot hspot] at hmem

end Answers

def trackOffer : Candidate :=
  ofProperty .property ⟨"track_total_hits", "boolean/number", "Track accurate hit count"⟩

/-- The Kelvin sign at the end of what is typed becomes the letter k. -/
theorem mem_options_of_longer_word_track :
    (∀ d ∈ "\x7b".toList.getLast?, isDelimiter d = true) ∧ "tr" ≠ "" ∧
      (∀ d ∈ ("tr" ++ "ac\u212A").toList, isDelimiter d = false) ∧
      (false = true ∨ 2 ≤ "tr".length) ∧
      (∃ later, provide ("\x7b" ++ "tr" ++ "ac\u212A") ("\x7b" ++ "tr" ++ "ac\u212A").length none
        false = some later ∧ trackOffer ∈ later.options) ∧
      trackOffer.kind ≠ .field ∧
      ∃ found, provide ("\x7b" ++ "tr") ("\x7b" ++ "tr").length none false = some found ∧
        trackOffer ∈ found.options := by
  have htext : ∀ d ∈ "\x7b".toList.getLast?, isDelimiter d = true := by simp [isDelimiter]
  have hword : "tr" ≠ "" := by decide
  have hchars : ∀ d ∈ ("tr" ++ "ac\u212A").toList, isDelimiter d = false := by simp [isDelimiter]
  have hasked : false = true ∨ 2 ≤ "tr".length := by decide
  have hkind : trackOffer.kind ≠ .field := by decide
  obtain ⟨later, h, hc⟩ : ∃ later, provide ("\x7b" ++ "tr" ++ "ac\u212A")
      ("\x7b" ++ "tr" ++ "ac\u212A").length none false = some later ∧ trackOffer ∈ later.options :=
    exists_mem_options_iff.2 ⟨fun _ => by decide, by decide +kernel⟩
  exact ⟨htext, hword, hchars, hasked, ⟨later, h, hc⟩, hkind,
    mem_options_of_longer_word htext hword hchars hasked h hc hkind⟩

end QueryAssist.Completion
