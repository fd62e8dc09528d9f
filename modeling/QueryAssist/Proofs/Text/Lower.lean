import QueryAssist.Text.Blank
import QueryAssist.Text.Match
import Mathlib.Data.List.Infix
import Mathlib.Data.List.TakeWhile
import Mathlib.Tactic.Common
/-!
# Words that grow

In lower case a word begins what it grows into, as long as no capital sigma at its end takes another
form. So what has the longer word in it has the shorter one in it.
-/

namespace QueryAssist.Text

/-! ## Parts of a text -/

theorem hasInfix_iff {part cs : List Char} : hasInfix part cs = true ↔ part <:+: cs := by
  induction cs with
  | nil => rw [hasInfix, List.isEmpty_iff, List.infix_nil]
  | cons c cs ih =>
      rw [hasInfix, Bool.or_eq_true, List.isPrefixOf_iff_prefix, ih, List.infix_cons_iff]

/-! ## Sigmas -/

/-- A capital sigma that ends a word, but for characters that are passed over, is followed by a letter
with a case as more is typed. -/
def SigmaTurns (word typed : List Char) : Prop :=
  ∃ before passed, word = before ++ '\u03A3' :: passed ∧
    (∀ c ∈ passed, isCaseIgnorable c = true) ∧ meetsCased before.reverse = true ∧
    meetsCased typed = true

theorem meetsCased_append_passed {passed : List Char} (h : ∀ c ∈ passed, isCaseIgnorable c = true)
    (cs : List Char) : meetsCased (passed ++ cs) = meetsCased cs := by
  rw [meetsCased, meetsCased, List.dropWhile_append_of_pos h]

theorem meetsCased_append {word : List Char} (h : ¬∀ c ∈ word, isCaseIgnorable c = true)
    (cs : List Char) : meetsCased (word ++ cs) = meetsCased word := by
  have hrest : word.dropWhile isCaseIgnorable ≠ [] := by
    rwa [ne_eq, List.dropWhile_eq_nil_iff]
  obtain ⟨c, rest, hrest⟩ := List.exists_cons_of_ne_nil hrest
  rw [meetsCased, meetsCased, List.dropWhile_append, hrest]
  rfl

theorem lowerAt_append {before rest typed : List Char} {c : Char}
    (h : c = '\u03A3' → (∀ d ∈ rest, isCaseIgnorable d = true) → meetsCased before = true →
      meetsCased typed = false) :
    lowerAt before c (rest ++ typed) = lowerAt before c rest := by
  by_cases hc : c = '\u03A3'
  · by_cases hbefore : meetsCased before = true
    · by_cases hrest : ∀ d ∈ rest, isCaseIgnorable d = true
      · have hend : meetsCased rest = false := by
          have h := meetsCased_append_passed hrest []
          rw [List.append_nil] at h
          rw [h]
          rfl
        rw [lowerAt, lowerAt, meetsCased_append_passed hrest, h hc hrest hbefore, hend]
      · rw [lowerAt, lowerAt, meetsCased_append hrest]
    · simp [lowerAt, hbefore]
  · simp [lowerAt, hc]

theorem lowerFrom_prefix_append {before word typed : List Char}
    (h : ∀ a passed, word = a ++ '\u03A3' :: passed → (∀ c ∈ passed, isCaseIgnorable c = true) →
      meetsCased (a.reverse ++ before) = true → meetsCased typed = false) :
    lowerFrom before word <+: lowerFrom before (word ++ typed) := by
  induction word generalizing before with
  | nil => exact List.nil_prefix
  | cons c rest ih =>
      have hc : lowerAt before c (rest ++ typed) = lowerAt before c rest :=
        lowerAt_append fun hsigma hrest hbefore => h [] rest (by rw [hsigma]; rfl) hrest hbefore
      have hrest : lowerFrom (c :: before) rest <+: lowerFrom (c :: before) (rest ++ typed) := by
        apply ih
        intro a passed hword hpassed hbefore
        apply h (c :: a) passed (by rw [hword]; rfl) hpassed
        rwa [List.reverse_cons, List.append_assoc]
      rw [List.cons_append, lowerFrom, lowerFrom, hc]
      exact (List.prefix_append_right_inj _).2 hrest

theorem lowerChars_prefix_append {word typed : List Char} (h : ¬SigmaTurns word typed) :
    lowerChars word <+: lowerChars (word ++ typed) := by
  apply lowerFrom_prefix_append
  intro before passed hword hpassed hbefore
  rw [List.append_nil] at hbefore
  by_contra htyped
  exact h ⟨before, passed, hword, hpassed, hbefore, eq_true_of_ne_false htyped⟩

/-! ## Single characters -/

theorem exists_lowerAt_subset (before : List Char) {cs : List Char} {c : Char} (h : c ∈ cs) :
    ∃ front rest, lowerAt front c rest ⊆ lowerFrom before cs := by
  induction cs generalizing before with
  | nil => exact absurd h List.not_mem_nil
  | cons d cs ih =>
      rw [lowerFrom]
      rcases List.mem_cons.1 h with rfl | h
      · exact ⟨before, cs, List.subset_append_left _ _⟩
      · obtain ⟨front, rest, hsub⟩ := ih (d :: before) h
        exact ⟨front, rest, List.subset_append_of_subset_right _ hsub⟩

theorem exists_of_mem_lowerFrom {before cs : List Char} {d : Char} (h : d ∈ lowerFrom before cs) :
    ∃ front, ∃ c ∈ cs, ∃ rest, d ∈ lowerAt front c rest := by
  induction cs generalizing before with
  | nil => exact absurd h List.not_mem_nil
  | cons c cs ih =>
      rw [lowerFrom, List.mem_append] at h
      rcases h with h | h
      · exact ⟨before, c, List.mem_cons_self, cs, h⟩
      · obtain ⟨front, e, he, rest, hd⟩ := ih h
        exact ⟨front, e, List.mem_cons_of_mem c he, rest, hd⟩

def blankCodes : List Nat :=
  List.range' 0x09 5 ++ List.range' 0x1C 5 ++ [0x85, 0xA0, 0x1680] ++ List.range' 0x2000 11 ++
    [0x2028, 0x2029, 0x202F, 0x205F, 0x3000]

theorem toNat_mem_blankCodes {c : Char} (h : isBlank c = true) : c.toNat ∈ blankCodes := by
  simp only [isBlank, Bool.or_eq_true, Bool.and_eq_true, decide_eq_true_eq, beq_iff_eq] at h
  simp only [blankCodes, List.mem_append, List.mem_range'_1, List.mem_cons, List.not_mem_nil,
    or_false]
  omega

theorem lowerAt_of_forms {p : Char → Bool} (hforms : ['\u03A3', '\u0130'].any p = false) {c : Char}
    (h : p c = true) (before after : List Char) : lowerAt before c after = [toSmall c] := by
  have hother : ∀ form ∈ ['\u03A3', '\u0130'], c ≠ form := by
    rintro form hform rfl
    exact List.any_eq_false.1 hforms c hform h
  have hsigma : c ≠ '\u03A3' := hother _ (by simp)
  have hdotted : c ≠ '\u0130' := hother _ (by simp)
  rw [lowerAt, if_neg hsigma, if_neg hdotted]

theorem lowerAt_of_isBlank {c : Char} (h : isBlank c = true) (before after : List Char) :
    lowerAt before c after = [c] := by
  have hshift : ∀ code ∈ blankCodes, shiftIn caseRuns code = 0 := by decide +kernel
  rw [lowerAt_of_forms (by decide) h, toSmall, hshift _ (toNat_mem_blankCodes h)]
  rfl

theorem containsWord_of_append {label word typed : String} (h : containsWord label (word ++ typed))
    (hsigma : ¬SigmaTurns word.toList typed.toList) : containsWord label word = true := by
  rw [containsWord, hasInfix_iff, String.toList_append] at h
  rw [containsWord, hasInfix_iff]
  exact (lowerChars_prefix_append hsigma).isInfix.trans h

end QueryAssist.Text
