import QueryAssist.Hover
import QueryAssist.Proofs.Position.Inverse
/-!
# Hover over a word

A word reads the same from each of its places, both ends included. So the same is shown at all of
them, with a range that covers the word and lies in one line.
-/

namespace QueryAssist.Hover

open Cursor

/-- A text around a longest run of name characters, which may be empty. -/
structure IsWord (text before word after : List Char) : Prop where
  text_eq : text = before ++ word ++ after
  nameChars : ∀ c ∈ word, isNameChar c = true
  before_end : ∀ c ∈ before.getLast?, isNameChar c = false
  after_start : ∀ c ∈ after.head?, isNameChar c = false

def Touches (u : ColumnUnit) (text : String) (p : Position) (before word : List Char) : Prop :=
  before.length ≤ p.offsetIn u text ∧ p.offsetIn u text ≤ before.length + word.length

variable {u : ColumnUnit} {text before word after : List Char}

/-! ## The ends of a word -/

theorem rtakeWhile_before (h : IsWord text before word after) :
    before.rtakeWhile isNameChar = [] := by
  rw [List.rtakeWhile_eq_nil_iff]
  intro hne
  rw [h.before_end _ (List.getLast?_eq_some_getLast hne)]
  exact Bool.false_ne_true

theorem takeWhile_after (h : IsWord text before word after) :
    after.takeWhile isNameChar = [] := by
  rw [List.takeWhile_eq_nil_iff]
  intro hpos
  rw [h.after_start _ (List.head?_eq_getElem? ▸ List.getElem?_eq_getElem hpos)]
  exact Bool.false_ne_true

theorem wordBounds_eq (h : IsWord text before word after) {k : Nat} (hk : k ≤ word.length) :
    wordBounds text (before.length + k) = (before.length, before.length + word.length) := by
  have hleft : (text.take (before.length + k)).rtakeWhile isNameChar = word.take k := by
    rw [h.text_eq, List.append_assoc, List.take_length_add_append,
      List.take_append_of_le_length hk, Text.rtakeWhile_append (rtakeWhile_before h),
      List.rtakeWhile_eq_self_iff]
    exact fun c hc => h.nameChars c (List.mem_of_mem_take hc)
  have hright : (text.drop (before.length + k)).takeWhile isNameChar = word.drop k := by
    rw [h.text_eq, List.append_assoc, List.drop_length_add_append,
      List.drop_append_of_le_length hk,
      List.takeWhile_append_of_pos fun c hc => h.nameChars c (List.mem_of_mem_drop hc),
      takeWhile_after h, List.append_nil]
  have hlength := congrArg List.length hleft
  rw [List.rtakeWhile, List.length_reverse, List.length_take, Nat.min_eq_left hk] at hlength
  rw [wordBounds, hright, hlength, List.length_drop]
  congr 1 <;> omega

theorem exists_isWord {offset : Nat} (h : offset ≤ text.length) :
    ∃ before word after, IsWord text before word after ∧
      before.length ≤ offset ∧ offset ≤ before.length + word.length := by
  have hsplit : text = (text.take offset).rdropWhile isNameChar ++
      ((text.take offset).rtakeWhile isNameChar ++ (text.drop offset).takeWhile isNameChar) ++
      (text.drop offset).dropWhile isNameChar := by
    rw [List.append_assoc, List.append_assoc, List.takeWhile_append_dropWhile,
      ← List.append_assoc, List.rdropWhile_append_rtakeWhile, List.take_append_drop]
  refine ⟨_, _, _, ⟨hsplit, ?_, ?_, ?_⟩, ?_, ?_⟩
  · intro c hc
    rcases List.mem_append.1 hc with hc | hc
    · exact List.mem_rtakeWhile_imp hc
    · exact List.mem_takeWhile_imp hc
  · intro c hc
    obtain ⟨hne, rfl⟩ := List.mem_getLast?_eq_getLast hc
    simpa using List.rdropWhile_last_not isNameChar (text.take offset) hne
  · intro c hc
    have hnot := List.head?_dropWhile_not isNameChar (text.drop offset)
    rw [Option.mem_def.1 hc] at hnot
    simpa using hnot
  · have hle := (List.rdropWhile_prefix isNameChar (text.take offset)).length_le
    rw [List.length_take] at hle
    omega
  · have hsum := congrArg List.length
      (List.rdropWhile_append_rtakeWhile (p := isNameChar) (l := text.take offset))
    rw [List.length_append, List.length_take, Nat.min_eq_left h] at hsum
    rw [List.length_append]
    omega

/-! ## The range of a word -/

structure Covers (u : ColumnUnit) (text : String) (range : Range) (before word : List Char) :
    Prop where
  oneLine : range.start.line = range.stop.line
  offsetIn_start : range.start.offsetIn u text = before.length
  offsetIn_stop : range.stop.offsetIn u text = before.length + word.length

theorem isNameChar_of_getElem? (h : IsWord text before word after) {k : Nat} {c : Char}
    (hk : k < word.length) (hc : text[before.length + k]? = some c) : isNameChar c = true := by
  rw [h.text_eq, List.append_assoc, List.getElem?_append_right (Nat.le_add_right _ _),
    Nat.add_sub_cancel_left, List.getElem?_append_left hk] at hc
  exact h.nameChars c (List.mem_of_getElem? hc)

theorem mem_offsets_start {text : String} (h : IsWord text.toList before word after)
    (hne : word ≠ []) : before.length ∈ Position.offsets text := by
  have hpos := List.length_pos_of_ne_nil hne
  have hlength := congrArg List.length h.text_eq
  simp only [List.length_append] at hlength
  refine ⟨by omega, ?_⟩
  rintro ⟨-, -, hend | hfeed⟩
  · omega
  · exact absurd (isNameChar_of_getElem? h hpos hfeed) (by decide)

theorem mem_offsets_stop {text : String} (h : IsWord text.toList before word after)
    (hne : word ≠ []) : before.length + word.length ∈ Position.offsets text := by
  have hpos := List.length_pos_of_ne_nil hne
  have hlength := congrArg List.length h.text_eq
  simp only [List.length_append] at hlength
  refine ⟨by omega, ?_⟩
  rintro ⟨-, hreturn, -⟩
  rw [Nat.add_sub_assoc hpos] at hreturn
  exact absurd (isNameChar_of_getElem? h (by omega) hreturn) (by decide)

theorem covers_ofOffsets {text : String} (h : IsWord text.toList before word after)
    (hne : word ≠ []) :
    Covers u text (.ofOffsets u text before.length (before.length + word.length : Nat))
      before word where
  oneLine := by
    have hfeed : '\n' ∉ word := fun hmem => absurd (h.nameChars _ hmem) (by decide)
    show (text.toList.take before.length).count '\n' =
      (text.toList.take (before.length + word.length)).count '\n'
    rw [h.text_eq, List.append_assoc, List.take_left, List.take_length_add_append, List.take_left,
      List.count_append, List.count_eq_zero_of_not_mem hfeed, Nat.add_zero]
  offsetIn_start := Position.offsetIn_ofOffset (mem_offsets_start h hne)
  offsetIn_stop := Position.offsetIn_ofOffset (mem_offsets_stop h hne)

/-! ## What is shown -/

def meaning? (text : String) (before word : List Char) : Option String :=
  textFor (String.ofList word) (contextAt text before.length).kind

theorem ofPosition?_eq {text : String} {p : Position} (h : IsWord text.toList before word after)
    (hp : Touches u text p before word) :
    ofPosition? u text p =
      if word = [] then none
      else (meaning? text before word).map fun value =>
        ⟨value, .ofOffsets u text before.length (before.length + word.length : Nat)⟩ := by
  obtain ⟨k, hk⟩ := Nat.exists_eq_add_of_le hp.1
  have hbounds := wordBounds_eq h (k := k) (by have := hp.2; omega)
  have hword : (text.toList.take (before.length + word.length)).drop before.length = word := by
    rw [h.text_eq, List.append_assoc, List.take_length_add_append, List.take_left, List.drop_left]
  have hempty : before.length = before.length + word.length ↔ word = [] := by
    rw [← List.length_eq_zero_iff]
    omega
  simp only [ofPosition?, hk, hbounds, hword, hempty, meaning?]

/-- All places of a word, its ends included, show the same: what the word means where it starts,
with its range, or nothing where the word has no meaning. -/
theorem hover_of_word (u : ColumnUnit) (text : String) (p : Position) :
    (∀ hover, ofPosition? u text p = some hover →
      ∃ before word after, IsWord text.toList before word after ∧ word ≠ [] ∧
        Touches u text p before word ∧ Covers u text hover.range before word ∧
        meaning? text before word = some hover.value ∧
        ∀ q : Position, Touches u text q before word → ofPosition? u text q = some hover) ∧
    (ofPosition? u text p = none →
      ∀ before word after, IsWord text.toList before word after →
        Touches u text p before word →
        (word ≠ [] → meaning? text before word = none) ∧
        ∀ q : Position, Touches u text q before word → ofPosition? u text q = none) := by
  constructor
  · intro hover hshown
    obtain ⟨before, word, after, h, htouches⟩ :=
      exists_isWord (Position.offsetIn_le_length p u text)
    have heq := ofPosition?_eq h htouches
    rw [hshown] at heq
    split_ifs at heq with hne
    obtain ⟨value, hvalue, rfl⟩ := Option.map_eq_some_iff.1 heq.symm
    refine ⟨before, word, after, h, hne, htouches, covers_ofOffsets h hne, hvalue, ?_⟩
    intro q hq
    rw [ofPosition?_eq h hq, if_neg hne, hvalue]
    rfl
  · intro hnone before word after h htouches
    rw [ofPosition?_eq h htouches] at hnone
    refine ⟨?_, fun q hq => (ofPosition?_eq h hq).trans hnone⟩
    intro hne
    rwa [if_neg hne, Option.map_eq_none_iff] at hnone

def twoWords : String := "foo\r\n😀 match"

theorem hover_of_word_twoWords :
    (∃ hover, ofPosition? .utf16 twoWords ⟨1, 8⟩ = some hover ∧
      ∃ before word after, IsWord twoWords.toList before word after ∧ word ≠ [] ∧
        Touches .utf16 twoWords ⟨1, 8⟩ before word ∧
        Covers .utf16 twoWords hover.range before word ∧
        meaning? twoWords before word = some hover.value ∧
        ∀ q : Position, Touches .utf16 twoWords q before word →
          ofPosition? .utf16 twoWords q = some hover) ∧
    ofPosition? .utf16 twoWords ⟨0, 1⟩ = none ∧
    IsWord twoWords.toList [] ['f', 'o', 'o'] "\r\n😀 match".toList ∧
    Touches .utf16 twoWords ⟨0, 1⟩ [] ['f', 'o', 'o'] ∧
    Touches .utf16 twoWords ⟨0, 9⟩ [] ['f', 'o', 'o'] ∧
    meaning? twoWords [] ['f', 'o', 'o'] = none ∧
    ofPosition? .utf16 twoWords ⟨0, 9⟩ = none := by
  obtain ⟨hover, hshown⟩ : ∃ hover, ofPosition? .utf16 twoWords ⟨1, 8⟩ = some hover := ⟨_, rfl⟩
  have hnone : ofPosition? .utf16 twoWords ⟨0, 1⟩ = none := rfl
  have hword : IsWord twoWords.toList [] ['f', 'o', 'o'] "\r\n😀 match".toList := by
    refine ⟨rfl, List.all_eq_true.1 (by decide), ?_, ?_⟩
    · rintro c ⟨⟩
    · rintro c ⟨⟩
      decide
  have htouches : Touches .utf16 twoWords ⟨0, 1⟩ [] ['f', 'o', 'o'] :=
    ⟨by decide, by decide⟩
  have hend : Touches .utf16 twoWords ⟨0, 9⟩ [] ['f', 'o', 'o'] := ⟨by decide, by decide⟩
  obtain ⟨hmeaning, hquiet⟩ :=
    (hover_of_word .utf16 twoWords ⟨0, 1⟩).2 hnone _ _ _ hword htouches
  exact ⟨⟨hover, hshown, (hover_of_word .utf16 twoWords ⟨1, 8⟩).1 hover hshown⟩, hnone, hword,
    htouches, hend, hmeaning (by decide), hquiet ⟨0, 9⟩ hend⟩

end QueryAssist.Hover
