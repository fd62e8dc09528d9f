import QueryAssist.Cursor.Word
import QueryAssist.Proofs.Text.Ending
/-!
# The word before a cursor

The word is the longest end of the text without a delimiter, so what comes before it is empty or ends
in a delimiter.
-/

namespace QueryAssist.Cursor

theorem before_length (text : String) : before text text.length = text.toList := by
  rw [before, Int.toNat_natCast, ← String.length_toList, List.take_length]

def wordStart (cs : List Char) : Nat :=
  cs.length - (wordEnding cs).length

/-- From an offset on the characters have no delimiter, and no longer end of them has none. -/
structure IsLongestWord (cs : List Char) (start : Nat) : Prop where
  le_length : start ≤ cs.length
  noDelimiter : ∀ c ∈ cs.drop start, isDelimiter c = false
  longest : ∀ s, (∀ c ∈ cs.drop s, isDelimiter c = false) → start ≤ s

theorem wordEnding_eq_rtakeWhile (cs : List Char) :
    wordEnding cs = cs.rtakeWhile fun c => !isDelimiter c := rfl

theorem wordStart_eq (cs : List Char) :
    wordStart cs = (cs.rdropWhile fun c => !isDelimiter c).length :=
  (Text.length_rdropWhile cs).symm

theorem wordStart_le (cs : List Char) : wordStart cs ≤ cs.length :=
  Nat.sub_le _ _

theorem drop_wordStart (cs : List Char) : cs.drop (wordStart cs) = wordEnding cs := by
  rw [wordStart_eq, Text.drop_length_rdropWhile, wordEnding_eq_rtakeWhile]

theorem wordEnding_take_wordStart (cs : List Char) : wordEnding (cs.take (wordStart cs)) = [] := by
  rw [wordStart_eq, Text.take_length_rdropWhile, wordEnding_eq_rtakeWhile,
    Text.rtakeWhile_rdropWhile]

theorem not_isDelimiter_of_mem_wordEnding {cs : List Char} {c : Char} (h : c ∈ wordEnding cs) :
    isDelimiter c = false := by
  have hc := List.mem_rtakeWhile_imp h
  simpa using hc

theorem isLongestWord_wordStart (cs : List Char) : IsLongestWord cs (wordStart cs) := by
  refine ⟨wordStart_le cs, ?_, ?_⟩
  · intro c hc
    rw [drop_wordStart] at hc
    exact not_isDelimiter_of_mem_wordEnding hc
  · intro s hs
    rw [wordStart_eq]
    apply Text.length_rdropWhile_le
    intro c hc
    rw [hs c hc, Bool.not_false]

theorem wordEnding_append {typed : List Char} (h : ∀ c ∈ typed, isDelimiter c = false)
    (cs : List Char) : wordEnding (cs ++ typed) = wordEnding cs ++ typed := by
  have hrev : ∀ c ∈ typed.reverse, (!isDelimiter c) = true := by
    intro c hc
    rw [h c (List.mem_reverse.1 hc), Bool.not_false]
  rw [wordEnding, wordEnding, List.reverse_append, List.takeWhile_append_of_pos hrev,
    List.reverse_append, List.reverse_reverse]

theorem length_le_wordStart_append {a : List Char} (h : wordEnding a = []) (b : List Char) :
    a.length ≤ wordStart (a ++ b) := by
  have hword : wordEnding (a ++ b) = wordEnding b := Text.rtakeWhile_append h b
  have hle : (wordEnding b).length ≤ b.length := (List.rtakeWhile_suffix _ b).length_le
  rw [wordStart, hword, List.length_append]
  omega

end QueryAssist.Cursor
