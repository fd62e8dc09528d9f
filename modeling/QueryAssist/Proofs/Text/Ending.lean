import Mathlib.Data.List.DropRight
import Mathlib.Tactic.Common
/-!
# Endings

The longest end of a text whose characters are all of one sort, and what comes before it.
-/

namespace QueryAssist.Text

variable {p : Char → Bool}

theorem rtakeWhile_append {a : List Char} (h : a.rtakeWhile p = []) (b : List Char) :
    (a ++ b).rtakeWhile p = b.rtakeWhile p := by
  induction b using List.reverseRecOn with
  | nil => rw [List.append_nil, h, List.rtakeWhile_nil]
  | append_singleton b c ih =>
      rw [← List.append_assoc, List.rtakeWhile_concat, List.rtakeWhile_concat, ih]

theorem rtakeWhile_rdropWhile (cs : List Char) : (cs.rdropWhile p).rtakeWhile p = [] :=
  List.rtakeWhile_eq_nil_iff.2 (List.rdropWhile_last_not p cs)

theorem length_rdropWhile (cs : List Char) :
    (cs.rdropWhile p).length = cs.length - (cs.rtakeWhile p).length := by
  have h := congrArg List.length (List.rdropWhile_append_rtakeWhile (p := p) (l := cs))
  rw [List.length_append] at h
  omega

theorem take_length_rdropWhile (cs : List Char) :
    cs.take (cs.rdropWhile p).length = cs.rdropWhile p :=
  (List.prefix_iff_eq_take.1 (List.rdropWhile_prefix p cs)).symm

theorem drop_length_rdropWhile (cs : List Char) :
    cs.drop (cs.rdropWhile p).length = cs.rtakeWhile p := by
  have h : (cs.rdropWhile p ++ cs.rtakeWhile p).drop (cs.rdropWhile p).length = cs.rtakeWhile p :=
    List.drop_left
  rwa [List.rdropWhile_append_rtakeWhile] at h

theorem length_rdropWhile_le {cs : List Char} {start : Nat}
    (h : ∀ c ∈ cs.drop start, p c = true) : (cs.rdropWhile p).length ≤ start := by
  by_contra hlt
  have hdrop : (cs.rdropWhile p).drop start ≠ [] :=
    List.ne_nil_of_length_pos (by rw [List.length_drop]; omega)
  have hsplit : cs.drop start = (cs.rdropWhile p).drop start ++ cs.rtakeWhile p := by
    conv_lhs => rw [← List.rdropWhile_append_rtakeWhile (p := p) (l := cs)]
    exact List.drop_append_of_le_length (by omega)
  have hmem : ((cs.rdropWhile p).drop start).getLast hdrop ∈ cs.drop start := by
    rw [hsplit]
    exact List.mem_append_left _ (List.getLast_mem hdrop)
  rw [List.getLast_drop] at hmem
  have hne : cs.rdropWhile p ≠ [] := List.ne_nil_of_length_pos (by omega)
  exact List.rdropWhile_last_not p cs hne (h _ hmem)

end QueryAssist.Text
