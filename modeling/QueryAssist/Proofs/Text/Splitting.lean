import Mathlib.Tactic.Common
/-!
# Parts between marks

A text split at a mark, part by part.
-/

namespace QueryAssist.Text

variable {mark : Char}

theorem splitOn_mark (rest : List Char) :
    (mark :: rest).splitOn mark = [] :: rest.splitOn mark := by
  rw [List.splitOn_cons_eq_if_modifyHead, if_pos (beq_self_eq_true mark)]

theorem exists_splitOn_cons {c : Char} (hc : c ≠ mark) (rest : List Char) :
    ∃ part parts, rest.splitOn mark = part :: parts ∧
      (c :: rest).splitOn mark = (c :: part) :: parts := by
  obtain ⟨part, parts, hrest⟩ := List.exists_cons_of_ne_nil (List.splitOn_ne_nil mark rest)
  refine ⟨part, parts, hrest, ?_⟩
  rw [List.splitOn_cons_eq_if_modifyHead, if_neg (by simpa using hc), hrest, List.modifyHead_cons]

theorem not_mem_of_mem_splitOn {cs part : List Char} (h : part ∈ cs.splitOn mark) :
    mark ∉ part := by
  induction cs generalizing part with
  | nil =>
      rw [List.splitOn_nil, List.mem_singleton] at h
      rw [h]
      exact List.not_mem_nil
  | cons c rest ih =>
      by_cases hc : c = mark
      · rw [hc, splitOn_mark] at h
        rcases List.mem_cons.1 h with rfl | h
        · exact List.not_mem_nil
        · exact ih h
      · obtain ⟨first, parts, hrest, hcons⟩ := exists_splitOn_cons hc rest
        rw [hcons] at h
        rw [hrest] at ih
        rcases List.mem_cons.1 h with rfl | h
        · rw [List.mem_cons, not_or]
          exact ⟨Ne.symm hc, ih List.mem_cons_self⟩
        · exact ih (List.mem_cons_of_mem first h)

end QueryAssist.Text
