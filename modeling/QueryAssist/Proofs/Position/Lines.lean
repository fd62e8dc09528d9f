import QueryAssist.Position.Offset
import QueryAssist.Proofs.Text.Ending
import QueryAssist.Proofs.Text.Splitting
/-!
# Lines and columns

An offset is the place of a character in a line. Going to the position of an offset and back gives
the same offset, as long as it does not lie behind a carriage return that ends the line.
-/

namespace QueryAssist

/-! ## Lines -/

def withFeeds (lines : List (List Char)) : List Char :=
  lines.flatMap (· ++ ['\n'])

theorem withFeeds_cons (line : List Char) (lines : List (List Char)) :
    withFeeds (line :: lines) = line ++ '\n' :: withFeeds lines := by
  simp [withFeeds]

theorem withFeeds_append (a b : List (List Char)) :
    withFeeds (a ++ b) = withFeeds a ++ withFeeds b := by
  simp [withFeeds]

theorem length_withFeeds (lines : List (List Char)) :
    (withFeeds lines).length = lengthWithFeeds lines := by
  induction lines with
  | nil => rfl
  | cons line lines ih =>
      rw [withFeeds_cons, List.length_append, List.length_cons, ih, lengthWithFeeds]
      omega

theorem withFeeds_splitOn (text : List Char) :
    withFeeds (text.splitOn '\n') = text ++ ['\n'] := by
  induction text with
  | nil => rfl
  | cons c rest ih =>
      by_cases hc : c = '\n'
      · rw [hc, Text.splitOn_mark, withFeeds_cons, ih]
        rfl
      · obtain ⟨line, lines, hrest, hcons⟩ := Text.exists_splitOn_cons hc rest
        rw [hrest, withFeeds_cons] at ih
        rw [hcons, withFeeds_cons, List.cons_append, ih]
        rfl

theorem count_withFeeds {lines : List (List Char)} (h : ∀ line ∈ lines, '\n' ∉ line) :
    (withFeeds lines).count '\n' = lines.length := by
  induction lines with
  | nil => rfl
  | cons line lines ih =>
      rw [withFeeds_cons, List.count_append, List.count_cons_self,
        ih fun l hl => h l (List.mem_cons_of_mem line hl),
        List.count_eq_zero_of_not_mem (h line List.mem_cons_self), List.length_cons]
      omega

theorem rtakeWhile_withFeeds {p : Char → Bool} (hp : p '\n' = false) (lines : List (List Char)) :
    (withFeeds lines).rtakeWhile p = [] := by
  induction lines using List.reverseRecOn with
  | nil => rfl
  | append_singleton lines line _ =>
      rw [withFeeds_append, withFeeds_cons, ← List.append_assoc]
      exact List.rtakeWhile_concat_neg _ _ _ (by simp [hp])

def lineStart (text : List Char) (number : Nat) : Nat :=
  lengthWithFeeds ((text.splitOn '\n').take number)

theorem append_feed_eq {text line : List Char} {number : Nat}
    (h : (text.splitOn '\n')[number]? = some line) :
    text ++ ['\n'] = withFeeds ((text.splitOn '\n').take number) ++
      (line ++ '\n' :: withFeeds ((text.splitOn '\n').drop (number + 1))) := by
  obtain ⟨hlt, hline⟩ := List.getElem?_eq_some_iff.1 h
  have hlines : text.splitOn '\n' =
      (text.splitOn '\n').take number ++ line :: (text.splitOn '\n').drop (number + 1) := by
    rw [← hline, List.getElem_cons_drop, List.take_append_drop]
  calc
    text ++ ['\n'] = withFeeds (text.splitOn '\n') := (withFeeds_splitOn text).symm
    _ = withFeeds ((text.splitOn '\n').take number ++
        line :: (text.splitOn '\n').drop (number + 1)) := congrArg withFeeds hlines
    _ = _ := by rw [withFeeds_append, withFeeds_cons]

theorem lineStart_add_le {text line : List Char} {number : Nat}
    (h : (text.splitOn '\n')[number]? = some line) :
    lineStart text number + line.length ≤ text.length := by
  have hlength := congrArg List.length (append_feed_eq h)
  simp only [List.length_append, List.length_cons, List.length_nil, length_withFeeds] at hlength
  rw [lineStart]
  omega

theorem take_lineStart_add {text line : List Char} {number k : Nat}
    (h : (text.splitOn '\n')[number]? = some line) (hk : k ≤ line.length) :
    text.take (lineStart text number + k) =
      withFeeds ((text.splitOn '\n').take number) ++ line.take k := by
  have hle := lineStart_add_le h
  have hlength : lineStart text number = (withFeeds ((text.splitOn '\n').take number)).length :=
    (length_withFeeds _).symm
  calc
    text.take (lineStart text number + k) = (text ++ ['\n']).take (lineStart text number + k) :=
      (List.take_append_of_le_length (by omega)).symm
    _ = _ := by
      rw [append_feed_eq h, hlength, List.take_length_add_append,
        List.take_append_of_le_length hk]

/-! ## Columns -/

namespace ColumnUnit

theorem width_pos (u : ColumnUnit) (c : Char) : 0 < u.width c := by
  unfold width
  split_ifs <;> omega

theorem charsUpTo_le_length (u : ColumnUnit) (columns : Nat) (line : List Char) :
    u.charsUpTo columns line ≤ line.length := by
  induction line generalizing columns with
  | nil => cases columns <;> exact Nat.le_refl 0
  | cons c line ih =>
      cases columns with
      | zero => exact Nat.zero_le _
      | succ columns => exact Nat.succ_le_succ (ih _)

theorem charsUpTo_measure (u : ColumnUnit) (a b : List Char) :
    u.charsUpTo (u.measure a) (a ++ b) = a.length := by
  induction a with
  | nil => cases b <;> rfl
  | cons c a ih =>
      have hwidth := u.width_pos c
      obtain ⟨columns, hcolumns⟩ : ∃ columns, u.width c + u.measure a = columns + 1 :=
        Nat.exists_eq_succ_of_ne_zero (by omega)
      have hrest : columns + 1 - u.width c = u.measure a := by omega
      rw [measure, hcolumns, List.cons_append, charsUpTo, hrest, ih, List.length_cons]

end ColumnUnit

theorem prefix_dropReturn (line : List Char) : dropReturn line <+: line := by
  unfold dropReturn
  split_ifs
  · exact List.dropLast_prefix line
  · exact List.prefix_refl line

theorem take_dropReturn {line : List Char} {k : Nat} (hk : k ≤ (dropReturn line).length) :
    (dropReturn line).take k = line.take k := by
  rw [List.prefix_iff_eq_take.1 (prefix_dropReturn line), List.take_take, Nat.min_eq_left hk]

/-! ## There and back -/

namespace Position

theorem afterChars_take {u : ColumnUnit} {text line : List Char} {number k : Nat}
    (h : (text.splitOn '\n')[number]? = some line) (hk : k ≤ line.length) :
    afterChars u (text.take (lineStart text number + k)) = ⟨number, u.measure (line.take k)⟩ := by
  obtain ⟨hlt, hline⟩ := List.getElem?_eq_some_iff.1 h
  have hnofeed : '\n' ∉ line.take k := fun hmem =>
    Text.not_mem_of_mem_splitOn (List.mem_of_getElem? h) (List.mem_of_mem_take hmem)
  have hcount : (withFeeds ((text.splitOn '\n').take number)).count '\n' = number := by
    rw [count_withFeeds fun l hl => Text.not_mem_of_mem_splitOn (List.mem_of_mem_take hl),
      List.length_take]
    omega
  have htail : ((withFeeds ((text.splitOn '\n').take number) ++ line.take k).reverse.takeWhile
      (· != '\n')).reverse = line.take k := by
    refine (Text.rtakeWhile_append (rtakeWhile_withFeeds (by decide) _) _).trans ?_
    rw [List.rtakeWhile_eq_self_iff]
    intro c hc
    rw [bne_iff_ne]
    rintro rfl
    exact hnofeed hc
  rw [take_lineStart_add h hk, afterChars, htail, List.count_append, hcount,
    List.count_eq_zero_of_not_mem hnofeed, Nat.add_zero]

theorem offsetInChars_eq {u : ColumnUnit} {text line : List Char} {p : Position}
    (h : (text.splitOn '\n')[p.line]? = some line) :
    p.offsetInChars u text =
      lineStart text p.line + u.charsUpTo p.character (dropReturn line) := by
  simp only [offsetInChars, h, lineStart]

theorem offsetIn_eq {u : ColumnUnit} {text : String} {p : Position} {line : List Char}
    (h : (text.toList.splitOn '\n')[p.line]? = some line) :
    p.offsetIn u text =
      lineStart text.toList p.line + u.charsUpTo p.character (dropReturn line) :=
  offsetInChars_eq h

theorem offsetIn_past {u : ColumnUnit} {text : String} {p : Position}
    (h : (text.toList.splitOn '\n')[p.line]? = none) :
    p.offsetIn u text = text.toList.length := by
  simp only [offsetIn, offsetInChars, h]

theorem offsetIn_le_lineEnd {u : ColumnUnit} {text : String} {p : Position} {line : List Char}
    (h : (text.toList.splitOn '\n')[p.line]? = some line) :
    p.offsetIn u text ≤ lineStart text.toList p.line + line.length := by
  have hcolumns := u.charsUpTo_le_length p.character (dropReturn line)
  rw [offsetIn_eq h]
  exact Nat.add_le_add_left (hcolumns.trans (prefix_dropReturn line).length_le) _

theorem offsetIn_le_length (p : Position) (u : ColumnUnit) (text : String) :
    p.offsetIn u text ≤ text.toList.length := by
  cases hline : (text.toList.splitOn '\n')[p.line]? with
  | none => exact (offsetIn_past hline).le
  | some line => exact (offsetIn_le_lineEnd hline).trans (lineStart_add_le hline)

theorem offsetInChars_afterChars {u : ColumnUnit} {text line : List Char} {number k : Nat}
    (h : (text.splitOn '\n')[number]? = some line) (hk : k ≤ (dropReturn line).length) :
    (afterChars u (text.take (lineStart text number + k))).offsetInChars u text =
      lineStart text number + k := by
  have hle : k ≤ line.length := hk.trans (prefix_dropReturn line).length_le
  have hcolumns := u.charsUpTo_measure ((dropReturn line).take k) ((dropReturn line).drop k)
  rw [List.take_append_drop, List.length_take, Nat.min_eq_left hk] at hcolumns
  rw [afterChars_take h hle, offsetInChars_eq h, ← take_dropReturn hk, hcolumns]

end Position

end QueryAssist
