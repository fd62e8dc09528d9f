import Mathlib.Data.Set.Function
import QueryAssist.Proofs.Position.Lines
/-!
# Positions and offsets as inverses

Each offset of a document is a place in one of its lines. Going to its position and back is the
identity, and so is the other way round, but for the offset behind a carriage return that ends a
line: positions do not reach it, and its own leads back to the offset before the carriage return.
-/

namespace QueryAssist

/-! ## Places in lines -/

theorem exists_line_of_le_length {text : List Char} {offset : Nat} (h : offset ≤ text.length) :
    ∃ number line k, (text.splitOn '\n')[number]? = some line ∧ k ≤ line.length ∧
      offset = lineStart text number + k := by
  induction text generalizing offset with
  | nil => exact ⟨0, [], 0, rfl, Nat.le_refl 0, Nat.le_zero.1 h⟩
  | cons c rest ih =>
      cases offset with
      | zero =>
          obtain ⟨line, lines, hlines⟩ : ∃ line lines, (c :: rest).splitOn '\n' = line :: lines := by
            by_cases hc : c = '\n'
            · exact ⟨[], rest.splitOn '\n', by rw [hc, Text.splitOn_mark]⟩
            · obtain ⟨line, lines, -, hcons⟩ := Text.exists_splitOn_cons hc rest
              exact ⟨c :: line, lines, hcons⟩
          exact ⟨0, line, 0, by rw [hlines]; rfl, Nat.zero_le _, by rw [lineStart]; rfl⟩
      | succ offset =>
          obtain ⟨number, line, k, hline, hk, hoffset⟩ := ih (Nat.le_of_succ_le_succ h)
          rw [lineStart] at hoffset
          by_cases hc : c = '\n'
          · refine ⟨number + 1, line, k, by rw [hc, Text.splitOn_mark]; exact hline, hk, ?_⟩
            rw [lineStart, hc, Text.splitOn_mark, List.take_succ_cons, lengthWithFeeds,
              List.length_nil]
            omega
          · obtain ⟨first, lines, hrest, hcons⟩ := Text.exists_splitOn_cons hc rest
            rw [hrest] at hline hoffset
            cases number with
            | zero =>
                -- the first line grows by the character, and so does the place in it
                obtain rfl : first = line := by simpa using hline
                refine ⟨0, c :: first, k + 1, by rw [hcons]; rfl, Nat.succ_le_succ hk, ?_⟩
                rw [lineStart, List.take_zero, lengthWithFeeds] at *
                omega
            | succ number =>
                refine ⟨number + 1, line, k, by rw [hcons]; exact hline, hk, ?_⟩
                rw [List.take_succ_cons, lengthWithFeeds] at hoffset
                rw [lineStart, hcons, List.take_succ_cons, lengthWithFeeds, List.length_cons]
                omega

theorem getLast?_withFeeds (lines : List (List Char)) :
    (withFeeds lines).getLast? = if lines = [] then none else some '\n' := by
  induction lines using List.reverseRecOn with
  | nil => rfl
  | append_singleton lines line _ =>
      rw [withFeeds_append, withFeeds_cons, ← List.append_assoc, if_neg (by simp)]
      exact List.getLast?_concat

/-! ## Behind a carriage return -/

/-- Right behind a carriage return that ends a line. -/
def IsBehindReturn (text : List Char) (offset : Nat) : Prop :=
  1 ≤ offset ∧ text[offset - 1]? = some '\r' ∧ (offset = text.length ∨ text[offset]? = some '\n')

section Line

variable {text line : List Char} {number k : Nat}

theorem endsLine_iff (h : (text.splitOn '\n')[number]? = some line) (hk : k ≤ line.length) :
    (lineStart text number + k = text.length ∨ text[lineStart text number + k]? = some '\n') ↔
      k = line.length := by
  have hle := lineStart_add_le h
  have hfeed : (text ++ ['\n'])[lineStart text number + k]? = some '\n' ↔ k = line.length := by
    rw [append_feed_eq h, lineStart, ← length_withFeeds, List.getElem?_append_right (by omega),
      Nat.add_sub_cancel_left]
    constructor
    · intro hget
      by_contra hne
      rw [List.getElem?_append_left (by omega)] at hget
      exact Text.not_mem_of_mem_splitOn (List.mem_of_getElem? h) (List.mem_of_getElem? hget)
    · rintro rfl
      rw [List.getElem?_append_right (Nat.le_refl _), Nat.sub_self]
      rfl
  rw [← hfeed]
  rcases Nat.lt_or_ge (lineStart text number + k) text.length with hlt | hge
  · rw [List.getElem?_append_left hlt]
    exact or_iff_right hlt.ne
  · have hend : lineStart text number + k = text.length := by omega
    rw [hend, List.getElem?_concat_length]
    exact iff_of_true (.inl rfl) rfl

theorem length_dropReturn (line : List Char) :
    (dropReturn line).length = if line.getLast? = some '\r' then line.length - 1 else line.length := by
  unfold dropReturn
  split_ifs
  · exact List.length_dropLast
  · rfl

theorem isBehindReturn_iff (h : (text.splitOn '\n')[number]? = some line) (hk : k ≤ line.length) :
    IsBehindReturn text (lineStart text number + k) ↔ (dropReturn line).length < k := by
  have hle := lineStart_add_le h
  have hlast : ∀ offset ≤ text.length, 1 ≤ offset →
      text[offset - 1]? = (text.take offset).getLast? := by
    intro offset hoffset hpos
    rw [List.getLast?_take, if_neg (by omega), List.getElem?_eq_getElem (by omega)]
    rfl
  rw [IsBehindReturn, endsLine_iff h hk, length_dropReturn]
  constructor
  · rintro ⟨hpos, hreturn, rfl⟩
    rw [hlast _ hle hpos, take_lineStart_add h (Nat.le_refl _), List.take_length,
      List.getLast?_append, getLast?_withFeeds] at hreturn
    cases hline : line.getLast? with
    | none =>
        -- before an empty line there is a line feed or nothing
        rw [hline] at hreturn
        split_ifs at hreturn <;> simp at hreturn
    | some c =>
        rw [hline] at hreturn
        have hne : line ≠ [] := by
          rintro rfl
          exact absurd hline.symm (Option.some_ne_none c)
        have hlength := List.length_pos_of_ne_nil hne
        rw [if_pos (by simpa using hreturn)]
        omega
  · intro hlt
    split_ifs at hlt with hreturn
    · have hpos : 0 < line.length := by omega
      obtain rfl : k = line.length := by omega
      refine ⟨by omega, ?_, rfl⟩
      rw [hlast _ hle (by omega), take_lineStart_add h (Nat.le_refl _), List.take_length,
        List.getLast?_append, hreturn]
      rfl
    · omega

end Line

/-! ## Columns of a line -/

namespace ColumnUnit

theorem measure_eq (u : ColumnUnit) (cs : List Char) :
    u.measure cs = cs.length + u.astralExtra * cs.countP (0xFFFF < ·.toNat) := by
  induction cs with
  | nil => rfl
  | cons c cs ih =>
      rw [measure, ih, List.length_cons, List.countP_cons, width]
      by_cases hc : 0xFFFF < c.toNat
      · rw [if_pos hc, if_pos (decide_eq_true hc), Nat.mul_add]
        omega
      · simp only [if_neg hc, decide_eq_false hc, Bool.false_eq_true, if_false, Nat.add_zero]
        omega

theorem measure_append (u : ColumnUnit) (a b : List Char) :
    u.measure (a ++ b) = u.measure a + u.measure b := by
  rw [measure_eq, measure_eq, measure_eq, List.length_append, List.countP_append, Nat.mul_add]
  omega

theorem charsUpTo_of_measure_le (u : ColumnUnit) {line : List Char} {columns : Nat}
    (h : u.measure line ≤ columns) : u.charsUpTo columns line = line.length := by
  induction line generalizing columns with
  | nil => cases columns <;> rfl
  | cons c line ih =>
      rw [measure] at h
      have hwidth := u.width_pos c
      cases columns with
      | zero => omega
      | succ columns => rw [charsUpTo, ih (by omega), List.length_cons]

end ColumnUnit

/-! ## There and back -/

namespace Position

/-- The offsets that a position stands for. -/
def offsets (text : String) : Set Nat :=
  {offset | offset ≤ text.toList.length ∧ ¬IsBehindReturn text.toList offset}

/-- The positions behind some characters of a line, without the carriage return that may end it. -/
def positions (u : ColumnUnit) (text : String) : Set Position :=
  {p | ∃ line taken, (text.toList.splitOn '\n')[p.line]? = some line ∧
    taken <+: dropReturn line ∧
    p.character = taken.length + u.astralExtra * taken.countP (0xFFFF < ·.toNat)}

variable {u : ColumnUnit} {text : String}

theorem mem_offsets_iff {line : List Char} {number k : Nat}
    (h : (text.toList.splitOn '\n')[number]? = some line) (hk : k ≤ line.length) :
    lineStart text.toList number + k ∈ offsets text ↔ k ≤ (dropReturn line).length := by
  have hle := lineStart_add_le h
  rw [← Nat.not_lt, ← isBehindReturn_iff h hk]
  exact and_iff_right (by omega)

theorem exists_place_of_mem_offsets {offset : Nat} (h : offset ∈ offsets text) :
    ∃ number line k, (text.toList.splitOn '\n')[number]? = some line ∧
      k ≤ (dropReturn line).length ∧ offset = lineStart text.toList number + k := by
  obtain ⟨number, line, k, hline, hk, rfl⟩ := exists_line_of_le_length h.1
  exact ⟨number, line, k, hline, (mem_offsets_iff hline hk).1 h, rfl⟩

theorem exists_place_of_mem_positions {p : Position} (h : p ∈ positions u text) :
    ∃ line k, (text.toList.splitOn '\n')[p.line]? = some line ∧ k ≤ (dropReturn line).length ∧
      p = ⟨p.line, u.measure (line.take k)⟩ := by
  obtain ⟨line, taken, hline, htaken, hcharacter⟩ := h
  have htake : line.take taken.length = taken :=
    (List.prefix_iff_eq_take.1 (htaken.trans (prefix_dropReturn line))).symm
  refine ⟨line, taken.length, hline, htaken.length_le, ?_⟩
  rw [htake, u.measure_eq, ← hcharacter]

theorem ofOffset_lineStart_add {line : List Char} {number k : Nat}
    (h : (text.toList.splitOn '\n')[number]? = some line) (hk : k ≤ line.length) :
    ofOffset u text (lineStart text.toList number + k : Nat) = ⟨number, u.measure (line.take k)⟩ :=
  afterChars_take h hk

theorem ofOffset_mem_positions {offset : Nat} (h : offset ∈ offsets text) :
    ofOffset u text offset ∈ positions u text := by
  obtain ⟨number, line, k, hline, hk, rfl⟩ := exists_place_of_mem_offsets h
  rw [ofOffset_lineStart_add hline (hk.trans (prefix_dropReturn line).length_le)]
  have hprefix : line.take k <+: dropReturn line := by
    rw [List.prefix_iff_eq_take.1 (prefix_dropReturn line)]
    exact List.take_prefix_take_left hk
  exact ⟨line, line.take k, hline, hprefix, u.measure_eq _⟩

theorem offsetIn_ofOffset {offset : Nat} (h : offset ∈ offsets text) :
    (ofOffset u text offset).offsetIn u text = offset := by
  obtain ⟨number, line, k, hline, hk, rfl⟩ := exists_place_of_mem_offsets h
  exact offsetInChars_afterChars hline hk

theorem exists_ofOffset_eq {p : Position} (h : p ∈ positions u text) :
    ∃ offset ∈ offsets text, ofOffset u text (offset : Nat) = p := by
  obtain ⟨line, k, hline, hk, hp⟩ := exists_place_of_mem_positions h
  have hkline := hk.trans (prefix_dropReturn line).length_le
  refine ⟨_, (mem_offsets_iff hline hkline).2 hk, ?_⟩
  rw [ofOffset_lineStart_add hline hkline, ← hp]

/-- The offset behind a carriage return has the column of the line's end behind that of its last
character, and the way back stops at the end. -/
theorem offsetIn_ofOffset_of_not_mem {offset : Nat} (hle : offset ≤ text.toList.length)
    (h : offset ∉ offsets text) : (ofOffset u text offset).offsetIn u text + 1 = offset := by
  obtain ⟨number, line, k, hline, hk, rfl⟩ := exists_line_of_le_length hle
  rw [mem_offsets_iff hline hk, Nat.not_le, length_dropReturn] at h
  split_ifs at h with hreturn
  · obtain rfl : k = line.length := by omega
    have hdrop : dropReturn line = line.dropLast := if_pos hreturn
    have hcolumns : u.measure line.dropLast ≤ u.measure line := by
      rw [← List.dropLast_append_getLast? _ hreturn, u.measure_append, List.dropLast_concat]
      exact Nat.le_add_right _ _
    rw [ofOffset_lineStart_add hline hk, List.take_length, offsetIn_eq hline, hdrop,
      u.charsUpTo_of_measure_le hcolumns, List.length_dropLast]
    show lineStart text.toList number + (line.length - 1) + 1 = _
    omega
  · omega

/-- Offsets and positions are one to one and stand for each other, in any unit of columns, but for the
offsets behind a carriage return that ends a line, which lead one back. -/
theorem invOn_offsets_positions (u : ColumnUnit) (text : String) :
    Set.BijOn (fun offset : Nat => ofOffset u text offset) (offsets text) (positions u text) ∧
      Set.BijOn (fun p => p.offsetIn u text) (positions u text) (offsets text) ∧
      Set.InvOn (fun p => p.offsetIn u text) (fun offset : Nat => ofOffset u text offset)
        (offsets text) (positions u text) ∧
      ∀ offset ≤ text.toList.length, offset ∉ offsets text →
        (ofOffset u text offset).offsetIn u text + 1 = offset := by
  have hinv : Set.InvOn (fun p => p.offsetIn u text) (fun offset : Nat => ofOffset u text offset)
      (offsets text) (positions u text) := by
    refine ⟨fun offset h => offsetIn_ofOffset h, fun p h => ?_⟩
    obtain ⟨offset, hoffset, rfl⟩ := exists_ofOffset_eq h
    exact congrArg (fun o : Nat => ofOffset u text o) (offsetIn_ofOffset hoffset)
  have hoffsets : Set.MapsTo (fun p => p.offsetIn u text) (positions u text) (offsets text) := by
    intro p h
    obtain ⟨offset, hoffset, rfl⟩ := exists_ofOffset_eq h
    show (ofOffset u text offset).offsetIn u text ∈ offsets text
    rwa [offsetIn_ofOffset hoffset]
  have hbij := hinv.bijOn (fun offset h => ofOffset_mem_positions h) hoffsets
  exact ⟨hbij, hbij.symm hinv.symm, hinv, fun offset hle h => offsetIn_ofOffset_of_not_mem hle h⟩

def astralLine : String := "😀\r\n"

theorem invOn_offsets_positions_astralLine :
    2 ≤ astralLine.toList.length ∧ 2 ∉ offsets astralLine ∧ ofOffset .utf16 astralLine 2 = ⟨0, 3⟩ ∧
      offsetIn ⟨0, 3⟩ .utf16 astralLine + 1 = 2 := by
  have hle : 2 ≤ astralLine.toList.length := by decide
  have hreturn : 2 ∉ offsets astralLine := fun h => h.2 ⟨by decide, rfl, .inr rfl⟩
  have hposition : ofOffset .utf16 astralLine 2 = ⟨0, 3⟩ := by decide
  have hback := (invOn_offsets_positions .utf16 astralLine).2.2.2 2 hle hreturn
  exact ⟨hle, hreturn, hposition, by rwa [← hposition]⟩

end Position

end QueryAssist
