import Mathlib.Algebra.GroupWithZero.Nat
import Mathlib.Data.Prod.Lex
import Mathlib.Order.Bounds.Defs
import Mathlib.Order.Interval.Set.Basic
import QueryAssist.Proofs.Position.Inverse
/-!
# Positions and offsets in order

Positions are read by lines, then by columns. Later positions do not have smaller offsets, and later
offsets have later positions. Within a line, a position stands for the first place that reaches its
column, or for the line's end.
-/

namespace QueryAssist

instance : Preorder Position :=
  Preorder.lift fun p => toLex (p.line, p.character)

variable {u : ColumnUnit}

/-! ## Columns of a line -/

namespace ColumnUnit

theorem charsUpTo_le_iff {columns k : Nat} {line : List Char} :
    u.charsUpTo columns line ≤ k ↔ columns ≤ u.measure (line.take k) ∨ line.length ≤ k := by
  induction line generalizing columns k with
  | nil => cases columns <;> simp [charsUpTo]
  | cons c line ih =>
      have hwidth := u.width_pos c
      cases columns with
      | zero => simp [charsUpTo]
      | succ columns =>
          cases k with
          | zero => simp [charsUpTo, measure]
          | succ k =>
              -- a character that is wider than what is left of the columns uses them up
              rw [charsUpTo, Nat.add_le_add_iff_right, ih, List.take_succ_cons, measure,
                List.length_cons]
              omega

theorem charsUpTo_mono (line : List Char) : Monotone fun columns => u.charsUpTo columns line := by
  intro columns more hle
  rcases charsUpTo_le_iff.1 (Nat.le_refl (u.charsUpTo more line)) with hreach | hend
  · exact charsUpTo_le_iff.2 (.inl (hle.trans hreach))
  · exact charsUpTo_le_iff.2 (.inr hend)

theorem measure_take_lt {line : List Char} {k l : Nat} (hkl : k < l) (hl : l ≤ line.length) :
    u.measure (line.take k) < u.measure (line.take l) := by
  have hsplit : line.take l = line.take k ++ (line.take l).drop k := by
    have hshort : line.take k = (line.take l).take k := by
      rw [List.take_take, Nat.min_eq_left hkl.le]
    rw [hshort, List.take_append_drop]
  have hmore : l - k ≤ u.measure ((line.take l).drop k) := by
    rw [u.measure_eq, List.length_drop, List.length_take, Nat.min_eq_left hl]
    exact Nat.le_add_right _ _
  rw [hsplit, u.measure_append]
  omega

end ColumnUnit

/-! ## Lines -/

section Lines

variable {text line : List Char} {number : Nat}

theorem lengthWithFeeds_eq_sum (lines : List (List Char)) :
    lengthWithFeeds lines = (lines.map (·.length + 1)).sum := by
  induction lines with
  | nil => rfl
  | cons line lines ih => rw [lengthWithFeeds, ih, List.map_cons, List.sum_cons]

theorem lineStart_eq_sum (text : List Char) (number : Nat) :
    lineStart text number = (((text.splitOn '\n').take number).map (·.length + 1)).sum := by
  rw [lineStart, lengthWithFeeds_eq_sum]

theorem lineStart_add_lt {later : Nat} (h : (text.splitOn '\n')[number]? = some line)
    (hlater : number < later) : lineStart text number + line.length < lineStart text later := by
  have htake : (text.splitOn '\n').take number ++ [line] = (text.splitOn '\n').take (number + 1) := by
    rw [List.take_add_one, h, Option.toList_some]
  have hprefix : (text.splitOn '\n').take number ++ [line] <+: (text.splitOn '\n').take later := by
    rw [htake]
    exact List.take_prefix_take_left hlater
  obtain ⟨rest, hrest⟩ := hprefix
  rw [lineStart, lineStart, ← hrest, lengthWithFeeds_eq_sum, lengthWithFeeds_eq_sum]
  simp only [List.map_append, List.map_cons, List.map_nil, List.sum_append, List.sum_cons,
    List.sum_nil]
  omega

theorem drop_lineStart {k : Nat} (h : (text.splitOn '\n')[number]? = some line)
    (hk : k ≤ line.length) :
    (text.take (lineStart text number + k)).drop (lineStart text number) = line.take k := by
  rw [take_lineStart_add h hk, lineStart, ← length_withFeeds, List.drop_left]

end Lines

/-! ## Positions -/

namespace Position

theorem le_iff {p q : Position} :
    p ≤ q ↔ p.line < q.line ∨ p.line = q.line ∧ p.character ≤ q.character :=
  Prod.Lex.toLex_le_toLex

theorem lt_iff {p q : Position} :
    p < q ↔ p.line < q.line ∨ p.line = q.line ∧ p.character < q.character :=
  Prod.Lex.toLex_lt_toLex

theorem offsetIn_mono (u : ColumnUnit) (text : String) :
    Monotone fun p : Position => p.offsetIn u text := by
  intro p q hpq
  show p.offsetIn u text ≤ q.offsetIn u text
  cases hq : (text.toList.splitOn '\n')[q.line]? with
  | none =>
      rw [offsetIn_past hq]
      exact offsetIn_le_length p u text
  | some last =>
      rcases le_iff.1 hpq with hline | ⟨hline, hcharacter⟩
      · have hlt : q.line < (text.toList.splitOn '\n').length := (List.getElem?_eq_some_iff.1 hq).1
        have hp := List.getElem?_eq_getElem (hline.trans hlt)
        calc
          p.offsetIn u text ≤ lineStart text.toList p.line + _ := offsetIn_le_lineEnd hp
          _ ≤ lineStart text.toList q.line := (lineStart_add_lt hp hline).le
          _ ≤ q.offsetIn u text := by
            rw [offsetIn_eq hq]
            exact Nat.le_add_right _ _
      · rw [offsetIn_eq (hline ▸ hq), offsetIn_eq hq, hline]
        exact Nat.add_le_add_left (u.charsUpTo_mono _ hcharacter) _

theorem ofOffset_strictMonoOn (u : ColumnUnit) (text : String) :
    StrictMonoOn (fun offset : Nat => ofOffset u text offset) (Set.Iic text.toList.length) := by
  intro first hfirst second hsecond hlt
  obtain ⟨n, line, k, hline, hk, rfl⟩ := exists_line_of_le_length hfirst
  obtain ⟨m, other, l, hother, hl, rfl⟩ := exists_line_of_le_length hsecond
  show ofOffset u text _ < ofOffset u text _
  rw [ofOffset_lineStart_add hline hk, ofOffset_lineStart_add hother hl, lt_iff]
  rcases Nat.lt_trichotomy n m with hnm | rfl | hmn
  · exact .inl hnm
  · obtain rfl : line = other := Option.some.inj (hline.symm.trans hother)
    exact .inr ⟨rfl, u.measure_take_lt (by omega) hl⟩
  · have hnext := lineStart_add_lt hother hmn
    omega

theorem ofOffset_eq_min (u : ColumnUnit) (text : String) (offset : Int) :
    ofOffset u text offset = ofOffset u text (min offset.toNat text.toList.length : Nat) := by
  rw [ofOffset, ofOffset, Int.toNat_natCast]
  congr 1
  rcases Nat.le_total offset.toNat text.toList.length with hle | hge
  · rw [Nat.min_eq_left hle]
  · rw [Nat.min_eq_right hge, List.take_length, List.take_of_length_le hge]

theorem ofOffset_le_ofOffset (u : ColumnUnit) (text : String) {start stop : Int}
    (hle : start ≤ stop) : ofOffset u text start ≤ ofOffset u text stop := by
  rw [ofOffset_eq_min u text start, ofOffset_eq_min u text stop]
  have hnats := Int.toNat_le_toNat hle
  exact (ofOffset_strictMonoOn u text).monotoneOn (Set.mem_Iic.2 (Nat.min_le_right _ _))
    (Set.mem_Iic.2 (Nat.min_le_right _ _)) (by omega)

/-- The offsets of a line, up to a carriage return that ends it, at which the column of a position
is reached, and the line's end. -/
def reached (u : ColumnUnit) (text : String) (p : Position) (line : List Char) : Set Nat :=
  let start := (((text.toList.splitOn '\n').take p.line).map (·.length + 1)).sum
  let stop := start + (dropReturn line).length
  {offset | start ≤ offset ∧ offset ≤ stop ∧
    (p.character ≤ u.measure ((text.toList.take offset).drop start) ∨ offset = stop)}

theorem isLeast_reached {text : String} {p : Position} {line : List Char}
    (h : (text.toList.splitOn '\n')[p.line]? = some line) :
    IsLeast (reached u text p line) (p.offsetIn u text) := by
  have hreturn := (prefix_dropReturn line).length_le
  -- up to its carriage return, the line and the text have the same characters
  have hcolumn : ∀ k ≤ (dropReturn line).length,
      (text.toList.take (lineStart text.toList p.line + k)).drop (lineStart text.toList p.line) =
        (dropReturn line).take k := by
    intro k hk
    rw [drop_lineStart h (hk.trans hreturn), take_dropReturn hk]
  rw [offsetIn_eq h, reached, ← lineStart_eq_sum]
  constructor
  · have hle := u.charsUpTo_le_length p.character (dropReturn line)
    refine ⟨Nat.le_add_right _ _, Nat.add_le_add_left hle _, ?_⟩
    rw [hcolumn _ hle]
    exact (ColumnUnit.charsUpTo_le_iff.1 (Nat.le_refl _)).imp id fun hend => by omega
  · rintro offset ⟨hstart, hstop, hreached⟩
    obtain ⟨k, rfl⟩ := Nat.exists_eq_add_of_le hstart
    have hk : k ≤ (dropReturn line).length := by omega
    rw [hcolumn k hk] at hreached
    exact Nat.add_le_add_left
      (ColumnUnit.charsUpTo_le_iff.2 (hreached.imp id fun hend => by omega)) _

/-- Positions and offsets keep their order, and a position stays on its line. -/
theorem positions_in_order (u : ColumnUnit) (text : String) :
    (Monotone fun p : Position => p.offsetIn u text) ∧
      (∀ (p : Position) (line : List Char), (text.toList.splitOn '\n')[p.line]? = some line →
        IsLeast (reached u text p line) (p.offsetIn u text)) ∧
      (∀ p : Position, (text.toList.splitOn '\n').length ≤ p.line →
        p.offsetIn u text = text.toList.length) ∧
      StrictMonoOn (fun offset : Nat => ofOffset u text offset) (Set.Iic text.toList.length) ∧
      ∀ start stop : Int, start ≤ stop →
        (Range.ofOffsets u text start stop).start ≤ (Range.ofOffsets u text start stop).stop := by
  exact ⟨offsetIn_mono u text, fun p line => isLeast_reached,
    fun p hpast => offsetIn_past (List.getElem?_eq_none hpast), ofOffset_strictMonoOn u text,
    fun start stop hle => ofOffset_le_ofOffset u text hle⟩

theorem positions_in_order_astralLine :
    (⟨0, 1⟩ : Position) ≤ ⟨0, 9⟩ ∧
      offsetIn ⟨0, 1⟩ .utf16 astralLine ≤ offsetIn ⟨0, 9⟩ .utf16 astralLine ∧
      (astralLine.toList.splitOn '\n')[0]? = some ['😀', '\r'] ∧
      IsLeast (reached .utf16 astralLine ⟨0, 1⟩ ['😀', '\r']) (offsetIn ⟨0, 1⟩ .utf16 astralLine) ∧
      (astralLine.toList.splitOn '\n').length ≤ 2 ∧
      offsetIn ⟨2, 0⟩ .utf16 astralLine = astralLine.toList.length ∧
      ofOffset .utf16 astralLine (1 : Nat) < ofOffset .utf16 astralLine (2 : Nat) ∧
      (Range.ofOffsets .utf16 astralLine (-1) 7).start ≤
        (Range.ofOffsets .utf16 astralLine (-1) 7).stop := by
  obtain ⟨hmono, hleast, hpast, hstrict, hrange⟩ := positions_in_order .utf16 astralLine
  have hle : (⟨0, 1⟩ : Position) ≤ ⟨0, 9⟩ := le_iff.2 (.inr ⟨rfl, by decide⟩)
  have hline : (astralLine.toList.splitOn '\n')[0]? = some ['😀', '\r'] := by decide
  have hlines : (astralLine.toList.splitOn '\n').length ≤ 2 := by decide
  exact ⟨hle, hmono hle, hline, hleast ⟨0, 1⟩ _ hline, hlines, hpast ⟨2, 0⟩ hlines,
    hstrict (by decide) (by decide) (by decide), hrange (-1) 7 (by decide)⟩

end Position

end QueryAssist
