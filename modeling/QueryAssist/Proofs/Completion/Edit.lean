import QueryAssist.Completion.Item
import QueryAssist.Proofs.Completion.Provide
import QueryAssist.Proofs.Cursor.Strings
import QueryAssist.Proofs.Position.Lines
/-!
# The range of an edit

All items replace the word before the cursor, which lies in one line and does not reach back over
the quote of an open string.
-/

namespace QueryAssist.Completion

open Cursor

theorem map_range_itemsFrom (range : Range) (options : List Candidate) (index : Nat) :
    (itemsFrom range index options).map (·.range) = List.replicate options.length range := by
  induction options generalizing index with
  | nil => rfl
  | cons c rest ih =>
      rw [itemsFrom, List.map_cons, ih, List.length_cons, List.replicate_succ]
      rfl

theorem exists_wordStart_eq {text line : List Char} {number k : Nat}
    (h : (text.splitOn '\n')[number]? = some line) (hk : k ≤ line.length) :
    ∃ j ≤ k, wordStart (text.take (lineStart text number + k)) = lineStart text number + j := by
  have hfeeds : wordEnding (withFeeds ((text.splitOn '\n').take number)) = [] :=
    rtakeWhile_withFeeds (by decide) _
  have hbelow := length_le_wordStart_append hfeeds (line.take k)
  have habove := wordStart_le (text.take (lineStart text number + k))
  rw [← take_lineStart_add h hk, length_withFeeds, ← lineStart] at hbelow
  rw [List.length_take] at habove
  exact ⟨_, by omega, (Nat.add_sub_cancel' hbelow).symm⟩

theorem start_lt_of_isLongestWord {cs : List Char} {start quote : Nat} (h : IsLongestWord cs start)
    (hopen : (Registers.run cs).place.stringStart = some quote) : quote < start := by
  obtain ⟨s, hs, rfl⟩ := Option.map_eq_some_iff.1 hopen
  have hquote := Registers.getElem?_start_of_run hs
  by_contra hle
  have hmem : '"' ∈ cs.drop start := by
    refine List.mem_of_getElem? (i := s.start - start) ?_
    rw [List.getElem?_drop, Nat.add_sub_cancel' (Nat.not_lt.1 hle), hquote]
  exact absurd (h.noDelimiter _ hmem) (by decide)

/-- A range is the word before an offset, in one line and in the string that is open there, if any. -/
structure CoversWord (u : ColumnUnit) (text : String) (offset start : Nat) (range : Range) : Prop where
  oneLine : range.start.line = range.stop.line
  offsetIn_start : range.start.offsetIn u text = start
  offsetIn_stop : range.stop.offsetIn u text = offset
  longestWord : IsLongestWord (before text offset) start
  afterQuote : ∀ quote, (scan text offset).stringStart = some quote → quote < start

theorem coversWord_ofOffsets {u : ColumnUnit} {text : String} {line : List Char} {number k : Nat}
    (h : (text.toList.splitOn '\n')[number]? = some line) (hk : k ≤ (dropReturn line).length)
    {offset start : Nat} (hoffset : offset = lineStart text.toList number + k)
    (hstart : start = wordStart (before text offset)) :
    CoversWord u text offset start (.ofOffsets u text start offset) := by
  have hkline : k ≤ line.length := hk.trans (prefix_dropReturn line).length_le
  have hword : IsLongestWord (before text offset) start := by
    rw [hstart]
    exact isLongestWord_wordStart _
  obtain ⟨j, hj, hplace⟩ : ∃ j ≤ k, start = lineStart text.toList number + j := by
    rw [hstart, hoffset]
    exact exists_wordStart_eq h hkline
  refine ⟨?_, ?_, ?_, hword, fun quote => start_lt_of_isLongestWord hword⟩
  · rw [hplace, hoffset]
    exact (congrArg Position.line (Position.afterChars_take h (hj.trans hkline))).trans
      (congrArg Position.line (Position.afterChars_take h hkline)).symm
  · rw [hplace]
    exact Position.offsetInChars_afterChars h (hj.trans hk)
  · rw [hoffset]
    exact Position.offsetInChars_afterChars h hk

/-- Every option comes as an item, and all items replace the one word. -/
theorem complete_replaces_word {u : ColumnUnit} {text : String} {p : Position}
    {data : Option Snapshot} {explicit : Bool} {list : CompletionList}
    (hline : p.line < (text.toList.splitOn '\n').length)
    (h : completionList u text p data explicit = some list) :
    ∃ found range, provide text (p.offsetIn u text) data explicit = some found ∧
      list.items.map (·.range) = List.replicate found.options.length range ∧
      (∀ item ∈ list.items, item.range = range) ∧
      CoversWord u text (p.offsetIn u text) found.start range := by
  obtain ⟨line, hget⟩ : ∃ line, (text.toList.splitOn '\n')[p.line]? = some line :=
    ⟨_, List.getElem?_eq_getElem hline⟩
  obtain ⟨items, hitems, rfl⟩ := Option.map_eq_some_iff.1 h
  obtain ⟨found, hfound, rfl⟩ := Option.map_eq_some_iff.1 hitems
  have hranges := map_range_itemsFrom
    (.ofOffsets u text found.start (p.offsetIn u text)) found.options 0
  refine ⟨found, _, hfound, hranges, fun item hitem => ?_, ?_⟩
  · exact (List.eq_replicate_iff.1 hranges).2 _ (List.mem_map_of_mem hitem)
  · exact coversWord_ofOffsets hget (u.charsUpTo_le_length _ _) (Position.offsetInChars_eq hget)
      (start_of_provide hfound)

/-- In an open string, behind a character of two columns. -/
def behindAstral : String := "\x7b\"t\":\"😀\", \"si"

theorem complete_replaces_word_behindAstral :
    0 < (behindAstral.toList.splitOn '\n').length ∧
    ∃ list, completionList .utf16 behindAstral ⟨0, 14⟩ none true = some list ∧ list.items ≠ [] ∧
      ∃ found range, provide behindAstral 13 none true = some found ∧
        list.items.map (·.range) = List.replicate found.options.length range ∧
        (∀ item ∈ list.items, item.range = range) ∧
        CoversWord .utf16 behindAstral 13 found.start range := by
  have hoffset : Position.offsetIn ⟨0, 14⟩ .utf16 behindAstral = 13 := by decide
  have hline : 0 < (behindAstral.toList.splitOn '\n').length := by decide
  obtain ⟨list, h, hne⟩ : ∃ list,
      completionList .utf16 behindAstral ⟨0, 14⟩ none true = some list ∧ list.items ≠ [] :=
    ⟨_, rfl, by decide +kernel⟩
  have hword := complete_replaces_word hline h
  rw [hoffset] at hword
  exact ⟨hline, list, h, hne, hword⟩

end QueryAssist.Completion
