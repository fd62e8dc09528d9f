import QueryAssist.Proofs.Cursor.Layout
/-!
# Words that grow

As a word is typed on, the cursor stays where it is in the structure of the text. The look back for a
colon passes over a word of blanks only, so behind any other word the context stays, too.
-/

namespace QueryAssist.Cursor

open Text

namespace Registers

theorem place_step_word {c : Char} (h : isDelimiter c = false) (r : Registers) :
    (r.step c).place = r.place := by
  cases hstring : r.string with
  | none =>
      rw [step_quiet hstring (isQuiet_of_not_isDelimiter h)]
      rfl
  | some s =>
      have hquote : c ≠ '"' := by
        rintro rfl
        exact absurd h (by decide)
      simp only [step, hstring, readInString, if_neg hquote]
      split_ifs <;> simp only [place, hstring, Option.map_some]

theorem place_readFrom_word {word : List Char} (h : ∀ c ∈ word, isDelimiter c = false)
    (r : Registers) : (r.readFrom word).place = r.place := by
  induction word generalizing r with
  | nil => rfl
  | cons c word ih =>
      rw [readFrom_cons, ih fun d hd => h d (List.mem_cons_of_mem c hd)]
      exact place_step_word (h c List.mem_cons_self) r

theorem place_run_append_word {word : List Char} (h : ∀ c ∈ word, isDelimiter c = false)
    (cs : List Char) : (run (cs ++ word)).place = (run cs).place := by
  rw [run_append, place_readFrom_word h]

end Registers

theorem meetsColon_word_append {word : List Char} (h : ∀ c ∈ word, isDelimiter c = false)
    (hvisible : ∃ c ∈ word, isBlank c = false) (rest : List Char) :
    meetsColon (word ++ rest) = false := by
  induction word with
  | nil =>
      obtain ⟨c, hc, -⟩ := hvisible
      exact absurd hc List.not_mem_nil
  | cons c word ih =>
      rw [List.cons_append]
      by_cases hblank : isBlank c = true
      · rw [meetsColon_cons_skipped (.inl hblank)]
        refine ih (fun d hd => h d (List.mem_cons_of_mem c hd)) ?_
        obtain ⟨d, hd, hvisible⟩ := hvisible
        rcases List.mem_cons.1 hd with rfl | hd
        · exact absurd hblank (by rw [hvisible]; decide)
        · exact ⟨d, hd, hvisible⟩
      · have hc := h c List.mem_cons_self
        have hcolon : c ≠ ':' := by
          rintro rfl
          exact absurd hc (by decide)
        have hquote : c ≠ '"' := by
          rintro rfl
          exact absurd hc (by decide)
        rw [meetsColon, if_neg hcolon, if_neg (not_or.2 ⟨hblank, hquote⟩), ite_self]

theorem endsAfterColon_append_word {word : List Char} (h : ∀ c ∈ word, isDelimiter c = false)
    (hvisible : ∃ c ∈ word, isBlank c = false) (cs : List Char) :
    endsAfterColon (cs ++ word) = false := by
  rw [endsAfterColon, List.reverse_append]
  apply meetsColon_word_append
  · simpa only [List.mem_reverse] using h
  · simpa only [List.mem_reverse] using hvisible

theorem sameSpot_append_word {word typed : List Char}
    (h : ∀ c ∈ word ++ typed, isDelimiter c = false) (hvisible : ∃ c ∈ word, isBlank c = false)
    (cs : List Char) : SameSpot (cs ++ word) (cs ++ (word ++ typed)) := by
  have hshorter : ∀ c ∈ word, isDelimiter c = false := fun c hc =>
    h c (List.mem_append_left typed hc)
  have hlonger : ∃ c ∈ word ++ typed, isBlank c = false := by
    obtain ⟨c, hc, hblank⟩ := hvisible
    exact ⟨c, List.mem_append_left typed hc, hblank⟩
  have hplace : (Registers.run (cs ++ (word ++ typed))).place =
      (Registers.run (cs ++ word)).place := by
    rw [Registers.place_run_append_word h, Registers.place_run_append_word hshorter]
  have hstring : endsInString (cs ++ (word ++ typed)) = endsInString (cs ++ word) := by
    rw [← Registers.inString_place_run, ← Registers.inString_place_run, hplace]
  have hcolon : endsAfterColon (cs ++ (word ++ typed)) = endsAfterColon (cs ++ word) := by
    rw [endsAfterColon_append_word h hlonger, endsAfterColon_append_word hshorter hvisible]
  constructor
  · simp only [Context.after, hplace, hcolon, hstring]
  · rw [hplace]

end QueryAssist.Cursor
