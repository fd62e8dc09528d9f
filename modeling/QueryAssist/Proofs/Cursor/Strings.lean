import QueryAssist.Cursor.Word
import QueryAssist.Proofs.Cursor.Reading
import Mathlib.Data.List.Induction
import Mathlib.Tactic.Common
/-!
# Open strings

The pass over a text and the reading of its quotes alone agree on where strings are open, and the
offset of an open string is that of a quote.
-/

namespace QueryAssist.Cursor

theorem isQuiet_of_not_isDelimiter {c : Char} (h : isDelimiter c = false) : isQuiet c = true :=
  isQuiet_of_marks (p := fun c => !isDelimiter c) (by decide) (by rw [h, Bool.not_false])

/-! ## Quotes alone -/

namespace QuoteState

/-- A backslash escapes only in a string. -/
def Sound (q : QuoteState) : Prop :=
  q.escaped = true → q.inside = true

variable {q : QuoteState} {c : Char} {cs : List Char}

theorem inside_step (q : QuoteState) (hc : c ≠ '"') : (q.step c).inside = q.inside := by
  unfold step
  split_ifs <;> rfl

theorem inside_foldl (q : QuoteState) (h : ∀ c ∈ cs, c ≠ '"') :
    (cs.foldl step q).inside = q.inside := by
  induction cs generalizing q with
  | nil => rfl
  | cons c cs ih =>
      rw [List.foldl_cons, ih _ fun d hd => h d (List.mem_cons_of_mem c hd)]
      exact inside_step q (h c List.mem_cons_self)

theorem escaped_step (hq : q.Sound) (hc : c ≠ '\\') : (q.step c).escaped = false := by
  obtain ⟨inside, escaped⟩ := q
  cases inside with
  | false =>
      cases escaped with
      | false => by_cases hquote : c = '"' <;> simp [step, hquote]
      | true => exact absurd (hq rfl) Bool.false_ne_true
  | true =>
      cases escaped with
      | false => by_cases hquote : c = '"' <;> simp [step, hc, hquote]
      | true => rfl

theorem Sound.step (hq : q.Sound) (c : Char) : (q.step c).Sound := by
  by_cases hc : c = '\\'
  · obtain ⟨inside, escaped⟩ := q
    cases inside with
    | false => simpa [Sound, QuoteState.step, hc] using hq
    | true => cases escaped <;> simp [Sound, QuoteState.step, hc]
  · intro hescaped
    rw [escaped_step hq hc] at hescaped
    exact absurd hescaped Bool.false_ne_true

theorem Sound.foldl (hq : q.Sound) (cs : List Char) : (cs.foldl QuoteState.step q).Sound := by
  induction cs generalizing q with
  | nil => exact hq
  | cons c cs ih => exact ih (hq.step c)

theorem foldl_plain (hq : q.escaped = false) (h : ∀ c ∈ cs, c ≠ '"' ∧ c ≠ '\\') :
    cs.foldl step q = q := by
  induction cs with
  | nil => rfl
  | cons c cs ih =>
      obtain ⟨hquote, hslash⟩ := h c List.mem_cons_self
      have hstep : q.step c = q := by simp [step, hq, hquote, hslash]
      rw [List.foldl_cons, hstep]
      exact ih fun d hd => h d (List.mem_cons_of_mem c hd)

theorem step_quote (hq : q.escaped = false) : q.step '"' = ⟨!q.inside, false⟩ := by
  obtain ⟨inside, escaped⟩ := q
  cases inside <;> cases hq <;> rfl

end QuoteState

/-! ## The pass and the quotes -/

namespace Registers

def quotes (r : Registers) : QuoteState :=
  ⟨r.string.isSome, (r.string.map (·.escaped)).getD false⟩

theorem string_pop (r : Registers) : r.pop.string = r.string := by
  unfold pop
  split <;> rfl

theorem string_leave (r : Registers) : r.leave.string = r.string :=
  string_pop r

theorem string_readOutside (r : Registers) (c : Char) :
    (r.readOutside c).string = if c = '"' then some ⟨r.offset, [], false⟩ else r.string := by
  by_cases hquote : c = '"'
  · rw [readOutside, if_pos hquote, if_pos hquote]
  · rw [readOutside, if_neg hquote, if_neg hquote]
    split_ifs
    · rfl
    · rfl
    · exact string_leave r
    · rfl
    · rfl
    · rfl

theorem opened_of_step {r : Registers} {c : Char} {s : OpenString} (h : r.string = none)
    (hs : (r.step c).string = some s) : c = '"' ∧ s = ⟨r.offset, [], false⟩ := by
  rw [step_outside h] at hs
  change (r.readOutside c).string = some s at hs
  rw [string_readOutside, h] at hs
  split_ifs at hs with hquote
  exact ⟨hquote, (Option.some.inj hs).symm⟩

theorem quotes_step (r : Registers) (c : Char) : (r.step c).quotes = r.quotes.step c := by
  cases hstring : r.string with
  | none =>
      have hout := string_readOutside r c
      have hstep : (r.step c).string = (r.readOutside c).string := by rw [step_outside hstring]
      rw [quotes, hstep, hout, hstring]
      by_cases hc : c = '"' <;> simp [quotes, QuoteState.step, hstring, hc]
  | some s =>
      cases hescaped : s.escaped with
      | true => simp [step, readInString, quotes, QuoteState.step, hstring, hescaped]
      | false =>
          by_cases hslash : c = '\\'
          · simp [step, readInString, quotes, QuoteState.step, hstring, hescaped, hslash]
          · by_cases hc : c = '"' <;>
              simp [step, readInString, closeString, quotes, QuoteState.step, hstring, hescaped,
                hslash, hc]

theorem quotes_readFrom (r : Registers) (cs : List Char) :
    (r.readFrom cs).quotes = cs.foldl QuoteState.step r.quotes := by
  induction cs generalizing r with
  | nil => rfl
  | cons c cs ih => rw [readFrom_cons, ih, quotes_step, List.foldl_cons]

theorem isSome_string_run (cs : List Char) : (run cs).string.isSome = endsInString cs := by
  have h := quotes_readFrom initial cs
  exact congrArg QuoteState.inside h

theorem string_run_eq_none_iff {cs : List Char} :
    (run cs).string = none ↔ endsInString cs = false := by
  rw [← isSome_string_run, Option.isSome_eq_false_iff, Option.isNone_iff_eq_none]

theorem inString_place_run (cs : List Char) : (run cs).place.inString = endsInString cs := by
  rw [← isSome_string_run]
  exact Option.isSome_map

theorem start_step {r : Registers} {c : Char} {s t : OpenString} (hs : r.string = some s)
    (ht : (r.step c).string = some t) : t.start = s.start := by
  simp only [step, hs, readInString, closeString] at ht
  split_ifs at ht <;> cases ht <;> rfl

theorem getElem?_start_of_run {cs : List Char} {s : OpenString} (h : (run cs).string = some s) :
    cs[s.start]? = some '"' := by
  induction cs using List.reverseRecOn generalizing s with
  | nil => simp [run, initial] at h
  | append_singleton cs c ih =>
      rw [run_append, readFrom_cons, readFrom_nil] at h
      cases hstring : (run cs).string with
      | none =>
          obtain ⟨rfl, rfl⟩ := opened_of_step hstring h
          rw [offset_run]
          exact List.getElem?_concat_length
      | some t =>
          have hquote := ih hstring
          obtain ⟨hlt, _⟩ := List.getElem?_eq_some_iff.1 hquote
          rw [start_step hstring h, List.getElem?_append_left hlt]
          exact hquote

end Registers

/-- The quotes alone tell for every cursor, also one outside the text, whether it is in a string. -/
theorem isInString_eq_inString_scan (text : String) (cursor : Int) :
    isInString text cursor = (scan text cursor).inString :=
  (Registers.inString_place_run (before text cursor)).symm

end QueryAssist.Cursor
