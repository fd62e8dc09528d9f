import QueryAssist.Proofs.Cursor.Colon
import QueryAssist.Proofs.Cursor.Words
import QueryAssist.Proofs.Grammar.Reading
/-!
# Layout

Spacing outside strings moves what comes after it and changes nothing else: the pass over a text ends
in the same registers, with the offsets behind the spacing moved on by its length. So texts that are
the same without such spacing end in the same context, but for the offset and the word of the cursor.
-/

namespace QueryAssist.Cursor

open Json Grammar

/-! ## Registers that are moved on -/

namespace Registers

/-- The registers of a text that begins some characters later. -/
def shift (r : Registers) (n : Nat) : Registers :=
  { r with
    offset := r.offset + n
    string := r.string.map fun s => { s with start := s.start + n } }

theorem shift_of_outside {r : Registers} (h : r.string = none) (n : Nat) :
    r.shift n = { r with offset := r.offset + n } := by
  rw [shift, h]
  rfl

theorem place_shift (r : Registers) (n : Nat) :
    (r.shift n).place = { r.place with stringStart := r.place.stringStart.map (· + n) } := by
  simp only [place, shift, Option.map_map]
  rfl

theorem readInString_shift (r : Registers) (n : Nat) (s : OpenString) (c : Char) :
    (r.shift n).readInString { s with start := s.start + n } c = (r.readInString s c).shift n := by
  by_cases hescaped : s.escaped
  · simp [readInString, hescaped, shift]
  · by_cases hslash : c = '\\'
    · simp [readInString, hescaped, hslash, shift]
    · by_cases hquote : c = '"' <;>
        simp [readInString, hescaped, hslash, hquote, shift, closeString]

theorem leave_shift (r : Registers) (n : Nat) : (r.shift n).leave = r.leave.shift n := by
  cases hframes : r.frames <;> simp [leave, pop, shift, hframes]

theorem readOutside_shift (r : Registers) (n : Nat) (c : Char) :
    (r.shift n).readOutside c = (r.readOutside c).shift n := by
  unfold readOutside
  split_ifs
  · rfl
  · rfl
  · rfl
  · exact leave_shift r n
  · rfl
  · rfl
  · rfl

theorem step_shift (r : Registers) (n : Nat) (c : Char) :
    (r.shift n).step c = (r.step c).shift n := by
  cases hstring : r.string with
  | none =>
      have hshifted : (r.shift n).string = none := by rw [shift_of_outside hstring, hstring]
      rw [step_outside hstring, step_outside hshifted, readOutside_shift]
      simp only [shift, Nat.add_right_comm]
  | some s =>
      have hshifted : (r.shift n).string = some { s with start := s.start + n } := by
        rw [shift, hstring]
        rfl
      simp only [step, hstring, hshifted, readInString_shift]
      simp only [shift, Nat.add_right_comm]

theorem readFrom_shift (r : Registers) (n : Nat) (cs : List Char) :
    (r.shift n).readFrom cs = (r.readFrom cs).shift n := by
  induction cs generalizing r with
  | nil => rfl
  | cons c cs ih => rw [readFrom_cons, step_shift, ih, readFrom_cons]

theorem run_insert {a gap : List Char} (h : (run a).string = none)
    (hgap : ∀ c ∈ gap, isQuiet c = true) (b : List Char) :
    run (a ++ gap ++ b) = (run (a ++ b)).shift gap.length := by
  rw [run_append, run_append, readFrom_quiet h hgap, ← shift_of_outside h, readFrom_shift,
    ← run_append]

end Registers

/-! ## Looking back -/

theorem meetsColon_append_congr {a b : List Char} (h : meetsColon a = meetsColon b)
    (cs : List Char) : meetsColon (cs ++ a) = meetsColon (cs ++ b) := by
  induction cs with
  | nil => exact h
  | cons c cs ih => rw [List.cons_append, List.cons_append, meetsColon, meetsColon, ih]

theorem endsAfterColon_insert {gap : List Char} (hgap : ∀ c ∈ gap, Text.isBlank c = true)
    (a b : List Char) : endsAfterColon (a ++ gap ++ b) = endsAfterColon (a ++ b) := by
  have hskipped : meetsColon (gap.reverse ++ a.reverse) = meetsColon a.reverse :=
    meetsColon_append_skipped (fun c hc => .inl (hgap c (List.mem_reverse.1 hc))) _
  rw [endsAfterColon, endsAfterColon, List.reverse_append, List.reverse_append,
    List.reverse_append]
  exact meetsColon_append_congr hskipped _

theorem wordEnding_insert {gap : List Char} (hne : gap ≠ [])
    (hgap : ∀ c ∈ gap, isDelimiter c = true) (a b : List Char) :
    wordEnding (a ++ gap ++ b) = wordEnding b := by
  obtain ⟨rest, last, rfl⟩ := List.eq_nil_or_concat' gap |>.resolve_left hne
  have hlast : isDelimiter last = true := hgap last (by simp)
  apply Text.rtakeWhile_append
  rw [← List.append_assoc]
  exact List.rtakeWhile_concat_neg _ _ _ (by simp [hlast])

/-! ## Contexts behind other spacing -/

theorem isBlank_of_isSpacing {c : Char} (h : isSpacing c = true) : Text.isBlank c = true := by
  simp only [isSpacing, Bool.or_eq_true, beq_iff_eq] at h
  rcases h with ((rfl | rfl) | rfl) | rfl <;> rfl

theorem isDelimiter_of_isSpacing {c : Char} (h : isSpacing c = true) : isDelimiter c = true := by
  simp only [isSpacing, Bool.or_eq_true, beq_iff_eq] at h
  rcases h with ((rfl | rfl) | rfl) | rfl <;> rfl

/-- The contexts behind two texts differ in the offset and the word of the cursor at most, and the
containers that are open there are the same. -/
structure SameSpot (a b : List Char) : Prop where
  context : Context.after b =
    { Context.after a with cursor := b.length, word := String.ofList (wordEnding b) }
  place : (Registers.run b).place =
    { (Registers.run a).place with stringStart := (Registers.run b).place.stringStart }

namespace SameSpot

variable {a b c : List Char}

theorem refl (a : List Char) : SameSpot a a :=
  ⟨rfl, rfl⟩

theorem symm (h : SameSpot a b) : SameSpot b a :=
  ⟨by rw [h.context]; rfl, by rw [h.place]⟩

theorem trans (hab : SameSpot a b) (hbc : SameSpot b c) : SameSpot a c :=
  ⟨by rw [hbc.context, hab.context], by rw [hbc.place, hab.place]⟩

end SameSpot

theorem place_run_insert {a gap : List Char} (h : endsInString a = false)
    (hgap : ∀ c ∈ gap, isSpacing c = true) (b : List Char) :
    (Registers.run (a ++ gap ++ b)).place =
      { (Registers.run (a ++ b)).place with
        stringStart := (Registers.run (a ++ b)).place.stringStart.map (· + gap.length) } := by
  have houtside : (Registers.run a).string = none := Registers.string_run_eq_none_iff.2 h
  rw [Registers.run_insert houtside fun c hc => isQuiet_of_isSpacing (hgap c hc),
    Registers.place_shift]

theorem sameSpot_insert {a gap : List Char} (h : endsInString a = false)
    (hgap : ∀ c ∈ gap, isSpacing c = true) (b : List Char) :
    SameSpot (a ++ b) (a ++ gap ++ b) := by
  have hplace := place_run_insert h hgap b
  have hcolon := endsAfterColon_insert (fun c hc => isBlank_of_isSpacing (hgap c hc)) a b
  have hstring : endsInString (a ++ gap ++ b) = endsInString (a ++ b) := by
    rw [← Registers.inString_place_run, ← Registers.inString_place_run, hplace]
    exact Option.isSome_map
  constructor
  · simp only [Context.after, hplace, hcolon, hstring, Place.inArray]
  · rw [hplace]

/-! ## Texts without spacing -/

/-- The characters from a state of the quotes on, without spacing outside strings. -/
def withoutSpacing (q : QuoteState) : List Char → List Char
  | [] => []
  | c :: rest =>
      if !q.inside && isSpacing c then withoutSpacing q rest
      else c :: withoutSpacing (q.step c) rest

def minified (text : String) : String :=
  String.ofList (withoutSpacing ⟨false, false⟩ text.toList)

theorem sameSpot_withoutSpacing (a b : List Char) :
    SameSpot (a ++ withoutSpacing (a.foldl QuoteState.step ⟨false, false⟩) b) (a ++ b) := by
  induction b generalizing a with
  | nil => exact .refl _
  | cons c b ih =>
      rw [withoutSpacing]
      split
      · rename_i hspacing
        rw [Bool.and_eq_true, Bool.not_eq_true'] at hspacing
        have hgap : ∀ d ∈ [c], isSpacing d = true := List.forall_mem_singleton.2 hspacing.2
        have hinsert := sameSpot_insert hspacing.1 hgap b
        rw [List.append_assoc, List.singleton_append] at hinsert
        exact (ih a).trans hinsert
      · have hnext := ih (a ++ [c])
        rwa [List.foldl_append, List.append_assoc, List.append_assoc] at hnext

theorem sameSpot_of_minified {s t : String} (h : minified s = minified t) :
    SameSpot s.toList t.toList := by
  have hchars : withoutSpacing ⟨false, false⟩ s.toList = withoutSpacing ⟨false, false⟩ t.toList :=
    String.ofList_injective h
  have hs := sameSpot_withoutSpacing [] s.toList
  have ht := sameSpot_withoutSpacing [] t.toList
  exact hs.symm.trans (hchars ▸ ht)

end QueryAssist.Cursor
