import QueryAssist.Catalog.Template
import Mathlib.Tactic.Common
/-!
# Stripped templates

A template is literal text with placeholders in between. Stripping takes it apart where it was put
together, whatever stands around the placeholders: the text stays, and each placeholder leaves its
default.
-/

namespace QueryAssist.Catalog

/-- Decimal digits of any script, and at least one. -/
def IsNumber (s : String) : Prop :=
  s.toList ≠ [] ∧ ∀ c ∈ s.toList, Text.isDigit c = true

instance (s : String) : Decidable (IsNumber s) :=
  @instDecidableAnd _ _ inferInstance
    (List.decidableBAll (fun c => Text.isDigit c = true) s.toList)

/-- The first closing brace ends a default. -/
def IsDefault (s : String) : Prop :=
  '\x7d' ∉ s.toList ∧ '$' ∉ s.toList

/-- A part of a template: text in which no placeholder can begin, or a placeholder. -/
inductive Segment
  | literal (s : String) (hs : '$' ∉ s.toList)
  | hole (number : String) (hnumber : IsNumber number)
  | slot (number default : String) (hnumber : IsNumber number) (hdefault : IsDefault default)

namespace Segment

def source : Segment → String
  | literal s _ => s
  | hole number _ => "$\x7b" ++ number ++ "\x7d"
  | slot number default _ _ => "$\x7b" ++ number ++ ":" ++ default ++ "\x7d"

def stripped : Segment → String
  | literal s _ => s
  | hole _ _ => ""
  | slot _ default _ _ => default

end Segment

/-! ## One placeholder -/

theorem split_before {p : Char → Bool} {cs : List Char} (h : ∀ c ∈ cs, p c = true) {stop : Char}
    (hstop : p stop = false) (rest : List Char) :
    (cs ++ stop :: rest).takeWhile p = cs ∧ (cs ++ stop :: rest).dropWhile p = stop :: rest := by
  have hnot : ¬p stop = true := by simp [hstop]
  constructor
  · rw [List.takeWhile_append_of_pos h, List.takeWhile_cons_of_neg hnot, List.append_nil]
  · rw [List.dropWhile_append_of_pos h, List.dropWhile_cons_of_neg hnot]

theorem placeholder?_hole {number : String} (h : IsNumber number) (rest : List Char) :
    placeholder? ('\x7b' :: (number.toList ++ '\x7d' :: rest)) = some ([], rest) := by
  have hbrace : Text.isDigit '\x7d' = false := by decide
  obtain ⟨htake, hdrop⟩ := split_before h.2 hbrace rest
  rw [placeholder?, htake, hdrop, if_neg (by simp [h.1])]
  rfl

theorem placeholder?_slot {number default : String} (h : IsNumber number)
    (hdefault : IsDefault default) (rest : List Char) :
    placeholder? ('\x7b' :: (number.toList ++ ':' :: (default.toList ++ '\x7d' :: rest))) =
      some (default.toList, rest) := by
  have hinside : ∀ c ∈ default.toList, (c != '\x7d') = true := by
    intro c hc
    rw [bne_iff_ne]
    rintro rfl
    exact hdefault.1 hc
  have hbrace : ('\x7d' != '\x7d') = false := by decide
  have hcolon : Text.isDigit ':' = false := by decide
  obtain ⟨htake, hdrop⟩ := split_before hinside hbrace rest
  obtain ⟨hdigits, hbehind⟩ := split_before h.2 hcolon (default.toList ++ '\x7d' :: rest)
  rw [placeholder?, hdigits, hbehind, if_neg (by simp [h.1])]
  simp only [htake, hdrop]

/-! ## Stripping -/

theorem stripChars_dollar {rest default after : List Char}
    (h : placeholder? rest = some (default, after)) :
    stripChars ('$' :: rest) = default ++ stripChars after := by
  rw [stripChars, if_pos rfl]
  split
  · rename_i heq
    rw [h] at heq
    cases heq
    rfl
  · rename_i heq
    rw [h] at heq
    cases heq

theorem stripChars_append_of_not_mem {cs : List Char} (h : '$' ∉ cs) (rest : List Char) :
    stripChars (cs ++ rest) = cs ++ stripChars rest := by
  induction cs with
  | nil => rfl
  | cons c cs ih =>
      rw [List.mem_cons, not_or] at h
      rw [List.cons_append, stripChars, if_neg (Ne.symm h.1), ih h.2, List.cons_append]

theorem stripChars_of_not_mem {cs : List Char} (h : '$' ∉ cs) : stripChars cs = cs := by
  have happend := stripChars_append_of_not_mem h []
  rwa [List.append_nil, stripChars, List.append_nil] at happend

theorem stripChars_source_append (segment : Segment) (rest : List Char) :
    stripChars (segment.source.toList ++ rest) =
      segment.stripped.toList ++ stripChars rest := by
  cases segment with
  | literal s hs => exact stripChars_append_of_not_mem hs rest
  | hole number hnumber =>
      have hchars : (Segment.hole number hnumber).source.toList ++ rest =
          '$' :: '\x7b' :: (number.toList ++ '\x7d' :: rest) := by
        simp [Segment.source]
      rw [hchars, stripChars_dollar (placeholder?_hole hnumber rest)]
      rfl
  | slot number default hnumber hdefault =>
      have hchars : (Segment.slot number default hnumber hdefault).source.toList ++ rest =
          '$' :: '\x7b' :: (number.toList ++ ':' :: (default.toList ++ '\x7d' :: rest)) := by
        simp [Segment.source]
      rw [hchars, stripChars_dollar (placeholder?_slot hnumber hdefault rest)]
      rfl

theorem stripChars_flatMap_source (segments : List Segment) :
    stripChars (segments.flatMap (·.source.toList)) = segments.flatMap (·.stripped.toList) := by
  induction segments with
  | nil => rw [List.flatMap_nil, stripChars, List.flatMap_nil]
  | cons segment segments ih =>
      rw [List.flatMap_cons, List.flatMap_cons, stripChars_source_append, ih]

theorem dollar_not_mem_stripped (segment : Segment) : '$' ∉ segment.stripped.toList := by
  cases segment with
  | literal s hs => exact hs
  | hole number hnumber => exact List.not_mem_nil
  | slot number default hnumber hdefault => exact hdefault.2

theorem toList_join_map (segments : List Segment) (text : Segment → String) :
    (String.join (segments.map text)).toList =
      segments.flatMap fun segment => (text segment).toList := by
  rw [String.toList_join, List.flatMap_map]

theorem stripPlaceholders_sources (segments : List Segment) :
    stripPlaceholders (String.join (segments.map (·.source))) =
      String.join (segments.map (·.stripped)) := by
  rw [stripPlaceholders, toList_join_map, stripChars_flatMap_source,
    ← toList_join_map, String.ofList_toList]

theorem dollar_not_mem_join (segments : List Segment) :
    '$' ∉ (String.join (segments.map (·.stripped))).toList := by
  rw [toList_join_map, List.mem_flatMap]
  rintro ⟨segment, -, hdollar⟩
  exact dollar_not_mem_stripped segment hdollar

/-- A template strips to its stripped segments, in which there is nothing left to strip. -/
theorem stripPlaceholders_join (segments : List Segment) :
    stripPlaceholders (String.join (segments.map (·.source))) =
        String.join (segments.map (·.stripped)) ∧
      '$' ∉ (String.join (segments.map (·.stripped))).toList ∧
      stripPlaceholders (String.join (segments.map (·.stripped))) =
        String.join (segments.map (·.stripped)) := by
  have hplain := dollar_not_mem_join segments
  refine ⟨stripPlaceholders_sources segments, hplain, ?_⟩
  rw [stripPlaceholders, stripChars_of_not_mem hplain, String.ofList_toList]

/-- Braces, a colon and digits around placeholders, one with digits of another script. -/
def bracedSegments : List Segment := [
  .literal "\x7b1:" (by decide),
  .slot "٣٤" "a:\x7b\n" (by decide) ⟨by decide, by decide⟩,
  .literal "\x7d:2" (by decide),
  .hole "07" (by decide)]

theorem stripPlaceholders_join_braced :
    stripPlaceholders "\x7b1:$\x7b٣٤:a:\x7b\n\x7d\x7d:2$\x7b07\x7d" = "\x7b1:a:\x7b\n\x7d:2" ∧
      '$' ∉ "\x7b1:a:\x7b\n\x7d:2".toList ∧
      stripPlaceholders "\x7b1:a:\x7b\n\x7d:2" = "\x7b1:a:\x7b\n\x7d:2" := by
  have hsource : String.join (bracedSegments.map (·.source)) =
      "\x7b1:$\x7b٣٤:a:\x7b\n\x7d\x7d:2$\x7b07\x7d" := by decide +kernel
  have hstripped : String.join (bracedSegments.map (·.stripped)) = "\x7b1:a:\x7b\n\x7d:2" := by
    decide +kernel
  have hjoin := stripPlaceholders_join bracedSegments
  rwa [hsource, hstripped] at hjoin

/-! ## Templates from pieces -/

theorem isDigit_of_isDigit {c : Char} (h : c.isDigit = true) : Text.isDigit c = true := by
  have hrange := Char.isDigit_iff_toNat.1 h
  rw [Text.isDigit, Text.digitValue?, Option.isSome_map, List.find?_isSome]
  refine ⟨0x30, List.mem_cons_self, ?_⟩
  simp only [Bool.and_eq_true, decide_eq_true_eq]
  have hzero : '0'.toNat = 0x30 := rfl
  have hnine : '9'.toNat = 0x39 := rfl
  omega

theorem isNumber_toString (n : Nat) : IsNumber (toString n) := by
  have hdigits : (toString n).toList = Nat.toDigits 10 n := Nat.toList_repr
  rw [IsNumber, hdigits]
  refine ⟨Nat.toDigits_ne_nil, fun c hc => ?_⟩
  exact isDigit_of_isDigit (Nat.isDigit_of_mem_toDigits (by decide) (by decide) hc)

namespace Piece

/-- No placeholder begins in the text, and only the last brace ends the piece. -/
def IsSound : Piece → Prop
  | text s => '$' ∉ s.toList
  | hole _ => True
  | slot _ default => IsDefault default

def stripped : Piece → String
  | text s => s
  | hole _ => ""
  | slot _ default => default

def segment : (piece : Piece) → piece.IsSound → Segment
  | text s, h => .literal s h
  | hole number, _ => .hole (toString number) (isNumber_toString number)
  | slot number default, h => .slot (toString number) default (isNumber_toString number) h

theorem source_segment (piece : Piece) (h : piece.IsSound) :
    (piece.segment h).source = piece.source := by
  cases piece <;> rfl

theorem stripped_segment (piece : Piece) (h : piece.IsSound) :
    (piece.segment h).stripped = piece.stripped := by
  cases piece <;> rfl

end Piece

theorem map_pmap_segment {t : Template} (h : ∀ piece ∈ t, piece.IsSound) {f : Segment → String}
    {g : Piece → String} (hsame : ∀ piece hpiece, f (Piece.segment piece hpiece) = g piece) :
    (t.pmap Piece.segment h).map f = t.map g := by
  rw [List.map_pmap, ← List.pmap_eq_map h]
  exact List.pmap_congr_left t fun piece _ hpiece _ => hsame piece hpiece

theorem stripPlaceholders_source {t : Template} (h : ∀ piece ∈ t, piece.IsSound) :
    stripPlaceholders t.source = String.join (t.map Piece.stripped) := by
  rw [Template.source, ← map_pmap_segment h Piece.source_segment,
    ← map_pmap_segment h Piece.stripped_segment]
  exact stripPlaceholders_sources _

end QueryAssist.Catalog
