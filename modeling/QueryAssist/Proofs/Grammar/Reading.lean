import QueryAssist.Proofs.Cursor.Strings
import QueryAssist.Proofs.Grammar.Basic
import Mathlib.Tactic.Common
/-!
# Reading a JSON text

What the pass does over each part of a JSON text. Over a whole value it comes back to the containers
that were open before it.
-/

namespace QueryAssist.Grammar

open Cursor Cursor.Registers Json

/-! ## Blanks and scalars -/

theorem isQuiet_of_isSpacing {c : Char} (h : isSpacing c = true) : isQuiet c = true :=
  isQuiet_of_marks (by decide) h

theorem isQuiet_of_isAsciiDigit {c : Char} (h : isAsciiDigit c = true) : isQuiet c = true :=
  isQuiet_of_marks (by decide) h

theorem Spacing.quiet (s : Spacing) : ∀ c ∈ s.text, isQuiet c = true :=
  fun c hc => isQuiet_of_isSpacing (s.blank c hc)

theorem AreDigits.quiet {cs : List Char} (h : AreDigits cs) : ∀ c ∈ cs, isQuiet c = true :=
  fun c hc => isQuiet_of_isAsciiDigit (h.2 c hc)

theorem IsWhole.quiet {cs : List Char} (h : IsWhole cs) : ∀ c ∈ cs, isQuiet c = true := by
  cases h with
  | zero => simp [isQuiet]
  | positive _ hdigits => exact hdigits.quiet

theorem IsFraction.quiet {cs : List Char} (h : IsFraction cs) : ∀ c ∈ cs, isQuiet c = true := by
  cases h with
  | absent => simp
  | present hdigits => exact List.forall_mem_cons.2 ⟨rfl, hdigits.quiet⟩

theorem IsExponent.quiet {cs : List Char} (h : IsExponent cs) : ∀ c ∈ cs, isQuiet c = true := by
  cases h with
  | absent => simp
  | @present mark sign digits hmark hsign hdigits =>
      have hmark' : isQuiet mark = true := by
        simp only [List.mem_cons, List.not_mem_nil, or_false] at hmark
        rcases hmark with rfl | rfl <;> rfl
      have hsign' : ∀ c ∈ sign, isQuiet c = true := by
        simp only [List.mem_cons, List.not_mem_nil, or_false] at hsign
        rcases hsign with rfl | rfl | rfl <;> simp [isQuiet]
      exact List.forall_mem_cons.2 ⟨hmark', List.forall_mem_append.2 ⟨hsign', hdigits.quiet⟩⟩

theorem Scalar.quiet (s : Scalar) : ∀ c ∈ s.text, isQuiet c = true := by
  obtain ⟨text, h⟩ := s
  cases h with
  | null => simp [isQuiet]
  | true => simp [isQuiet]
  | false => simp [isQuiet]
  | @number sign whole fraction exponent hsign hwhole hfraction hexponent =>
      have hsign' : ∀ c ∈ sign, isQuiet c = true := by
        simp only [List.mem_cons, List.not_mem_nil, or_false] at hsign
        rcases hsign with rfl | rfl <;> simp [isQuiet]
      simp only [List.forall_mem_append]
      exact ⟨⟨⟨hsign', hwhole.quiet⟩, hfraction.quiet⟩, hexponent.quiet⟩

/-! ## Strings -/

theorem plain_of_hexValue? {c : Char} (h : (Text.hexValue? c).isSome) : c ≠ '"' ∧ c ≠ '\\' := by
  constructor <;> rintro rfl <;> revert h <;> decide

theorem string_step_plain {r : Registers} {start : Nat} {read : List Char} {c : Char}
    (h : r.string = some ⟨start, read, false⟩) (hc : c ≠ '"' ∧ c ≠ '\\') :
    (r.step c).string = some ⟨start, c :: read, false⟩ := by
  simp [step, h, readInString, hc]

theorem string_step_backslash {r : Registers} {start : Nat} {read : List Char}
    (h : r.string = some ⟨start, read, false⟩) :
    (r.step '\\').string = some ⟨start, '\\' :: read, true⟩ := by
  simp [step, h, readInString]

theorem string_step_escaped {r : Registers} {start : Nat} {read : List Char}
    (h : r.string = some ⟨start, read, true⟩) (c : Char) :
    (r.step c).string = some ⟨start, c :: read, false⟩ := by
  simp [step, h, readInString]

theorem agrees_step_in_string {r : Registers} {s : OpenString} {c : Char}
    (h : r.string = some s) (hc : s.escaped = true ∨ c ≠ '"') : r.Agrees (r.step c) := by
  unfold Agrees
  simp only [step, h, readInString]
  split_ifs <;> simp_all

theorem throughout_plain {cs : List Char} (hcs : ∀ c ∈ cs, c ≠ '"' ∧ c ≠ '\\') {r : Registers}
    {start : Nat} {read : List Char} (h : r.string = some ⟨start, read, false⟩) :
    (r.readFrom cs).string = some ⟨start, cs.reverse ++ read, false⟩ ∧
      Throughout r.Agrees r cs := by
  induction cs generalizing r read with
  | nil => exact ⟨h, agrees_refl r⟩
  | cons c cs ih =>
      have hc := hcs c List.mem_cons_self
      have hrest := ih (fun d hd => hcs d (List.mem_cons_of_mem c hd)) (string_step_plain h hc)
      constructor
      · rw [readFrom_cons, hrest.1]
        simp
      · exact throughout_agrees_cons (agrees_step_in_string h (.inr hc.1)) hrest.2

theorem throughout_body {body : List Char} (hbody : IsStringBody body) {r : Registers} {start : Nat}
    {read : List Char} (h : r.string = some ⟨start, read, false⟩) :
    (r.readFrom body).string = some ⟨start, body.reverse ++ read, false⟩ ∧
      Throughout r.Agrees r body := by
  induction hbody generalizing r read with
  | nil => exact ⟨h, agrees_refl r⟩
  | @plain c rest hquote hescape _ _ ih =>
      have hrest := ih (string_step_plain h ⟨hquote, hescape⟩)
      constructor
      · rw [readFrom_cons, hrest.1]
        simp
      · exact throughout_agrees_cons (agrees_step_in_string h (.inr hquote)) hrest.2
  | @short e rest _ _ ih =>
      have hslash := string_step_backslash h
      have hrest := ih (string_step_escaped hslash e)
      constructor
      · rw [readFrom_cons, readFrom_cons, hrest.1]
        simp
      · exact throughout_agrees_cons (agrees_step_in_string h (.inr (by decide)))
          (throughout_agrees_cons (agrees_step_in_string hslash (.inl rfl)) hrest.2)
  | @unicode a b c d rest hdigits _ ih =>
      have hslash := string_step_backslash h
      have hu := string_step_escaped hslash 'u'
      have hfour := throughout_plain (fun x hx => plain_of_hexValue? (hdigits x hx)) hu
      have hrest := ih hfour.1
      constructor
      · change (((r.step '\\').step 'u').readFrom ([a, b, c, d] ++ rest)).string = _
        rw [readFrom_append, hrest.1]
        simp
      · exact throughout_agrees_cons (agrees_step_in_string h (.inr (by decide)))
          (throughout_agrees_cons (agrees_step_in_string hslash (.inl rfl))
            (throughout_agrees_append (a := [a, b, c, d]) hfour.2 hrest.2))

theorem step_quote {r : Registers} (h : r.string = none) :
    r.step '"' = { r with offset := r.offset + 1, string := some ⟨r.offset, [], false⟩ } := by
  simp [step, h, readOutside]

def StaysOpen (body : List Char) : Prop :=
  ∀ {r : Registers} {start : Nat} {read : List Char}, r.string = some ⟨start, read, false⟩ →
    (r.readFrom body).string = some ⟨start, body.reverse ++ read, false⟩ ∧
      Throughout r.Agrees r body

theorem StringToken.staysOpen (s : StringToken) : StaysOpen s.body :=
  throughout_body s.wellFormed

theorem throughout_opened {body : List Char} (hbody : StaysOpen body) {r : Registers}
    (h : r.string = none) :
    (r.readFrom ('"' :: body)).string = some ⟨r.offset, body.reverse, false⟩ ∧
      Throughout r.Agrees r ('"' :: body) := by
  have hquote := step_quote h
  have hbody := hbody (r := r.step '"') (by rw [hquote])
  constructor
  · rw [readFrom_cons, hbody.1, List.append_nil]
  · refine throughout_agrees_cons ?_ hbody.2
    rw [hquote]
    rfl

theorem readFrom_quoted {body : List Char} (hbody : StaysOpen body) {r : Registers}
    (h : r.string = none) :
    r.readFrom ('"' :: body ++ ['"']) =
      { r with
        offset := r.offset + ('"' :: body ++ ['"']).length
        pendingKey :=
          if r.expectingValue then r.pendingKey
          else r.pendingKey.or (some (String.ofList body)) } := by
  obtain ⟨hstring, hagrees⟩ := throughout_opened hbody h
  have hoffset := offset_readFrom r ('"' :: body)
  rw [readFrom_append, readFrom_cons, readFrom_nil, step, hstring]
  simp only [readInString, closeString, Bool.false_eq_true, if_false, List.reverse_reverse, hoffset]
  rw [hagrees.atEnd]
  simp [h, Nat.add_assoc]

theorem readFrom_string (s : StringToken) {r : Registers} (h : r.string = none) :
    r.readFrom s.text =
      { r with
        offset := r.offset + s.text.length
        pendingKey :=
          if r.expectingValue then r.pendingKey
          else r.pendingKey.or (some (String.ofList s.body)) } :=
  readFrom_quoted s.staysOpen h

theorem throughout_string (s : StringToken) {r : Registers} (h : r.string = none) :
    Throughout r.Keeps r s.text := by
  have hopened := (throughout_opened s.staysOpen h).2
  refine throughout_append (hopened.mono fun _ _ _ hs => hs.keeps) ⟨hopened.atEnd.keeps, ?_⟩
  have hend := readFrom_string s h
  rw [StringToken.text, readFrom_append] at hend
  change r.Keeps ((r.readFrom ('"' :: s.body)).readFrom ['"'])
  rw [hend]
  rfl

/-! ## Containers -/

theorem step_opener {r : Registers} (h : r.string = none) (opener : Opener) :
    r.step opener.char = { r.enter opener with offset := r.offset + 1 } := by
  rw [step_outside h]
  cases opener <;> rfl

theorem step_closer {r : Registers} (h : r.string = none) (opener : Opener) :
    r.step (closer opener) = { r.leave with offset := r.offset + 1 } := by
  rw [step_outside h]
  cases opener <;> rfl

theorem step_colon {r : Registers} (h : r.string = none) :
    r.step ':' = { r.colon with offset := r.offset + 1 } := by
  rw [step_outside h]
  rfl

theorem step_comma {r : Registers} (h : r.string = none) :
    r.step ',' = { r.comma with offset := r.offset + 1 } := by
  rw [step_outside h]
  rfl

theorem sameContainers_comma {r : Registers} (h : r.string = none) :
    r.SameContainers (r.step ',') := by
  rw [step_comma h]
  exact ⟨rfl, rfl, rfl, rfl⟩

theorem sameContainers_leave {r s : Registers} {opener : Opener}
    (h : (r.enter opener).SameContainers s) : r.SameContainers s.leave := by
  have hframes : s.frames = ⟨opener, r.pendingKey.isSome⟩ :: r.frames := h.frames
  have hpath : s.path = r.pendingKey.toList ++ r.path := h.path
  have hdepths : s.arrayDepths =
      if opener = .bracket then r.depth :: r.arrayDepths else r.arrayDepths := h.arrayDepths
  have hdepth : s.depth = r.depth + 1 := h.depth
  constructor
  · simp only [leave, pop, hframes, hpath]
    cases r.pendingKey <;> rfl
  · simp only [leave, pop, hframes]
  · simp only [leave, pop, hframes, hdepths]
    cases opener <;> rfl
  · simp only [leave, pop, hframes, hdepth, Nat.add_sub_cancel]

def Label.key {opener : Opener} : Label opener → Option String
  | element => none
  | member _ name _ => some (String.ofList name.body)

/-- Where an item of a container begins. -/
structure ReadyForItem (opener : Opener) (r : Registers) : Prop where
  string : r.string = none
  pending : r.pendingKey = none
  noValue : opener = .brace → r.expectingValue = false

/-- Where the value of a member with a key begins, or a value without a key. -/
structure ReadyForValue (key : Option String) (r : Registers) : Prop where
  string : r.string = none
  pending : r.pendingKey = key
  awaited : ∀ k ∈ key, r.expectingValue = true ∧ r.currentKey = some k

theorem ReadyForItem.opened {key : Option String} {r : Registers} (h : ReadyForValue key r)
    (opener : Opener) : ReadyForItem opener (r.step opener.char) := by
  rw [step_opener h.string]
  refine ⟨h.string, rfl, ?_⟩
  rintro rfl
  rfl

theorem ReadyForItem.afterComma {r : Registers} (h : r.string = none) (opener : Opener) :
    ReadyForItem opener (r.step ',') := by
  rw [step_comma h]
  exact ⟨h, rfl, fun _ => rfl⟩

theorem ReadyForValue.afterSpacing {key : Option String} {r : Registers}
    (h : ReadyForValue key r) (s : Spacing) : ReadyForValue key (r.readFrom s.text) := by
  rw [readFrom_quiet h.string s.quiet]
  exact ⟨h.string, h.pending, h.awaited⟩

theorem readFrom_name (lead : Spacing) (name : StringToken) (gap : Spacing) {r : Registers}
    (h : ReadyForItem .brace r) :
    r.readFrom (lead.text ++ name.text ++ gap.text) =
      { r with
        offset := r.offset + (lead.text ++ name.text ++ gap.text).length
        pendingKey := some (String.ofList name.body) } := by
  have hlead := readFrom_quiet h.string lead.quiet
  have hname := readFrom_string name (r := r.readFrom lead.text) (by rw [hlead, h.string])
  have hgap := readFrom_quiet (r := (r.readFrom lead.text).readFrom name.text)
    (by rw [hname, hlead, h.string]) gap.quiet
  rw [readFrom_append, readFrom_append, hgap, hname, hlead]
  simp [h.noValue rfl, h.pending, Nat.add_assoc]

theorem throughout_name (lead : Spacing) (name : StringToken) (gap : Spacing) {r : Registers}
    (h : r.string = none) : Throughout r.Keeps r (lead.text ++ name.text ++ gap.text) := by
  have hlead := readFrom_quiet h lead.quiet
  have hname := readFrom_string name (r := r.readFrom lead.text) (by rw [hlead, h])
  refine throughout_keeps_append (throughout_keeps_append ?_ ?_) ?_
  · exact (throughout_quiet h lead.quiet).mono fun _ _ _ hs => hs.keeps
  · exact throughout_string name (by rw [hlead, h])
  · rw [readFrom_append]
    exact (throughout_quiet (by rw [hname, hlead, h]) gap.quiet).mono fun _ _ _ hs => hs.keeps

theorem readFrom_label {opener : Opener} (label : Label opener) {r : Registers}
    (h : ReadyForItem opener r) :
    ReadyForValue label.key (r.readFrom label.text) ∧
      r.SameContainers (r.readFrom label.text) := by
  cases label with
  | element => exact ⟨⟨h.string, h.pending, by simp [Label.key]⟩, (agrees_refl r).keeps.sameContainers⟩
  | member lead name gap =>
      have hname := readFrom_name lead name gap h
      have hstring : (r.readFrom (lead.text ++ name.text ++ gap.text)).string = none := by
        rw [hname, h.string]
      rw [Label.text, readFrom_append, readFrom_cons, readFrom_nil, step_colon hstring, hname]
      constructor
      · exact ⟨h.string, rfl, by simp [colon, Label.key]⟩
      · exact ⟨rfl, rfl, rfl, rfl⟩

theorem throughout_label {opener : Opener} (label : Label opener) {r : Registers}
    (h : ReadyForItem opener r) : Throughout r.SameContainers r label.text := by
  cases label with
  | element => exact (agrees_refl r).keeps.sameContainers
  | member lead name gap =>
      have hname := throughout_name lead name gap h.string
      have hend := (readFrom_label (.member lead name gap) h).2
      rw [Label.text, readFrom_append] at hend
      exact throughout_append (hname.mono fun _ _ _ hs => hs.sameContainers)
        ⟨hname.atEnd.sameContainers, hend⟩

theorem readFrom_enclosed {r : Registers} {opener : Opener} {inner : List Char}
    (h : r.string = none)
    (hstring : ((r.step opener.char).readFrom inner).string = none)
    (hsame : (r.step opener.char).SameContainers ((r.step opener.char).readFrom inner)) :
    (r.readFrom (opener.char :: inner ++ [closer opener])).string = none ∧
      r.SameContainers (r.readFrom (opener.char :: inner ++ [closer opener])) := by
  have hstep := step_opener h opener
  have hentered : (r.enter opener).SameContainers ((r.step opener.char).readFrom inner) := by
    rw [hstep] at hsame ⊢
    exact ⟨hsame.path, hsame.frames, hsame.arrayDepths, hsame.depth⟩
  have hleave := sameContainers_leave hentered
  rw [readFrom_append, readFrom_cons, readFrom_cons, readFrom_nil, step_closer hstring]
  exact ⟨(string_leave _).trans hstring, hleave.path, hleave.frames, hleave.arrayDepths,
    hleave.depth⟩

mutual

theorem readFrom_value : ∀ (value : Value) {key : Option String} {r : Registers},
    ReadyForValue key r →
      (r.readFrom value.text).string = none ∧ r.SameContainers (r.readFrom value.text)
  | .scalar s, _, r, h => by
      rw [Value.text, readFrom_quiet h.string s.quiet]
      exact ⟨h.string, ⟨rfl, rfl, rfl, rfl⟩⟩
  | .string s, _, r, h => by
      rw [Value.text, readFrom_string s h.string]
      exact ⟨h.string, ⟨rfl, rfl, rfl, rfl⟩⟩
  | .empty opener gap, _, r, h => by
      have hopened := ReadyForItem.opened h opener
      have hgap := throughout_quiet hopened.string gap.quiet
      refine readFrom_enclosed h.string ?_ hgap.atEnd.keeps.sameContainers
      rw [readFrom_quiet hopened.string gap.quiet, hopened.string]
  | .group opener items, _, r, h => by
      have hitems := readFrom_items items (ReadyForItem.opened h opener)
      exact readFrom_enclosed h.string hitems.1 hitems.2

theorem readFrom_item : ∀ {opener : Opener} (item : Item opener) {r : Registers},
    ReadyForItem opener r →
      (r.readFrom item.text).string = none ∧ r.SameContainers (r.readFrom item.text)
  | _, .of label lead value trail, r, h => by
      have hlabel := readFrom_label label h
      have hlead := throughout_quiet hlabel.1.string lead.quiet
      have hvalue := readFrom_value value (hlabel.1.afterSpacing lead)
      have htrail := throughout_quiet hvalue.1 trail.quiet
      rw [Item.text, readFrom_append, readFrom_append, readFrom_append]
      constructor
      · rw [readFrom_quiet hvalue.1 trail.quiet, hvalue.1]
      · exact hlabel.2.trans (hlead.atEnd.keeps.sameContainers.trans
          (hvalue.2.trans htrail.atEnd.keeps.sameContainers))

theorem readFrom_items : ∀ {opener : Opener} (items : Items opener) {r : Registers},
    ReadyForItem opener r →
      (r.readFrom items.text).string = none ∧ r.SameContainers (r.readFrom items.text)
  | _, .last item, r, h => by
      rw [Items.text]
      exact readFrom_item item h
  | opener, .more item rest, r, h => by
      have hitem := readFrom_item item h
      have hcomma := sameContainers_comma hitem.1
      have hrest := readFrom_items rest (ReadyForItem.afterComma hitem.1 opener)
      rw [Items.text, readFrom_append, readFrom_cons]
      exact ⟨hrest.1, hitem.2.trans (hcomma.trans hrest.2)⟩

end

theorem readyForValue_document (d : Document) :
    ReadyForValue none (initial.readFrom d.lead.text) := by
  rw [readFrom_quiet rfl d.lead.quiet]
  exact ⟨rfl, rfl, by simp⟩

theorem before_source (d : Document) (cursor : Nat) :
    before d.source cursor = d.text.take cursor := by
  rw [before, Document.source, String.toList_ofList, Int.toNat_natCast]

end QueryAssist.Grammar
