import QueryAssist.Proofs.Grammar.Reading
/-!
# Names and values

Where the members of the objects of a JSON text are named, and where their values are awaited or
being written. At a name the pass expects no value, and at a value it expects one, of just that key.
-/

namespace QueryAssist.Grammar

open Cursor Cursor.Registers

/-- What a cursor in an object is at: the name of a member, or the value of the member with a
key. -/
inductive Part
  | name
  | value (key : String)
  deriving DecidableEq, Repr

/-- The cursors from a first one to a last one that are at one part of a member. -/
structure Stretch where
  part : Part
  first : Nat
  last : Nat
  deriving DecidableEq, Repr

def Value.isContainer : Value → Bool
  | .scalar _ => false
  | .string _ => false
  | .empty _ _ => true
  | .group _ _ => true

def Label.stretches {opener : Opener} (start : Nat) : Label opener → List Stretch
  | element => []
  | member lead name gap =>
      [⟨.name, start, start + (lead.text ++ name.text ++ gap.text).length⟩]

mutual

/-- The parts of members in a value that begins at an offset. A value that is a container is awaited
up to its opener, any other up to the end of the blanks after it. -/
def Value.stretches (start : Nat) : Value → List Stretch
  | .scalar _ => []
  | .string _ => []
  | .empty .brace gap => [⟨.name, start + 1, start + 1 + gap.text.length⟩]
  | .empty .bracket _ => []
  | .group _ items => items.stretches (start + 1)

def Item.stretches {opener : Opener} (start : Nat) : Item opener → List Stretch
  | .of label lead value trail =>
      let colonEnd := start + label.text.length
      let valueStart := colonEnd + lead.text.length
      let last :=
        if value.isContainer then valueStart
        else valueStart + value.text.length + trail.text.length
      label.stretches start ++
        label.key.toList.map (fun key => ⟨.value key, colonEnd, last⟩) ++
        value.stretches valueStart

def Items.stretches {opener : Opener} (start : Nat) : Items opener → List Stretch
  | .last item => item.stretches start
  | .more item rest => item.stretches start ++ rest.stretches (start + item.text.length + 1)

end

def Document.stretches (d : Document) : List Stretch :=
  d.value.stretches d.lead.text.length

def Part.Fits (place : Place) : Part → Prop
  | name => place.expectingValue = false
  | value key => place.expectingValue = true ∧ place.currentKey = some key

/-! ## Where stretches lie -/

def Between (start stop : Nat) (sts : List Stretch) : Prop :=
  ∀ st ∈ sts, start ≤ st.first ∧ st.last ≤ stop

mutual

theorem between_value : ∀ (value : Value) (start : Nat),
    Between start (start + value.text.length) (value.stretches start)
  | .scalar _, start => by simp [Between, Value.stretches]
  | .string _, start => by simp [Between, Value.stretches]
  | .empty .brace gap, start => by
      simp [Between, Value.stretches, Value.text]
      omega
  | .empty .bracket _, start => by simp [Between, Value.stretches]
  | .group opener items, start => by
      have hitems := between_items items (start + 1)
      intro st hst
      have hbounds := hitems st hst
      simp only [Value.text, List.length_append, List.length_cons]
      omega

theorem between_item : ∀ {opener : Opener} (item : Item opener) (start : Nat),
    Between start (start + item.text.length) (item.stretches start)
  | _, .of label lead value trail, start => by
      have hvalue := between_value value (start + label.text.length + lead.text.length)
      intro st hst
      simp only [Item.stretches, List.mem_append] at hst
      simp only [Item.text, List.length_append]
      rcases hst with (hst | hst) | hst
      · cases label with
        | element => simp [Label.stretches] at hst
        | member lead' name gap =>
            simp only [Label.stretches, List.mem_singleton] at hst
            simp only [hst, Label.text, List.length_append]
            omega
      · obtain ⟨key, _, rfl⟩ := List.mem_map.1 hst
        dsimp only
        split <;> omega
      · have hbounds := hvalue st hst
        omega

theorem between_items : ∀ {opener : Opener} (items : Items opener) (start : Nat),
    Between start (start + items.text.length) (items.stretches start)
  | _, .last item, start => by
      rw [Items.text]
      exact between_item item start
  | _, .more item rest, start => by
      have hitem := between_item item start
      have hrest := between_items rest (start + item.text.length + 1)
      intro st hst
      simp only [Items.text, List.length_append, List.length_cons]
      rw [Items.stretches, List.mem_append] at hst
      rcases hst with hst | hst
      · have hbounds := hitem st hst
        omega
      · have hbounds := hrest st hst
        omega

end

/-! ## The pass over a text -/

/-- Registers that fit every stretch their offset is in. -/
def Fitting (sts : List Stretch) (s : Registers) : Prop :=
  ∀ st ∈ sts, st.first ≤ s.offset → s.offset ≤ st.last → st.part.Fits s.place

variable {r s : Registers} {a b sts : List Stretch} {cs more : List Char}

theorem throughout_fitting_append (ha : Throughout (Fitting a) r cs)
    (hb : Throughout (Fitting b) r cs) : Throughout (Fitting (a ++ b)) r cs := by
  apply (throughout_and ha hb).mono
  intro s _ _ hs st hst
  rcases List.mem_append.1 hst with hst | hst
  · exact hs.1 st hst
  · exact hs.2 st hst

theorem fitting_singleton {st : Stretch} (h : st.first ≤ s.offset → s.offset ≤ st.last →
    st.part.Fits s.place) : Fitting [st] s := by
  intro st' hst
  rw [List.mem_singleton.1 hst]
  exact h

theorem throughout_fitting_nil : Throughout (Fitting []) r cs :=
  throughout_of_offset fun _ _ _ _ hst => absurd hst List.not_mem_nil

theorem throughout_fitting_inside (before : List Char) {inner after : List Char} {start : Nat}
    (hstart : start = (r.readFrom before).offset) (hsts : Between start (start + inner.length) sts)
    (hinner : Throughout (Fitting sts) (r.readFrom before) inner) :
    Throughout (Fitting sts) r (before ++ (inner ++ after)) := by
  rw [offset_readFrom] at hstart
  apply throughout_append_of_before
  · intro s hs st hst hfirst _
    have hbounds := hsts st hst
    omega
  · apply throughout_append_of_after hinner
    intro s hs st hst _ hlast
    have hbounds := hsts st hst
    rw [offset_readFrom] at hs
    omega

theorem fits_name_of_keeps (h : r.expectingValue = false) (hs : r.Keeps s) :
    Part.name.Fits s.place := by
  rw [hs]
  exact h

theorem fits_value_of_keeps {key : String} (h : ReadyForValue (some key) r) (hs : r.Keeps s) :
    (Part.value key).Fits s.place := by
  rw [hs]
  exact h.awaited key rfl

theorem fitting_name (h : r.expectingValue = false) (hcs : Throughout r.Keeps r cs) :
    Throughout (Fitting [⟨.name, r.offset, r.offset + cs.length⟩]) r (cs ++ more) := by
  apply throughout_append_of_after
  · exact hcs.mono fun s _ _ hs => fitting_singleton fun _ _ => fits_name_of_keeps h hs
  · intro s hs
    apply fitting_singleton
    intro _ hlast
    dsimp only at hlast
    omega

theorem fitting_label {opener : Opener} (label : Label opener) (h : ReadyForItem opener r) :
    Throughout (Fitting (label.stretches r.offset)) r (label.text ++ more) := by
  cases label with
  | element => exact throughout_fitting_nil
  | member lead name gap =>
      rw [Label.text, List.append_assoc]
      exact fitting_name (h.noValue rfl) (throughout_name lead name gap h.string)

theorem keeps_value {value : Value} (hvalue : value.isContainer = false) (h : r.string = none) :
    Throughout r.Keeps r value.text := by
  cases value with
  | scalar s => exact (throughout_quiet h s.quiet).mono fun _ _ _ hs => hs.keeps
  | string s => exact throughout_string s h
  | empty _ _ => cases hvalue
  | group _ _ => cases hvalue

theorem fitting_awaited {key : String} (h : ReadyForValue (some key) r) (lead : Spacing)
    (value : Value) (trail : Spacing) :
    Throughout
      (Fitting [⟨.value key, r.offset,
        if value.isContainer then r.offset + lead.text.length
        else r.offset + lead.text.length + value.text.length + trail.text.length⟩])
      r (lead.text ++ (value.text ++ trail.text)) := by
  have hlead := (throughout_quiet h.string lead.quiet).mono fun _ _ _ hs => hs.keeps
  cases hvalue : value.isContainer with
  | true =>
      apply throughout_append_of_after
      · exact hlead.mono fun s _ _ hs => fitting_singleton fun _ _ => fits_value_of_keeps h hs
      · intro s hs
        apply fitting_singleton
        intro _ hlast
        simp only [if_true] at hlast
        omega
  | false =>
      have hready := h.afterSpacing lead
      have hinner := keeps_value hvalue hready.string
      have htrail := throughout_quiet (readFrom_value value hready).1 trail.quiet
      have hall := throughout_keeps_append hlead
        (throughout_keeps_append hinner (htrail.mono fun _ _ _ hs => hs.keeps))
      exact hall.mono fun s _ _ hs => fitting_singleton fun _ _ => fits_value_of_keeps h hs

mutual

theorem fitting_value : ∀ (value : Value) {key : Option String} {r : Registers},
    ReadyForValue key r → Throughout (Fitting (value.stretches r.offset)) r value.text
  | .scalar _, _, r, h => throughout_fitting_nil
  | .string _, _, r, h => throughout_fitting_nil
  | .empty .brace gap, _, r, h => by
      have hopened := ReadyForItem.opened h .brace
      have hgap := (throughout_quiet hopened.string gap.quiet).mono fun _ _ _ hs => hs.keeps
      apply throughout_append_of_before (a := [Opener.brace.char])
      · intro s hs
        apply fitting_singleton
        intro hfirst _
        rw [List.length_singleton] at hs
        dsimp only at hfirst
        omega
      · exact fitting_name (hopened.noValue rfl) hgap
  | .empty .bracket _, _, r, h => throughout_fitting_nil
  | .group opener items, _, r, h => by
      have hitems := fitting_items items (ReadyForItem.opened h opener)
      exact throughout_fitting_inside [opener.char] rfl (between_items items (r.offset + 1)) hitems

theorem fitting_item : ∀ {opener : Opener} (item : Item opener) {r : Registers},
    ReadyForItem opener r → Throughout (Fitting (item.stretches r.offset)) r item.text
  | _, .of label lead value trail, r, h => by
      have hlabel := (readFrom_label label h).1
      have hoffset : r.offset + label.text.length = (r.readFrom label.text).offset := by
        rw [offset_readFrom]
      rw [Item.stretches, Item.text, List.append_assoc (label.text ++ lead.text),
        List.append_assoc label.text]
      refine throughout_fitting_append (throughout_fitting_append ?_ ?_) ?_
      · exact fitting_label label h
      · apply throughout_append_of_before
        · intro s hs st hst hfirst _
          obtain ⟨key, _, rfl⟩ := List.mem_map.1 hst
          dsimp only at hfirst
          omega
        · rw [hoffset]
          cases hkey : label.key with
          | none => exact throughout_fitting_nil
          | some key =>
              rw [hkey] at hlabel
              exact fitting_awaited hlabel lead value trail
      · have hready := hlabel.afterSpacing lead
        have hvalue := fitting_value value hready
        have hstart : r.offset + label.text.length + lead.text.length =
            (r.readFrom (label.text ++ lead.text)).offset := by
          rw [offset_readFrom, List.length_append, Nat.add_assoc]
        rw [← List.append_assoc label.text]
        refine throughout_fitting_inside (label.text ++ lead.text) hstart (between_value value _) ?_
        rw [hstart, readFrom_append]
        exact hvalue

theorem fitting_items : ∀ {opener : Opener} (items : Items opener) {r : Registers},
    ReadyForItem opener r → Throughout (Fitting (items.stretches r.offset)) r items.text
  | _, .last item, r, h => by
      rw [Items.text]
      exact fitting_item item h
  | opener, .more item rest, r, h => by
      have hend := readFrom_item item h
      have hrest := fitting_items rest (ReadyForItem.afterComma hend.1 opener)
      have hoffset : ((r.readFrom item.text).step ',').offset =
          r.offset + item.text.length + 1 := by
        rw [offset_step, offset_readFrom]
      rw [hoffset] at hrest
      rw [Items.stretches, Items.text]
      apply throughout_fitting_append
      · apply throughout_append_of_after (fitting_item item h)
        intro s hs st hst _ hlast
        have hbounds := between_item item r.offset st hst
        omega
      · apply throughout_append_of_before
        · intro s hs st hst hfirst _
          have hbounds := between_items rest _ st hst
          omega
        · refine ⟨?_, hrest⟩
          intro st hst hfirst _
          have hbounds := between_items rest _ st hst
          rw [offset_readFrom] at hfirst
          omega

end

theorem fitting_document (d : Document) :
    Throughout (Fitting d.stretches) initial d.text := by
  have hvalue := fitting_value d.value (readyForValue_document d)
  have hstart : d.lead.text.length = (initial.readFrom d.lead.text).offset := by
    rw [offset_readFrom]
    exact (Nat.zero_add _).symm
  rw [← hstart] at hvalue
  rw [Document.text, List.append_assoc]
  exact throughout_fitting_inside d.lead.text hstart (between_value d.value _) hvalue

/-! ## The place of a cursor -/

/-- At every cursor of a JSON text that is at a part of a member the pass says so: it expects no value
from the opener or the comma before a name up to its colon, and from there to the opener of the
value, or to the end of the blanks after it, it expects the value of that key. -/
theorem scan_part (d : Document) {st : Stretch} (hst : st ∈ d.stretches) {cursor : Nat}
    (hfirst : st.first ≤ cursor) (hlast : cursor ≤ st.last) :
    st.part.Fits (scan d.source cursor) := by
  have hbounds := between_value d.value d.lead.text.length st hst
  have hlength : cursor ≤ d.text.length := by
    simp only [Document.text, List.length_append]
    omega
  have hoffset : (initial.readFrom (d.text.take cursor)).offset = cursor := by
    rw [offset_readFrom, List.length_take, Nat.min_eq_left hlength]
    exact Nat.zero_add cursor
  rw [scan, before_source, run_eq_readFrom]
  apply throughout_iff.1 (fitting_document d) cursor st hst
  · rwa [hoffset]
  · rwa [hoffset]

/-- `{"a":["x",{"b" : "{,"}]}` -/
def nestedMember : Document :=
  let blank : Spacing := ⟨[' '], by simp [Json.isSpacing]⟩
  let none : Spacing := ⟨[], by simp⟩
  let letter (c : Char) (h : c ≠ '"' ∧ c ≠ '\\' ∧ 0x20 ≤ c.toNat) : StringToken :=
    ⟨[c], .plain h.1 h.2.1 h.2.2 .nil⟩
  let marks : StringToken :=
    ⟨['\x7b', ','], .plain (by decide) (by decide) (by decide)
      (.plain (by decide) (by decide) (by decide) .nil)⟩
  let inner := Value.group .brace
    (.last (.of (.member none (letter 'b' (by decide)) blank) blank (.string marks) none))
  let items := Value.group .bracket
    (.more (.of .element none (.string (letter 'x' (by decide))) none)
      (.last (.of .element none inner none)))
  ⟨none, .group .brace (.last (.of (.member none (letter 'a' (by decide)) none) none items none)),
    none⟩

theorem scan_part_nestedMember :
    (⟨.value "b", 16, 21⟩ : Stretch) ∈ nestedMember.stretches ∧ 16 ≤ 19 ∧ 19 ≤ 21 ∧
      (Part.value "b").Fits (scan nestedMember.source (19 : Nat)) := by
  have hst : (⟨.value "b", 16, 21⟩ : Stretch) ∈ nestedMember.stretches := by decide
  exact ⟨hst, by decide, by decide, scan_part nestedMember hst (by decide) (by decide)⟩

end QueryAssist.Grammar
