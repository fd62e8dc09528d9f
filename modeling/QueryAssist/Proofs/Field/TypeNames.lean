import QueryAssist.Field.Type
import QueryAssist.Proofs.Text.Lower
/-!
# Parts of type names

Where a part of a rule stands in the name of a type, and parts of earlier rules only within it, the name
is read like the part alone. Alone each part is read by its own rule, but for "point", which has the
"int" of an earlier rule in it.
-/

namespace QueryAssist.FieldType

variable {name before part after : String} {earlier later : List (List String × FieldType)}
  {parts : List String} {type : FieldType}

/-! ## Rules that apply -/

def applies (name : String) (rule : List String × FieldType) : Bool :=
  rule.1.any fun part => Text.hasInfix part.toList name.toList

theorem applies_iff {rule : List String × FieldType} :
    applies name rule = true ↔ ∃ part ∈ rule.1, part.toList <:+: name.toList := by
  simp only [applies, List.any_eq_true, Text.hasInfix_iff]

theorem ruleFor?_eq_find? (name : String) :
    ruleFor? name = (rules.find? (applies name)).map (·.2) :=
  rfl

theorem ofName?_eq_none (h : ∀ own ∈ all, own.name ≠ name) : ofName? name = none := by
  rw [ofName?, List.find?_eq_none]
  intro own hown hname
  exact h own hown (beq_iff_eq.1 hname)

/-! ## Parts in names -/

/-- A name has a part of a rule in it, with some text before and after. It is no type's own name, and a
part of an earlier rule occurs in it only within that part. -/
structure Embeds (earlier : List (List String × FieldType)) (name before part after : String) :
    Prop where
  spelled : name = before ++ part ++ after
  foreign : ∀ own ∈ all, own.name ≠ name
  within : ∀ rule ∈ earlier, ∀ other ∈ rule.1, ∀ front back : String,
    name = front ++ other ++ back → before.length ≤ front.length ∧ after.length ≤ back.length

theorem infix_middle {α : Type} {before middle after front other back : List α}
    (h : before ++ middle ++ after = front ++ other ++ back) (hfront : before.length ≤ front.length)
    (hback : after.length ≤ back.length) : other <:+: middle := by
  have hbefore : before <+: before ++ middle ++ after :=
    ⟨middle ++ after, (List.append_assoc ..).symm⟩
  have hfrontBegins : front <+: before ++ middle ++ after :=
    ⟨other ++ back, by rw [h, List.append_assoc]⟩
  obtain ⟨left, rfl⟩ := List.prefix_of_prefix_length_le hbefore hfrontBegins hfront
  obtain ⟨right, rfl⟩ := List.suffix_of_suffix_length_le (List.suffix_append _ after)
    ⟨before ++ left ++ other, h.symm⟩ hback
  refine ⟨left, right, ?_⟩
  have hmiddle : before ++ (middle ++ after) = before ++ (left ++ other ++ right ++ after) := by
    simpa only [List.append_assoc] using h
  exact (List.append_cancel_right (List.append_cancel_left hmiddle)).symm

namespace Embeds

theorem of_not_applies (hname : name = before ++ part ++ after) (hown : ∀ own ∈ all, own.name ≠ name)
    (hearlier : ∀ rule ∈ earlier, applies name rule = false) : Embeds earlier name before part after := by
  refine ⟨hname, hown, fun rule hrule other hother front back hspelled => ?_⟩
  have happlies : applies name rule = true := applies_iff.2 ⟨other, hother, front.toList, back.toList,
    by rw [hspelled, String.toList_append, String.toList_append]⟩
  rw [hearlier rule hrule] at happlies
  cases happlies

theorem occurs (h : Embeds earlier name before part after) : part.toList <:+: name.toList :=
  ⟨before.toList, after.toList, by rw [h.spelled, String.toList_append, String.toList_append]⟩

theorem occurs_in_part (h : Embeds earlier name before part after) {rule : List String × FieldType}
    (hrule : rule ∈ earlier) {other : String} (hother : other ∈ rule.1)
    (hoccurs : other.toList <:+: name.toList) : other.toList <:+: part.toList := by
  obtain ⟨front, back, hname⟩ := hoccurs
  have hspelled : name = String.ofList front ++ other ++ String.ofList back := by
    rw [String.ext_iff, String.toList_append, String.toList_append, String.toList_ofList,
      String.toList_ofList, hname]
  obtain ⟨hfront, hback⟩ := h.within rule hrule other hother _ _ hspelled
  rw [String.length_ofList] at hfront hback
  have hlists : before.toList ++ part.toList ++ after.toList = front ++ other.toList ++ back := by
    rw [hname, h.spelled, String.toList_append, String.toList_append]
  exact infix_middle hlists hfront hback

theorem applies_eq (h : Embeds earlier name before part after) {rule : List String × FieldType}
    (hrule : rule ∈ earlier) : applies name rule = applies part rule := by
  rw [Bool.eq_iff_iff, applies_iff, applies_iff]
  exact exists_congr fun other => and_congr_right fun hother =>
    ⟨h.occurs_in_part hrule hother, fun hoccurs => hoccurs.trans h.occurs⟩

theorem ruleFor?_eq (h : Embeds earlier name before part after)
    (hrules : rules = earlier ++ (parts, type) :: later) (hpart : part ∈ parts) :
    ruleFor? name = ruleFor? part := by
  have hname : applies name (parts, type) = true := applies_iff.2 ⟨part, hpart, h.occurs⟩
  have halone : applies part (parts, type) = true := applies_iff.2 ⟨part, hpart, List.infix_rfl⟩
  have hearlier : earlier.find? (applies name) = earlier.find? (applies part) := by
    rw [← List.head?_filter, ← List.head?_filter, List.filter_congr fun rule => h.applies_eq]
  rw [ruleFor?_eq_find?, ruleFor?_eq_find?, hrules, List.find?_append, List.find?_append, hearlier,
    List.find?_cons_of_pos hname, List.find?_cons_of_pos halone]

end Embeds

/-! ## Each part alone -/

theorem ruleFor?_part : ∀ rule ∈ rules, ∀ part ∈ rule.1,
    ruleFor? part = some (if part = "point" then integer else rule.2) := by
  decide +kernel

/-- Whatever is around it, a part of a rule makes a name that of the type of the rule, unless a part of
an earlier rule stands elsewhere in the name. The only part that does not is "point". -/
theorem ofJson_of_part {raw : String} (hrules : rules = earlier ++ (parts, type) :: later)
    (hpart : part ∈ parts) (h : Embeds earlier (Text.lower raw) before part after) :
    ofJson (.str raw) = if part = "point" then integer else type := by
  have hmem : (parts, type) ∈ rules := hrules ▸ List.mem_append_right _ List.mem_cons_self
  have hrule : ruleFor? (Text.lower raw) = some (if part = "point" then integer else type) :=
    (h.ruleFor?_eq hrules hpart).trans (ruleFor?_part _ hmem part hpart)
  have hraw : (Json.str raw).isTruthy = true := by
    rw [Json.isTruthy, Bool.not_eq_true', Bool.eq_false_iff]
    intro hempty
    have hnone : ruleFor? (Text.lower "") = none := by decide
    rw [String.isEmpty_iff.1 hempty, hnone] at hrule
    cases hrule
  rw [ofJson, if_pos hraw, Json.text, ofText, ofName?_eq_none h.foreign, hrule]
  rfl

theorem ofJson_of_part_timestamp :
    rules = rules.take 6 ++ (["date", "time", "timestamp"], date) :: rules.drop 7 ∧
      "timestamp" ∈ ["date", "time", "timestamp"] ∧
      Embeds (rules.take 6) (Text.lower "UnixTimestamp_ms") "unix" "timestamp" "_ms" ∧
      ofJson (.str "UnixTimestamp_ms") = date := by
  have hrules : rules = rules.take 6 ++ (["date", "time", "timestamp"], date) :: rules.drop 7 := rfl
  have hpart : "timestamp" ∈ ["date", "time", "timestamp"] := by decide
  have hembeds : Embeds (rules.take 6) (Text.lower "UnixTimestamp_ms") "unix" "timestamp" "_ms" :=
    .of_not_applies (by decide +kernel) (by decide +kernel) (by decide +kernel)
  exact ⟨hrules, hpart, hembeds, ofJson_of_part hrules hpart hembeds⟩

/-- The part "point" with nothing around it: the rule for it never applies. -/
theorem point_read_as_integer :
    rules = rules.take 8 ++ (["geo", "point", "location"], geoPoint) :: rules.drop 9 ∧
      "point" ∈ ["geo", "point", "location"] ∧
      Embeds (rules.take 8) (Text.lower "point") "" "point" "" ∧
      ofJson (.str "point") = integer ∧ integer ≠ geoPoint :=
  ⟨rfl, by decide, ⟨by decide, by decide, fun _ _ _ _ _ _ _ => ⟨Nat.zero_le _, Nat.zero_le _⟩⟩,
    by decide +kernel, by decide⟩

end QueryAssist.FieldType
