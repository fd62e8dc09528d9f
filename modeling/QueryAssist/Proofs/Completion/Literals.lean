import QueryAssist.Field.Mapping
import QueryAssist.Field.Payload
import QueryAssist.Proofs.Completion.Accept
import QueryAssist.Proofs.Completion.Fields
import QueryAssist.Proofs.Json.Strings
/-!
# Fields as strings

What a field inserts is its label between quotes, with nothing escaped. This is a string that stands for
the label only as long as no character of the label needs an escape.
-/

namespace QueryAssist.Completion

open Grammar Json

variable {data : Option Snapshot} {word : String} {c : Candidate}

theorem apply_of_mem_fieldOffers (h : c ∈ fieldOffers data word) :
    c.apply = some (valueText c.label) := by
  have hknown := mem_knownFields_of_mem_fieldOffers h
  cases data with
  | none => exact absurd hknown List.not_mem_nil
  | some snapshot =>
      obtain ⟨path, boost, detail, info, rfl⟩ := exists_fieldOffer_of_mem_allFieldOffers hknown
      rfl

theorem parse_valueText_eq_ok_iff {room : Nat} {name : String} {v : Json} :
    parse room (valueText name).toList = .ok v ↔
      ∃ codes, Spells name.toList codes ∧ v = .str (String.ofList (joinSurrogates codes)) := by
  rw [toList_valueText, parse_quoted_iff]

/-- What a field inserts is a string if and only if its label may stand between quotes, and one that
stands for the label if and only if all characters of the label stand for themselves. -/
theorem parse_apply_iff (room : Nat) (h : c ∈ fieldOffers data word) :
    ∃ text, c.apply = some text ∧
      ((∃ s, parse room text.toList = .ok (.str s)) ↔ IsStringBody c.label.toList) ∧
      (parse room text.toList = .ok (.str c.label) ↔ ∀ x ∈ c.label.toList, IsVerbatim x) := by
  refine ⟨_, apply_of_mem_fieldOffers h, ?_, ?_⟩
  · rw [isStringBody_iff]
    constructor
    · rintro ⟨s, hs⟩
      obtain ⟨codes, hspells, -⟩ := parse_valueText_eq_ok_iff.1 hs
      exact ⟨codes, hspells⟩
    · rintro ⟨codes, hspells⟩
      exact ⟨_, parse_valueText_eq_ok_iff.2 ⟨codes, hspells, rfl⟩⟩
  · rw [toList_valueText, parse_quoted_self_iff]

/-- The keyword field beside a text field in an object, both with names that are not in ASCII. -/
def describedUser : Json :=
  .obj [("fields", .obj [("posts", .arr [.obj [("name", .str "näme"), ("properties", .arr
    [.obj [("name", .str "😀/\x7f"), ("type", .str "text")]])]])])]

theorem parse_apply_iff_user :
    ∃ s, Snapshot.ofPayload describedUser = .ok s ∧
      ∃ c ∈ fieldOffers (some s) "", c.label = "näme.😀/\x7f.keyword" ∧
        ∃ text, c.apply = some text ∧
          ((∃ s, parse 0 text.toList = .ok (.str s)) ↔ IsStringBody c.label.toList) ∧
          (parse 0 text.toList = .ok (.str c.label) ↔ ∀ x ∈ c.label.toList, IsVerbatim x) := by
  obtain ⟨s, hs, h⟩ : ∃ s, Snapshot.ofPayload describedUser = .ok s ∧
      fieldOffer "näme.😀/\x7f.keyword" 84 "keyword" (some "Exact match (not analyzed)") ∈
        fieldOffers (some s) "" := ⟨_, rfl, by decide +kernel⟩
  exact ⟨s, hs, _, h, rfl, parse_apply_iff 0 h⟩

def describedQuote : Json :=
  .obj [("fields", .obj [("index", .arr [.obj [("name", .str "a\"b"), ("type", .str "keyword")]])])]

def mappedBackslash : Json :=
  .obj [("properties", .obj [("a\\nb", .obj [("type", .str "keyword")])])]

def quotedField : Candidate :=
  fieldOffer "a\"b" 85 "keyword" none

def backslashField : Candidate :=
  fieldOffer "a\\nb" 85 "keyword" none

theorem not_spells_quote (codes : List Nat) : ¬Spells "a\"b".toList codes := by
  intro h
  cases h with
  | plain _ hrest =>
      cases hrest with
      | plain hquote _ => exact hquote.1 rfl

theorem spells_backslash : Spells "a\\nb".toList [0x61, 0x0A, 0x62] :=
  .plain (by decide) (.short (d := '\n') rfl (.plain (by decide) .nil))

/-- With a quote in its name a field inserts no string, and with a backslash the string for another
name. -/
theorem not_parse_apply :
    (∃ s, Snapshot.ofPayload describedQuote = .ok s ∧ quotedField ∈ fieldOffers (some s) "" ∧
      ∃ text, quotedField.apply = some text ∧ ∀ room v, parse room text.toList ≠ .ok v) ∧
    ∃ s, Snapshot.ofMapping mappedBackslash "_default" = .ok s ∧
      backslashField ∈ fieldOffers (some s) "" ∧
      ∃ text, backslashField.apply = some text ∧
        (∀ room, parse room text.toList = .ok (.str "a\nb")) ∧ backslashField.label ≠ "a\nb" := by
  constructor
  · refine ⟨_, rfl, by decide +kernel, _, rfl, fun room v h => ?_⟩
    obtain ⟨codes, hspells, -⟩ := parse_valueText_eq_ok_iff.1 h
    exact not_spells_quote codes hspells
  · refine ⟨_, rfl, by decide +kernel, _, rfl, fun room => ?_, by decide⟩
    exact parse_valueText_eq_ok_iff.2 ⟨_, spells_backslash, rfl⟩

end QueryAssist.Completion
