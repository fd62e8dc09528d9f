import QueryAssist.Completion.Item
import QueryAssist.Proofs.Completion.Accept
import QueryAssist.Proofs.Completion.Fields
import QueryAssist.Proofs.Position.Lines
/-!
# Typing on

A client narrows down a list that is complete as the word grows. Every field that it would be offered
for the longer word is in the list that it has, but for those beyond the limit of a list that was
asked for without a word, and for words whose last sigma takes another form.
-/

namespace QueryAssist.Completion

open Cursor

def typeAt (text : String) (offset : Nat) (typed : String) : String :=
  accept text offset offset typed

theorem currentWord_typeAt {text typed : String} {offset : Nat}
    (hoffset : offset ≤ text.toList.length) (htyped : ∀ c ∈ typed.toList, isDelimiter c = false) :
    currentWord (typeAt text offset typed) (offset + typed.length : Nat) =
      currentWord text offset ++ typed := by
  have hbefore : text.toList.take offset = before text offset := by rw [before, Int.toNat_natCast]
  rw [currentWord, typeAt, before_accept hoffset, hbefore, wordEnding_append htyped,
    String.ofList_append, String.ofList_toList, ← currentWord]

/-! ## Items and candidates -/

theorem exists_of_mem_itemsFrom {range : Range} {options : List Candidate} {index : Nat}
    {item : Item} (h : item ∈ itemsFrom range index options) :
    ∃ c ∈ options, item.label = c.label ∧ item.kind = .ofName c.kind.name := by
  induction options generalizing index with
  | nil => exact absurd h List.not_mem_nil
  | cons c rest ih =>
      rcases List.mem_cons.1 h with rfl | h
      · exact ⟨c, List.mem_cons_self, rfl, rfl⟩
      · obtain ⟨d, hd, hitem⟩ := ih h
        exact ⟨d, List.mem_cons_of_mem c hd, hitem⟩

theorem exists_mem_itemsFrom {range : Range} {options : List Candidate} {c : Candidate}
    (h : c ∈ options) (index : Nat) :
    ∃ item ∈ itemsFrom range index options,
      item.label = c.label ∧ item.kind = .ofName c.kind.name := by
  induction options generalizing index with
  | nil => exact absurd h List.not_mem_nil
  | cons d rest ih =>
      rcases List.mem_cons.1 h with rfl | h
      · exact ⟨_, List.mem_cons_self, rfl, rfl⟩
      · obtain ⟨item, hitem, hsame⟩ := ih h (index + 1)
        exact ⟨item, List.mem_cons_of_mem _ hitem, hsame⟩

theorem kind_eq_field_of_ofName {kind : CandidateKind} (h : ItemKind.ofName kind.name = .field) :
    kind = .field := by
  cases kind <;> first | rfl | cases h

section List

variable {u : ColumnUnit} {text : String} {p : Position} {data : Option Snapshot} {explicit : Bool}
  {list : CompletionList}

theorem isIncomplete_of_completionList (h : completionList u text p data explicit = some list) :
    list.isIncomplete = false := by
  obtain ⟨items, -, rfl⟩ := Option.map_eq_some_iff.1 h
  rfl

theorem exists_candidate_of_mem_items (h : completionList u text p data explicit = some list)
    {item : Item} (hitem : item ∈ list.items) :
    ∃ c ∈ candidates (contextAt text (p.offsetIn u text)) (currentWord text (p.offsetIn u text)) data
        explicit, item.label = c.label ∧ item.kind = .ofName c.kind.name := by
  obtain ⟨items, hitems, rfl⟩ := Option.map_eq_some_iff.1 h
  obtain ⟨found, hfound, rfl⟩ := Option.map_eq_some_iff.1 hitems
  obtain ⟨c, hc, hsame⟩ := exists_of_mem_itemsFrom hitem
  exact ⟨c, (mem_options_of_provide hfound).1 hc, hsame⟩

theorem exists_fieldOffer_of_mem_items (h : completionList u text p data explicit = some list)
    {item : Item} (hitem : item ∈ list.items) (hkind : item.kind = .field) :
    ∃ c ∈ fieldOffers data (currentWord text (p.offsetIn u text)), item.label = c.label := by
  obtain ⟨c, hc, hlabel, hname⟩ := exists_candidate_of_mem_items h hitem
  have hfield := kind_eq_field_of_ofName (hname.symm.trans hkind)
  rw [candidates_eq_fieldOffers (listsFields_of_mem_candidates hc hfield)] at hc
  exact ⟨c, hc, hlabel⟩

theorem exists_item_of_mem_fieldOffers (h : completionList u text p data explicit = some list)
    (hfields : OffersFields (contextAt text (p.offsetIn u text))) {c : Candidate}
    (hc : c ∈ fieldOffers data (currentWord text (p.offsetIn u text))) :
    ∃ item ∈ list.items, item.kind = .field ∧ item.label = c.label := by
  obtain ⟨items, hitems, rfl⟩ := Option.map_eq_some_iff.1 h
  obtain ⟨found, hfound, rfl⟩ := Option.map_eq_some_iff.1 hitems
  have hmem : c ∈ found.options := by
    rwa [mem_options_of_provide hfound, candidates_eq_fieldOffers (offersFields_iff.1 hfields)]
  obtain ⟨item, hitem, hlabel, hname⟩ := exists_mem_itemsFrom hmem 0
  refine ⟨item, hitem, ?_, hlabel⟩
  rw [hname, kind_of_mem_fieldOffers hc]
  rfl

end List

/-! ## The longer word -/

/-- As characters without a delimiter are typed at the cursor of a list that offers fields, the fields
that come up have their labels in that list, or they lie beyond the limit of a list that was asked
for without a word, or the word is one whose last sigma turns. Lists are always marked complete. -/
theorem fields_after_typing {u : ColumnUnit} {text : String} {p : Position} {data : Option Snapshot}
    {explicit : Bool} {list : CompletionList}
    (h : completionList u text p data explicit = some list)
    (hfields : OffersFields (contextAt text (p.offsetIn u text)))
    {typed : String} (htyped : ∀ c ∈ typed.toList, isDelimiter c = false) {q : Position}
    (hq : q.offsetIn u (typeAt text (p.offsetIn u text) typed) = p.offsetIn u text + typed.length)
    {later : CompletionList}
    (hlater : completionList u (typeAt text (p.offsetIn u text) typed) q data explicit = some later) :
    list.isIncomplete = false ∧
      ∀ item ∈ later.items, item.kind = .field →
        (∃ first ∈ list.items, first.label = item.label) ∨
          (currentWord text (p.offsetIn u text) = "" ∧
            ∃ c ∈ (knownFields data).drop fieldLimit, c.label = item.label) ∨
          Text.SigmaTurns (currentWord text (p.offsetIn u text)).toList typed.toList := by
  refine ⟨isIncomplete_of_completionList h, fun item hitem hkind => ?_⟩
  obtain ⟨c, hc, hlabel⟩ := exists_fieldOffer_of_mem_items hlater hitem hkind
  have hword := currentWord_typeAt (Position.offsetIn_le_length p u text) htyped
  rw [hq, hword] at hc
  rcases mem_fieldOffers_of_append hc with hfirst | ⟨hempty, hbeyond⟩ | hsigma
  · obtain ⟨first, hfirst, -, hsame⟩ := exists_item_of_mem_fieldOffers h hfields hfirst
    exact .inl ⟨first, hfirst, hsame.trans hlabel.symm⟩
  · exact .inr (.inl ⟨hempty, c, hbeyond, hlabel.symm⟩)
  · exact .inr (.inr hsigma)

def manyNames : List String :=
  (List.range fieldLimit).map (fun n => String.ofList (List.replicate (n + 1) 'a')) ++ ["z"]

theorem fields_after_typing_letter :
    ∃ list later,
      completionList .utf16 (fieldWanted ++ "a") ⟨0, 29⟩ (some (keywordFields manyNames)) false =
        some list ∧
      OffersFields (contextAt (fieldWanted ++ "a") 29) ∧ (∀ c ∈ "a".toList, isDelimiter c = false) ∧
      Position.offsetIn ⟨0, 30⟩ .utf16 (typeAt (fieldWanted ++ "a") 29 "a") = 30 ∧
      completionList .utf16 (typeAt (fieldWanted ++ "a") 29 "a") ⟨0, 30⟩
        (some (keywordFields manyNames)) false = some later ∧
      list.isIncomplete = false ∧
        ∀ item ∈ later.items, item.kind = .field →
          (∃ first ∈ list.items, first.label = item.label) ∨
            (currentWord (fieldWanted ++ "a") 29 = "" ∧
              ∃ c ∈ (knownFields (some (keywordFields manyNames))).drop fieldLimit,
                c.label = item.label) ∨
            Text.SigmaTurns (currentWord (fieldWanted ++ "a") 29).toList ['a'] := by
  obtain ⟨list, h⟩ : ∃ list, completionList .utf16 (fieldWanted ++ "a") ⟨0, 29⟩
      (some (keywordFields manyNames)) false = some list :=
    Option.isSome_iff_exists.1 (by decide +kernel)
  obtain ⟨later, hlater⟩ : ∃ later, completionList .utf16 (typeAt (fieldWanted ++ "a") 29 "a") ⟨0, 30⟩
      (some (keywordFields manyNames)) false = some later :=
    Option.isSome_iff_exists.1 (by decide +kernel)
  have hoffset : Position.offsetIn ⟨0, 29⟩ .utf16 (fieldWanted ++ "a") = 29 := by decide +kernel
  have hfields : OffersFields (contextAt (fieldWanted ++ "a") 29) :=
    offersFields_iff.2 (by decide +kernel)
  have htyped : ∀ c ∈ "a".toList, isDelimiter c = false := List.forall_mem_singleton.2 rfl
  have hq : Position.offsetIn ⟨0, 30⟩ .utf16 (typeAt (fieldWanted ++ "a") 29 "a") = 30 := by
    decide +kernel
  have hafter := fields_after_typing h (by rw [hoffset]; exact hfields) htyped
    (q := ⟨0, 30⟩) (by rw [hoffset]; exact hq) (by rw [hoffset]; exact hlater)
  rw [hoffset] at hafter
  exact ⟨list, later, h, hfields, htyped, hq, hlater, hafter⟩

/-- A list that offers fields is marked complete and lacks one that comes up as more is typed. -/
def LacksField (text typed : String) (p q : Position) (data : Option Snapshot) (label : String) :
    Prop :=
  OffersFields (contextAt text (p.offsetIn .codePoint text)) ∧
    (∀ c ∈ typed.toList, isDelimiter c = false) ∧
    q.offsetIn .codePoint (typeAt text (p.offsetIn .codePoint text) typed) =
      p.offsetIn .codePoint text + typed.length ∧
    ∃ list later,
      completionList .codePoint text p data false = some list ∧ list.isIncomplete = false ∧
      completionList .codePoint (typeAt text (p.offsetIn .codePoint text) typed) q data false =
        some later ∧
      (∃ item ∈ later.items, item.kind = .field ∧ item.label = label) ∧
      ∀ first ∈ list.items, first.label ≠ label

theorem lacksField_of_fieldOffers {text typed label : String} {p q : Position}
    {data : Option Snapshot} (htyped : ∀ c ∈ typed.toList, isDelimiter c = false)
    (hq : q.offsetIn .codePoint (typeAt text (p.offsetIn .codePoint text) typed) =
      p.offsetIn .codePoint text + typed.length)
    (hlist : (completionList .codePoint text p data false).isSome)
    (hlater : (completionList .codePoint (typeAt text (p.offsetIn .codePoint text) typed) q data
      false).isSome)
    (hfields : listsFields (contextAt text (p.offsetIn .codePoint text)) = true)
    (hmore : listsFields (contextAt (typeAt text (p.offsetIn .codePoint text) typed)
      (p.offsetIn .codePoint text + typed.length : Nat)) = true)
    (hlacks : ∀ c ∈ fieldOffers data (currentWord text (p.offsetIn .codePoint text)),
      c.label ≠ label)
    (hcomes : ∃ c ∈ fieldOffers data (currentWord text (p.offsetIn .codePoint text) ++ typed),
      c.label = label) : LacksField text typed p q data label := by
  obtain ⟨list, hlist⟩ := Option.isSome_iff_exists.1 hlist
  obtain ⟨later, hlater⟩ := Option.isSome_iff_exists.1 hlater
  refine ⟨offersFields_iff.2 hfields, htyped, hq, list, later, hlist,
    isIncomplete_of_completionList hlist, hlater, ?_, ?_⟩
  · obtain ⟨c, hc, hlabel⟩ := hcomes
    rw [← currentWord_typeAt (Position.offsetIn_le_length p _ text) htyped, ← hq] at hc
    rw [← hq] at hmore
    obtain ⟨item, hitem, hkind, hsame⟩ :=
      exists_item_of_mem_fieldOffers hlater (offersFields_iff.2 hmore) hc
    exact ⟨item, hitem, hkind, hsame.trans hlabel⟩
  · intro first hfirst hlabel
    obtain ⟨c, hc, hsame, -⟩ := exists_candidate_of_mem_items hlist hfirst
    rw [candidates_eq_fieldOffers hfields] at hc
    exact hlacks c hc (hsame.symm.trans hlabel)

/-- Beyond the limit without a word, and where a sigma turns, fields are lacking. -/
theorem lacksField_of_limit_and_sigma :
    LacksField fieldWanted "z" ⟨0, 28⟩ ⟨0, 29⟩ (some (keywordFields manyNames)) "z" ∧
      LacksField (fieldWanted ++ "ΑΣ") "Β" ⟨0, 30⟩ ⟨0, 31⟩ (some (keywordFields ["ΑΣΒ", "κας"]))
        "ΑΣΒ" := by
  have hz : ∀ c ∈ "z".toList, isDelimiter c = false := List.forall_mem_singleton.2 rfl
  have hbeta : ∀ c ∈ "Β".toList, isDelimiter c = false := List.forall_mem_singleton.2 rfl
  constructor
  · apply lacksField_of_fieldOffers hz <;> decide +kernel
  · apply lacksField_of_fieldOffers hbeta <;> decide +kernel

end QueryAssist.Completion
