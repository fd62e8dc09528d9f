import QueryAssist.Proofs.Completion.FieldPaths
import QueryAssist.Proofs.Completion.Filtering
import QueryAssist.Proofs.Completion.Typing
import QueryAssist.Proofs.Number.Decimal
import Mathlib.Data.String.Basic
/-!
# Order by sort texts

Clients show items in the order of their sort texts. This is the order of the list as long as five
digits are enough to number the items, and no longer.
-/

namespace QueryAssist.Completion

open Cursor Number

/-! ## Sort texts by number -/

theorem toList_sortKey (n : Nat) : (sortKey n).toList = padLeft 5 '0' (Nat.toDigits 10 n) := by
  rw [sortKey, if_neg (by omega), String.toList_ofList, Int.natAbs_natCast]

theorem isDecimal_sortKey (n : Nat) : IsDecimal (sortKey n).toList := by
  rw [toList_sortKey]
  exact (isDecimal_toDigits n).padLeft 5

theorem decimalValue_sortKey (n : Nat) : decimalValue (sortKey n).toList = n := by
  rw [toList_sortKey, decimalValue_padLeft, decimalValue_toDigits]

theorem length_sortKey (n : Nat) : (sortKey n).length = max 5 (Nat.toDigits 10 n).length := by
  rw [← String.length_toList, toList_sortKey, length_padLeft]

theorem length_sortKey_le_length_sortKey {i j : Nat} (h : i ≤ j) :
    (sortKey i).length ≤ (sortKey j).length := by
  have hdigits : (Nat.toDigits 10 i).length ≤ (Nat.toDigits 10 j).length :=
    (Nat.length_toDigits_le_iff (by decide) Nat.length_toDigits_pos).2
      (h.trans_lt ((Nat.length_toDigits_le_iff (by decide) Nat.length_toDigits_pos).1 le_rfl))
  rw [length_sortKey, length_sortKey]
  omega

theorem length_sortKey_eq_five {n : Nat} (h : n < 100000) : (sortKey n).length = 5 := by
  have hdigits : (Nat.toDigits 10 n).length ≤ 5 :=
    (Nat.length_toDigits_le_iff (by decide) (by decide)).2 h
  rw [length_sortKey]
  omega

/-- A later item has the greater text exactly if the earlier one still has the smaller number with as
many zeros behind it as its text is shorter. -/
theorem sortKey_lt_sortKey_iff {i j : Nat} (h : i < j) :
    sortKey i < sortKey j ↔ i * 10 ^ ((sortKey j).length - (sortKey i).length) ≤ j := by
  have hlength : (sortKey i).toList.length ≤ (sortKey j).toList.length := by
    rw [String.length_toList, String.length_toList]
    exact length_sortKey_le_length_sortKey h.le
  have hback := lt_iff_decimalValue_lt (isDecimal_sortKey i) (isDecimal_sortKey j) hlength
  rw [decimalValue_sortKey, decimalValue_sortKey, String.length_toList, String.length_toList,
    ← String.lt_iff_toList_lt] at hback
  have hne : sortKey i ≠ sortKey j := by
    intro heq
    rw [← decimalValue_sortKey i, heq, decimalValue_sortKey] at h
    exact lt_irrefl j h
  rw [← not_lt, ← hback, not_lt, le_iff_lt_or_eq, or_iff_left hne]

/-! ## The texts of a list -/

def sortKeys (n : Nat) : List String :=
  (List.range n).map fun index : Nat => sortKey index

theorem pairwise_lt_sortKeys {n : Nat} (h : n ≤ 100000) : (sortKeys n).Pairwise (· < ·) := by
  rw [sortKeys, List.pairwise_map]
  refine List.pairwise_lt_range.imp_of_mem fun {i j} _ hj hij => ?_
  have hj : j < 100000 := (List.mem_range.1 hj).trans_le h
  rw [sortKey_lt_sortKey_iff hij, length_sortKey_eq_five hj, length_sortKey_eq_five (hij.trans hj),
    Nat.sub_self, Nat.pow_zero, Nat.mul_one]
  exact hij.le

theorem not_sortKey_le : ¬sortKey (99999 : Nat) ≤ sortKey (100000 : Nat) := by
  have hlength : (sortKey (100000 : Nat)).length - (sortKey (99999 : Nat)).length = 1 := by
    decide +kernel
  rw [le_iff_lt_or_eq, sortKey_lt_sortKey_iff (by decide), hlength]
  decide +kernel

theorem le_of_pairwise_le_sortKeys {n : Nat} (h : (sortKeys n).Pairwise (· ≤ ·)) : n ≤ 100000 := by
  by_contra hn
  rw [sortKeys, List.pairwise_map, List.pairwise_iff_getElem] at h
  have hlast : 100000 < (List.range n).length := by
    rw [List.length_range]
    omega
  have hle := h 99999 100000 (by omega) hlast (by decide)
  rw [List.getElem_range, List.getElem_range] at hle
  exact not_sortKey_le hle

theorem map_sortText_itemsFrom (range : Range) (index : Nat) (options : List Candidate) :
    (itemsFrom range index options).map (·.sortText) =
      (List.range' index options.length).map fun k : Nat => sortKey k := by
  induction options generalizing index with
  | nil => rfl
  | cons c rest ih =>
      rw [itemsFrom, List.map_cons, List.length_cons, List.range'_succ, List.map_cons, ih]
      rfl

theorem length_itemsFrom (range : Range) (index : Nat) (options : List Candidate) :
    (itemsFrom range index options).length = options.length := by
  have h := congrArg List.length (map_sortText_itemsFrom range index options)
  rwa [List.length_map, List.length_map, List.length_range'] at h

section List

variable {u : ColumnUnit} {text : String} {p : Position} {data : Option Snapshot} {explicit : Bool}
  {list : CompletionList}

theorem map_sortText_items (h : completionList u text p data explicit = some list) :
    list.items.map (·.sortText) = sortKeys list.items.length := by
  obtain ⟨items, hitems, rfl⟩ := Option.map_eq_some_iff.1 h
  obtain ⟨found, -, rfl⟩ := Option.map_eq_some_iff.1 hitems
  rw [CompletionList.ofItems, map_sortText_itemsFrom, length_itemsFrom, sortKeys,
    List.range_eq_range']

theorem sortText_getElem (h : completionList u text p data explicit = some list) {k : Nat}
    (hk : k < list.items.length) : list.items[k].sortText = sortKey k := by
  have htext := List.getElem_of_eq (map_sortText_items h) (by rwa [List.length_map])
  rw [List.getElem_map] at htext
  rw [htext]
  simp only [sortKeys, List.getElem_map, List.getElem_range]

theorem length_items (h : completionList u text p data explicit = some list) :
    list.items.length = (candidates (contextAt text (p.offsetIn u text))
      (currentWord text (p.offsetIn u text)) data explicit).length := by
  obtain ⟨items, hitems, rfl⟩ := Option.map_eq_some_iff.1 h
  obtain ⟨found, hfound, rfl⟩ := Option.map_eq_some_iff.1 hitems
  have hoptions := congrArg (fun found => found.options.length) (eq_of_provide hfound)
  exact (length_itemsFrom _ 0 found.options).trans (hoptions.trans (List.length_mergeSort _))

end List

def shown (items : List Item) : List Item :=
  items.mergeSort fun a b => decide (a.sortText ≤ b.sortText)

theorem pairwise_shown (items : List Item) :
    (shown items).Pairwise fun a b => a.sortText ≤ b.sortText := by
  have hsorted : (shown items).Pairwise fun a b => decide (a.sortText ≤ b.sortText) = true := by
    apply List.pairwise_mergeSort
    · intro a b c hab hbc
      exact decide_eq_true ((of_decide_eq_true hab).trans (of_decide_eq_true hbc))
    · intro a b
      simpa using le_total a.sortText b.sortText
  exact hsorted.imp of_decide_eq_true

/-! ## Many fields -/

def numberedNames (n : Nat) : List String :=
  (List.range n).map fun k => "a" ++ toString k

theorem nodup_numberedNames (n : Nat) : (numberedNames n).Nodup := by
  refine List.pairwise_map.2 (List.nodup_range.imp fun {i j} hne hij => hne ?_)
  have hdigits : Nat.toDigits 10 i = Nat.toDigits 10 j := by
    rw [← Nat.toList_repr, ← Nat.toList_repr]
    exact congrArg String.toList ((String.append_right_inj "a").1 hij)
  rw [← decimalValue_toDigits i, hdigits, decimalValue_toDigits]

theorem containsWord_numbered (k : Nat) : Text.containsWord ("a" ++ toString k) "a" = true := by
  have hself : Text.containsWord ("a" ++ toString k) ("a" ++ toString k) = true := by
    rw [Text.containsWord, Text.hasInfix_iff]
  refine Text.containsWord_of_append hself ?_
  rintro ⟨before, passed, hword, -, -, -⟩
  have hsigma : '\u03A3' ∈ "a".toList := by
    rw [hword]
    exact List.mem_append_right _ List.mem_cons_self
  exact absurd hsigma (by decide)

theorem walk_keywordFields (names : List String) :
    (keywordFields names).walk =
      names.map fun name => (name, ⟨name, .keyword, .null, false, []⟩) := by
  rw [Snapshot.walk, Snapshot.allFields, keywordFields, List.flatMap_singleton]
  induction names with
  | nil => rfl
  | cons name names ih =>
      rw [List.map_cons, Field.flattenAll, ih]
      rfl

theorem allFieldOffers_keywordFields {names : List String} (h : names.Nodup) :
    allFieldOffers (keywordFields names) =
      names.map fun name => fieldOffer name 85 "keyword" none := by
  have hoffers : ((keywordFields names).walk.flatMap fun entry => ofField entry.1 entry.2) =
      names.map fun name => fieldOffer name 85 "keyword" none := by
    rw [walk_keywordFields, List.flatMap_map]
    exact List.flatMap_pure_eq_map _ _
  have hlabels : (names.map fun name => fieldOffer name 85 "keyword" none).map (·.label) = names := by
    rw [List.map_map]
    exact List.map_id names
  rw [allFieldOffers, hoffers, firstByLabel_eq_self (by rwa [hlabels])]

theorem exists_list_of_length (n : Nat) :
    ∃ list, completionList .codePoint (fieldWanted ++ "a") ⟨0, 29⟩
        (some (keywordFields (numberedNames n))) true = some list ∧ list.items.length = n := by
  have hoffset : Position.offsetIn ⟨0, 29⟩ .codePoint (fieldWanted ++ "a") = 29 := by decide +kernel
  have hword : currentWord (fieldWanted ++ "a") (29 : Nat) = "a" := by decide +kernel
  have hfields : listsFields (contextAt (fieldWanted ++ "a") (29 : Nat)) = true := by decide +kernel
  obtain ⟨list, hlist⟩ : ∃ list, completionList .codePoint (fieldWanted ++ "a") ⟨0, 29⟩
      (some (keywordFields (numberedNames n))) true = some list := by
    rw [completionList, complete, provide_explicit]
    exact ⟨_, rfl⟩
  have hall : ∀ c ∈ knownFields (some (keywordFields (numberedNames n))),
      Text.containsWord c.label "a" = true := by
    intro c hc
    rw [knownFields, Option.map_some, Option.getD_some,
      allFieldOffers_keywordFields (nodup_numberedNames n), numberedNames, List.map_map] at hc
    obtain ⟨k, -, rfl⟩ := List.mem_map.1 hc
    exact containsWord_numbered k
  refine ⟨list, hlist, ?_⟩
  rw [length_items hlist, hoffset, hword, candidates_eq_fieldOffers hfields,
    fieldOffers_eq_filter (by decide), List.filter_eq_self.2 hall, knownFields, Option.map_some,
    Option.getD_some, allFieldOffers_keywordFields (nodup_numberedNames n), List.length_map,
    numberedNames, List.length_map, List.length_range]

/-- The sort texts of a list increase, and clients show it in its order, exactly up to a hundred
thousand items. -/
theorem sortTexts_increase_iff {u : ColumnUnit} {text : String} {p : Position}
    {data : Option Snapshot} {explicit : Bool} {list : CompletionList}
    (h : completionList u text p data explicit = some list) :
    ((list.items.map (·.sortText)).Pairwise (· < ·) ↔ list.items.length ≤ 100000) ∧
      (shown list.items = list.items ↔ list.items.length ≤ 100000) := by
  have htexts := map_sortText_items h
  constructor <;> constructor
  · intro hlt
    rw [htexts] at hlt
    exact le_of_pairwise_le_sortKeys (hlt.imp le_of_lt)
  · intro hlength
    rw [htexts]
    exact pairwise_lt_sortKeys hlength
  · intro hshown
    apply le_of_pairwise_le_sortKeys
    rw [← htexts, List.pairwise_map, ← hshown]
    exact pairwise_shown list.items
  · intro hlength
    have hlt := pairwise_lt_sortKeys hlength
    rw [← htexts, List.pairwise_map] at hlt
    exact List.mergeSort_of_pairwise (hlt.imp fun hab => decide_eq_true hab.le)

theorem sortTexts_increase_up_to_limit :
    ∃ list, completionList .codePoint (fieldWanted ++ "a") ⟨0, 29⟩
        (some (keywordFields (numberedNames 100000))) true = some list ∧
      (list.items.map (·.sortText)).Pairwise (· < ·) ∧ shown list.items = list.items := by
  obtain ⟨list, hlist, hlength⟩ := exists_list_of_length 100000
  obtain ⟨hincrease, hshown⟩ := sortTexts_increase_iff hlist
  exact ⟨list, hlist, hincrease.2 hlength.le, hshown.2 hlength.le⟩

/-- One more item goes before the one that it follows in the list. -/
theorem sortText_of_hundred_thousandth :
    ∃ list, completionList .codePoint (fieldWanted ++ "a") ⟨0, 29⟩
        (some (keywordFields (numberedNames 100001))) true = some list ∧
      ∃ before last, list.items[99999]? = some before ∧ list.items[100000]? = some last ∧
        before.sortText = "99999" ∧ last.sortText = "100000" ∧
        last.sortText < before.sortText := by
  obtain ⟨list, hlist, hlength⟩ := exists_list_of_length 100001
  have hbefore : 99999 < list.items.length := by omega
  have hlast : 100000 < list.items.length := by omega
  refine ⟨list, hlist, list.items[99999], list.items[100000], List.getElem?_eq_getElem hbefore,
    List.getElem?_eq_getElem hlast, ?_⟩
  rw [sortText_getElem hlist hbefore, sortText_getElem hlist hlast]
  refine ⟨by decide +kernel, by decide +kernel, ?_⟩
  exact lt_of_not_ge not_sortKey_le

end QueryAssist.Completion
