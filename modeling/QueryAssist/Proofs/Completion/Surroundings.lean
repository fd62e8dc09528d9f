import QueryAssist.Completion.Item
import QueryAssist.Proofs.Completion.Provide
import QueryAssist.Proofs.Cursor.Layout
/-!
# What completions do not depend on

Nothing behind the cursor has a part in what is offered, and neither has the spacing before it outside
strings, unless it cuts the word at the cursor.
-/

namespace QueryAssist.Completion

open Cursor Json

variable {data : Option Snapshot} {explicit : Bool}

/-! ## Behind the cursor -/

section Prefix

variable {text : String} {cursor : Int}

theorem before_append (h : cursor ≤ text.length) (rest : String) :
    before (text ++ rest) cursor = before text cursor := by
  have hlength : cursor.toNat ≤ text.toList.length := by
    rw [String.length_toList]
    omega
  rw [before, before, String.toList_append, List.take_append_of_le_length hlength]

theorem contextAt_append (h : cursor ≤ text.length) (rest : String) :
    contextAt (text ++ rest) cursor = contextAt text cursor := by
  rw [contextAt, before_append h, contextAt]

theorem scan_append (h : cursor ≤ text.length) (rest : String) :
    scan (text ++ rest) cursor = scan text cursor := by
  rw [scan, before_append h, scan]

theorem provide_append (h : cursor ≤ text.length) (rest : String) :
    provide (text ++ rest) cursor data explicit = provide text cursor data explicit := by
  rw [provide, contextAt_append h, provide]

theorem ofOffset_append (h : cursor ≤ text.length) (u : ColumnUnit) (rest : String) :
    Position.ofOffset u (text ++ rest) cursor = Position.ofOffset u text cursor :=
  congrArg (Position.afterChars u) (before_append h rest)

def itemsAt (u : ColumnUnit) (text : String) (offset : Nat) (data : Option Snapshot)
    (explicit : Bool) : Option (List Item) :=
  (provide text offset data explicit).map fun found =>
    itemsFrom (.ofOffsets u text found.start offset) 0 found.options

theorem complete_eq_itemsAt (u : ColumnUnit) (text : String) (p : Position) :
    complete u text p data explicit = itemsAt u text (p.offsetIn u text) data explicit := rfl

theorem itemsAt_append {offset : Nat} (h : (offset : Int) ≤ text.length) (u : ColumnUnit)
    (rest : String) :
    itemsAt u (text ++ rest) offset data explicit = itemsAt u text offset data explicit := by
  rw [itemsAt, itemsAt, provide_append h]
  cases hfound : provide text offset data explicit with
  | none => rfl
  | some found =>
      have hstart : (found.start : Int) ≤ text.length := by
        have hle := wordStart_le (before text offset)
        rw [← start_of_provide hfound, before, List.length_take, String.length_toList] at hle
        omega
      simp only [Option.map_some, Range.ofOffsets, ofOffset_append hstart, ofOffset_append h]

end Prefix

/-- Texts with the same characters up to the cursor have the same context and the same offers there,
and where positions stand for the cursor the same items. -/
theorem provide_of_prefix {text : String} {cursor : Int} (h : cursor ≤ text.length)
    (rest₁ rest₂ : String) :
    contextAt (text ++ rest₁) cursor = contextAt (text ++ rest₂) cursor ∧
      scan (text ++ rest₁) cursor = scan (text ++ rest₂) cursor ∧
      (∀ data explicit, provide (text ++ rest₁) cursor data explicit =
        provide (text ++ rest₂) cursor data explicit) ∧
      ∀ (u : ColumnUnit) (p q : Position), p.offsetIn u (text ++ rest₁) = cursor →
        q.offsetIn u (text ++ rest₂) = cursor → ∀ data explicit,
          complete u (text ++ rest₁) p data explicit = complete u (text ++ rest₂) q data explicit := by
  refine ⟨?_, ?_, fun data explicit => ?_, fun u p q hp hq data explicit => ?_⟩
  · rw [contextAt_append h, contextAt_append h]
  · rw [scan_append h, scan_append h]
  · rw [provide_append h, provide_append h]
  · have hsame : q.offsetIn u (text ++ rest₂) = p.offsetIn u (text ++ rest₁) :=
      Int.ofNat_inj.1 (hq.trans hp.symm)
    have hle : (p.offsetIn u (text ++ rest₁) : Int) ≤ text.length := hp ▸ h
    rw [complete_eq_itemsAt, complete_eq_itemsAt, hsame, itemsAt_append hle, itemsAt_append hle]

def keyTyped : String := "\x7b\"size\": 1, \"so"

theorem provide_of_prefix_value :
    (15 : Int) ≤ keyTyped.length ∧
      Position.offsetIn ⟨0, 15⟩ .utf16 (keyTyped ++ "rt\": []\n\x7d") = 15 ∧
      Position.offsetIn ⟨0, 99⟩ .utf16 (keyTyped ++ "") = 15 ∧
      provide (keyTyped ++ "rt\": []\n\x7d") 15 none true = provide (keyTyped ++ "") 15 none true ∧
      complete .utf16 (keyTyped ++ "rt\": []\n\x7d") ⟨0, 15⟩ none true =
        complete .utf16 (keyTyped ++ "") ⟨0, 99⟩ none true := by
  have h : (15 : Int) ≤ keyTyped.length := by decide
  have hp : Position.offsetIn ⟨0, 15⟩ .utf16 (keyTyped ++ "rt\": []\n\x7d") = 15 := by decide
  have hq : Position.offsetIn ⟨0, 99⟩ .utf16 (keyTyped ++ "") = 15 := by decide
  obtain ⟨-, -, hprovide, hcomplete⟩ := provide_of_prefix h "rt\": []\n\x7d" ""
  refine ⟨h, hp, hq, hprovide none true, hcomplete .utf16 ⟨0, 15⟩ ⟨0, 99⟩ ?_ ?_ none true⟩
  · rw [hp]
    rfl
  · rw [hq]
    rfl

/-! ## Layout -/

theorem contextAt_length (text : String) :
    contextAt text text.length = Context.after text.toList := by
  rw [contextAt, before_length]

theorem scan_length (text : String) :
    scan text text.length = (Registers.run text.toList).place := by
  rw [scan, before_length]

theorem currentWord_length (text : String) :
    currentWord text text.length = String.ofList (wordEnding text.toList) := by
  rw [currentWord, before_length]

section Insertion

variable {a w b : String}

theorem currentWord_insert (hspacing : ∀ c ∈ w.toList, isSpacing c = true) :
    currentWord (a ++ w ++ b) (a ++ w ++ b).length =
      if w = "" then currentWord (a ++ b) (a ++ b).length else currentWord b b.length := by
  split
  · rename_i hempty
    rw [hempty, String.append_empty]
  · rename_i hne
    have hgap : w.toList ≠ [] := by simpa using hne
    rw [currentWord_length, currentWord_length, String.toList_append, String.toList_append,
      wordEnding_insert hgap fun c hc => isDelimiter_of_isSpacing (hspacing c hc)]

theorem scan_insert (hstring : (scan a a.length).inString = false)
    (hspacing : ∀ c ∈ w.toList, isSpacing c = true) :
    scan (a ++ w ++ b) (a ++ w ++ b).length =
      { scan (a ++ b) (a ++ b).length with
        stringStart := (scan (a ++ b) (a ++ b).length).stringStart.map (· + w.length) } := by
  rw [scan_length, Registers.inString_place_run] at hstring
  simp only [scan_length, String.toList_append, place_run_insert hstring hspacing,
    String.length_toList]

theorem contextAt_insert (hstring : (scan a a.length).inString = false)
    (hspacing : ∀ c ∈ w.toList, isSpacing c = true) :
    contextAt (a ++ w ++ b) (a ++ w ++ b).length =
      { contextAt (a ++ b) (a ++ b).length with
        cursor := (a ++ b).length + w.length
        word := currentWord (a ++ w ++ b) (a ++ w ++ b).length } := by
  rw [scan_length, Registers.inString_place_run] at hstring
  have hlength : (a.toList ++ w.toList ++ b.toList).length = (a ++ b).length + w.length := by
    rw [← String.toList_append, ← String.toList_append, String.length_toList, String.length_append,
      String.length_append, String.length_append]
    omega
  rw [contextAt_length, contextAt_length, currentWord_length, String.toList_append,
    String.toList_append, String.toList_append, (sameSpot_insert hstring hspacing _).context, hlength]

end Insertion

theorem provideIn_cursor (ctx : Context) (cursor : Nat) :
    provideIn { ctx with cursor } data explicit =
      (provideIn ctx data explicit).map fun found =>
        { found with start := cursor - ctx.word.length } := by
  have hsame : candidates { ctx with cursor } ctx.word data explicit =
      candidates ctx ctx.word data explicit := rfl
  dsimp only [provideIn]
  rw [hsame]
  split_ifs <;> rfl

section Minified

variable {s t : String}

theorem contextAt_of_minified (h : minified s = minified t) :
    contextAt t t.length =
      { contextAt s s.length with cursor := t.length, word := currentWord t t.length } := by
  rw [contextAt_length, contextAt_length, (sameSpot_of_minified h).context, currentWord_length,
    String.length_toList]

theorem scan_of_minified (h : minified s = minified t) :
    scan t t.length = { scan s s.length with stringStart := (scan t t.length).stringStart } := by
  rw [scan_length, scan_length]
  exact (sameSpot_of_minified h).place

theorem provide_of_minified (h : minified s = minified t)
    (hword : currentWord t t.length = currentWord s s.length) :
    provide t t.length data explicit =
      (provide s s.length data explicit).map fun found =>
        { found with start := t.length - (currentWord s s.length).length } := by
  have hcontext : contextAt t t.length = { contextAt s s.length with cursor := t.length } := by
    rw [contextAt_of_minified h, hword]
    rfl
  rw [provide, hcontext, provideIn_cursor, ← provide]
  rfl

end Minified

/-- Spacing that is put in outside strings moves the cursor and the string that is open there, if any,
and leaves of the word what comes behind it. All else in the context stays. So texts that are the same
but for such spacing have the same offers wherever they end in the same word. -/
theorem context_of_spacing :
    (∀ a w b : String, (scan a a.length).inString = false → (∀ c ∈ w.toList, isSpacing c = true) →
      let plain := a ++ b
      let spaced := a ++ w ++ b
      contextAt spaced spaced.length =
          { contextAt plain plain.length with
            cursor := plain.length + w.length
            word := if w = "" then currentWord plain plain.length else currentWord b b.length } ∧
        (contextAt spaced spaced.length).parentKey = (contextAt plain plain.length).parentKey ∧
        (contextAt spaced spaced.length).expected = (contextAt plain plain.length).expected ∧
        scan spaced spaced.length =
          { scan plain plain.length with
            stringStart := (scan plain plain.length).stringStart.map (· + w.length) }) ∧
      ∀ s t : String, minified s = minified t →
        contextAt t t.length =
            { contextAt s s.length with cursor := t.length, word := currentWord t t.length } ∧
          scan t t.length = { scan s s.length with stringStart := (scan t t.length).stringStart } ∧
          (currentWord t t.length = currentWord s s.length → ∀ data explicit,
            provide t t.length data explicit =
              (provide s s.length data explicit).map fun found =>
                { found with start := t.length - (currentWord s s.length).length }) := by
  constructor
  · intro a w b hstring hspacing plain spaced
    have hcontext := contextAt_insert (b := b) hstring hspacing
    have hparent := congrArg Context.parentKey hcontext
    have hexpected := congrArg Context.expected hcontext
    rw [currentWord_insert hspacing] at hcontext
    exact ⟨hcontext, hparent, hexpected, scan_insert hstring hspacing⟩
  · intro s t h
    exact ⟨contextAt_of_minified h, scan_of_minified h,
      fun hword data explicit => provide_of_minified h hword⟩

def sortLine : String := "\x7b\"sort\":[\x7b\"a\\\"b\":\"asc\",\"c\":\"de"

def sortLines : String := "\x7b\n  \"sort\": [\n    \x7b \"a\\\"b\":\t\"asc\", \"c\" : \"de"

theorem context_of_spacing_sort :
    (scan (sortLine ++ "\"") (sortLine ++ "\"").length).inString = false ∧
      (∀ c ∈ "\n  ".toList, isSpacing c = true) ∧
      scan (sortLine ++ "\"" ++ "\n  " ++ ",\"d") (sortLine ++ "\"" ++ "\n  " ++ ",\"d").length =
        { scan (sortLine ++ "\"" ++ ",\"d") (sortLine ++ "\"" ++ ",\"d").length with
          stringStart := (scan (sortLine ++ "\"" ++ ",\"d")
            (sortLine ++ "\"" ++ ",\"d").length).stringStart.map (· + "\n  ".length) } ∧
      minified sortLine = minified sortLines ∧
      currentWord sortLines sortLines.length = currentWord sortLine sortLine.length ∧
      provide sortLines sortLines.length none true =
        (provide sortLine sortLine.length none true).map fun found =>
          { found with start := sortLines.length - (currentWord sortLine sortLine.length).length } := by
  have hstring : (scan (sortLine ++ "\"") (sortLine ++ "\"").length).inString = false := by decide
  have hspacing : ∀ c ∈ "\n  ".toList, isSpacing c = true := by simp [isSpacing]
  have hminified : minified sortLine = minified sortLines := by decide
  have hword : currentWord sortLines sortLines.length = currentWord sortLine sortLine.length := by
    decide
  obtain ⟨-, -, -, hscan⟩ :=
    context_of_spacing.1 (sortLine ++ "\"") "\n  " ",\"d" hstring hspacing
  obtain ⟨-, -, hprovide⟩ := context_of_spacing.2 sortLine sortLines hminified
  exact ⟨hstring, hspacing, hscan, hminified, hword, hprovide hword none true⟩

end QueryAssist.Completion
