import QueryAssist.Proofs.Cursor.Balance
import Mathlib.Data.List.DropRight
/-!
# What a place says of the text

The lists and counters of the pass are updated one by one, but at every cursor of every text they
fit together, and they fit the text: the open containers are those that the balance of brackets tells,
the path holds the keys that were pending before them, and an open string has not been ended.
-/

namespace QueryAssist.Cursor

/-- The key that is pending before an offset. -/
def pendingBefore (cs : List Char) (o : Nat) : Option String :=
  (Registers.run (cs.take o)).pendingKey

def backslashes (cs : List Char) : Nat :=
  (cs.rtakeWhile (· == '\\')).length

/-- Of the backslashes right before a character each second one is escaped itself. -/
def IsEscaped (cs : List Char) (i : Nat) : Prop :=
  backslashes (cs.take i) % 2 = 1

/-- The place of a cursor and the characters before it fit together. -/
structure Place.Represents (p : Place) (cs : List Char) : Prop where
  depth : p.depth = p.openers.length
  arrayDepths_sorted : p.arrayDepths.Pairwise (· < ·)
  mem_arrayDepths : ∀ i, i ∈ p.arrayDepths ↔ p.openers[i]? = some .bracket
  inArray : p.inArray = true ↔ .bracket ∈ p.openers
  openers : p.openers.map (some ·.char) = (openOffsets cs).map (cs[·]?)
  path : p.path = (openOffsets cs).filterMap (pendingBefore cs)
  length_path : p.path.length = (openOffsets cs).countP fun o => (pendingBefore cs o).isSome
  inString : p.inString = endsInString cs
  stringStart : ∀ start, p.stringStart = some start →
    start < cs.length ∧ cs[start]? = some '"' ∧
      ∀ i, start < i → cs[i]? = some '"' → IsEscaped cs i

variable {cs : List Char} {c : Char}

/-! ## What one character does to the open containers -/

namespace Registers

theorem step_cases (r : Registers) (c : Char) :
    (r.string = none → isOpening c = false ∧ isClosing c = false) ∧ r.SameContainers (r.step c) ∨
    (r.string = none ∧ ∃ opener : Opener, c = opener.char ∧
      r.step c = { r.enter opener with offset := r.offset + 1 }) ∨
    (r.string = none ∧ isClosing c = true ∧
      r.step c = { r.leave with offset := r.offset + 1 }) := by
  cases hstring : r.string with
  | some s =>
      refine .inl ⟨fun h => absurd h (Option.some_ne_none s), ?_⟩
      simp only [step, hstring, readInString, closeString]
      split_ifs <;> exact ⟨rfl, rfl, rfl, rfl⟩
  | none =>
      rw [step_outside hstring]
      by_cases hbrace : c = '\x7b'
      · exact .inr (.inl ⟨rfl, .brace, hbrace, by rw [hbrace]; rfl⟩)
      by_cases hbracket : c = '['
      · exact .inr (.inl ⟨rfl, .bracket, hbracket, by rw [hbracket]; rfl⟩)
      by_cases hcloser : c = '\x7d' ∨ c = ']'
      · refine .inr (.inr ⟨rfl, by simpa [isClosing] using hcloser, ?_⟩)
        rcases hcloser with rfl | rfl <;> rfl
      · refine .inl ⟨fun _ => ?_, ?_⟩
        · simpa [isOpening, isClosing, hbrace, hbracket] using hcloser
        · simp only [readOutside, hbrace, hbracket, hcloser, if_false]
          split_ifs <;> exact ⟨rfl, rfl, rfl, rfl⟩

def bracketDepths : List Frame → List Nat
  | [] => []
  | frame :: outer =>
      if frame.opener = .bracket then outer.length :: bracketDepths outer else bracketDepths outer

structure CountsFrames (r : Registers) : Prop where
  depth : r.depth = r.frames.length
  arrayDepths : r.arrayDepths = bracketDepths r.frames

theorem CountsFrames.step {r : Registers} (h : r.CountsFrames) (c : Char) :
    (r.step c).CountsFrames := by
  rcases r.step_cases c with ⟨-, hsame⟩ | ⟨-, opener, -, hstep⟩ | ⟨-, -, hstep⟩
  · exact ⟨by rw [hsame.depth, hsame.frames, h.depth],
      by rw [hsame.arrayDepths, hsame.frames, h.arrayDepths]⟩
  · rw [hstep]
    constructor
    · exact congrArg (· + 1) h.depth
    · cases opener
      · exact h.arrayDepths
      · simp [enter, bracketDepths, h.depth, h.arrayDepths]
  · rw [hstep]
    cases hframes : r.frames with
    | nil =>
        constructor
        · simp [leave, pop, hframes, h.depth]
        · simp [leave, pop, hframes, h.arrayDepths]
    | cons frame outer =>
        constructor
        · simp [leave, pop, hframes, h.depth]
        · simp only [leave, pop, hframes, h.arrayDepths, bracketDepths]
          split_ifs <;> rfl

theorem countsFrames_run (cs : List Char) : (run cs).CountsFrames := by
  induction cs using List.reverseRecOn with
  | nil => exact ⟨rfl, rfl⟩
  | append_singleton cs c ih =>
      rw [run_append, readFrom_cons, readFrom_nil]
      exact ih.step c

theorem lt_of_mem_bracketDepths {i : Nat} {frames : List Frame} (h : i ∈ bracketDepths frames) :
    i < frames.length := by
  induction frames with
  | nil => exact absurd h List.not_mem_nil
  | cons frame outer ih =>
      rw [List.length_cons]
      rw [bracketDepths] at h
      split_ifs at h
      · rcases List.mem_cons.1 h with rfl | h
        · omega
        · exact (ih h).trans (Nat.lt_succ_self _)
      · exact (ih h).trans (Nat.lt_succ_self _)

theorem pairwise_bracketDepths (frames : List Frame) :
    (bracketDepths frames).reverse.Pairwise (· < ·) := by
  rw [List.pairwise_reverse]
  induction frames with
  | nil => exact List.Pairwise.nil
  | cons frame outer ih =>
      rw [bracketDepths]
      split_ifs
      · exact List.pairwise_cons.2 ⟨fun i hi => lt_of_mem_bracketDepths hi, ih⟩
      · exact ih

theorem mem_bracketDepths {i : Nat} {frames : List Frame} :
    i ∈ bracketDepths frames ↔ (frames.map (·.opener)).reverse[i]? = some .bracket := by
  induction frames with
  | nil => simp [bracketDepths]
  | cons frame outer ih =>
      have hlength : ((outer.map (·.opener)).reverse).length = outer.length := by simp
      rw [List.map_cons, List.reverse_cons, bracketDepths]
      rcases Nat.lt_trichotomy i outer.length with hlt | rfl | hgt
      · rw [List.getElem?_append_left (by rwa [hlength]), ← ih]
        split_ifs
        · rw [List.mem_cons, or_iff_right (by omega)]
        · rfl
      · have hnot : outer.length ∉ bracketDepths outer :=
          fun hmem => absurd (lt_of_mem_bracketDepths hmem) (Nat.lt_irrefl _)
        have hlast : ((outer.map (·.opener)).reverse ++ [frame.opener])[outer.length]? =
            some frame.opener := by
          conv_lhs => rw [← hlength]
          exact List.getElem?_concat_length
        rw [hlast]
        split_ifs with hbracket
        · simp [hbracket]
        · simp [hbracket, hnot]
      · have hnone : ((outer.map (·.opener)).reverse ++ [frame.opener])[i]? = none :=
          List.getElem?_eq_none (by simp; omega)
        rw [hnone]
        have hnot : i ∉ bracketDepths outer :=
          fun hmem => absurd (lt_of_mem_bracketDepths hmem) (by omega)
        split_ifs
        · simp [hnot, Nat.ne_of_gt hgt]
        · simp [hnot]

end Registers

/-! ## The open containers of a text -/

/-- Frames and a path of containers that begin at some offsets, the innermost first, each one level
of balance below the one inside it. -/
inductive BeginAt (cs : List Char) : Int → List Frame → List String → List Nat → Prop
  | nil (level : Int) : BeginAt cs level [] [] []
  | cons {level : Int} {frames : List Frame} {path : List String} {os : List Nat} (o : Nat)
      (opener : Opener) : cs[o]? = some opener.char → balance (cs.take o) = level →
      BeginAt cs level frames path os →
      BeginAt cs (level + 1) (⟨opener, (pendingBefore cs o).isSome⟩ :: frames)
        ((pendingBefore cs o).toList ++ path) (o :: os)

namespace BeginAt

variable {level : Int} {frames : List Frame} {path : List String} {os : List Nat}

theorem balance_lt (h : BeginAt cs level frames path os) :
    ∀ o ∈ os, balance (cs.take o) < level := by
  induction h with
  | nil => simp
  | cons o opener hchar hlevel houter ih =>
      refine List.forall_mem_cons.2 ⟨by omega, fun p hp => ?_⟩
      have hlt := ih p hp
      omega

theorem concat (h : BeginAt cs level frames path os) (c : Char) :
    BeginAt (cs ++ [c]) level frames path os := by
  induction h with
  | nil level => exact .nil level
  | cons o opener hchar hlevel houter ih =>
      obtain ⟨hlt, -⟩ := List.getElem?_eq_some_iff.1 hchar
      have hpending : pendingBefore cs o = pendingBefore (cs ++ [c]) o := by
        rw [pendingBefore, pendingBefore, List.take_append_of_le_length hlt.le]
      rw [hpending]
      refine .cons o opener ?_ ?_ ih
      · rwa [List.getElem?_append_left hlt]
      · rwa [List.take_append_of_le_length hlt.le]

theorem openers_eq (h : BeginAt cs level frames path os) :
    frames.map (some ·.opener.char) = os.map (cs[·]?) := by
  induction h with
  | nil => rfl
  | cons o opener hchar _ _ ih => rw [List.map_cons, List.map_cons, ih, hchar]

theorem path_eq (h : BeginAt cs level frames path os) : path = os.filterMap (pendingBefore cs) := by
  induction h with
  | nil => rfl
  | cons o opener _ _ _ ih =>
      rw [List.filterMap_cons, ih]
      cases pendingBefore cs o <;> rfl

end BeginAt

theorem openOffsets_closed {frames : List Frame} {path : List String}
    (h : BeginAt cs (balance cs) frames path (openOffsets cs).reverse)
    (hbalance : balance (cs ++ [c]) = balance cs - 1) :
    (openOffsets (cs ++ [c])).reverse = (openOffsets cs).reverse.tail := by
  rw [openOffsets_concat, hbalance, if_neg (by omega), List.append_nil, ← List.filter_reverse]
  generalize balance cs = level at h
  generalize (openOffsets cs).reverse = os at h
  cases h with
  | nil => rfl
  | @cons level _ _ _ o _ _ hlevel houter =>
      rw [List.filter_cons, if_neg (by rw [decide_eq_true_iff]; omega), List.tail_cons,
        List.filter_eq_self]
      intro p hp
      have hlt := houter.balance_lt p hp
      exact decide_eq_true (by omega)

namespace Registers

theorem beginAt_leave {r : Registers} {level : Int} {os : List Nat}
    (h : BeginAt cs level r.frames r.path os) :
    BeginAt cs (level - 1) r.leave.frames r.leave.path os.tail := by
  generalize hframes : r.frames = frames at h
  generalize hpath : r.path = path at h
  cases h with
  | nil level =>
      simp only [leave, pop, hframes, hpath]
      exact .nil _
  | @cons level frames path os o opener hchar hlevel houter =>
      have htail : r.leave.path = path := by
        simp only [leave, pop, hframes, hpath]
        cases pendingBefore cs o <;> rfl
      rw [htail, Int.add_sub_cancel]
      simp only [leave, pop, hframes]
      exact houter

theorem beginAt_run (cs : List Char) :
    BeginAt cs (balance cs) (run cs).frames (run cs).path (openOffsets cs).reverse := by
  induction cs using List.reverseRecOn with
  | nil => exact .nil 0
  | append_singleton cs c ih =>
      rw [run_append, readFrom_cons, readFrom_nil]
      rcases (run cs).step_cases c with
        ⟨hquiet, hsame⟩ | ⟨hstring, opener, rfl, hstep⟩ | ⟨hstring, hclosing, hstep⟩
      · have hbalance : balance (cs ++ [c]) = balance cs := by
          cases hin : endsInString cs with
          | true => exact balance_concat_in_string hin c
          | false =>
              obtain ⟨hopening, hclosing⟩ := hquiet (string_run_eq_none_iff.2 hin)
              simp [balance_concat hin, hopening, hclosing]
        rw [openOffsets_same hbalance, hbalance, hsame.frames, hsame.path]
        exact ih.concat c
      · have hbalance : balance (cs ++ [opener.char]) = balance cs + 1 := by
          rw [balance_concat (string_run_eq_none_iff.1 hstring)]
          cases opener <;> simp [isOpening, isClosing, Opener.char]
        have hpending : pendingBefore (cs ++ [opener.char]) cs.length = (run cs).pendingKey := by
          rw [pendingBefore, List.take_left]
        have hinner := BeginAt.cons cs.length opener List.getElem?_concat_length
          (congrArg balance List.take_left) (ih.concat opener.char)
        rw [openOffsets_opened hbalance, hbalance, List.reverse_append, List.reverse_singleton,
          List.singleton_append, hstep]
        rwa [hpending] at hinner
      · have hbalance : balance (cs ++ [c]) = balance cs - 1 := by
          have hopening : isOpening c = false := by
            rw [isClosing, Bool.or_eq_true, beq_iff_eq, beq_iff_eq] at hclosing
            rcases hclosing with rfl | rfl <;> rfl
          simp [balance_concat (string_run_eq_none_iff.1 hstring), hopening, hclosing]
        rw [openOffsets_closed ih hbalance, hbalance, hstep]
        exact beginAt_leave (ih.concat c)

end Registers

/-! ## The open string of a text -/

theorem backslashes_concat (cs : List Char) (c : Char) :
    backslashes (cs ++ [c]) = if c = '\\' then backslashes cs + 1 else 0 := by
  rw [backslashes, List.rtakeWhile_concat, backslashes]
  by_cases hc : c = '\\' <;> simp [hc]

namespace Registers

theorem escaped_run {s : OpenString} (h : (run cs).string = some s) :
    s.escaped = true ↔ backslashes cs % 2 = 1 := by
  induction cs using List.reverseRecOn generalizing s with
  | nil => simp [run, initial] at h
  | append_singleton cs c ih =>
      rw [run_append, readFrom_cons, readFrom_nil] at h
      rw [backslashes_concat]
      cases hstring : (run cs).string with
      | none =>
          obtain ⟨rfl, rfl⟩ := opened_of_step hstring h
          simp
      | some t =>
          have ht := ih hstring
          simp only [step, hstring, readInString, closeString] at h
          split_ifs at h with hescaped hslash hquote
          · rw [← Option.some.inj h]
            have hodd := ht.1 hescaped
            split_ifs <;> simp
            omega
          · rw [← Option.some.inj h, if_pos hslash]
            have heven : ¬backslashes cs % 2 = 1 := fun hodd => hescaped (ht.2 hodd)
            simp
            omega
          · rw [← Option.some.inj h, if_neg hslash]
            simpa using hescaped

theorem isEscaped_of_run {s : OpenString} (h : (run cs).string = some s) {i : Nat}
    (hi : s.start < i) (hquote : cs[i]? = some '"') : IsEscaped cs i := by
  induction cs using List.reverseRecOn generalizing s with
  | nil => simp at hquote
  | append_singleton cs c ih =>
      obtain ⟨hlength, -⟩ := List.getElem?_eq_some_iff.1 hquote
      rw [List.length_append, List.length_singleton] at hlength
      have htake : (cs ++ [c]).take i = cs.take i := List.take_append_of_le_length (by omega)
      rw [IsEscaped, htake]
      rw [run_append, readFrom_cons, readFrom_nil] at h
      cases hstring : (run cs).string with
      | none =>
          obtain ⟨-, rfl⟩ := opened_of_step hstring h
          change (run cs).offset < i at hi
          rw [offset_run] at hi
          omega
      | some t =>
          rcases Nat.lt_or_eq_of_le (Nat.le_of_lt_succ hlength) with hlt | rfl
          · rw [List.getElem?_append_left hlt] at hquote
            exact ih hstring (start_step hstring h ▸ hi) hquote
          · rw [List.getElem?_concat_length] at hquote
            obtain rfl := Option.some.inj hquote
            rw [List.take_length, ← escaped_run hstring]
            by_contra hescaped
            simp [step, hstring, readInString, closeString, hescaped] at h

theorem openers_place (r : Registers) :
    r.place.openers = (r.frames.map (·.opener)).reverse := rfl

theorem represents_run (cs : List Char) : (run cs).place.Represents cs := by
  have hcounts := countsFrames_run cs
  have hbegin := beginAt_run cs
  have hmem : ∀ i, i ∈ (run cs).place.arrayDepths ↔
      (run cs).place.openers[i]? = some .bracket := by
    intro i
    rw [openers_place, ← mem_bracketDepths, ← hcounts.arrayDepths]
    exact List.mem_reverse
  have hpath : (run cs).place.path = (openOffsets cs).filterMap (pendingBefore cs) := by
    have hreverse := congrArg List.reverse hbegin.path_eq
    rwa [← List.filterMap_reverse, List.reverse_reverse] at hreverse
  have hopeners : (run cs).place.openers.map (some ·.char) = (openOffsets cs).map (cs[·]?) := by
    have hreverse := congrArg List.reverse hbegin.openers_eq
    rw [← List.map_reverse, ← List.map_reverse, List.reverse_reverse] at hreverse
    rw [openers_place, ← List.map_reverse, List.map_map]
    exact hreverse
  refine ⟨?_, ?_, hmem, ?_, hopeners, hpath, ?_, inString_place_run cs, ?_⟩
  · rw [openers_place, List.length_reverse, List.length_map]
    exact hcounts.depth
  · change (run cs).arrayDepths.reverse.Pairwise (· < ·)
    rw [hcounts.arrayDepths]
    exact pairwise_bracketDepths _
  · rw [List.mem_iff_getElem?, Place.inArray, Bool.not_eq_true',
      List.isEmpty_eq_false_iff_exists_mem]
    exact exists_congr hmem
  · rw [hpath, List.length_filterMap_eq_countP]
  · intro start h
    obtain ⟨s, hs, rfl⟩ := Option.map_eq_some_iff.1 h
    have hquote := getElem?_start_of_run hs
    obtain ⟨hlt, -⟩ := List.getElem?_eq_some_iff.1 hquote
    exact ⟨hlt, hquote, fun i hi hend => isEscaped_of_run hs hi hend⟩

end Registers

/-- Of any text, the place that the pass finds for a cursor, which is moved into the text if it lies
outside, represents the characters before it. -/
theorem represents_scan (text : String) (cursor : Int) :
    (before text cursor).length = min cursor.toNat text.length ∧
      (scan text cursor).Represents (before text cursor) :=
  ⟨List.length_take, Registers.represents_run _⟩

/-- A closer without an opener, and one of the other shape. -/
example : openOffsets "]\x7b\"k\":[\x7d\x7b\"[".toList = [1, 8] := by decide

end QueryAssist.Cursor
