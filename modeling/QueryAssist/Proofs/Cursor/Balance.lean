import QueryAssist.Proofs.Cursor.Strings
/-!
# The balance of brackets

Which containers of a text are open can be told by counting, whether the text is JSON or not. An
opener raises the balance, and what it opens stays open while the balance is above what it was before.
Closers that nothing is open for lower the balance, too.
-/

namespace QueryAssist.Cursor

def isOpening (c : Char) : Bool :=
  c == '\x7b' || c == '['

def isClosing (c : Char) : Bool :=
  c == '\x7d' || c == ']'

/-- The characters that are no part of a string, with the quotes that open one. -/
def QuoteState.outside (q : QuoteState) : List Char → List Char
  | [] => []
  | c :: cs => if q.inside then (q.step c).outside cs else c :: (q.step c).outside cs

/-- The openers outside strings less the closers there. -/
def balance (cs : List Char) : Int :=
  let marks := QuoteState.outside ⟨false, false⟩ cs
  marks.countP isOpening - marks.countP isClosing

/-- What begins at an offset has not ended: behind it the balance stays above what it is there. -/
def IsOpenFrom (cs : List Char) (o : Nat) : Prop :=
  ∀ n ≤ cs.length, o < n → balance (cs.take o) < balance (cs.take n)

instance (cs : List Char) (o : Nat) : Decidable (IsOpenFrom cs o) :=
  inferInstanceAs (Decidable (∀ n ≤ cs.length, o < n → balance (cs.take o) < balance (cs.take n)))

/-- The offsets at which the open containers begin, the outermost first. -/
def openOffsets (cs : List Char) : List Nat :=
  (List.range cs.length).filter (IsOpenFrom cs ·)

/-! ## One more character -/

variable {cs : List Char} {c : Char}

theorem QuoteState.outside_append (q : QuoteState) (a b : List Char) :
    q.outside (a ++ b) = q.outside a ++ (a.foldl QuoteState.step q).outside b := by
  induction a generalizing q with
  | nil => rfl
  | cons c a ih =>
      rw [List.cons_append, outside, outside, List.foldl_cons, ih]
      split_ifs <;> rfl

theorem balance_concat_in_string (h : endsInString cs = true) (c : Char) :
    balance (cs ++ [c]) = balance cs := by
  have hinside : (cs.foldl QuoteState.step ⟨false, false⟩).inside = true := h
  rw [balance, balance, QuoteState.outside_append, QuoteState.outside, if_pos hinside]
  simp only [QuoteState.outside, List.append_nil]

theorem balance_concat (h : endsInString cs = false) (c : Char) :
    balance (cs ++ [c]) =
      balance cs + (if isOpening c then 1 else 0) - (if isClosing c then 1 else 0) := by
  have hinside : (cs.foldl QuoteState.step ⟨false, false⟩).inside = false := h
  have hmarks : QuoteState.outside ⟨false, false⟩ (cs ++ [c]) =
      QuoteState.outside ⟨false, false⟩ cs ++ [c] := by
    rw [QuoteState.outside_append, QuoteState.outside, hinside]
    rfl
  simp only [balance, hmarks, List.countP_append, List.countP_singleton]
  split_ifs <;> simp <;> omega

theorem isOpenFrom_concat {o : Nat} (ho : o < cs.length) :
    IsOpenFrom (cs ++ [c]) o ↔ IsOpenFrom cs o ∧ balance (cs.take o) < balance (cs ++ [c]) := by
  have htake : ∀ n ≤ cs.length, (cs ++ [c]).take n = cs.take n :=
    fun n hn => List.take_append_of_le_length hn
  have hle : o ≤ cs.length := Nat.le_of_lt ho
  have hall : (cs ++ [c]).take (cs.length + 1) = cs ++ [c] := List.take_of_length_le (by simp)
  have hlength : (cs ++ [c]).length = cs.length + 1 := by simp
  simp only [IsOpenFrom, hlength]
  constructor
  · intro h
    refine ⟨fun n hn hon => ?_, ?_⟩
    · have hrises := h n (by omega) hon
      rwa [htake o hle, htake n hn] at hrises
    · have hrises := h (cs.length + 1) (Nat.le_refl _) (by omega)
      rwa [htake o hle, hall] at hrises
  · rintro ⟨h, hlast⟩ n hn hon
    rcases Nat.lt_or_eq_of_le hn with hn | rfl
    · rw [htake o hle, htake n (by omega)]
      exact h n (by omega) hon
    · rw [htake o hle, hall]
      exact hlast

theorem isOpenFrom_concat_length :
    IsOpenFrom (cs ++ [c]) cs.length ↔ balance cs < balance (cs ++ [c]) := by
  have hfirst : (cs ++ [c]).take cs.length = cs := List.take_left
  have hall : (cs ++ [c]).take (cs.length + 1) = cs ++ [c] := List.take_of_length_le (by simp)
  constructor
  · intro h
    have hrises := h (cs.length + 1) (by simp) (by omega)
    rwa [hfirst, hall] at hrises
  · intro h n hn hlt
    rw [List.length_append, List.length_singleton] at hn
    obtain rfl : n = cs.length + 1 := by omega
    rwa [hfirst, hall]

theorem openOffsets_concat (cs : List Char) (c : Char) :
    openOffsets (cs ++ [c]) =
      (openOffsets cs).filter (fun o => balance (cs.take o) < balance (cs ++ [c])) ++
        if balance cs < balance (cs ++ [c]) then [cs.length] else [] := by
  have hlength : (cs ++ [c]).length = cs.length + 1 := by simp
  rw [openOffsets, hlength, List.range_succ, List.filter_append, openOffsets, List.filter_filter]
  congr 1
  · refine List.filter_congr fun o ho => ?_
    rw [decide_eq_decide.2 (isOpenFrom_concat (List.mem_range.1 ho)), Bool.decide_and,
      Bool.and_comm]
  · have hlast : decide (IsOpenFrom (cs ++ [c]) cs.length) =
        decide (balance cs < balance (cs ++ [c])) := decide_eq_decide.2 isOpenFrom_concat_length
    rw [List.filter_cons, List.filter_nil, hlast]
    simp only [decide_eq_true_eq]

theorem balance_take_lt_of_mem {o : Nat} (h : o ∈ openOffsets cs) :
    o < cs.length ∧ balance (cs.take o) < balance cs := by
  rw [openOffsets, List.mem_filter, List.mem_range, decide_eq_true_iff] at h
  have hrises := h.2 cs.length (Nat.le_refl _) h.1
  rw [List.take_length] at hrises
  exact ⟨h.1, hrises⟩

theorem openOffsets_same (h : balance (cs ++ [c]) = balance cs) :
    openOffsets (cs ++ [c]) = openOffsets cs := by
  rw [openOffsets_concat, h, if_neg (Int.lt_irrefl _), List.append_nil, List.filter_eq_self]
  intro o ho
  exact decide_eq_true (balance_take_lt_of_mem ho).2

theorem openOffsets_opened (h : balance (cs ++ [c]) = balance cs + 1) :
    openOffsets (cs ++ [c]) = openOffsets cs ++ [cs.length] := by
  rw [openOffsets_concat, h, if_pos (by omega)]
  congr 1
  rw [List.filter_eq_self]
  intro o ho
  have hlt := (balance_take_lt_of_mem ho).2
  exact decide_eq_true (by omega)

end QueryAssist.Cursor
