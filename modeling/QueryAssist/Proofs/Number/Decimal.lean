import QueryAssist.Number.Shortest
import Mathlib.Algebra.Group.Nat.Defs
import Mathlib.Tactic.Common
/-!
# Decimal texts in order

Texts of digits are ordered by their first digits, numbers by how many digits they have. The two
orders agree on texts of one length, such as those with zeros on the left.
-/

namespace QueryAssist.Number

def IsDecimal (cs : List Char) : Prop :=
  ∀ c ∈ cs, c.isDigit = true

theorem isDecimal_toDigits (n : Nat) : IsDecimal (Nat.toDigits 10 n) :=
  fun _ hc => Nat.isDigit_of_mem_toDigits (by decide) (by decide) hc

theorem IsDecimal.padLeft {cs : List Char} (h : IsDecimal cs) (width : Nat) :
    IsDecimal (padLeft width '0' cs) := by
  intro c hc
  rcases List.mem_append.1 hc with hc | hc
  · rw [List.eq_of_mem_replicate hc]
    rfl
  · exact h c hc

theorem length_padLeft (width : Nat) (mark : Char) (cs : List Char) :
    (padLeft width mark cs).length = max width cs.length := by
  rw [padLeft, List.length_append, List.length_replicate]
  omega

def decimalValue (cs : List Char) : Nat :=
  Nat.ofDigitChars 10 cs 0

theorem decimalValue_toDigits (n : Nat) : decimalValue (Nat.toDigits 10 n) = n :=
  Nat.ofDigitChars_ten_toDigits

theorem decimalValue_cons (c : Char) (cs : List Char) :
    decimalValue (c :: cs) = (c.toNat - '0'.toNat) * 10 ^ cs.length + decimalValue cs := by
  rw [decimalValue, Nat.ofDigitChars_cons, Nat.ofDigitChars_eq_ofDigitChars_zero, Nat.mul_zero,
    Nat.zero_add, Nat.mul_comm, decimalValue]

theorem decimalValue_padLeft (width : Nat) (cs : List Char) :
    decimalValue (padLeft width '0' cs) = decimalValue cs := by
  rw [decimalValue, padLeft, Nat.ofDigitChars_append, Nat.ofDigitChars_replicate_zero, Nat.mul_zero,
    decimalValue]

theorem decimalValue_lt {cs : List Char} (h : IsDecimal cs) : decimalValue cs < 10 ^ cs.length := by
  induction cs with
  | nil => decide
  | cons c cs ih =>
      have hnine : '9'.toNat - '0'.toNat = 9 := rfl
      have hc := (Char.isDigit_iff_toNat.1 (h c List.mem_cons_self)).2
      have hdigit : c.toNat - '0'.toNat ≤ 9 := by omega
      have hrest := ih fun d hd => h d (List.mem_cons_of_mem c hd)
      calc
        decimalValue (c :: cs) = (c.toNat - '0'.toNat) * 10 ^ cs.length + decimalValue cs :=
          decimalValue_cons c cs
        _ < 9 * 10 ^ cs.length + 10 ^ cs.length :=
          Nat.add_lt_add_of_le_of_lt (Nat.mul_le_mul_right _ hdigit) hrest
        _ = 10 ^ (c :: cs).length := by
          rw [List.length_cons, Nat.pow_succ]
          omega

theorem digit_lt_iff {c d : Char} (hc : c.isDigit = true) (hd : d.isDigit = true) :
    c < d ↔ c.toNat - '0'.toNat < d.toNat - '0'.toNat := by
  have hlt : c < d ↔ c.toNat < d.toNat := Iff.rfl
  have hc := (Char.isDigit_iff_toNat.1 hc).1
  have hd := (Char.isDigit_iff_toNat.1 hd).1
  rw [hlt]
  omega

theorem digit_eq_iff {c d : Char} (hc : c.isDigit = true) (hd : d.isDigit = true) :
    c = d ↔ c.toNat - '0'.toNat = d.toNat - '0'.toNat := by
  have hc := (Char.isDigit_iff_toNat.1 hc).1
  have hd := (Char.isDigit_iff_toNat.1 hd).1
  rw [← Char.toNat_inj]
  omega

theorem mul_add_lt_mul_add_iff {a b base r s : Nat} (hr : r < base) (hs : s < base) :
    a * base + r < b * base + s ↔ a < b ∨ a = b ∧ r < s := by
  rcases Nat.lt_trichotomy a b with h | rfl | h
  · have hnext := Nat.mul_le_mul_right base h
    rw [Nat.succ_mul] at hnext
    omega
  · omega
  · have hnext := Nat.mul_le_mul_right base h
    rw [Nat.succ_mul] at hnext
    omega

/-- A text goes before one that is not longer exactly if it does so once the other is filled up with
zeros on the right and both are read as numbers. -/
theorem lt_iff_decimalValue_lt {cs ds : List Char} (hcs : IsDecimal cs) (hds : IsDecimal ds)
    (h : cs.length ≤ ds.length) :
    ds < cs ↔ decimalValue ds < decimalValue cs * 10 ^ (ds.length - cs.length) := by
  induction cs generalizing ds with
  | nil => simp [decimalValue]
  | cons c cs ih =>
      cases ds with
      | nil => exact absurd h (Nat.not_succ_le_zero _)
      | cons d ds =>
          -- Both numbers are a digit times the same power of ten, and a rest below that power.
          have hlength : cs.length ≤ ds.length := Nat.le_of_succ_le_succ h
          have hc := hcs c List.mem_cons_self
          have hd := hds d List.mem_cons_self
          have hcs : IsDecimal cs := fun e he => hcs e (List.mem_cons_of_mem c he)
          have hds : IsDecimal ds := fun e he => hds e (List.mem_cons_of_mem d he)
          have hpow : 10 ^ cs.length * 10 ^ (ds.length - cs.length) = 10 ^ ds.length := by
            rw [← Nat.pow_add, Nat.add_sub_cancel' hlength]
          have hfilled : decimalValue cs * 10 ^ (ds.length - cs.length) < 10 ^ ds.length := by
            rw [← hpow]
            exact Nat.mul_lt_mul_of_pos_right (decimalValue_lt hcs) (Nat.pow_pos (by decide))
          rw [List.cons_lt_cons_iff, decimalValue_cons, decimalValue_cons, List.length_cons,
            List.length_cons, Nat.add_sub_add_right, Nat.add_mul, Nat.mul_assoc, hpow,
            mul_add_lt_mul_add_iff (decimalValue_lt hds) hfilled, ← digit_lt_iff hd hc,
            ← digit_eq_iff hd hc, ih hcs hds hlength]

end QueryAssist.Number
