import QueryAssist.Proofs.Text.Utf8
import QueryAssist.Text.Percent
/-!
# Escaped texts

A text is escaped byte by byte, and reads back as itself: runs of escapes are whole characters, as
every byte of a character that needs more than one is escaped.
-/

namespace QueryAssist.Text

/-- Letters, digits, and the marks that need no escape in the path of a URI. -/
def isUnreserved (c : Char) : Bool :=
  ('A' ≤ c && c ≤ 'Z') || ('a' ≤ c && c ≤ 'z') || ('0' ≤ c && c ≤ '9') ||
    ['/', '-', '_', '.', '~'].contains c

def escapeDigit (n : Nat) : Char :=
  Char.ofNat (if n < 10 then 0x30 + n else 0x37 + n)

def escapeByte (b : UInt8) : List Char :=
  if isUnreserved (Char.ofUInt8 b) then [Char.ofUInt8 b]
  else ['%', escapeDigit (b.toNat / 16), escapeDigit (b.toNat % 16)]

/-- A text with escapes for those bytes of its UTF-8 form that need one. -/
def escape (cs : List Char) : List Char :=
  (cs.flatMap String.utf8EncodeChar).flatMap escapeByte

theorem escape_cons (c : Char) (cs : List Char) :
    escape (c :: cs) = (String.utf8EncodeChar c).flatMap escapeByte ++ escape cs := by
  rw [escape, List.flatMap_cons, List.flatMap_append, escape]

/-! ## Digits and bytes -/

theorem hexValue?_escapeDigit {n : Nat} (h : n < 16) : hexValue? (escapeDigit n) = some n := by
  have hdigits : ∀ n < 16, hexValue? (escapeDigit n) = some n := by decide
  exact hdigits n h

theorem isUnreserved_escapeDigit {n : Nat} (h : n < 16) : isUnreserved (escapeDigit n) = true := by
  have hdigits : ∀ n < 16, isUnreserved (escapeDigit n) = true := by decide
  exact hdigits n h

theorem escapedByte?_escapeDigits (b : UInt8) (rest : List Char) :
    escapedByte? '%' (escapeDigit (b.toNat / 16) :: escapeDigit (b.toNat % 16) :: rest) =
      some b := by
  have hb := b.toNat_lt
  have hvalue : 16 * (b.toNat / 16) + b.toNat % 16 = b.toNat := Nat.div_add_mod _ _
  rw [escapedByte?, hexValue?_escapeDigit (by omega), hexValue?_escapeDigit (by omega)]
  show some (UInt8.ofNat (16 * (b.toNat / 16) + b.toNat % 16)) = some b
  rw [hvalue, UInt8.ofNat_toNat]

theorem mem_escapeByte {b : UInt8} {c : Char} (h : c ∈ escapeByte b) :
    isUnreserved c = true ∨ c = '%' := by
  have hb := b.toNat_lt
  rw [escapeByte] at h
  split_ifs at h with hkept
  · rw [List.mem_singleton.1 h]
    exact .inl hkept
  · simp only [List.mem_cons, List.not_mem_nil, or_false] at h
    rcases h with rfl | rfl | rfl
    · exact .inr rfl
    · exact .inl (isUnreserved_escapeDigit (by omega))
    · exact .inl (isUnreserved_escapeDigit (by omega))

theorem mem_escape {cs : List Char} {c : Char} (h : c ∈ escape cs) :
    isUnreserved c = true ∨ c = '%' := by
  obtain ⟨b, -, hb⟩ := List.mem_flatMap.1 h
  exact mem_escapeByte hb

/-! ## Characters -/

theorem toNat_lt_of_isUnreserved {c : Char} (h : isUnreserved c = true) : c.toNat < 0x80 := by
  simp only [isUnreserved, Bool.or_eq_true, Bool.and_eq_true, decide_eq_true_eq,
    List.contains_iff_mem, List.mem_cons, List.not_mem_nil, or_false] at h
  rcases h with ((⟨-, hle⟩ | ⟨-, hle⟩) | ⟨-, hle⟩) | rfl | rfl | rfl | rfl | rfl
  · exact Nat.lt_of_le_of_lt (UInt32.le_iff_toNat_le.1 hle) (by decide)
  · exact Nat.lt_of_le_of_lt (UInt32.le_iff_toNat_le.1 hle) (by decide)
  · exact Nat.lt_of_le_of_lt (UInt32.le_iff_toNat_le.1 hle) (by decide)
  all_goals decide

theorem encodeChar_of_isUnreserved {c : Char} (h : isUnreserved c = true) :
    String.utf8EncodeChar c = [UInt8.ofNat c.toNat] :=
  if_pos (Nat.le_of_lt_succ (toNat_lt_of_isUnreserved h))

theorem isUnreserved_of_mem_encodeChar {c : Char} {b : UInt8}
    (hb : b ∈ String.utf8EncodeChar c) (h : isUnreserved (Char.ofUInt8 b) = true) :
    isUnreserved c = true := by
  rwa [Utf8.ofUInt8_of_mem_encodeChar hb (toNat_lt_of_isUnreserved h)] at h

theorem escape_cons_of_isUnreserved {c : Char} (h : isUnreserved c = true) (cs : List Char) :
    escape (c :: cs) = c :: escape cs := by
  have hbyte : Char.ofUInt8 (UInt8.ofNat c.toNat) = c := by
    have hlt := toNat_lt_of_isUnreserved h
    exact Char.toNat_inj.1 (UInt8.toNat_ofNat_of_lt' (Nat.lt_trans hlt (by decide)))
  rw [escape_cons, encodeChar_of_isUnreserved h, List.flatMap_singleton, escapeByte, hbyte,
    if_pos h, List.singleton_append]

/-! ## There and back -/

theorem unescapeFrom_cons {c : Char} (h : c ≠ '%') (run : List UInt8) (rest : List Char) :
    unescapeFrom run (c :: rest) = Utf8.decodeLossy run.reverse ++ c :: unescapeFrom [] rest := by
  have hplain : escapedByte? c rest = none := by
    unfold escapedByte?
    split
    · exact absurd rfl h
    · rfl
  rw [unescapeFrom, hplain]

theorem unescapeFrom_escapeBytes {bytes : List UInt8}
    (h : ∀ b ∈ bytes, isUnreserved (Char.ofUInt8 b) = false) (run : List UInt8)
    (rest : List Char) :
    unescapeFrom run (bytes.flatMap escapeByte ++ rest) =
      unescapeFrom (bytes.reverse ++ run) rest := by
  induction bytes generalizing run with
  | nil => rfl
  | cons b bytes ih =>
      have hescape : escapeByte b =
          ['%', escapeDigit (b.toNat / 16), escapeDigit (b.toNat % 16)] := by
        rw [escapeByte, h b List.mem_cons_self]
        rfl
      rw [List.flatMap_cons, hescape, List.append_assoc, List.cons_append, unescapeFrom]
      simp only [List.cons_append, List.nil_append, escapedByte?_escapeDigits, List.drop_succ_cons,
        List.drop_zero]
      rw [ih (fun b hb => h b (List.mem_cons_of_mem _ hb)), List.reverse_cons, List.append_assoc,
        List.singleton_append]

theorem unescapeFrom_escape (read cs : List Char) :
    unescapeFrom (read.flatMap String.utf8EncodeChar).reverse (escape cs) = read ++ cs := by
  induction cs generalizing read with
  | nil =>
      rw [escape, List.flatMap_nil, List.flatMap_nil, unescapeFrom, List.reverse_reverse,
        Utf8.decodeLossy_encode, List.append_nil]
  | cons c cs ih =>
      -- The run ends before a character that stands for itself, and takes up all of any other.
      by_cases hc : isUnreserved c = true
      · have hpercent : c ≠ '%' := by
          rintro rfl
          exact absurd hc (by decide)
        have hrest : unescapeFrom [] (escape cs) = cs := ih []
        rw [escape_cons_of_isUnreserved hc, unescapeFrom_cons hpercent, List.reverse_reverse,
          Utf8.decodeLossy_encode, hrest]
      · have hbytes : ∀ b ∈ String.utf8EncodeChar c,
            isUnreserved (Char.ofUInt8 b) = false := by
          intro b hb
          exact Bool.eq_false_iff.2 fun h => hc (isUnreserved_of_mem_encodeChar hb h)
        have hrest := ih (read ++ [c])
        rw [List.flatMap_append, List.flatMap_singleton, List.reverse_append, List.append_assoc,
          List.singleton_append] at hrest
        rw [escape_cons, unescapeFrom_escapeBytes hbytes, hrest]

theorem unescape_escape (cs : List Char) : unescape (escape cs) = cs :=
  unescapeFrom_escape [] cs

end QueryAssist.Text
