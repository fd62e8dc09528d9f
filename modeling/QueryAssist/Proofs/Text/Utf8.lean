import Mathlib.Tactic.Common
import QueryAssist.Text.Utf8
/-!
# Reading what UTF-8 writes

The bytes of each character are a well-formed sequence that reads back as the character, so the
bytes of a text read back as the text.
-/

namespace QueryAssist.Text.Utf8

theorem follow_cons {low high value length n : Nat} {bounds : List (Nat × Nat)}
    {rest : List UInt8} (hn : n < 256) (h : low ≤ n ∧ n ≤ high) :
    follow value length ((low, high) :: bounds) (UInt8.ofNat n :: rest) =
      follow (value * 64 + (n - 0x80)) (length + 1) bounds rest := by
  rw [follow, UInt8.toNat_ofNat_of_lt' hn, if_pos h]

theorem first_of_lead? {n value : Nat} {bounds : List (Nat × Nat)} {rest : List UInt8}
    (hn : n < 256) (h : lead? n = some (value, bounds)) :
    first (UInt8.ofNat n) rest = follow value 1 bounds rest := by
  rw [first, UInt8.toNat_ofNat_of_lt' hn, h]

/-! ## First bytes -/

theorem lead?_two {n : Nat} (hlow : 0xC2 ≤ n) (hhigh : n < 0xE0) :
    lead? n = some (n - 0xC0, [(0x80, 0xBF)]) := by
  rw [lead?, if_neg (by omega), if_neg (by omega), if_pos hhigh]

theorem lead?_three (n second : Nat) (hlow : 0xE0 ≤ n) (hhigh : n < 0xF0)
    (hsecond : 0x80 ≤ second ∧ second ≤ 0xBF) (hshort : n = 0xE0 → 0xA0 ≤ second)
    (hsurrogate : n = 0xED → second ≤ 0x9F) :
    ∃ low high, lead? n = some (n - 0xE0, [(low, high), (0x80, 0xBF)]) ∧
      low ≤ second ∧ second ≤ high := by
  rw [lead?, if_neg (by omega), if_neg (by omega), if_neg (by omega)]
  by_cases hfirst : n = 0xE0
  · exact ⟨0xA0, 0xBF, by rw [if_pos hfirst, hfirst], hshort hfirst, hsecond.2⟩
  · rw [if_neg hfirst]
    by_cases hlast : n = 0xED
    · exact ⟨0x80, 0x9F, if_pos hlast, hsecond.1, hsurrogate hlast⟩
    · exact ⟨0x80, 0xBF, by rw [if_neg hlast, if_pos hhigh], hsecond⟩

theorem lead?_four (n second : Nat) (hlow : 0xF0 ≤ n) (hhigh : n ≤ 0xF4)
    (hsecond : 0x80 ≤ second ∧ second ≤ 0xBF) (hshort : n = 0xF0 → 0x90 ≤ second)
    (hlast : n = 0xF4 → second ≤ 0x8F) :
    ∃ low high, lead? n = some (n - 0xF0, [(low, high), (0x80, 0xBF), (0x80, 0xBF)]) ∧
      low ≤ second ∧ second ≤ high := by
  rw [lead?, if_neg (by omega), if_neg (by omega), if_neg (by omega), if_neg (by omega),
    if_neg (by omega), if_neg (by omega)]
  by_cases hfirst : n = 0xF0
  · exact ⟨0x90, 0xBF, by rw [if_pos hfirst, hfirst], hshort hfirst, hsecond.2⟩
  · rw [if_neg hfirst]
    by_cases hmost : n = 0xF4
    · exact ⟨0x80, 0x8F, by rw [if_neg (by omega), if_pos hmost], hsecond.1, hlast hmost⟩
    · exact ⟨0x80, 0xBF, by rw [if_pos (by omega)], hsecond⟩

/-! ## Sequences -/

section Sequences

variable {v : Nat} (rest : List UInt8)

theorem first_one (hv : v < 0x80) : first (UInt8.ofNat v) rest = .ok (Char.ofNat v, 1) := by
  have hlead : lead? v = some (v, []) := if_pos hv
  rw [first_of_lead? (by omega) hlead, follow]

theorem first_two (hlow : 0x80 ≤ v) (hhigh : v < 0x800) :
    first (UInt8.ofNat (v / 64 % 32 + 192)) (UInt8.ofNat (v % 64 + 128) :: rest) =
      .ok (Char.ofNat v, 2) := by
  have hvalue : (v / 64 % 32 + 192 - 0xC0) * 64 + (v % 64 + 128 - 0x80) = v := by omega
  rw [first_of_lead? (by omega) (lead?_two (by omega) (by omega)),
    follow_cons (by omega) (by omega), follow, hvalue]

theorem first_three (hlow : 0x800 ≤ v) (hhigh : v < 0x10000) (hvalid : v < 0xD800 ∨ 0xDFFF < v) :
    first (UInt8.ofNat (v / 4096 % 16 + 224))
      (UInt8.ofNat (v / 64 % 64 + 128) :: UInt8.ofNat (v % 64 + 128) :: rest) =
        .ok (Char.ofNat v, 3) := by
  obtain ⟨low, high, hlead, hsecond⟩ :=
    lead?_three (v / 4096 % 16 + 224) (v / 64 % 64 + 128) (by omega) (by omega) (by omega)
      (by omega) (by omega)
  have hvalue : ((v / 4096 % 16 + 224 - 0xE0) * 64 + (v / 64 % 64 + 128 - 0x80)) * 64 +
      (v % 64 + 128 - 0x80) = v := by omega
  rw [first_of_lead? (by omega) hlead, follow_cons (by omega) hsecond,
    follow_cons (by omega) (by omega), follow, hvalue]

theorem first_four (hlow : 0x10000 ≤ v) (hhigh : v < 0x110000) :
    first (UInt8.ofNat (v / 262144 % 8 + 240))
      (UInt8.ofNat (v / 4096 % 64 + 128) :: UInt8.ofNat (v / 64 % 64 + 128) ::
        UInt8.ofNat (v % 64 + 128) :: rest) = .ok (Char.ofNat v, 4) := by
  obtain ⟨low, high, hlead, hsecond⟩ :=
    lead?_four (v / 262144 % 8 + 240) (v / 4096 % 64 + 128) (by omega) (by omega) (by omega)
      (by omega) (by omega)
  have hvalue : (((v / 262144 % 8 + 240 - 0xF0) * 64 + (v / 4096 % 64 + 128 - 0x80)) * 64 +
      (v / 64 % 64 + 128 - 0x80)) * 64 + (v % 64 + 128 - 0x80) = v := by omega
  rw [first_of_lead? (by omega) hlead, follow_cons (by omega) hsecond,
    follow_cons (by omega) (by omega), follow_cons (by omega) (by omega), follow, hvalue]

end Sequences

/-! ## Characters -/

theorem le_of_mem_encodeChar {c : Char} (hc : 0x80 ≤ c.toNat) :
    ∀ byte ∈ String.utf8EncodeChar c, 0x80 ≤ byte.toNat := by
  rw [Char.toNat] at hc
  rw [String.utf8EncodeChar]
  split_ifs <;>
    simp only [List.mem_cons, List.not_mem_nil, or_false, forall_eq_or_imp, forall_eq,
      UInt8.toNat_ofNat'] <;>
    omega

theorem ofUInt8_of_mem_encodeChar {c : Char} {byte : UInt8} (h : byte ∈ String.utf8EncodeChar c)
    (hbyte : byte.toNat < 0x80) : Char.ofUInt8 byte = c := by
  have hc : c.val.toNat ≤ 0x7F := by
    by_contra hmore
    have hle := le_of_mem_encodeChar (Nat.lt_of_not_le hmore) byte h
    omega
  rw [String.utf8EncodeChar, if_pos hc] at h
  rw [List.mem_singleton.1 h]
  exact Char.toNat_inj.1 (UInt8.toNat_ofNat_of_lt' (by omega : c.val.toNat < 256))

theorem first_encodeChar (c : Char) (rest : List UInt8) :
    ∃ byte tail, String.utf8EncodeChar c = byte :: tail ∧
      first byte (tail ++ rest) = .ok (c, tail.length + 1) := by
  have hback : Char.ofNat c.val.toNat = c := c.ofNat_toNat
  have hvalid : c.val.toNat < 0xD800 ∨ 0xDFFF < c.val.toNat ∧ c.val.toNat < 0x110000 := c.valid
  rw [String.utf8EncodeChar]
  generalize c.val.toNat = v at hback hvalid
  rw [← hback]
  split_ifs with hone htwo hthree
  · exact ⟨_, _, rfl, first_one rest (by omega)⟩
  · exact ⟨_, _, rfl, first_two rest (by omega) (by omega)⟩
  · exact ⟨_, _, rfl, first_three rest (by omega) (by omega) (by omega)⟩
  · exact ⟨_, _, rfl, first_four rest (by omega) (by omega)⟩

theorem decodeLossy_encodeChar (c : Char) (rest : List UInt8) :
    decodeLossy (String.utf8EncodeChar c ++ rest) = c :: decodeLossy rest := by
  obtain ⟨byte, tail, hbytes, hfirst⟩ := first_encodeChar c rest
  rw [hbytes, List.cons_append, decodeLossy, hfirst]
  show c :: decodeLossy ((tail ++ rest).drop tail.length) = _
  rw [List.drop_left]

theorem decodeLossy_encode (cs : List Char) :
    decodeLossy (cs.flatMap String.utf8EncodeChar) = cs := by
  induction cs with
  | nil => rw [List.flatMap_nil, decodeLossy]
  | cons c cs ih => rw [List.flatMap_cons, decodeLossy_encodeChar, ih]

end QueryAssist.Text.Utf8
