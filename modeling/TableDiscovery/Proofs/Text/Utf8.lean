import Mathlib.Tactic.SplitIfs
import TableDiscovery.Text.Utf8

/-!
# Reading back encoded texts

The bytes of a text are decoded to the text. A lead byte announces the bytes that the encoder wrote,
and its range for the first of them rules out no character.

* `decodeFrom_first`, `decodeFrom_next`, `decodeFrom_last`: what one byte adds to a sequence;
* `exists_lead_three`, `exists_lead_four`: the lead bytes of long sequences;
* `decodeFrom_encodeChar`, **`decodeBytes_encodeBytes`**: characters and texts are read back.
-/

namespace TableDiscovery.Text

variable {rest : List UInt8} {bits more low high k m n : Nat}

/-! ## One byte -/

theorem toNat_byte (h : n < 0x100) : (UInt8.ofNat n).toNat = n := UInt8.toNat_ofNat_of_lt' h

theorem decodeFrom_ascii (h : n < 0x80) :
    decodeFrom none (UInt8.ofNat n :: rest) = Char.ofNat n :: decodeFrom none rest := by
  simp [decodeFrom, Lead.of?, toNat_byte (show n < 0x100 by omega), h]

theorem decodeFrom_first (hn : n < 0x100) (h : Lead.of? n = some ⟨bits, more + 1, low, high⟩) :
    decodeFrom none (UInt8.ofNat n :: rest) =
      decodeFrom (some ⟨bits, more + 1, low, high⟩) rest := by
  simp [decodeFrom, toNat_byte hn, h]

theorem decodeFrom_next (hk : k < 64) (hlow : low ≤ k + 0x80) (hhigh : k + 0x80 ≤ high) :
    decodeFrom (some ⟨bits, more + 2, low, high⟩) (UInt8.ofNat (k + 0x80) :: rest) =
      decodeFrom (some ⟨64 * bits + k, more + 1, 0x80, 0xbf⟩) rest := by
  rw [decodeFrom, toNat_byte (by omega)]
  simp [hlow, hhigh]

theorem decodeFrom_last (hk : k < 64) (hlow : low ≤ k + 0x80) (hhigh : k + 0x80 ≤ high) :
    decodeFrom (some ⟨bits, 1, low, high⟩) (UInt8.ofNat (k + 0x80) :: rest) =
      Char.ofNat (64 * bits + k) :: decodeFrom none rest := by
  rw [decodeFrom, toNat_byte (by omega)]
  simp [hlow, hhigh]

/-! ## Lead bytes -/

theorem lead_two (hlow : 2 ≤ n) (hhigh : n < 32) :
    Lead.of? (n + 0xc0) = some ⟨n, 1, 0x80, 0xbf⟩ := by
  have hrange : (decide (0xc2 ≤ n + 0xc0) && decide (n + 0xc0 ≤ 0xdf)) = true := by
    simp only [Bool.and_eq_true, decide_eq_true_eq]
    omega
  rw [Lead.of?, if_neg (by omega), if_pos hrange, Nat.add_sub_cancel]

/-- The lead byte of three, with the byte after it: there are neither overlong sequences nor
surrogates. -/
theorem exists_lead_three (hn : n < 16) (hm : m < 64) (hlong : n = 0 → 0x20 ≤ m)
    (hsurrogate : n = 0xd → m < 0x20) : ∃ low high,
      Lead.of? (n + 0xe0) = some ⟨n, 2, low, high⟩ ∧ low ≤ m + 0x80 ∧ m + 0x80 ≤ high := by
  by_cases hzero : n = 0
  · subst hzero
    exact ⟨0xa0, 0xbf, rfl, by have := hlong rfl; omega, by omega⟩
  by_cases hd : n = 0xd
  · subst hd
    exact ⟨0x80, 0x9f, rfl, by omega, by have := hsurrogate rfl; omega⟩
  have htwo : ¬ (decide (0xc2 ≤ n + 0xe0) && decide (n + 0xe0 ≤ 0xdf)) = true := by
    simp only [Bool.and_eq_true, decide_eq_true_eq]
    omega
  have hrange : (decide (0xe1 ≤ n + 0xe0) && decide (n + 0xe0 ≤ 0xef)) = true := by
    simp only [Bool.and_eq_true, decide_eq_true_eq]
    omega
  refine ⟨0x80, 0xbf, ?_, by omega, by omega⟩
  rw [Lead.of?, if_neg (by omega), if_neg htwo, if_neg (by omega), if_neg (by omega), if_pos hrange,
    Nat.add_sub_cancel]

/-- The lead byte of four, with the byte after it: there are neither overlong sequences nor ones
beyond the last character. -/
theorem exists_lead_four (hn : n < 5) (hm : m < 64) (hlong : n = 0 → 0x10 ≤ m)
    (hlast : n = 4 → m < 0x10) : ∃ low high,
      Lead.of? (n + 0xf0) = some ⟨n, 3, low, high⟩ ∧ low ≤ m + 0x80 ∧ m + 0x80 ≤ high := by
  match n, hn with
  | 0, _ => exact ⟨0x90, 0xbf, rfl, by have := hlong rfl; omega, by omega⟩
  | 1, _ | 2, _ | 3, _ => exact ⟨0x80, 0xbf, rfl, by omega, by omega⟩
  | 4, _ => exact ⟨0x80, 0x8f, rfl, by omega, by have := hlast rfl; omega⟩

/-! ## Characters and texts -/

/-- **A character is read back from its bytes.** -/
theorem decodeFrom_encodeChar (c : Char) (rest : List UInt8) :
    decodeFrom none (String.utf8EncodeChar c ++ rest) = c :: decodeFrom none rest := by
  have hvalid : c.val.toNat < 0xd800 ∨ 0xdfff < c.val.toNat ∧ c.val.toNat < 0x110000 := c.valid
  have hc : Char.ofNat c.val.toNat = c := Char.ofNat_toNat c
  rw [String.utf8EncodeChar]
  generalize c.val.toNat = v at hvalid hc
  split_ifs with hone htwo hthree
  · exact (decodeFrom_ascii (by omega)).trans (by rw [hc]; rfl)
  · have hv : 64 * (v / 64 % 32) + v % 64 = v := by omega
    have hlead := lead_two (n := v / 64 % 32) (by omega) (by omega)
    refine (decodeFrom_first (by omega) hlead).trans ?_
    exact (decodeFrom_last (by omega) (by omega) (by omega)).trans (by rw [hv, hc]; rfl)
  · have hv : 64 * (64 * (v / 4096 % 16) + v / 64 % 64) + v % 64 = v := by omega
    obtain ⟨low, high, hlead, hlow, hhigh⟩ := exists_lead_three (n := v / 4096 % 16)
      (m := v / 64 % 64) (by omega) (by omega) (by omega) (by omega)
    refine (decodeFrom_first (by omega) hlead).trans ?_
    refine (decodeFrom_next (by omega) hlow hhigh).trans ?_
    exact (decodeFrom_last (by omega) (by omega) (by omega)).trans (by rw [hv, hc]; rfl)
  · have hv : 64 * (64 * (64 * (v / 262144 % 8) + v / 4096 % 64) + v / 64 % 64) + v % 64 = v := by
      omega
    obtain ⟨low, high, hlead, hlow, hhigh⟩ := exists_lead_four (n := v / 262144 % 8)
      (m := v / 4096 % 64) (by omega) (by omega) (by omega) (by omega)
    refine (decodeFrom_first (by omega) hlead).trans ?_
    refine (decodeFrom_next (by omega) hlow hhigh).trans ?_
    refine (decodeFrom_next (by omega) (by omega) (by omega)).trans ?_
    exact (decodeFrom_last (by omega) (by omega) (by omega)).trans (by rw [hv, hc]; rfl)

theorem decodeFrom_flatMap (cs : List Char) :
    decodeFrom none (cs.flatMap String.utf8EncodeChar) = cs := by
  induction cs with
  | nil => rfl
  | cons c cs ih => rw [List.flatMap_cons, decodeFrom_encodeChar, ih]

/-- **A text is read back from its bytes.** -/
theorem decodeBytes_encodeBytes (s : String) : decodeBytes (encodeBytes s) = s := by
  rw [decodeBytes, encodeBytes, decodeFrom_flatMap, String.ofList_toList]

end TableDiscovery.Text
