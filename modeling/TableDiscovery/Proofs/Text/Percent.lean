import TableDiscovery.Proofs.Text.Utf8
import TableDiscovery.Text.Percent

/-!
# Percent escapes are read back

A text is written with escapes for all bytes of its UTF-8 form but letters and digits. Reading gives
the text back, and what is written holds nothing but letters, digits and percent signs.

* `escapeByte`, `escape`: bytes and texts with escapes;
* `unescapeBytes_escapeByte`, **`unescape_escape`**: they are read back;
* `alphanum_of_mem_escape`, `notMem_escape`: the characters of an escaped text.
-/

namespace TableDiscovery.Text

variable {c : Char} {cs : List Char} {s : String}

/-! ## Writing escapes -/

/-- The hexadecimal digit of a number below sixteen. -/
def hexDigit (n : Nat) : Char := Char.ofNat (if n < 10 then '0'.toNat + n else 'A'.toNat + (n - 10))

/-- A byte as the letter or digit that it stands for, or as an escape. -/
def escapeByte (b : UInt8) : List Char :=
  if (Char.ofNat b.toNat).isAlphanum then [Char.ofNat b.toNat]
  else ['%', hexDigit (b.toNat / 16), hexDigit (b.toNat % 16)]

/-- The text with escapes for all bytes of its UTF-8 form that are not letters or digits. -/
def escape (s : String) : String := String.ofList ((encodeBytes s).flatMap escapeByte)

theorem hexValue?_hexDigit {n : Nat} (h : n < 16) : hexValue? (hexDigit n) = some n := by
  revert n
  decide

theorem lt_of_isAlphanum (h : c.isAlphanum = true) : c.toNat < 0x80 ∧ c ≠ '%' := by
  refine ⟨?_, by rintro rfl; cases h⟩
  have hlast (hle : c.val ≤ 'z'.val) : c.toNat < 0x80 :=
    Nat.lt_of_le_of_lt (UInt32.le_iff_toNat_le.mp hle) (by decide)
  have hcases : ((c.isUpper || c.isLower) || c.isDigit) = true := h
  rw [Bool.or_eq_true, Bool.or_eq_true] at hcases
  obtain (hupper | hlower) | hdigit := hcases
  · exact hlast (UInt32.le_trans (of_decide_eq_true hupper).2 (by decide))
  · exact hlast (of_decide_eq_true (Bool.and_eq_true_iff.mp hlower).2)
  · exact hlast (UInt32.le_trans (of_decide_eq_true (Bool.and_eq_true_iff.mp hdigit).2) (by decide))

theorem isAlphanum_hexDigit {n : Nat} (h : n < 16) : (hexDigit n).isAlphanum = true := by
  revert n
  decide

/-- **What is written for a text holds letters, digits and percent signs only.** -/
theorem alphanum_of_mem_escape (h : c ∈ (escape s).toList) : c.isAlphanum = true ∨ c = '%' := by
  rw [escape, String.toList_ofList, List.mem_flatMap] at h
  obtain ⟨b, -, hc⟩ := h
  have hb : b.toNat < 256 := b.toNat_lt
  rw [escapeByte] at hc
  split at hc
  · rename_i halphanum
    obtain rfl := List.mem_singleton.mp hc
    exact .inl halphanum
  · simp only [List.mem_cons, List.not_mem_nil, or_false] at hc
    obtain rfl | rfl | rfl := hc
    · exact .inr rfl
    · exact .inl (isAlphanum_hexDigit (by omega))
    · exact .inl (isAlphanum_hexDigit (by omega))

theorem notMem_escape (h : c.isAlphanum = false) (hpercent : c ≠ '%') : c ∉ (escape s).toList := by
  intro hmem
  obtain halphanum | heq := alphanum_of_mem_escape hmem
  · cases h.symm.trans halphanum
  · exact hpercent heq

theorem lt_of_mem_escape (h : c ∈ (escape s).toList) : c.toNat < 0x80 := by
  obtain halphanum | rfl := alphanum_of_mem_escape h
  · exact (lt_of_isAlphanum halphanum).1
  · decide

/-! ## Reading escapes -/

theorem unescapeBytes_cons (h : c ≠ '%') :
    unescapeBytes (c :: cs) = String.utf8EncodeChar c ++ unescapeBytes cs := by
  rw [unescapeBytes.eq_def]
  split
  · rename_i heq
    exact absurd (List.cons.inj heq).1 h
  · rename_i heq
    obtain ⟨rfl, rfl⟩ := List.cons.inj heq
    rfl
  · rename_i heq
    cases heq

theorem encodeChar_ascii (h : c.toNat < 0x80) :
    String.utf8EncodeChar c = [UInt8.ofNat c.toNat] := by
  rw [String.utf8EncodeChar]
  exact if_pos (Nat.le_of_lt_succ h)

theorem toNat_charOfByte (b : UInt8) : (Char.ofNat b.toNat).toNat = b.toNat := by
  have hvalid : b.toNat.isValidChar := .inl (by have := b.toNat_lt; omega)
  rw [Char.ofNat, dif_pos hvalid]
  rfl

/-- A byte is read back. -/
theorem unescapeBytes_escapeByte (b : UInt8) (cs : List Char) :
    unescapeBytes (escapeByte b ++ cs) = b :: unescapeBytes cs := by
  have hb : b.toNat < 256 := b.toNat_lt
  rw [escapeByte]
  split
  · rename_i halphanum
    obtain ⟨hascii, hne⟩ := lt_of_isAlphanum halphanum
    rw [List.singleton_append, unescapeBytes_cons hne, encodeChar_ascii hascii, toNat_charOfByte,
      UInt8.ofNat_toNat, List.singleton_append]
  · have hvalue : 16 * (b.toNat / 16) + b.toNat % 16 = b.toNat := by omega
    simp only [List.cons_append, List.nil_append, unescapeBytes,
      hexValue?_hexDigit (show b.toNat / 16 < 16 by omega),
      hexValue?_hexDigit (show b.toNat % 16 < 16 by omega), hvalue, UInt8.ofNat_toNat]

theorem unescapeBytes_flatMap (bs : List UInt8) : unescapeBytes (bs.flatMap escapeByte) = bs := by
  induction bs with
  | nil => rfl
  | cons b bs ih => rw [List.flatMap_cons, unescapeBytes_escapeByte, ih]

/-- **A text is read back from its escaped form.** -/
theorem unescape_escape (s : String) : unescape (escape s) = s := by
  rw [unescape, escape, String.toList_ofList, unescapeBytes_flatMap, decodeBytes_encodeBytes]

/-- Separators, and a letter of two bytes. -/
example : escape "a:@ß" = "a%3A%40%C3%9F" := by decide +kernel

end TableDiscovery.Text
