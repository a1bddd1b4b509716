import Mathlib.Algebra.Ring.Nat
import TableDiscovery.Proofs.Text.Blank
import TableDiscovery.Text.Integer

/-!
# Integers that are read and written

A literal that is read has no more digits than may be written, so that its integer can be written.
What is written for an integer is read as that integer.

* `ofDigits_lt`, `parseNat_lt`, `parseInt_lt`: digits bound the number that they denote;
* `writeInt_of_lt`, `writeInt_eq_none_iff`: the integers that can be written;
* `readDigits_of_isDigit`, `ofDigits_toDigits`: decimal digits and the number that they denote;
* `eq_minus_or_isDigit`, `strip_toString`: what an integer is written with;
* **`parseInt_of_writeInt`**: an integer that has been written is read back.
-/

namespace TableDiscovery.Text

variable {c : Char} {cs : List Char} {ds : List Nat} {s : String} {n : Int}

theorem digitValue_lt {d : Nat} (h : digitValue? c = some d) : d < 10 := by
  obtain ⟨z, hz, rfl⟩ := Option.map_eq_some_iff.mp h
  have hrange := List.find?_some hz
  simp only [Bool.and_eq_true, decide_eq_true_eq] at hrange
  omega

theorem lt_of_mem_readDigits (h : readDigits cs = some ds) : ∀ d ∈ ds, d < 10 := by
  fun_induction readDigits cs generalizing ds with
  | case1 => cases h
  | case2 c =>
    obtain ⟨d, hd, rfl⟩ := Option.map_eq_some_iff.mp h
    simpa using digitValue_lt hd
  | case3 c rest ih | case4 c rest _ _ ih =>
    obtain ⟨d, hd, h⟩ := Option.bind_eq_some_iff.mp h
    obtain ⟨tail, htail, h⟩ := Option.bind_eq_some_iff.mp h
    cases h
    exact List.forall_mem_cons.mpr ⟨digitValue_lt hd, ih htail⟩

/-- Each digit that is read on takes a number below the next power of ten. -/
theorem foldl_digits_lt (h : ∀ d ∈ ds, d < 10) {m k : Nat} (hm : m < 10 ^ k) :
    ds.foldl (fun n d => 10 * n + d) m < 10 ^ (k + ds.length) := by
  induction ds generalizing m k with
  | nil => exact hm
  | cons d ds ih =>
    obtain ⟨hd, hds⟩ := List.forall_mem_cons.mp h
    have hnext : 10 * m + d < 10 ^ (k + 1) := by
      rw [Nat.pow_succ]
      omega
    have hrest := ih hds hnext
    rwa [Nat.add_right_comm, Nat.add_assoc] at hrest

theorem ofDigits_lt (h : ∀ d ∈ ds, d < 10) : ofDigits ds < 10 ^ ds.length := by
  have hlt := foldl_digits_lt h (m := 0) (k := 0) Nat.one_pos
  rwa [Nat.zero_add] at hlt

theorem parseNat_lt {m : Nat} (h : parseNat? cs = some m) : m < Nat.pow 10 maxDigits := by
  obtain ⟨ds, hds, h⟩ := Option.bind_eq_some_iff.mp h
  split at h
  · rename_i hlength
    cases h
    have hpow (k : Nat) (h : ds.length ≤ k) : Nat.pow 10 ds.length ≤ Nat.pow 10 k :=
      Nat.pow_le_pow_right (show 10 > 0 by decide) h
    exact Nat.lt_of_lt_of_le (ofDigits_lt (lt_of_mem_readDigits hds)) (hpow _ hlength)
  · cases h

theorem parseInt_lt (h : parseInt? s = some n) : n.natAbs < Nat.pow 10 maxDigits := by
  rw [parseInt?] at h
  split at h
  · obtain ⟨k, hk, rfl⟩ := Option.map_eq_some_iff.mp h
    obtain ⟨m, hm, hk⟩ := Option.bind_eq_some_iff.mp hk
    cases hk
    rw [Int.natAbs_neg]
    exact parseNat_lt hm
  · obtain ⟨m, hm, rfl⟩ := Option.map_eq_some_iff.mp h
    exact parseNat_lt hm
  · obtain ⟨m, hm, rfl⟩ := Option.map_eq_some_iff.mp h
    exact parseNat_lt hm

theorem writeInt_of_lt (h : n.natAbs < Nat.pow 10 maxDigits) :
    writeInt? n = some (toString n) := if_pos h

theorem writeInt_eq_none_iff : writeInt? n = none ↔ ¬ n.natAbs < Nat.pow 10 maxDigits := by
  unfold writeInt?
  generalize Nat.pow 10 maxDigits = bound
  split <;> simp_all

/-! ## What is written -/

theorem digitValue_of_isDigit (h : c.isDigit = true) :
    digitValue? c = some (c.toNat - '0'.toNat) := by
  obtain ⟨hzero, hnine⟩ := Char.isDigit_iff_toNat.mp h
  have hrange : (0x30 ≤ c.toNat && c.toNat ≤ 0x30 + 9) = true := by
    rw [Bool.and_eq_true, decide_eq_true_eq, decide_eq_true_eq]
    exact ⟨hzero, hnine⟩
  have hfirst : digitZeros.find? (fun z => z ≤ c.toNat && c.toNat ≤ z + 9) = some 0x30 :=
    List.find?_cons_of_pos hrange
  rw [digitValue?, hfirst]
  rfl

theorem readDigits_of_isDigit (hne : cs ≠ []) (h : ∀ c ∈ cs, c.isDigit = true) :
    readDigits cs = some (cs.map fun c => c.toNat - '0'.toNat) := by
  fun_induction readDigits cs with
  | case1 => exact absurd rfl hne
  | case2 c =>
    rw [digitValue_of_isDigit (h c List.mem_cons_self), Option.map_some, List.map_singleton]
  | case3 c rest => cases h '_' (by simp)
  | case4 c rest hrest _ ih =>
    obtain ⟨hc, hdigits⟩ := List.forall_mem_cons.mp h
    have hne : rest ≠ [] := fun hnil => hrest hnil
    rw [digitValue_of_isDigit hc, ih hne hdigits, List.map_cons]
    rfl

/-- The decimal digits of a number denote it. -/
theorem ofDigits_toDigits (m : Nat) :
    ofDigits ((Nat.toDigits 10 m).map fun c => c.toNat - '0'.toNat) = m := by
  rw [ofDigits, List.foldl_map, ← Nat.ofDigitChars_eq_foldl]
  exact Nat.ofDigitChars_ten_toDigits

theorem isDigit_of_mem_toDigits {m : Nat} (h : c ∈ Nat.toDigits 10 m) : c.isDigit = true :=
  Nat.isDigit_of_mem_toDigits (by decide) (by decide) h

theorem length_toDigits_le {m k : Nat} (hk : 0 < k) (h : m < Nat.pow 10 k) :
    (Nat.toDigits 10 m).length ≤ k :=
  (Nat.length_toDigits_le_iff (by decide) hk).mpr h

theorem parseNat_toDigits {m : Nat} (h : m < Nat.pow 10 maxDigits) :
    parseNat? (Nat.toDigits 10 m) = some m := by
  have hlength : (Nat.toDigits 10 m).length ≤ maxDigits := length_toDigits_le (by decide) h
  rw [parseNat?, readDigits_of_isDigit Nat.toDigits_ne_nil fun c => isDigit_of_mem_toDigits]
  simp only [bind, Option.bind, List.length_map, hlength, if_true, ofDigits_toDigits]

theorem toList_ofNat (m : Nat) : (toString (Int.ofNat m)).toList = Nat.toDigits 10 m :=
  Nat.toList_repr

theorem toList_negSucc (m : Nat) :
    (toString (Int.negSucc m)).toList = '-' :: Nat.toDigits 10 (m + 1) := by
  rw [Int.toString_eq_repr, Int.repr, String.toList_append, Nat.toList_repr]
  rfl

theorem toString_ne_empty (n : Int) : toString n ≠ "" := by
  intro h
  have hnil : (toString n).toList = [] := congrArg String.toList h
  cases n with
  | ofNat m =>
    rw [toList_ofNat] at hnil
    exact Nat.toDigits_ne_nil hnil
  | negSucc m =>
    rw [toList_negSucc] at hnil
    cases hnil

/-- An integer is written with digits and a minus sign. -/
theorem eq_minus_or_isDigit (h : c ∈ (toString n).toList) : c = '-' ∨ c.isDigit = true := by
  cases n with
  | ofNat m =>
    rw [toList_ofNat] at h
    exact .inr (isDigit_of_mem_toDigits h)
  | negSucc m =>
    rw [toList_negSucc] at h
    exact (List.mem_cons.mp h).imp_right isDigit_of_mem_toDigits

theorem not_isBlank_of_mem_toString (h : c ∈ (toString n).toList) : isBlank c = false := by
  obtain rfl | hdigit := eq_minus_or_isDigit h
  · decide
  · have hzero : 0x30 ≤ c.toNat := (Char.isDigit_iff_toNat.mp hdigit).1
    have hnine : c.toNat ≤ 0x39 := (Char.isDigit_iff_toNat.mp hdigit).2
    simp [isBlank, blankRanges, Ranges.has]
    omega

theorem strip_toString (n : Int) : strip (toString n) = toString n :=
  strip_eq_self (fun _ hc => not_isBlank_of_mem_toString (List.mem_of_head? hc))
    (fun _ hc => not_isBlank_of_mem_toString (List.mem_of_getLast? hc))

theorem not_isPadding_of_mem_toString (h : c ∈ (toString n).toList) : isPadding c = false := by
  rw [isPadding, not_isBlank_of_mem_toString h, Bool.false_and]

theorem trimWhile_toString (n : Int) :
    trimWhile isPadding (toString n).toList = (toString n).toList :=
  trimWhile_eq_self (fun _ hc => not_isPadding_of_mem_toString (List.mem_of_head? hc))
    (fun _ hc => not_isPadding_of_mem_toString (List.mem_of_getLast? hc))

/-- A literal without sign denotes the number of its digits. -/
theorem parseInt_eq (s : String)
    (hsign : ∀ c ∈ (trimWhile isPadding s.toList).head?, c ≠ '-' ∧ c ≠ '+') :
    parseInt? s = (parseNat? (trimWhile isPadding s.toList)).map Int.ofNat := by
  rw [parseInt?]
  split
  · rename_i cs heq
    rw [heq] at hsign
    exact absurd rfl (hsign '-' rfl).1
  · rename_i cs heq
    rw [heq] at hsign
    exact absurd rfl (hsign '+' rfl).2
  · rfl

theorem parseInt_neg (h : trimWhile isPadding s.toList = '-' :: cs) :
    parseInt? s = (parseNat? cs).map fun n => -(n : Int) := by
  rw [parseInt?, h]
  rfl

/-- **An integer that has been written is read back.** -/
theorem parseInt_of_writeInt {text : String} (h : writeInt? n = some text) :
    parseInt? text = some n := by
  rw [writeInt?] at h
  split at h
  · rename_i hlt
    cases h
    cases n with
    | ofNat m =>
      have htrim := trimWhile_toString (Int.ofNat m)
      rw [toList_ofNat] at htrim
      have hsign : ∀ c ∈ (Nat.toDigits 10 m).head?, c ≠ '-' ∧ c ≠ '+' := by
        intro c hc
        have hdigit : c.isDigit = true := isDigit_of_mem_toDigits (List.mem_of_head? hc)
        constructor <;> rintro rfl <;> cases hdigit
      rw [Int.ofNat_eq_natCast, Int.natAbs_natCast] at hlt
      rw [parseInt_eq _ (by rwa [toList_ofNat, htrim]), toList_ofNat, htrim, parseNat_toDigits hlt]
      rfl
    | negSucc m =>
      rw [Int.natAbs_negSucc, Nat.succ_eq_add_one] at hlt
      rw [parseInt_neg ((trimWhile_toString _).trans (toList_negSucc m)), parseNat_toDigits hlt]
      rfl
  · cases h

end TableDiscovery.Text
