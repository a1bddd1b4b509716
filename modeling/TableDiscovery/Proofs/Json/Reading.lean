import Mathlib.Data.List.Chain
import Mathlib.Data.List.DropRight
import Mathlib.Data.List.Forall2
import TableDiscovery.Json.Reader
import TableDiscovery.Json.Writer
import TableDiscovery.Proofs.Assoc
import TableDiscovery.Proofs.Text.Integer

/-!
# JSON texts are read back

What is written for a value without fractions is read as that value, whatever characters its strings
hold and however deep it is nested.

* `escapeChar_cases`: the three ways in which a character of a string is written;
* `Reads`, `reads_escapePoint`: characters inside a string, and the UTF-16 units that they are read
  as;
* `joinUnits_units16`: the units of characters are joined to these characters again;
* `Denotes`: a text that is read as a value, if no other text goes on;
* `denotes_arr`, `denotes_obj`: texts of lists and objects, from those of their members;
* `Plain`, **`denotes_write`**: values without fractions, which are read back.
-/

namespace TableDiscovery.Json

open Text

variable {lone : Nat → Char} {c : Char} {cs cs' rest : List Char} {n : Nat} {ns ns' : List Nat}

/-! ## Hexadecimal digits -/

theorem hexValue?_digitChar (h : n < 16) : hexValue? (Nat.digitChar n) = some n := by
  revert n
  decide

theorem hexDigits_succ (width n : Nat) :
    hexDigits (width + 2) n = hexDigits (width + 1) (n / 16) ++ [Nat.digitChar (n % 16)] := by
  by_cases h : n < 16
  · have hzero : n / 16 = 0 := Nat.div_eq_of_lt h
    rw [hexDigits, hexDigits, hzero, Nat.toDigits_of_lt_base h, Nat.mod_eq_of_lt h]
    exact congrArg (· ++ _) List.replicate_succ'
  · have hmore : Nat.toDigits 16 n = Nat.toDigits 16 (n / 16) ++ [Nat.digitChar (n % 16)] :=
      Nat.toDigits_of_base_le (by decide) (Nat.le_of_not_lt h)
    rw [hexDigits, hexDigits, hmore]
    simp

theorem hexDigits_four (h : n < 0x10000) :
    hexDigits 4 n = [Nat.digitChar (n / 16 / 16 / 16), Nat.digitChar (n / 16 / 16 % 16),
      Nat.digitChar (n / 16 % 16), Nat.digitChar (n % 16)] := by
  have hlast : hexDigits 1 (n / 16 / 16 / 16) = [Nat.digitChar (n / 16 / 16 / 16)] := by
    rw [hexDigits, Nat.toDigits_of_lt_base (by omega)]
    rfl
  rw [hexDigits_succ, hexDigits_succ, hexDigits_succ, hlast]
  rfl

/-! ## Units of a string -/

/-- Characters inside a string that are read as UTF-16 units, whatever follows them. -/
def Reads (cs : List Char) (ns : List Nat) : Prop :=
  ∀ rest, readUnits (cs ++ rest) = (readUnits rest).map fun p => (ns ++ p.1, p.2)

theorem Reads.nil : Reads [] [] := fun rest => by simp

theorem Reads.append (h : Reads cs ns) (h' : Reads cs' ns') : Reads (cs ++ cs') (ns ++ ns') := by
  intro rest
  rw [List.append_assoc, h, h', Option.map_map]
  simp [Function.comp_def]

theorem reads_escapeUnit (h : n < 0x10000) : Reads (escapeUnit n) [n] := by
  intro rest
  have hunit : unit? (Nat.digitChar (n / 16 / 16 / 16)) (Nat.digitChar (n / 16 / 16 % 16))
      (Nat.digitChar (n / 16 % 16)) (Nat.digitChar (n % 16)) = some n := by
    rw [unit?, hexValue?_digitChar (by omega), hexValue?_digitChar (by omega),
      hexValue?_digitChar (by omega), hexValue?_digitChar (by omega)]
    simp only [bind, Option.bind, pure, Option.some.injEq]
    omega
  rw [escapeUnit, hexDigits_four h]
  simp only [List.cons_append, List.nil_append, readUnits, hunit]
  cases readUnits rest <;> rfl

theorem reads_self (hquote : c ≠ '"') (hslash : c ≠ '\\') (hprinted : 0x20 ≤ c.toNat) :
    Reads [c] [c.toNat] := by
  intro rest
  rw [List.singleton_append, readUnits, if_neg (Nat.not_lt_of_le hprinted)]
  · cases readUnits rest <;> rfl
  · exact hquote
  · exact fun _ _ _ _ _ h => absurd h hslash
  · exact fun _ _ h => absurd h hslash

theorem units16_of_lt (h : c.toNat < 0x10000) : units16 c = [c.toNat] := if_pos h

theorem reads_units16 (c : Char) : Reads ((units16 c).flatMap escapeUnit) (units16 c) := by
  have hvalid : c.toNat < 0x110000 := (CodePoint.ofChar c).isLt
  rw [units16]
  split
  · rename_i h
    simpa using reads_escapeUnit h
  · simpa using (reads_escapeUnit (n := 0xd800 + (c.toNat - 0x10000) / 0x400) (by omega)).append
      (reads_escapeUnit (n := 0xdc00 + (c.toNat - 0x10000) % 0x400) (by omega))

/-- The letters that are written after a backslash, with the units that they stand for. -/
def letters : List (Char × Nat) :=
  [('"', 0x22), ('\\', 0x5c), ('n', 10), ('r', 13), ('t', 9), ('b', 8), ('f', 12)]

theorem reads_letter {e : Char} (h : (e, c.toNat) ∈ letters) : Reads ['\\', e] (units16 c) := by
  have hlow : ∀ p ∈ letters, p.2 < 0x10000 := by decide
  intro rest
  have hread : readUnits ('\\' :: e :: rest) =
      (readUnits rest).bind fun p => some (c.toNat :: p.1, p.2) := by
    simp only [letters, List.mem_cons, List.not_mem_nil, or_false, Prod.mk.injEq] at h
    obtain ⟨rfl, hc⟩ | ⟨rfl, hc⟩ | ⟨rfl, hc⟩ | ⟨rfl, hc⟩ | ⟨rfl, hc⟩ | ⟨rfl, hc⟩ | ⟨rfl, hc⟩ := h
    all_goals simp [readUnits, hc]
  rw [units16_of_lt (hlow _ h)]
  refine hread.trans ?_
  cases readUnits rest <;> rfl

/-- A character of a string is written as a letter after a backslash, as itself or by its units. -/
theorem escapeChar_cases (c : Char) :
    (∃ e, (e, c.toNat) ∈ letters ∧ escapeChar c = ['\\', e]) ∨
      (c ≠ '"' ∧ c ≠ '\\' ∧ 0x20 ≤ c.toNat ∧ c.toNat < 0x7f ∧ escapeChar c = [c]) ∨
      escapeChar c = (units16 c).flatMap escapeUnit := by
  unfold escapeChar
  split
  · rename_i h
    rw [Bool.or_eq_true, decide_eq_true_eq, decide_eq_true_eq] at h
    exact .inl ⟨c, by obtain rfl | rfl := h <;> decide, rfl⟩
  split
  · rename_i h
    exact .inl ⟨'n', h ▸ by decide, rfl⟩
  split
  · rename_i h
    exact .inl ⟨'r', h ▸ by decide, rfl⟩
  split
  · rename_i h
    exact .inl ⟨'t', h ▸ by decide, rfl⟩
  split
  · rename_i h
    exact .inl ⟨'b', h ▸ by decide, rfl⟩
  split
  · rename_i h
    exact .inl ⟨'f', h ▸ by decide, rfl⟩
  split
  · rename_i hspecial _ _ _ _ _ hplain
    rw [Bool.or_eq_true, decide_eq_true_eq, decide_eq_true_eq, not_or] at hspecial
    rw [Bool.and_eq_true, decide_eq_true_eq, decide_eq_true_eq] at hplain
    exact .inr (.inl ⟨hspecial.1, hspecial.2, hplain.1, hplain.2, rfl⟩)
  · exact .inr (.inr rfl)

theorem reads_escapeChar (c : Char) : Reads (escapeChar c) (units16 c) := by
  obtain ⟨e, hletter, heq⟩ | ⟨hquote, hslash, hfirst, hlast, heq⟩ | heq := escapeChar_cases c
  · exact heq ▸ reads_letter hletter
  · rw [heq, units16_of_lt (by omega)]
    exact reads_self hquote hslash hfirst
  · exact heq ▸ reads_units16 c

/-- The UTF-16 units of a code point. -/
def pointUnits (p : CodePoint) : List Nat := p.char?.elim [p.val] units16

/-- A code point that is no character is a surrogate. -/
theorem surrogate_of_char?_eq_none {p : CodePoint} (h : p.char? = none) :
    0xd800 ≤ p.val ∧ p.val < 0xe000 := by
  have hinvalid : ¬ p.val.isValidChar := by
    intro hvalid
    rw [CodePoint.char?, if_pos hvalid] at h
    cases h
  have := p.isLt
  simp only [Nat.isValidChar] at hinvalid
  omega

theorem reads_escapePoint (p : CodePoint) : Reads (escapePoint p) (pointUnits p) := by
  rw [escapePoint, pointUnits]
  cases hchar : p.char? with
  | some c => exact reads_escapeChar c
  | none =>
    have hsurrogate := surrogate_of_char?_eq_none hchar
    exact reads_escapeUnit (by omega)

theorem reads_points (ps : List CodePoint) :
    Reads (ps.flatMap escapePoint) (ps.flatMap pointUnits) := by
  induction ps with
  | nil => exact .nil
  | cons p ps ih => exact (reads_escapePoint p).append ih

/-! ## Characters of a string -/

theorem joinUnits_cons (h : n < 0xd800 ∨ 0xe000 ≤ n) (ns : List Nat) :
    joinUnits lone (n :: ns) = Char.ofNat n :: joinUnits lone ns := by
  have hsingle : loneUnit lone n = Char.ofNat n := by
    rw [loneUnit, if_neg (by simp; omega)]
  have hfirst : (decide (0xd800 ≤ n) && decide (n < 0xdc00)) = false := by
    simp
    omega
  cases ns with
  | nil => simp [joinUnits, hsingle]
  | cons m ns => simp [joinUnits, hsingle, hfirst]

/-- A surrogate is joined to a low one behind a high one only. -/
theorem joinUnits_lone (h : 0xd800 ≤ n ∧ n < 0xe000)
    (hnext : n < 0xdc00 → ∀ m ∈ ns.head?, ¬ (0xdc00 ≤ m ∧ m < 0xe000)) :
    joinUnits lone (n :: ns) = lone n :: joinUnits lone ns := by
  have hsingle : loneUnit lone n = lone n := by
    rw [loneUnit, if_pos (by simp; omega)]
  cases ns with
  | nil => simp [joinUnits, hsingle]
  | cons m ns =>
    have hpair : ¬ (decide (0xd800 ≤ n) && decide (n < 0xdc00) && decide (0xdc00 ≤ m) &&
        decide (m < 0xe000)) = true := by
      intro hpair
      simp only [Bool.and_eq_true, decide_eq_true_eq] at hpair
      exact hnext hpair.1.1.2 m rfl ⟨hpair.1.2, hpair.2⟩
    rw [joinUnits, if_neg hpair, hsingle]

theorem joinUnits_units16 (c : Char) (ns : List Nat) :
    joinUnits lone (units16 c ++ ns) = c :: joinUnits lone ns := by
  have hvalid : c.toNat < 0xd800 ∨ 0xdfff < c.toNat ∧ c.toNat < 0x110000 := c.valid
  by_cases h : c.toNat < 0x10000
  · rw [units16_of_lt h, List.singleton_append, joinUnits_cons (by omega), Char.ofNat_toNat]
  · have hpair : units16 c =
        [0xd800 + (c.toNat - 0x10000) / 0x400, 0xdc00 + (c.toNat - 0x10000) % 0x400] := if_neg h
    have hback : 0x10000 + 0x400 * ((0xd800 + (c.toNat - 0x10000) / 0x400) - 0xd800) +
        ((0xdc00 + (c.toNat - 0x10000) % 0x400) - 0xdc00) = c.toNat := by omega
    rw [hpair, List.cons_append, List.singleton_append, joinUnits, if_pos (by simp; omega), hback,
      Char.ofNat_toNat]

theorem joinUnits_points (cs : List Char) :
    joinUnits lone ((cs.map CodePoint.ofChar).flatMap pointUnits) = cs := by
  induction cs with
  | nil => rfl
  | cons c cs ih =>
    rw [List.map_cons, List.flatMap_cons, pointUnits, CodePoint.char?_ofChar, Option.elim_some,
      joinUnits_units16, ih]

/-- The string that code points are read back as: pairs of surrogates are joined, and of the others
the reader makes what it wants. -/
def decoded (lone : Nat → Char) (ps : List CodePoint) : String :=
  String.ofList (joinUnits lone (ps.flatMap pointUnits))

@[simp] theorem decoded_points (s : String) : decoded lone (points s) = s := by
  rw [decoded, points, joinUnits_points, String.ofList_toList]

/-- No high surrogate stands right before a low one. -/
def Unpaired (ps : List CodePoint) : Prop :=
  ps.IsChain fun p q => ¬ ((0xd800 ≤ p.val ∧ p.val < 0xdc00) ∧ 0xdc00 ≤ q.val ∧ q.val < 0xe000)

/-- The character that a reader makes of a code point: itself, if it is one. -/
def charOf (lone : Nat → Char) (p : CodePoint) : Char := p.char?.getD (lone p.val)

/-- No character begins with a low surrogate. -/
theorem low_of_mem_head? {p : CodePoint} {m : Nat} (hm : m ∈ (pointUnits p ++ ns).head?)
    (hlow : 0xdc00 ≤ m ∧ m < 0xe000) : m = p.val := by
  rw [pointUnits] at hm
  cases hchar : p.char? with
  | none =>
    rw [hchar] at hm
    exact (Option.mem_some_iff.mp hm).symm
  | some c =>
    have hvalid : c.toNat < 0xd800 ∨ 0xdfff < c.toNat ∧ c.toNat < 0x110000 := c.valid
    rw [hchar, Option.elim_some, units16] at hm
    split at hm
    · have hm : c.toNat = m := Option.mem_some_iff.mp hm
      omega
    · have hm : 0xd800 + (c.toNat - 0x10000) / 0x400 = m := Option.mem_some_iff.mp hm
      omega

theorem joinUnits_of_unpaired {ps : List CodePoint} (h : Unpaired ps) :
    joinUnits lone (ps.flatMap pointUnits) = ps.map (charOf lone) := by
  induction ps with
  | nil => rfl
  | cons p ps ih =>
    have ih := ih h.tail
    rw [List.flatMap_cons, List.map_cons, ← ih]
    cases hchar : p.char? with
    | some c => rw [pointUnits, hchar, Option.elim_some, joinUnits_units16, charOf, hchar]; rfl
    | none =>
      have hsurrogate := surrogate_of_char?_eq_none hchar
      rw [pointUnits, hchar, Option.elim_none, List.singleton_append, joinUnits_lone hsurrogate,
        charOf, hchar]
      · rfl
      · intro hhigh m hm hlow
        cases ps with
        | nil => cases hm
        | cons q ps =>
          have heq := low_of_mem_head? hm hlow
          exact h.rel ⟨⟨hsurrogate.1, hhigh⟩, heq ▸ hlow⟩

/-- Code points are read back one by one where no pair of surrogates is joined. -/
theorem decoded_of_unpaired {ps : List CodePoint} (h : Unpaired ps) :
    decoded lone ps = String.ofList (ps.map (charOf lone)) := by
  rw [decoded, joinUnits_of_unpaired h]

/-- **A string is read back.** -/
theorem readString_pointString (ps : List CodePoint) (rest : List Char) :
    readString lone (ps.flatMap escapePoint ++ '"' :: rest) = some (decoded lone ps, rest) := by
  rw [readString, reads_points ps, readUnits]
  simp [decoded]

/-! ## Values -/

/-- What follows a value does not go on with it. -/
def Stops (rest : List Char) : Prop := ∀ c ∈ rest.head?, c = ',' ∨ c = ']' ∨ c = '\x7d'

/-- A text that is read as a value. The length of the text bounds the nesting. -/
def Denotes (lone : Nat → Char) (text : String) (v : Json) : Prop :=
  ∀ fuel rest, text.toList.length ≤ fuel → Stops rest →
    readValue lone fuel (text.toList ++ rest) = some (v, rest)

variable {text : String} {v : Json} {fuel : Nat}

/-- The value of a whole text. -/
theorem Denotes.read (h : Denotes lone text v) : read? lone text = some v := by
  have hread := h (2 * text.toList.length + 2) [] (by omega) nofun
  rw [List.append_nil] at hread
  rw [read?, hread]
  rfl

theorem Denotes.intro (hne : text ≠ "") (h : ∀ fuel rest, text.toList.length ≤ fuel + 1 →
    Stops rest → readValue lone (fuel + 1) (text.toList ++ rest) = some (v, rest)) :
    Denotes lone text v := by
  intro fuel rest hfuel hstop
  cases fuel with
  | zero => exact absurd (String.toList_eq_nil_iff.mp (List.length_eq_zero_iff.mp (by omega))) hne
  | succ fuel => exact h fuel rest hfuel hstop

/-- A text between two characters, of which the first one decides what is read. -/
theorem Denotes.enclosed {first last : Char} {inner : List Char}
    (htext : text.toList = first :: (inner ++ [last]))
    (h : ∀ fuel rest, inner.length < fuel →
      readValue lone (fuel + 1) (first :: (inner ++ last :: rest)) = some (v, rest)) :
    Denotes lone text v := by
  refine .intro (fun hnil => ?_) fun fuel rest hfuel _ => ?_
  · cases htext.symm.trans (congrArg String.toList hnil)
  · rw [htext, List.length_cons, List.length_append] at hfuel
    rw [htext, List.cons_append, List.append_assoc]
    exact h fuel rest (Nat.le_of_succ_le_succ hfuel)

theorem denotes_null : Denotes lone (write .null) .null := by
  rw [write]
  exact .intro (by decide) fun _ _ _ _ => rfl

theorem denotes_bool (b : Bool) : Denotes lone (write (.bool b)) (.bool b) := by
  rw [write]
  cases b
  · exact .intro (by decide) fun _ _ _ _ => rfl
  · exact .intro (by decide) fun _ _ _ _ => rfl

theorem toList_pointString (ps : List CodePoint) :
    (pointString ps).toList = '"' :: (ps.flatMap escapePoint ++ ['"']) := by
  rw [pointString, String.toList_ofList, List.cons_append]

theorem denotes_pointString (ps : List CodePoint) :
    Denotes lone (pointString ps) (.str (decoded lone ps)) := by
  refine .enclosed (toList_pointString ps) fun fuel rest _ => ?_
  change (readString lone _).map _ = _
  rw [readString_pointString]
  rfl

/-! ### Integers -/

theorem digitRun?_append (hne : cs ≠ []) (hdigits : ∀ c ∈ cs, c.isDigit = true)
    (hstop : ∀ c ∈ rest.head?, c.isDigit = false) : digitRun? (cs ++ rest) = some (cs, rest) := by
  have htake : (cs ++ rest).takeWhile Char.isDigit = cs := by
    rw [List.takeWhile_append_of_pos hdigits]
    cases rest with
    | nil => simp
    | cons c rest => simp [hstop c rfl]
  have hdrop : (cs ++ rest).dropWhile Char.isDigit = rest := by
    rw [List.dropWhile_append_of_pos hdigits]
    cases rest with
    | nil => rfl
    | cons c rest => simp [hstop c rfl]
  rw [digitRun?, htake, hdrop, if_neg (by simpa using hne)]

/-- Decimal digits start with a zero only for zero itself. -/
theorem head?_toDigits {m : Nat} (h : m ≠ 0) : (Nat.toDigits 10 m).head? ≠ some '0' := by
  induction m using Nat.strongRecOn with
  | ind m ih =>
    by_cases hsmall : m < 10
    · have hdigit : ∀ d < 10, d ≠ 0 → Nat.digitChar d ≠ '0' := by decide
      rw [Nat.toDigits_of_lt_base hsmall]
      exact fun heq => hdigit m hsmall h (Option.some.inj heq)
    · have hne : Nat.toDigits 10 (m / 10) ≠ [] := Nat.toDigits_ne_nil
      rw [Nat.toDigits_of_base_le (by decide) (Nat.le_of_not_lt hsmall),
        List.head?_append_of_ne_nil _ hne]
      exact ih _ (Nat.div_lt_self (by omega) (by decide)) (by omega)

theorem readWhole?_toDigits (m : Nat) (hstop : Stops rest) :
    readWhole? (Nat.toDigits 10 m ++ rest) = some (Nat.toDigits 10 m, rest) := by
  have hrun : digitRun? (Nat.toDigits 10 m ++ rest) = some (Nat.toDigits 10 m, rest) := by
    refine digitRun?_append Nat.toDigits_ne_nil (fun c => isDigit_of_mem_toDigits) fun c hc => ?_
    obtain rfl | rfl | rfl := hstop c hc <;> rfl
  by_cases hm : m = 0
  · subst hm
    rfl
  · have hhead := head?_toDigits hm
    obtain ⟨c, cs, hdigits⟩ := List.exists_cons_of_ne_nil (Nat.toDigits_ne_nil (b := 10) (n := m))
    rw [hdigits] at hhead hrun ⊢
    rw [List.cons_append] at hrun ⊢
    rw [readWhole?, hrun]
    rintro tail heq
    exact hhead (congrArg some (List.cons.inj heq).1)

theorem natOf_toDigits (m : Nat) : natOf (Nat.toDigits 10 m) = m := by
  have h := ofDigits_toDigits m
  rwa [ofDigits, List.foldl_map] at h

theorem readUnsigned_toDigits (negative : Bool) (m : Nat) (hstop : Stops rest) :
    readUnsigned negative (Nat.toDigits 10 m ++ rest) =
      some (.int (if negative then -m else m), rest) := by
  have hwhole := readWhole?_toDigits m hstop
  have hend : readFraction rest = none ∧ readExponent rest = none := by
    cases rest with
    | nil => exact ⟨rfl, rfl⟩
    | cons c rest => obtain rfl | rfl | rfl := hstop c rfl <;> exact ⟨rfl, rfl⟩
  simp [readUnsigned, hwhole, hend.1, hend.2, natOf_toDigits]

/-- A text that starts with a digit is a number. -/
theorem readValue_digit (h : c.isDigit = true) (cs : List Char) :
    readValue lone (fuel + 1) (c :: cs) = readUnsigned false (c :: cs) := by
  have hspace : (c :: cs).dropWhile isSpace = c :: cs := by
    refine List.dropWhile_cons_of_neg fun hspace => ?_
    simp only [isSpace, Bool.or_eq_true, decide_eq_true_eq] at hspace
    obtain ((rfl | rfl) | rfl) | rfl := hspace <;> cases h
  have hne (d : Char) (hd : d.isDigit = false) (tail : List Char) : c :: cs ≠ d :: tail := by
    rintro heq
    cases hd.symm.trans ((List.cons.inj heq).1 ▸ h)
  -- no other kind of value starts with a digit
  rw [readValue, hspace]
  split <;> rename_i heq
  all_goals first | exact absurd heq (hne _ rfl _) | skip
  rw [readNumber]
  exact fun _ heq => hne _ rfl _ heq

/-- A text that starts with a minus sign and a digit is a negative number. -/
theorem readValue_minus (h : c.isDigit = true) (cs : List Char) :
    readValue lone (fuel + 1) ('-' :: c :: cs) = readUnsigned true (c :: cs) := by
  have hspace : ('-' :: c :: cs).dropWhile isSpace = '-' :: c :: cs := rfl
  rw [readValue, hspace]
  split <;> rename_i heq
  all_goals first | cases (List.cons.inj heq).1 | skip
  · obtain ⟨rfl, -⟩ := List.cons.inj (List.cons.inj heq).2
    cases h
  · rfl

theorem exists_toDigits (m : Nat) : ∃ c cs, Nat.toDigits 10 m = c :: cs ∧ c.isDigit = true := by
  obtain ⟨c, cs, h⟩ := List.exists_cons_of_ne_nil (Nat.toDigits_ne_nil (b := 10) (n := m))
  exact ⟨c, cs, h, isDigit_of_mem_toDigits (h ▸ List.mem_cons_self)⟩

theorem denotes_int (n : Int) : Denotes lone (write (.int n)) (.int n) := by
  rw [write]
  refine .intro (toString_ne_empty n) fun fuel rest _ hstop => ?_
  cases n with
  | ofNat m =>
    obtain ⟨c, cs, hdigits, hc⟩ := exists_toDigits m
    have hread := readUnsigned_toDigits false m hstop
    rw [toList_ofNat, hdigits, List.cons_append, readValue_digit hc]
    rwa [hdigits] at hread
  | negSucc m =>
    obtain ⟨c, cs, hdigits, hc⟩ := exists_toDigits (m + 1)
    have hread := readUnsigned_toDigits true (m + 1) hstop
    rw [toList_negSucc, hdigits, List.cons_append, List.cons_append, readValue_minus hc]
    rwa [hdigits] at hread

/-! ### Members -/

/-- Spaces before a value are skipped. -/
theorem readValue_dropWhile (fuel : Nat) (cs : List Char) :
    readValue lone fuel (cs.dropWhile isSpace) = readValue lone fuel cs := by
  cases fuel with
  | zero => rfl
  | succ fuel => rw [readValue, readValue, List.dropWhile_idempotent]

/-- Texts joined by commas, the first one apart. -/
theorem toList_intercalate_cons (first second : String) (texts : List String) :
    (", ".intercalate (first :: second :: texts)).toList =
      first.toList ++ ',' :: ' ' :: (", ".intercalate (second :: texts)).toList := by
  simp [String.toList_intercalate]

variable {texts : List String} {vs : List Json} {fields : List (String × Json)} {k : String}

theorem stops_comma (rest : List Char) : Stops (',' :: rest) := by simp [Stops]

theorem stops_bracket (rest : List Char) : Stops (']' :: rest) := by simp [Stops]

theorem stops_brace (rest : List Char) : Stops ('\x7d' :: rest) := by simp [Stops]

theorem readItems_dropWhile (fuel : Nat) (cs : List Char) :
    readItems lone fuel (cs.dropWhile isSpace) = readItems lone fuel cs := by
  cases fuel with
  | zero => rfl
  | succ fuel => rw [readItems, readItems, readValue_dropWhile]

theorem readItems_last (h : readValue lone fuel cs = some (v, ']' :: rest)) :
    readItems lone (fuel + 1) cs = some ([v], rest) := by
  rw [readItems, h]
  rfl

theorem readItems_next (h : readValue lone fuel cs = some (v, ',' :: ' ' :: cs'))
    (hrest : readItems lone fuel cs' = some (vs, rest)) :
    readItems lone (fuel + 1) cs = some (v :: vs, rest) := by
  have hspace : readItems lone fuel (' ' :: cs') = readItems lone fuel cs' := by
    rw [← readItems_dropWhile, List.dropWhile_cons_of_pos rfl, readItems_dropWhile]
  rw [← hspace] at hrest
  rw [readItems, h]
  change (readItems lone fuel (' ' :: cs')).bind _ = _
  rw [hrest]
  rfl

/-- Texts of values, joined by commas, are read as the members of a list. -/
theorem readItems_intercalate (h : List.Forall₂ (Denotes lone) texts vs) (hne : vs ≠ [])
    (hfuel : (", ".intercalate texts).toList.length < fuel) :
    readItems lone fuel ((", ".intercalate texts).toList ++ ']' :: rest) = some (vs, rest) := by
  induction h generalizing fuel with
  | nil => exact absurd rfl hne
  | @cons text v texts vs hfirst hrest ih =>
    obtain ⟨fuel, rfl⟩ : ∃ k, fuel = k + 1 := Nat.exists_eq_add_one.mpr (by omega)
    cases hrest with
    | nil =>
      rw [String.intercalate_singleton] at hfuel ⊢
      exact readItems_last (hfirst _ _ (Nat.le_of_lt_succ hfuel) (stops_bracket rest))
    | cons hsecond hrest =>
      rw [toList_intercalate_cons] at hfuel ⊢
      simp only [List.length_append, List.length_cons] at hfuel
      rw [List.append_assoc]
      exact readItems_next (hfirst _ _ (by omega) (stops_comma _)) (ih nofun (by omega))

/-- A list that is not empty is read member by member. No value starts with a closing bracket. -/
theorem readValue_bracket (h : readItems lone fuel cs = some (vs, rest)) :
    readValue lone (fuel + 1) ('[' :: cs) = some (.arr vs, rest) := by
  rw [← readItems_dropWhile] at h
  have hopen : ('[' :: cs).dropWhile isSpace = '[' :: cs := rfl
  simp only [readValue, hopen]
  split
  · rename_i heq
    rw [heq] at h
    obtain _ | _ | fuel := fuel <;> cases h
  · rw [h]
    rfl

theorem denotes_arr (h : List.Forall₂ (Denotes lone) texts vs) :
    Denotes lone ("[" ++ ", ".intercalate texts ++ "]") (.arr vs) := by
  have htext : ("[" ++ ", ".intercalate texts ++ "]").toList =
      '[' :: ((", ".intercalate texts).toList ++ [']']) := by simp
  refine .enclosed htext fun fuel rest hfuel => ?_
  cases h with
  | nil => rfl
  | cons hfirst hrest =>
    exact readValue_bracket (readItems_intercalate (.cons hfirst hrest) nofun hfuel)

/-! ### Fields -/

/-- A text that is read as a field of an object. -/
def DenotesField (lone : Nat → Char) (text : String) (field : String × Json) : Prop :=
  ∃ value, text = string field.1 ++ ": " ++ value ∧ Denotes lone value field.2

theorem readFields_dropWhile (fuel : Nat) (cs : List Char) :
    readFields lone fuel (cs.dropWhile isSpace) = readFields lone fuel cs := by
  cases fuel with
  | zero => rfl
  | succ fuel => rw [readFields, readFields, List.dropWhile_idempotent]

theorem toList_string (s : String) :
    (string s).toList = '"' :: ((points s).flatMap escapePoint ++ ['"']) := by
  rw [← pointString_points, toList_pointString]

/-- A name has been read, and the value follows. -/
theorem readFields_name (k : String) (fuel : Nat) (cs : List Char) :
    readFields lone (fuel + 1) ((string k).toList ++ ':' :: cs) =
      (readValue lone fuel cs).bind fun p => match p.2.dropWhile isSpace with
        | ',' :: rest => (readFields lone fuel rest).bind fun q => some ((k, p.1) :: q.1, q.2)
        | '\x7d' :: rest => some ([(k, p.1)], rest)
        | _ => none := by
  have hname : readString lone ((points k).flatMap escapePoint ++ '"' :: ':' :: cs) =
      some (k, ':' :: cs) := by rw [readString_pointString, decoded_points]
  rw [toList_string, List.cons_append, List.append_assoc, List.singleton_append]
  change (readString lone _).bind _ = _
  rw [hname]
  rfl

theorem readFields_last (h : readValue lone fuel cs = some (v, '\x7d' :: rest)) :
    readFields lone (fuel + 1) ((string k).toList ++ ':' :: cs) = some ([(k, v)], rest) := by
  rw [readFields_name, h]
  rfl

theorem readFields_next (h : readValue lone fuel cs = some (v, ',' :: ' ' :: cs'))
    (hrest : readFields lone fuel cs' = some (fields, rest)) :
    readFields lone (fuel + 1) ((string k).toList ++ ':' :: cs) =
      some ((k, v) :: fields, rest) := by
  have hspace : readFields lone fuel (' ' :: cs') = readFields lone fuel cs' := by
    rw [← readFields_dropWhile, List.dropWhile_cons_of_pos rfl, readFields_dropWhile]
  rw [← hspace] at hrest
  rw [readFields_name, h]
  change (readFields lone fuel (' ' :: cs')).bind _ = _
  rw [hrest]
  rfl

theorem readValue_space (fuel : Nat) (cs : List Char) :
    readValue lone fuel (' ' :: cs) = readValue lone fuel cs := by
  rw [← readValue_dropWhile, List.dropWhile_cons_of_pos rfl, readValue_dropWhile]

/-- Texts of fields, joined by commas, are read as the fields of an object. -/
theorem readFields_intercalate (h : List.Forall₂ (DenotesField lone) texts fields)
    (hne : fields ≠ [])
    (hfuel : (", ".intercalate texts).toList.length < fuel) :
    readFields lone fuel ((", ".intercalate texts).toList ++ '\x7d' :: rest) =
      some (fields, rest) := by
  induction h generalizing fuel with
  | nil => exact absurd rfl hne
  | @cons text field texts fields hfirst hrest ih =>
    obtain ⟨fuel, rfl⟩ : ∃ k, fuel = k + 1 := Nat.exists_eq_add_one.mpr (by omega)
    obtain ⟨value, rfl, hvalue⟩ := hfirst
    have htext (tail : List Char) : (string field.1 ++ ": " ++ value).toList ++ tail =
        (string field.1).toList ++ ':' :: ' ' :: (value.toList ++ tail) := by simp
    have hlength : value.toList.length ≤ (string field.1 ++ ": " ++ value).toList.length := by
      simp
      omega
    cases hrest with
    | nil =>
      rw [String.intercalate_singleton] at hfuel ⊢
      rw [htext]
      refine readFields_last ?_
      rw [readValue_space]
      exact hvalue _ _ (by omega) (stops_brace rest)
    | cons hsecond hrest =>
      rw [toList_intercalate_cons] at hfuel ⊢
      simp only [List.length_append, List.length_cons] at hfuel
      rw [List.append_assoc, htext]
      refine readFields_next ?_ (ih nofun (by omega))
      rw [readValue_space]
      exact hvalue _ _ (by omega) (stops_comma _)

/-- An object that is not empty is read field by field. No name starts with a closing brace. -/
theorem readValue_brace (h : readFields lone fuel cs = some (fields, rest)) :
    readValue lone (fuel + 1) ('\x7b' :: cs) = some (.obj (Assoc.ofList fields), rest) := by
  rw [← readFields_dropWhile] at h
  have hopen : ('\x7b' :: cs).dropWhile isSpace = '\x7b' :: cs := rfl
  simp only [readValue, hopen]
  split
  · rename_i heq
    rw [heq] at h
    cases fuel <;> cases h
  · rw [h]
    rfl

theorem denotes_obj (h : List.Forall₂ (DenotesField lone) texts fields)
    (hkeys : (fields.map (·.1)).Nodup) :
    Denotes lone ("\x7b" ++ ", ".intercalate texts ++ "\x7d") (.obj fields) := by
  have htext : ("\x7b" ++ ", ".intercalate texts ++ "\x7d").toList =
      '\x7b' :: ((", ".intercalate texts).toList ++ ['\x7d']) := by simp
  refine .enclosed htext fun fuel rest hfuel => ?_
  cases h with
  | nil => rfl
  | cons hfirst hrest =>
    rw [← Assoc.ofList_eq_self hkeys]
    exact readValue_brace (readFields_intercalate (.cons hfirst hrest) nofun hfuel)

/-- The text of an object is read as the object if the texts of its values are read as these. -/
theorem denotes_object {α : Type} {xs : List (String × α)} {write : α → String} {read : α → Json}
    (hkeys : (xs.map (·.1)).Nodup) (h : ∀ x ∈ xs, Denotes lone (write x.2) (read x.2)) :
    Denotes lone (object (xs.map fun x => (x.1, write x.2)))
      (.obj (xs.map fun x => (x.1, read x.2))) := by
  rw [object, List.map_map]
  refine denotes_obj ?_ (by rwa [List.map_map])
  rw [List.forall₂_map_left_iff, List.forall₂_map_right_iff, List.forall₂_same]
  exact fun x hx => ⟨write x.2, rfl, h x hx⟩

/-! ## Values without fractions -/

/-- A value without fractions, in which the fields of each object have different names. -/
inductive Plain : Json → Prop
  | null : Plain .null
  | bool (b : Bool) : Plain (.bool b)
  | int (n : Int) : Plain (.int n)
  | str (s : String) : Plain (.str s)
  | arr {items : List Json} (h : ∀ v ∈ items, Plain v) : Plain (.arr items)
  | obj {fields : List (String × Json)} (hkeys : (fields.map (·.1)).Nodup)
    (h : ∀ p ∈ fields, Plain p.2) : Plain (.obj fields)

theorem writeItems_eq_map (items : List Json) : writeItems items = items.map write := by
  induction items with
  | nil => rfl
  | cons v items ih => rw [writeItems, ih, List.map_cons]

theorem writeFields_eq_map (fields : List (String × Json)) :
    writeFields fields = fields.map fun p => string p.1 ++ ": " ++ write p.2 := by
  induction fields with
  | nil => rfl
  | cons p fields ih => rw [writeFields, ih, List.map_cons]

theorem denotesField_writeFields (h : ∀ p ∈ fields, Denotes lone (write p.2) p.2) :
    List.Forall₂ (DenotesField lone) (writeFields fields) fields := by
  rw [writeFields_eq_map, List.forall₂_map_left_iff, List.forall₂_same]
  exact fun p hp => ⟨write p.2, rfl, h p hp⟩

/-- **What is written for a value is read as that value.** -/
theorem denotes_write (h : v.Plain) : Denotes lone (write v) v := by
  induction h with
  | null => exact denotes_null
  | bool b => exact denotes_bool b
  | int n => exact denotes_int n
  | str s =>
    have h : Denotes lone _ _ := denotes_pointString (points s)
    rwa [pointString_points, decoded_points] at h
  | arr _ ih =>
    rw [write, writeItems_eq_map]
    exact denotes_arr (List.forall₂_map_left_iff.mpr (List.forall₂_same.mpr ih))
  | obj hkeys _ ih =>
    rw [write]
    exact denotes_obj (denotesField_writeFields ih) hkeys

end TableDiscovery.Json
