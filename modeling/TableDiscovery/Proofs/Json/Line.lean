import TableDiscovery.Proofs.Json.Reading

/-!
# JSON texts are lines in ASCII

What is written for a value holds printable characters of ASCII only, so that no string in it can
end the line.

* `IsLine`, `isLine_pointString`: texts of printable characters, and strings among them;
* **`isLine_write`**: what is written for a value without fractions.
-/

namespace TableDiscovery.Json

open Text

variable {cs cs' : List Char} {n : Nat} {v : Json}

/-- Printable characters of ASCII. -/
def IsLine (cs : List Char) : Prop := ∀ c ∈ cs, 0x20 ≤ c.toNat ∧ c.toNat < 0x7f

instance (cs : List Char) : Decidable (IsLine cs) := List.decidableBAll _ cs

theorem IsLine.append (h : IsLine cs) (h' : IsLine cs') : IsLine (cs ++ cs') :=
  List.forall_mem_append.mpr ⟨h, h'⟩

theorem IsLine.flatMap {α : Type} {xs : List α} {f : α → List Char} (h : ∀ x ∈ xs, IsLine (f x)) :
    IsLine (xs.flatMap f) := by
  intro c hc
  obtain ⟨x, hx, hc⟩ := List.mem_flatMap.mp hc
  exact h x hx c hc

/-- No line break and nothing beyond ASCII. -/
theorem IsLine.ascii {text : String} (h : IsLine text.toList) :
    ∀ c ∈ text.toList, c ≠ '\n' ∧ c.toNat < 0x80 := by
  intro c hc
  obtain ⟨hlow, hhigh⟩ := h c hc
  refine ⟨?_, by omega⟩
  rintro rfl
  exact absurd hlow (by decide)

theorem isLine_escapeUnit (h : n < 0x10000) : IsLine (escapeUnit n) := by
  have hdigit : ∀ d < 16, 0x20 ≤ (Nat.digitChar d).toNat ∧ (Nat.digitChar d).toNat < 0x7f := by
    decide
  rw [escapeUnit, hexDigits_four h]
  simp only [IsLine, List.forall_mem_cons]
  exact ⟨by decide, by decide, hdigit _ (by omega), hdigit _ (by omega), hdigit _ (by omega),
    hdigit _ (by omega), List.forall_mem_nil _⟩

theorem units16_lt (c : Char) : ∀ n ∈ units16 c, n < 0x10000 := by
  have hvalid : c.toNat < 0x110000 := (CodePoint.ofChar c).isLt
  rw [units16]
  split
  · simpa using ‹_›
  · simp
    omega

theorem isLine_escapeChar (c : Char) : IsLine (escapeChar c) := by
  have hletters : ∀ p ∈ letters, IsLine ['\\', p.1] := by decide
  obtain ⟨e, hletter, heq⟩ | ⟨-, -, hfirst, hlast, heq⟩ | heq := escapeChar_cases c
  · exact heq ▸ hletters _ hletter
  · rw [heq]
    exact fun d hd => List.mem_singleton.mp hd ▸ ⟨hfirst, hlast⟩
  · rw [heq]
    exact .flatMap fun n hn => isLine_escapeUnit (units16_lt c n hn)

theorem isLine_escapePoint (p : CodePoint) : IsLine (escapePoint p) := by
  rw [escapePoint]
  cases hchar : p.char? with
  | some c => exact isLine_escapeChar c
  | none =>
    have hsurrogate := surrogate_of_char?_eq_none hchar
    exact isLine_escapeUnit (by omega)

theorem isLine_pointString (ps : List CodePoint) : IsLine (pointString ps).toList := by
  have hpoints : IsLine (ps.flatMap escapePoint) := .flatMap fun p _ => isLine_escapePoint p
  have hquote : IsLine ['"'] := by decide
  rw [toList_pointString]
  exact hquote.append (hpoints.append hquote)

theorem isLine_string (s : String) : IsLine (string s).toList := by
  rw [← pointString_points]
  exact isLine_pointString (points s)

theorem isLine_toString (n : Int) : IsLine (toString n).toList := by
  intro c hc
  obtain rfl | hdigit := eq_minus_or_isDigit hc
  · decide
  · obtain ⟨hzero, hnine⟩ := Char.isDigit_iff_toNat.mp hdigit
    change 0x30 ≤ c.toNat at hzero
    change c.toNat ≤ 0x39 at hnine
    omega

theorem isLine_intercalate {texts : List String} (h : ∀ text ∈ texts, IsLine text.toList) :
    IsLine (", ".intercalate texts).toList := by
  induction texts with
  | nil => exact nofun
  | cons first texts ih =>
    obtain ⟨hfirst, htexts⟩ := List.forall_mem_cons.mp h
    cases texts with
    | nil => rwa [String.intercalate_singleton]
    | cons second texts =>
      have hcomma : IsLine [',', ' '] := by decide
      rw [toList_intercalate_cons]
      exact hfirst.append (hcomma.append (ih htexts))

/-- Texts between brackets. -/
theorem isLine_enclosed {texts : List String} {first last : String}
    (hfirst : IsLine first.toList) (hlast : IsLine last.toList)
    (h : ∀ text ∈ texts, IsLine text.toList) :
    IsLine (first ++ ", ".intercalate texts ++ last).toList := by
  rw [String.toList_append, String.toList_append]
  exact (hfirst.append (isLine_intercalate h)).append hlast

theorem isLine_field {name value : String} (h : IsLine value.toList) :
    IsLine (string name ++ ": " ++ value).toList := by
  rw [String.toList_append, String.toList_append]
  exact ((isLine_string name).append (by decide)).append h

theorem isLine_object {fields : List (String × String)} (h : ∀ p ∈ fields, IsLine p.2.toList) :
    IsLine (object fields).toList :=
  isLine_enclosed (by decide) (by decide)
    (List.forall_mem_map.mpr fun p hp => isLine_field (h p hp))

theorem isLine_writeFields {fields : List (String × Json)}
    (h : ∀ p ∈ fields, IsLine (write p.2).toList) :
    ∀ text ∈ writeFields fields, IsLine text.toList := by
  rw [writeFields_eq_map]
  exact List.forall_mem_map.mpr fun p hp => isLine_field (h p hp)

/-- **What is written for a value is one line of ASCII.** -/
theorem isLine_write (h : v.Plain) : IsLine (write v).toList := by
  induction h with
  | null =>
    rw [write]
    decide
  | bool b =>
    rw [write]
    cases b <;> decide
  | int n =>
    rw [write]
    exact isLine_toString n
  | str s =>
    rw [write]
    exact isLine_string s
  | arr _ ih =>
    rw [write, writeItems_eq_map]
    exact isLine_enclosed (by decide) (by decide) (List.forall_mem_map.mpr ih)
  | obj _ _ ih =>
    rw [write]
    exact isLine_enclosed (by decide) (by decide) (isLine_writeFields ih)

end TableDiscovery.Json
