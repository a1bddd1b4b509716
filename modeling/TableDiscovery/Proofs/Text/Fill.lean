import Mathlib.Logic.Basic
import TableDiscovery.Text.Replace

/-!
# Marks filled in with values

A text with marks is read from the left: each mark takes the value whose turn it is. What a text
with its marks filled in reads is put together from its parts.

* `Text.occurrences`: how often a mark occurs;
* `Text.fill`: the text with a value for each mark;
* **`occurrences_of_fill`**: a text that can be filled has as many marks as there are values;
* `Text.Fills`: the values for the marks of a part, whatever follows;
* `Fills.append`, `Fills.plain`, `Fills.single`: parts one after another, a part without marks, and
  a mark.
-/

namespace TableDiscovery.Text

/-- The number of occurrences of a mark from the left, the first `skip` characters left out. -/
def occurrencesFrom (mark : List Char) : Nat → List Char → Nat
  | _, [] => 0
  | skip + 1, _ :: rest => occurrencesFrom mark skip rest
  | 0, c :: rest =>
    if mark.isPrefixOf (c :: rest) then occurrencesFrom mark (mark.length - 1) rest + 1
    else occurrencesFrom mark 0 rest

/-- Each occurrence of a mark, from the left, replaced by the value whose turn it is, if there are
as many values as occurrences. The first `skip` characters are left out. -/
def fillFrom (mark : List Char) : Nat → List (List Char) → List Char → Option (List Char)
  | _, values, [] => if values = [] then some [] else none
  | skip + 1, values, _ :: rest => fillFrom mark skip values rest
  | 0, values, c :: rest =>
    if mark.isPrefixOf (c :: rest) then
      match values with
      | [] => none
      | value :: values => (fillFrom mark (mark.length - 1) values rest).map (value ++ ·)
    else (fillFrom mark 0 values rest).map (c :: ·)

/-- The number of occurrences of a mark in a text. -/
def occurrences (mark text : String) : Nat := occurrencesFrom mark.toList 0 text.toList

/-- The text with each occurrence of a mark replaced by the value whose turn it is, if there are as
many values as occurrences. -/
def fill (mark : String) (values : List String) (text : String) : Option String :=
  (fillFrom mark.toList 0 (values.map String.toList) text.toList).map String.ofList

/-! ## One step -/

theorem fillFrom_of_isPrefixOf {mark rest value : List Char} {c : Char} {values : List (List Char)}
    (h : mark.isPrefixOf (c :: rest) = true) :
    fillFrom mark 0 (value :: values) (c :: rest) =
      (fillFrom mark (mark.length - 1) values rest).map (value ++ ·) := by
  rw [fillFrom.eq_def]
  exact if_pos h

theorem fillFrom_of_not_isPrefixOf {mark rest : List Char} {c : Char} {values : List (List Char)}
    (h : ¬ mark.isPrefixOf (c :: rest) = true) :
    fillFrom mark 0 values (c :: rest) = (fillFrom mark 0 values rest).map (c :: ·) := by
  rw [fillFrom.eq_def]
  exact if_neg h

theorem fillFrom_skip {mark front rest : List Char} {values : List (List Char)} :
    fillFrom mark front.length values (front ++ rest) = fillFrom mark 0 values rest := by
  induction front with
  | nil => rfl
  | cons c front ih => exact ih

theorem occurrencesFrom_of_fillFrom {mark : List Char} {skip : Nat} {values : List (List Char)}
    {text filled : List Char} (h : fillFrom mark skip values text = some filled) :
    occurrencesFrom mark skip text = values.length := by
  fun_induction fillFrom mark skip values text generalizing filled with
  | case1 => simp_all [occurrencesFrom]
  | case2 => cases h
  | case3 skip values c rest ih => exact ih h
  | case4 c rest hmark => cases h
  | case5 c rest hmark value values ih =>
    obtain ⟨tail, htail, -⟩ := Option.map_eq_some_iff.mp h
    rw [occurrencesFrom, if_pos hmark, ih htail, List.length_cons]
  | case6 values c rest hmark ih =>
    obtain ⟨tail, htail, -⟩ := Option.map_eq_some_iff.mp h
    rw [occurrencesFrom, if_neg hmark, ih htail]

theorem occurrences_of_fill {mark text filled : String} {values : List String}
    (h : fill mark values text = some filled) : occurrences mark text = values.length := by
  obtain ⟨cs, hcs, -⟩ := Option.map_eq_some_iff.mp h
  rw [occurrences, occurrencesFrom_of_fillFrom hcs, List.length_map]

/-! ## Parts -/

/-- The values are just those for the marks in the text, with which it reads `filled`, whatever
follows. -/
def Fills (mark text : String) (values : List String) (filled : String) : Prop :=
  ∀ others rest, fillFrom mark.toList 0 (values.map String.toList ++ others) (text.toList ++ rest) =
    (fillFrom mark.toList 0 others rest).map (filled.toList ++ ·)

namespace Fills

variable {mark text text' filled filled' value : String} {values values' : List String}

theorem append (h : Fills mark text values filled) (h' : Fills mark text' values' filled') :
    Fills mark (text ++ text') (values ++ values') (filled ++ filled') := by
  intro others rest
  rw [List.map_append, String.toList_append, List.append_assoc, List.append_assoc, h, h',
    Option.map_map, String.toList_append]
  exact congrArg (Option.map · _) (funext fun cs => (List.append_assoc ..).symm)

/-- A text in which a mark cannot begin. -/
theorem plain (c : Char) (cs : List Char) (hmark : mark.toList = c :: cs)
    (h : c ∉ text.toList) : Fills mark text [] text := by
  intro others rest
  rw [List.map_nil, List.nil_append, hmark]
  generalize text.toList = ds at h
  induction ds with
  | nil => simp
  | cons d ds ih =>
    obtain ⟨hd, hds⟩ := not_or.mp (List.mem_cons.not.mp h)
    have hfirst : ¬ (c :: cs).isPrefixOf (d :: (ds ++ rest)) = true := by simp [hd]
    rw [List.cons_append, fillFrom_of_not_isPrefixOf hfirst, ih hds, Option.map_map]
    rfl

theorem single (c : Char) (cs : List Char) (hmark : mark.toList = c :: cs) :
    Fills mark mark [value] value := by
  intro others rest
  have hprefix : (c :: cs).isPrefixOf (c :: (cs ++ rest)) = true :=
    List.isPrefixOf_iff_prefix.mpr (List.prefix_append (c :: cs) rest)
  rw [hmark, List.cons_append, List.map_singleton, List.singleton_append,
    fillFrom_of_isPrefixOf hprefix]
  exact congrArg _ fillFrom_skip

theorem eq_some (h : Fills mark text values filled) : fill mark values text = some filled := by
  have := h [] []
  rw [List.append_nil, List.append_nil] at this
  rw [fill, this]
  simp [fillFrom]

end Fills

end TableDiscovery.Text
