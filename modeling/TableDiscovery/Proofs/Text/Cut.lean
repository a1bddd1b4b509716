import Mathlib.Logic.Basic
import TableDiscovery.Text.Replace

/-!
# Joined and cut texts

A text that was joined at a character is cut there again, if the character does not come before it,
or after it for the last cut.

* `mem_intercalate`, `mem_intercalate_iff`: the members of joined lists;
* `pieces_of_notMem`, `pieces_append`: the parts of a text that is joined;
* `cut?_append`, `cutLast?_append`: its first and its last cut.
-/

namespace TableDiscovery.Text

/-! ## Joined lists -/

section Joined

variable {α : Type} {c : α} {separator part : List α} {parts : List (List α)}

/-- Whatever is between the separators stays. -/
theorem mem_intercalate (hpart : part ∈ parts) (hc : c ∈ part) :
    c ∈ separator.intercalate parts := by
  induction parts with
  | nil => cases hpart
  | cons first parts ih =>
    cases parts with
    | nil =>
      obtain rfl := List.mem_singleton.mp hpart
      rwa [List.intercalate_singleton]
    | cons next parts =>
      rw [List.intercalate_cons_cons, List.append_assoc]
      obtain rfl | hpart := List.mem_cons.mp hpart
      · exact List.mem_append_left _ hc
      · exact List.mem_append_right _ (List.mem_append_right _ (ih hpart))

theorem mem_intercalate_iff (hc : c ∉ separator) :
    c ∈ separator.intercalate parts ↔ ∃ part ∈ parts, c ∈ part := by
  refine ⟨fun h => ?_, fun ⟨part, hpart, hmem⟩ => mem_intercalate hpart hmem⟩
  induction parts with
  | nil => cases h
  | cons first parts ih =>
    cases parts with
    | nil =>
      rw [List.intercalate_singleton] at h
      exact ⟨first, List.mem_cons_self, h⟩
    | cons next parts =>
      rw [List.intercalate_cons_cons, List.append_assoc, List.mem_append, List.mem_append] at h
      obtain h | h | h := h
      · exact ⟨first, List.mem_cons_self, h⟩
      · exact absurd h hc
      · obtain ⟨part, hpart, hmem⟩ := ih h
        exact ⟨part, List.mem_cons_of_mem _ hpart, hmem⟩

end Joined

variable {c : Char} {cs front back : List Char}

/-! ## Parts between separators -/

theorem pieces_of_notMem (h : c ∉ cs) : pieces c cs = [cs] := by
  induction cs with
  | nil => rfl
  | cons d cs ih =>
    obtain ⟨hd, hcs⟩ := not_or.mp (List.mem_cons.not.mp h)
    simp [pieces, Ne.symm hd, ih hcs]

theorem pieces_ne_nil (c : Char) (cs : List Char) : pieces c cs ≠ [] := by
  cases cs with
  | nil => nofun
  | cons d cs =>
    rw [pieces]
    split
    · nofun
    · split <;> nofun

/-- A text that is joined at the separator has the parts of both sides. -/
theorem pieces_append (front back : List Char) :
    pieces c (front ++ c :: back) = pieces c front ++ pieces c back := by
  induction front with
  | nil => simp [pieces]
  | cons d front ih =>
    rw [List.cons_append, pieces, ih, pieces]
    split
    · rfl
    · obtain ⟨part, parts, hparts⟩ := List.exists_cons_of_ne_nil (pieces_ne_nil c front)
      rw [hparts]
      rfl

/-! ## First and last cut -/

theorem cut?_of_notMem (h : c ∉ cs) : cut? c cs = none := by
  induction cs with
  | nil => rfl
  | cons d cs ih =>
    obtain ⟨hd, hcs⟩ := not_or.mp (List.mem_cons.not.mp h)
    simp [cut?, Ne.symm hd, ih hcs]

theorem cut?_append (h : c ∉ front) : cut? c (front ++ c :: back) = some (front, back) := by
  induction front with
  | nil => simp [cut?]
  | cons d front ih =>
    obtain ⟨hd, hfront⟩ := not_or.mp (List.mem_cons.not.mp h)
    simp [cut?, Ne.symm hd, ih hfront]

theorem cutLast?_of_notMem (h : c ∉ cs) : cutLast? c cs = none := by
  rw [cutLast?, cut?_of_notMem (by simpa using h)]
  rfl

theorem cutLast?_append (h : c ∉ back) : cutLast? c (front ++ c :: back) = some (front, back) := by
  rw [cutLast?, List.reverse_append, List.reverse_cons, List.append_assoc, List.singleton_append,
    cut?_append (by simpa using h)]
  simp

end TableDiscovery.Text
