import Mathlib.Data.List.TakeWhile
import TableDiscovery.Text.Blank
import TableDiscovery.Text.Replace

/-!
# Blank texts

Whether a text is blank, and whether one of its parts between separators is not, depends only on the
characters that it holds. So it makes no difference whether blanks at the ends are left out before.

* `mem_trimWhile`: trimming keeps all other characters;
* `strip_eq_empty_iff`, `strip_ne_empty_iff`: blank texts;
* `strip_eq_self`, `strip_strip`: texts without blanks at their ends;
* `mem_pieces_iff`: the characters of the parts of a text;
* **`exists_piece_iff`**, `exists_piece_strip_iff`: whether a part is not blank.
-/

namespace TableDiscovery.Text

variable {c d : Char} {cs : List Char} {s : String}

/-! ## Trimming -/

theorem mem_dropWhile {p : Char → Bool} (h : p c = false) : c ∈ cs.dropWhile p ↔ c ∈ cs := by
  induction cs with
  | nil => rfl
  | cons d cs ih =>
    rw [List.dropWhile_cons]
    split
    · rename_i hd
      have hne : c ≠ d := by
        rintro rfl
        simp [h] at hd
      rw [ih, List.mem_cons, or_iff_right hne]
    · rfl

/-- What is not trimmed away at the ends is kept. -/
theorem mem_trimWhile {p : Char → Bool} (h : p c = false) : c ∈ trimWhile p cs ↔ c ∈ cs := by
  rw [trimWhile, List.mem_reverse, mem_dropWhile h, List.mem_reverse, mem_dropWhile h]

theorem mem_strip (h : isBlank c = false) : c ∈ (strip s).toList ↔ c ∈ s.toList := by
  rw [strip, String.toList_ofList]
  exact mem_trimWhile h

/-- **Nothing remains of a text without its blanks at the ends if it holds nothing else.** -/
theorem strip_eq_empty_iff : strip s = "" ↔ ∀ c ∈ s.toList, isBlank c = true := by
  constructor
  · intro h c hc
    by_contra hblank
    have hmem := (mem_strip (Bool.eq_false_iff.mpr hblank)).mpr hc
    rw [h] at hmem
    cases hmem
  · intro h
    rw [strip, trim, trimWhile, List.dropWhile_eq_nil_iff.mpr h]
    rfl

theorem strip_ne_empty_iff : strip s ≠ "" ↔ ∃ c ∈ s.toList, isBlank c = false := by
  rw [Ne, strip_eq_empty_iff]
  simp

/-- What is dropped at the ends fails to begin or end the rest. -/
theorem trimWhile_append (p : Char → Bool) (cs : List Char) :
    ∃ front back, cs = front ++ trimWhile p cs ++ back ∧ ∀ c ∈ front ++ back, p c = true := by
  refine ⟨cs.takeWhile p, ((cs.dropWhile p).reverse.takeWhile p).reverse, ?_, fun c hc => ?_⟩
  · rw [trimWhile, List.append_assoc, ← List.reverse_append, List.takeWhile_append_dropWhile,
      List.reverse_reverse, List.takeWhile_append_dropWhile]
  · rcases List.mem_append.mp hc with hc | hc
    · exact List.mem_takeWhile_imp hc
    · exact List.mem_takeWhile_imp (List.mem_reverse.mp hc)

theorem strip_empty : strip "" = "" := strip_eq_empty_iff.mpr nofun

/-- A text that neither begins nor ends with a blank has none at its ends. -/
theorem trimWhile_eq_self {p : Char → Bool} (hfirst : ∀ c, cs.head? = some c → p c = false)
    (hlast : ∀ c, cs.getLast? = some c → p c = false) : trimWhile p cs = cs := by
  have hdrop {ds : List Char} (h : ∀ c, ds.head? = some c → p c = false) : ds.dropWhile p = ds := by
    cases ds with
    | nil => rfl
    | cons d ds => exact List.dropWhile_cons_of_neg (by simp [h d rfl])
  rw [trimWhile, hdrop hfirst, hdrop (by simpa only [List.head?_reverse] using hlast),
    List.reverse_reverse]

theorem strip_eq_self (hfirst : ∀ c, s.toList.head? = some c → isBlank c = false)
    (hlast : ∀ c, s.toList.getLast? = some c → isBlank c = false) : strip s = s := by
  rw [strip, trim, trimWhile_eq_self hfirst hlast, String.ofList_toList]

theorem head?_trimWhile {p : Char → Bool} (h : (trimWhile p cs).head? = some c) : p c = false := by
  obtain ⟨tail, htail⟩ : trimWhile p cs <+: cs.dropWhile p := by
    rw [← List.reverse_suffix, trimWhile, List.reverse_reverse]
    exact List.dropWhile_suffix p
  have hhead : (cs.dropWhile p).head? = some c := by
    rw [← htail, List.head?_append, h, Option.some_or]
  simpa [hhead] using List.head?_dropWhile_not p cs

theorem getLast?_trimWhile {p : Char → Bool} (h : (trimWhile p cs).getLast? = some c) :
    p c = false := by
  rw [trimWhile, List.getLast?_reverse] at h
  simpa [h] using List.head?_dropWhile_not p (cs.dropWhile p).reverse

/-- **Nothing is left to trim of a trimmed text.** -/
theorem strip_strip (s : String) : strip (strip s) = strip s := by
  have htrim : (strip s).toList = trimWhile isBlank s.toList := String.toList_ofList ..
  refine strip_eq_self (fun c hc => ?_) (fun c hc => ?_)
  · exact head?_trimWhile (htrim ▸ hc)
  · exact getLast?_trimWhile (htrim ▸ hc)

/-! ## Parts between separators -/

/-- The parts of a text hold its characters but for the separators. -/
theorem mem_pieces_iff : (∃ part ∈ pieces c cs, d ∈ part) ↔ d ∈ cs ∧ d ≠ c := by
  induction cs with
  | nil => simp [pieces]
  | cons e cs ih =>
    rw [pieces]
    split
    · rename_i he
      subst he
      have hnone : (∃ part ∈ [] :: pieces e cs, d ∈ part) ↔ ∃ part ∈ pieces e cs, d ∈ part := by
        simp
      rw [hnone, ih, List.mem_cons]
      constructor
      · rintro ⟨hd, hne⟩
        exact ⟨.inr hd, hne⟩
      · rintro ⟨hd, hne⟩
        exact ⟨hd.resolve_left hne, hne⟩
    · rename_i he
      have hfirst : d = e → d ≠ c := fun hd => hd ▸ he
      cases hps : pieces c cs with
      | nil =>
        rw [hps] at ih
        simp only [List.not_mem_nil, false_and, exists_false, false_iff, not_and] at ih
        simp only [List.mem_cons, List.not_mem_nil, or_false, exists_eq_left]
        constructor
        · intro hd
          exact ⟨.inl hd, hfirst hd⟩
        · rintro ⟨rfl | hd, hne⟩
          · rfl
          · exact absurd hne (ih hd)
      | cons part parts =>
        rw [hps] at ih
        simp only [List.mem_cons, exists_eq_or_imp] at ih ⊢
        constructor
        · rintro ((hd | hd) | hd)
          · exact ⟨.inl hd, hfirst hd⟩
          · exact ⟨.inr (ih.mp (.inl hd)).1, (ih.mp (.inl hd)).2⟩
          · exact ⟨.inr (ih.mp (.inr hd)).1, (ih.mp (.inr hd)).2⟩
        · rintro ⟨hd | hd, hne⟩
          · exact .inl (.inl hd)
          · rcases ih.mpr ⟨hd, hne⟩ with hpart | hparts
            · exact .inl (.inr hpart)
            · exact .inr hparts

/-- **A part of a text is not blank if the text holds a character that is neither a separator nor
blank.** -/
theorem exists_piece_iff : (∃ part ∈ split c s, strip part ≠ "") ↔
    ∃ d ∈ s.toList, d ≠ c ∧ isBlank d = false := by
  simp only [split, List.mem_map, strip_ne_empty_iff]
  constructor
  · rintro ⟨-, ⟨cs, hcs, rfl⟩, d, hd, hblank⟩
    rw [String.toList_ofList] at hd
    obtain ⟨hmem, hne⟩ := mem_pieces_iff.mp ⟨cs, hcs, hd⟩
    exact ⟨d, hmem, hne, hblank⟩
  · rintro ⟨d, hmem, hne, hblank⟩
    obtain ⟨cs, hcs, hd⟩ := mem_pieces_iff.mpr ⟨hmem, hne⟩
    exact ⟨_, ⟨cs, hcs, rfl⟩, d, by rwa [String.toList_ofList], hblank⟩

/-- Blanks at the ends of the whole text make no difference. -/
theorem exists_piece_strip_iff :
    (∃ part ∈ split c (strip s), strip part ≠ "") ↔ ∃ part ∈ split c s, strip part ≠ "" := by
  rw [exists_piece_iff, exists_piece_iff]
  constructor
  · rintro ⟨d, hd, hne, hblank⟩
    exact ⟨d, (mem_strip hblank).mp hd, hne, hblank⟩
  · rintro ⟨d, hd, hne, hblank⟩
    exact ⟨d, (mem_strip hblank).mpr hd, hne, hblank⟩

end TableDiscovery.Text
