import TableDiscovery.Json.Writer
import TableDiscovery.Proofs.Text.Integer

/-!
# Values that can be written

A value has a text if its integers are short and its levels fit in the room for them.

* `Json.Fits`: the values that can be written with room for some levels;
* **`obstacle?_eq_none_iff`**: nothing keeps these values from being written, and no others can be
  written;
* `Json.shown`, `display?_eq_ok`: what they are shown as on their own.
-/

namespace TableDiscovery.Json

variable {w : Writing} {room : Nat} {v : Json} {items : List Json} {fields : List (String × Json)}

/-- The integers of a value are short, and its levels fit in the room. -/
inductive Fits (w : Writing) : Nat → Json → Prop
  | null {room : Nat} (h : w.countsLeaves = true → room ≠ 0) : Fits w room .null
  | bool {room : Nat} {b : Bool} (h : w.countsLeaves = true → room ≠ 0) : Fits w room (.bool b)
  | int {room : Nat} {n : Int} (h : w.countsLeaves = true → room ≠ 0)
    (hshort : n.natAbs < Nat.pow 10 Text.maxDigits) : Fits w room (.int n)
  | float {room : Nat} {x : Float} (h : w.countsLeaves = true → room ≠ 0) : Fits w room (.float x)
  | str {room : Nat} {s : String} (h : w.countsLeaves = true → room ≠ 0) : Fits w room (.str s)
  | arr {room : Nat} {items : List Json} (h : ∀ v ∈ items, Fits w room v) :
    Fits w (room + 1) (.arr items)
  | obj {room : Nat} {fields : List (String × Json)} (h : ∀ p ∈ fields, Fits w room p.2) :
    Fits w (room + 1) (.obj fields)

theorem itemsObstacle?_eq_none_iff :
    itemsObstacle? w room items = none ↔ ∀ v ∈ items, obstacle? w room v = none := by
  induction items with
  | nil => simp [itemsObstacle?]
  | cons v items ih => simp [itemsObstacle?, ih]

theorem fieldsObstacle?_eq_none_iff :
    fieldsObstacle? w room fields = none ↔ ∀ p ∈ fields, obstacle? w room p.2 = none := by
  induction fields with
  | nil => simp [fieldsObstacle?]
  | cons p fields ih => simp [fieldsObstacle?, ih]

theorem obstacle?_arr :
    obstacle? w (room + 1) (.arr items) = none ↔ ∀ v ∈ items, obstacle? w room v = none := by
  rw [obstacle?, if_neg (Nat.succ_ne_zero room), Nat.add_sub_cancel, itemsObstacle?_eq_none_iff]

theorem obstacle?_obj :
    obstacle? w (room + 1) (.obj fields) = none ↔ ∀ p ∈ fields, obstacle? w room p.2 = none := by
  rw [obstacle?, if_neg (Nat.succ_ne_zero room), Nat.add_sub_cancel, fieldsObstacle?_eq_none_iff]

theorem obstacle?_int {n : Int} :
    obstacle? w room (.int n) = none ↔
      (w.countsLeaves = true → room ≠ 0) ∧ n.natAbs < Nat.pow 10 Text.maxDigits := by
  have hshort := Text.writeInt_eq_none_iff (n := n)
  rw [obstacle?]
  generalize Text.writeInt? n = text, Nat.pow 10 Text.maxDigits = bound at hshort ⊢
  cases text <;> cases w.countsLeaves <;> cases room <;> simp_all

/-- A long integer cannot be written where there is room. -/
theorem obstacle?_int_of_le {n : Int} (hroom : w.countsLeaves = true → room ≠ 0)
    (h : ¬ n.natAbs < Nat.pow 10 Text.maxDigits) :
    obstacle? w room (.int n) = some .tooManyDigits := by
  have hleaf : ¬ (w.countsLeaves && decide (room = 0)) = true := by
    simpa using hroom
  rw [obstacle?, if_neg hleaf, Text.writeInt_eq_none_iff.mpr h]
  rfl

/-- What fits can be written. -/
theorem Fits.obstacle?_eq_none (h : Fits w room v) : obstacle? w room v = none := by
  induction h with
  | null h | bool h | float h | str h => simpa [obstacle?] using h
  | int h hshort => exact obstacle?_int.mpr ⟨h, hshort⟩
  | arr _ ih => exact obstacle?_arr.mpr ih
  | obj _ ih => exact obstacle?_obj.mpr ih

theorem fits_of_obstacle?_eq_none : ∀ {room : Nat} {v : Json},
    obstacle? w room v = none → Fits w room v
  | _, .null, h => .null (by simpa [obstacle?] using h)
  | _, .bool _, h => .bool (by simpa [obstacle?] using h)
  | _, .float _, h => .float (by simpa [obstacle?] using h)
  | _, .str _, h => .str (by simpa [obstacle?] using h)
  | _, .int _, h => .int (obstacle?_int.mp h).1 (obstacle?_int.mp h).2
  | _ + 1, .arr _, h => .arr fun v hv => fits_of_obstacle?_eq_none (obstacle?_arr.mp h v hv)
  | _ + 1, .obj _, h => .obj fun p hp => fits_of_obstacle?_eq_none (obstacle?_obj.mp h p hp)
  | 0, .arr _, h => by simp [obstacle?] at h
  | 0, .obj _, h => by simp [obstacle?] at h

/-- **Nothing keeps a value from being written that fits, and no other value can be written.** -/
theorem obstacle?_eq_none_iff : obstacle? w room v = none ↔ Fits w room v :=
  ⟨fits_of_obstacle?_eq_none, Fits.obstacle?_eq_none⟩

/-- The text of a value on its own, which for a text is itself. -/
def shown : Json → String
  | str s => s
  | v => v.literal

/-- **What fits is shown.** -/
theorem display?_eq_ok (h : Fits .literal (room + 1) v) : display? room v = .ok v.shown := by
  have hnone := obstacle?_eq_none_iff.mpr h
  cases v with
  | str s => rfl
  | _ =>
    simp only [display?, literal?, hnone]
    rfl

/-- A short integer is shown in decimal. -/
theorem display?_int {n : Int} (h : n.natAbs < Nat.pow 10 Text.maxDigits) :
    display? room (.int n) = .ok (toString n) := by
  have hnone : obstacle? .literal (room + 1) (.int n) = none :=
    obstacle?_int.mpr ⟨fun _ => Nat.succ_ne_zero room, h⟩
  rw [display?, literal?, hnone, literal]
  · rfl
  · nofun

/-- A long integer is not shown. -/
theorem display?_int_of_le {n : Int} (h : ¬ n.natAbs < Nat.pow 10 Text.maxDigits) :
    display? room (.int n) = .error .tooManyDigits := by
  have hsome : obstacle? .literal (room + 1) (.int n) = some .tooManyDigits :=
    obstacle?_int_of_le (fun _ => Nat.succ_ne_zero room) h
  rw [display?, literal?, hsome]
  · rfl
  · nofun

end TableDiscovery.Json
