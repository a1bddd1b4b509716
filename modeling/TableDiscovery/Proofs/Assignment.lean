import Mathlib.Algebra.Ring.Nat
import TableDiscovery.Assignment

/-!
# Groups of tables

Groups of given sizes hold everything in its order, and the sizes of an assignment add up to the
number of tables and fall from each group to a later one by one at most.

* `flatten_takeGroups`, `map_length_takeGroups`, `getElem?_takeGroups`: groups of given sizes;
* `sum_groupSize`, `sum_take_groupSize`: the sizes add up, the first ones to where a group begins;
* `Assignment.Slices`: consecutive groups that are not empty and nearly of one size;
* **`group_spec`**, **`assign_spec`**: the groups of elements, and the assignment of tables;
* `nonempty_of_assign`, `assign_query`: no group is empty without a query;
* `Assignment.Tiles`, **`groups_tile`**: every group with its place among the elements, and counts
  that are refused;
* `getElem?_lines`: the line of a group.
-/

namespace TableDiscovery.Assignment

variable {α : Type}

/-! ## Groups of given sizes -/

theorem flatten_takeGroups (sizes : List Nat) (xs : List α) :
    (takeGroups sizes xs).flatten = xs.take sizes.sum := by
  induction sizes generalizing xs with
  | nil => simp [takeGroups]
  | cons size sizes ih =>
    rw [takeGroups, List.flatten_cons, ih, List.sum_cons, List.take_add]

theorem map_length_takeGroups {sizes : List Nat} {xs : List α} (h : sizes.sum ≤ xs.length) :
    (takeGroups sizes xs).map List.length = sizes := by
  induction sizes generalizing xs with
  | nil => rfl
  | cons size sizes ih =>
    rw [List.sum_cons] at h
    have hrest : sizes.sum ≤ (xs.drop size).length := by
      rw [List.length_drop]
      omega
    rw [takeGroups, List.map_cons, ih hrest, List.length_take]
    congr 1
    omega

/-- A group begins where those before it end. -/
theorem getElem?_takeGroups (sizes : List Nat) (xs : List α) (i : Nat) :
    (takeGroups sizes xs)[i]? =
      sizes[i]?.map fun size => (xs.drop (sizes.take i).sum).take size := by
  induction sizes generalizing xs i with
  | nil => rfl
  | cons size sizes ih =>
    cases i with
    | zero => simp [takeGroups]
    | succ i =>
      rw [takeGroups, List.getElem?_cons_succ, ih, List.getElem?_cons_succ, List.take_succ_cons,
        List.sum_cons, List.drop_drop]

/-! ## Sizes -/

/-- The first `r` of `k` groups get one element more than the others. -/
theorem sum_with_rest (q r k : Nat) :
    ((List.range k).map fun i => q + if i < r then 1 else 0).sum = k * q + min r k := by
  induction k with
  | zero => simp
  | succ k ih =>
    rw [List.range_succ, List.map_append, List.sum_append, ih, Nat.succ_mul]
    simp only [List.map_cons, List.map_nil, List.sum_cons, List.sum_nil]
    split <;> omega

theorem sum_groupSize (n : Nat) {k : Nat} (hk : 0 < k) :
    ((List.range k).map (groupSize n k)).sum = n := by
  have hrest : n % k < k := Nat.mod_lt n hk
  have hsum := sum_with_rest (n / k) (n % k) k
  rw [Nat.min_eq_left (Nat.le_of_lt hrest), Nat.div_add_mod] at hsum
  exact hsum

/-- Where the `i`-th of `k` groups of `n` elements begins. -/
def groupStart (n k i : Nat) : Nat := i * (n / k) + min i (n % k)

theorem sum_take_groupSize (n : Nat) {k i : Nat} (hi : i ≤ k) :
    (((List.range k).map (groupSize n k)).take i).sum = groupStart n k i := by
  rw [← List.map_take, List.take_range, Nat.min_eq_left hi, groupStart, Nat.min_comm]
  exact sum_with_rest (n / k) (n % k) i

theorem groupSize_antitone (n k : Nat) {i j : Nat} (hij : i ≤ j) :
    groupSize n k j ≤ groupSize n k i ∧ groupSize n k i ≤ groupSize n k j + 1 := by
  unfold groupSize
  split <;> split <;> omega

theorem groupSize_pos {n k : Nat} (hk : 0 < k) (hkn : k ≤ n) (i : Nat) : 0 < groupSize n k i := by
  have := Nat.div_pos hkn hk
  unfold groupSize
  omega

/-! ## Assignments -/

/-- **The groups of elements.** There are as many as asked for, they hold the elements in their
order, and their sizes are those of a division with rest. -/
theorem group_spec (xs : List α) {count : Int} (h : 1 ≤ count) :
    ∃ gs, group xs count = .ok gs ∧ gs.flatten = xs ∧
      gs.map List.length = (List.range count.toNat).map (groupSize xs.length count.toNat) := by
  have hk : 0 < count.toNat := by omega
  have hsum := sum_groupSize xs.length hk
  refine ⟨_, by rw [group, if_neg (by omega)], ?_, ?_⟩
  · rw [flatten_takeGroups, hsum, List.take_length]
  · exact map_length_takeGroups (Nat.le_of_eq hsum)

theorem kind_of_group {xs : List α} {count : Int} {f : Fault} (h : group xs count = .error f) :
    f.kind = .value := by
  rw [group] at h
  split at h <;> cases h
  rfl

/-- There are groups unless less than one task is asked for. -/
theorem kind_of_assign {ts : List Table} {maxTasks : Int} {query : Bool} {f : Fault}
    (h : assign ts maxTasks query = .error f) : f.kind = .value := by
  rw [assign] at h
  split at h
  · cases h
    rfl
  · split at h
    · cases h
    · split at h
      · cases h
      · exact kind_of_group h

/-- The groups are the elements in their order. None is empty, and one is at most as long as those
before it and shorter by one at most. -/
structure Slices (xs : List α) (gs : List (List α)) : Prop where
  flatten : gs.flatten = xs
  nonempty : ∀ g ∈ gs, g ≠ []
  balanced : ∀ i j, ∀ (hij : i ≤ j) (hj : j < gs.length),
    gs[j].length ≤ gs[i].length ∧ gs[i].length ≤ gs[j].length + 1

/-- The number of groups and the size of each, if their sizes are those of a division with rest. -/
theorem length_of_lengths {n k : Nat} {gs : List (List α)}
    (hlen : gs.map List.length = (List.range k).map (groupSize n k)) :
    gs.length = k ∧ ∀ i (hi : i < gs.length), gs[i].length = groupSize n k i := by
  have hcount : gs.length = k := by
    have := congrArg List.length hlen
    simpa using this
  refine ⟨hcount, fun i hi => ?_⟩
  have := congrArg (·[i]?) hlen
  simpa [hi, hcount ▸ hi] using this

/-- Groups whose sizes are those of a division with rest, at most one for each element. -/
theorem slices_of_lengths {xs : List α} {gs : List (List α)} {k : Nat} (hk : 0 < k)
    (hkn : k ≤ xs.length) (hflat : gs.flatten = xs)
    (hlen : gs.map List.length = (List.range k).map (groupSize xs.length k)) :
    gs.length = k ∧ Slices xs gs := by
  obtain ⟨hcount, hsize⟩ := length_of_lengths hlen
  refine ⟨hcount, hflat, fun g hg hnil => ?_, fun i j hij hj => ?_⟩
  · obtain ⟨i, hi, rfl⟩ := List.getElem_of_mem hg
    have hpos := groupSize_pos hk hkn i
    rw [← hsize i hi, hnil] at hpos
    exact absurd hpos (Nat.lt_irrefl 0)
  · rw [hsize i (Nat.lt_of_le_of_lt hij hj), hsize j hj]
    exact groupSize_antitone _ _ hij

/-- **The assignment of tables.** There are as many tasks as asked for or as there are tables, and
the tables are cut into as many slices. -/
theorem assign_spec (ts : List Table) {maxTasks : Int} (h : 1 ≤ maxTasks) :
    ∃ gs, assign ts maxTasks false = .ok gs ∧ gs.length = min maxTasks.toNat ts.length ∧
      Slices ts gs := by
  rw [assign, if_neg (by omega)]
  cases ts with
  | nil => exact ⟨[], rfl, by simp, rfl, nofun, nofun⟩
  | cons t ts =>
    have hpos : 0 < (t :: ts).length := Nat.succ_pos _
    have hmin : (1 : Int) ≤ min maxTasks (t :: ts).length := by omega
    obtain ⟨gs, hgs, hflat, hlen⟩ := group_spec (t :: ts) hmin
    obtain ⟨hcount, hslices⟩ := slices_of_lengths (by omega) (by omega) hflat hlen
    refine ⟨gs, hgs, ?_, hslices⟩
    rw [hcount]
    omega

/-- An assignment that there is asks for a task at least. -/
theorem one_le_of_assign {ts : List Table} {maxTasks : Int} {query : Bool} {gs : List (List Table)}
    (h : assign ts maxTasks query = .ok gs) : 1 ≤ maxTasks := by
  by_contra hless
  rw [assign, if_pos (by omega)] at h
  cases h

/-- Without a query no task is without tables. -/
theorem nonempty_of_assign {ts : List Table} {maxTasks : Int} {gs : List (List Table)}
    (h : assign ts maxTasks false = .ok gs) : ∀ g ∈ gs, g ≠ [] := by
  obtain ⟨gs', hassign, -, hslices⟩ := assign_spec ts (one_le_of_assign h)
  cases h.symm.trans hassign
  exact hslices.nonempty

/-- With a query there is one task, without tables. -/
theorem assign_query {maxTasks : Int} (h : 1 ≤ maxTasks) (ts : List Table) :
    assign ts maxTasks true = .ok [[]] := by
  rw [assign, if_neg (by omega)]
  rfl

/-! ## The place of every group -/

/-- The groups are `k` slices of the elements, one after another: the `i`-th one has its size and
its start from the division of their number by `k`. -/
structure Tiles (xs : List α) (k : Nat) (gs : List (List α)) : Prop where
  count : gs.length = k
  flatten : gs.flatten = xs
  size : ∀ i (hi : i < gs.length),
    gs[i].length = xs.length / k + if i < xs.length % k then 1 else 0
  slice : ∀ i (hi : i < gs.length),
    gs[i] = (xs.drop (groupStart xs.length k i)).take gs[i].length

theorem group_tiles (xs : List α) {k : Nat} (hk : 1 ≤ k) :
    ∃ gs, group xs k = .ok gs ∧ Tiles xs k gs := by
  have hsum := sum_groupSize xs.length hk
  have hlen := map_length_takeGroups (Nat.le_of_eq hsum)
  have hflat := flatten_takeGroups ((List.range k).map (groupSize xs.length k)) xs
  have hplace := getElem?_takeGroups ((List.range k).map (groupSize xs.length k)) xs
  rw [hsum, List.take_length] at hflat
  refine ⟨_, by rw [group, if_neg (by omega)], ?_⟩
  rw [Int.toNat_natCast]
  generalize takeGroups ((List.range k).map (groupSize xs.length k)) xs = gs at hlen hflat hplace
  obtain ⟨hcount, hsize⟩ := length_of_lengths hlen
  refine ⟨hcount, hflat, hsize, fun i hi => ?_⟩
  have hik : i < k := hcount ▸ hi
  have hi' := hplace i
  rw [sum_take_groupSize _ (Nat.le_of_lt hik)] at hi'
  rw [hsize i hi]
  simpa [hi, hik] using hi'

/-- The result is a fault just if `p`, and then one of a value. -/
def RefusedIff {β : Type} (r : Except Fault β) (p : Prop) : Prop :=
  ((∃ f, r = .error f) ↔ p) ∧ ∀ f, r = .error f → f.kind = .value

theorem group_refused (xs : List α) (count : Int) : RefusedIff (group xs count) (count < 1) := by
  refine ⟨⟨?_, fun h => ⟨_, by rw [group, if_pos (by omega)]⟩⟩, fun f => kind_of_group⟩
  rintro ⟨f, hf⟩
  by_contra hcount
  obtain ⟨gs, hgs, -⟩ := group_spec xs (Int.not_lt.mp hcount)
  cases hgs.symm.trans hf

theorem assign_refused (ts : List Table) (count : Int) (query : Bool) :
    RefusedIff (assign ts count query) (count < 1) := by
  refine ⟨⟨?_, fun h => ⟨_, by rw [assign, if_pos h]⟩⟩, fun f => kind_of_assign⟩
  rintro ⟨f, hf⟩
  by_contra hcount
  cases query with
  | true => cases (assign_query (Int.not_lt.mp hcount) ts).symm.trans hf
  | false =>
    obtain ⟨gs, hgs, -⟩ := assign_spec ts (Int.not_lt.mp hcount)
    cases hgs.symm.trans hf

/-- **Groups tile the elements.** There are as many as asked for, and of tables at most one for each
of them, none empty. Only a count below one is refused. -/
theorem groups_tile (xs : List α) (ts : List Table) :
    (∀ k : Nat, 1 ≤ k →
      (∃ gs, group xs k = .ok gs ∧ Tiles xs k gs) ∧
      ∃ gs, assign ts k false = .ok gs ∧ gs.length = min k ts.length ∧ gs.flatten = ts ∧
        ∀ g ∈ gs, g ≠ []) ∧
    ∀ count : Int, RefusedIff (group xs count) (count < 1) ∧
      ∀ query, RefusedIff (assign ts count query) (count < 1) := by
  refine ⟨fun k hk => ⟨group_tiles xs hk, ?_⟩,
    fun count => ⟨group_refused xs count, assign_refused ts count⟩⟩
  obtain ⟨gs, hgs, hlength, hslices⟩ := assign_spec ts (Int.ofNat_le.mpr hk)
  exact ⟨gs, hgs, by simpa using hlength, hslices.flatten, hslices.nonempty⟩

/-- Seven elements in three groups, and no table for five tasks. -/
theorem groups_tile_seven :
    1 ≤ 3 ∧ (∃ gs, group [1, 2, 3, 4, 5, 6, 7] 3 = .ok gs ∧ Tiles [1, 2, 3, 4, 5, 6, 7] 3 gs) ∧
      1 ≤ 5 ∧ ∃ gs, assign [] 5 false = .ok gs ∧ gs.length = 0 := by
  obtain ⟨gs, hgs, hlength, -⟩ := ((groups_tile [()] []).1 5 (by decide)).2
  exact ⟨by decide, ((groups_tile [1, 2, 3, 4, 5, 6, 7] []).1 3 (by decide)).1, by decide, gs, hgs,
    hlength⟩

/-! ## Lines -/

/-- The line of a group. -/
theorem getElem?_lines {gs : List (List Table)} (d : Dialect) {i : Nat} (hi : i < gs.length) :
    (lines gs d)[i]? =
      some ("task-" ++ toString i ++ ": " ++ taskText (d.renderList gs[i] ", ")) := by
  have hne : gs.isEmpty = false := by
    cases gs with
    | nil => cases hi
    | cons => rfl
  rw [lines, hne]
  simp [hi]

end TableDiscovery.Assignment
