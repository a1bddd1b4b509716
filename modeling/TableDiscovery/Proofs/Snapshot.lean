import Mathlib.Algebra.BigOperators.Group.List.Basic
import Mathlib.Data.List.Induction
import Mathlib.Data.List.NodupEquivFin
import TableDiscovery.Snapshot

/-!
# Tables of one name

The groups of a snapshot are its tables under their bare names: each name comes where it first
appears, with the tables that have it, in their order. Those groups are duplicates that hold more
than one table.

* `Assoc.put_map`, `Assoc.get?_map`: maps whose values are a function of the keys;
* **`group_eq`**: the groups;
* `Snapshot.Shared`: two positions of a listing have a name;
* **`duplicates_eq`**: the duplicates;
* `duplicates_eq_nil_iff`: there are none if no two tables have one name;
* **`ofTables_groups`**: a snapshot as a whole, with the order of its groups and what they hold
  together.
-/

namespace TableDiscovery

/-! ## Lists without repetitions -/

theorem eraseDups_concat {α : Type} [DecidableEq α] (l : List α) (a : α) :
    (l ++ [a]).eraseDups = l.eraseDups ++ if a ∈ l then [] else [a] := by
  rw [List.eraseDups_append]
  by_cases h : a ∈ l <;> simp [List.removeAll, h, List.eraseDups_cons]

theorem nodup_eraseDups {α : Type} [DecidableEq α] (l : List α) : l.eraseDups.Nodup := by
  induction l using List.reverseRecOn with
  | nil => simp
  | append_singleton l a ih =>
    rw [eraseDups_concat]
    split
    · rwa [List.append_nil]
    · rename_i h
      rw [List.nodup_append]
      refine ⟨ih, List.nodup_singleton a, fun b hb c hc => ?_⟩
      rw [List.mem_singleton.mp hc]
      exact fun hba => h (hba ▸ List.mem_eraseDups.mp hb)

/-- What is left is in order of first appearance. -/
theorem pairwise_idxOf_eraseDups {α : Type} [DecidableEq α] (l : List α) :
    l.eraseDups.Pairwise fun a b => l.idxOf a < l.idxOf b := by
  induction l using List.reverseRecOn with
  | nil => exact .nil
  | append_singleton l a ih =>
    have hkept {b : α} (hb : b ∈ l.eraseDups) : (l ++ [a]).idxOf b = l.idxOf b := by
      rw [List.idxOf_append, if_pos (List.mem_eraseDups.mp hb)]
    have hleft : l.eraseDups.Pairwise fun b c => (l ++ [a]).idxOf b < (l ++ [a]).idxOf c := by
      refine ih.imp_of_mem fun hb hc hlt => ?_
      rwa [hkept hb, hkept hc]
    rw [eraseDups_concat]
    split
    · rwa [List.append_nil]
    · rename_i ha
      refine List.pairwise_append.mpr ⟨hleft, List.pairwise_singleton _ a, fun b hb c hc => ?_⟩
      rw [List.mem_singleton.mp hc, hkept hb, List.idxOf_append, if_neg ha]
      exact Nat.lt_add_left _ (List.idxOf_lt_length_of_mem (List.mem_eraseDups.mp hb))

namespace Assoc

variable {α β : Type} [DecidableEq α]

theorem get?_map (keys : List α) (f : α → β) (key : α) :
    get? (keys.map fun k => (k, f k)) key = if key ∈ keys then some (f key) else none := by
  induction keys with
  | nil => rfl
  | cons k keys ih =>
    by_cases h : k = key
    · simp [get?, h]
    · simp [get?, h, ih, Ne.symm h]

/-- Writing a key that is there replaces its value, writing another one adds it at the end. -/
theorem put_map {keys : List α} (nodup : keys.Nodup) (f : α → β) (key : α) (value : β) :
    put (keys.map fun k => (k, f k)) key value =
      (keys ++ if key ∈ keys then [] else [key]).map fun k =>
        (k, if k = key then value else f k) := by
  induction keys with
  | nil => simp [put]
  | cons k keys ih =>
    obtain ⟨hk, nodup⟩ := List.nodup_cons.mp nodup
    by_cases h : k = key
    · subst h
      have hne : ∀ k' ∈ keys, k' ≠ k := fun k' hk' heq => hk (heq ▸ hk')
      simp only [List.map_cons, put, if_true, List.mem_cons_self, List.append_nil]
      refine congrArg _ (List.map_congr_left fun k' hk' => ?_)
      rw [if_neg (hne k' hk')]
    · simp [put, h, Ne.symm h, ih nodup]

end Assoc

namespace Snapshot

/-- The bare names of tables. -/
def names (ts : List Table) : List String := ts.map (·.name)

theorem filter_eq_nil_of_notMem {ts : List Table} {n : String} (h : n ∉ names ts) :
    ts.filter (·.name = n) = [] := by
  rw [List.filter_eq_nil_iff]
  intro t ht hn
  exact h (List.mem_map.mpr ⟨t, ht, by simpa using hn⟩)

/-- **The groups.** Each name comes where it first appears, with the tables that have it. -/
theorem group_eq (ts : List Table) :
    group ts = (names ts).eraseDups.map fun n => (n, ts.filter (·.name = n)) := by
  induction ts using List.reverseRecOn with
  | nil => rfl
  | append_singleton ts t ih =>
    have hnames : names (ts ++ [t]) = names ts ++ [t.name] := by simp [names]
    rw [group, List.foldl_append, ← group, ih, List.foldl_cons, List.foldl_nil, Assoc.alter,
      Assoc.get?_map, Assoc.put_map (nodup_eraseDups _), hnames, eraseDups_concat]
    simp only [List.mem_eraseDups]
    refine List.map_congr_left fun n _ => ?_
    rw [List.filter_append]
    by_cases hn : n = t.name
    · subst hn
      by_cases hmem : t.name ∈ names ts
      · simp [hmem]
      · simp [hmem, filter_eq_nil_of_notMem hmem]
    · simp [hn, Ne.symm hn]

/-- Two positions of a listing have a name. -/
def Shared (ts : List Table) (n : String) : Prop :=
  ∃ i j, ∃ (hij : i < j) (hj : j < ts.length), ts[i].name = n ∧ ts[j].name = n

theorem shared_iff_duplicate (ts : List Table) (n : String) :
    Shared ts n ↔ (names ts).Duplicate n := by
  rw [List.duplicate_iff_exists_distinct_get]
  constructor
  · rintro ⟨i, j, hij, hj, hi, hn⟩
    exact ⟨⟨i, by simp [names]; omega⟩, ⟨j, by simpa [names] using hj⟩, hij, by simp [names, hi],
      by simp [names, hn]⟩
  · rintro ⟨⟨i, hi⟩, ⟨j, hj⟩, hij, hn, hn'⟩
    refine ⟨i, j, hij, by simpa [names] using hj, ?_, ?_⟩
    · simpa [names] using hn.symm
    · simpa [names] using hn'.symm

theorem length_filter_name (ts : List Table) (n : String) :
    (ts.filter (·.name = n)).length = (names ts).count n := by
  rw [names, List.count, List.countP_map, List.countP_eq_length_filter]
  rfl

theorem shared_iff (ts : List Table) (n : String) :
    Shared ts n ↔ 1 < (ts.filter (·.name = n)).length := by
  rw [shared_iff_duplicate, List.duplicate_iff_two_le_count, length_filter_name]
  exact Iff.rfl

instance (ts : List Table) (n : String) : Decidable (Shared ts n) :=
  decidable_of_iff _ (shared_iff ts n).symm

/-- **The duplicates.** Each shared name comes where it first appears, with the tables that have
it. -/
theorem duplicates_eq (ts : List Table) :
    (ofTables ts).duplicates =
      ((names ts).eraseDups.filter (Shared ts ·)).map fun n => (n, ts.filter (·.name = n)) := by
  rw [ofTables, group_eq, List.filter_map]
  refine congrArg _ (List.filter_congr fun n _ => ?_)
  simp [shared_iff]

theorem keys_duplicates (ts : List Table) :
    (ofTables ts).duplicates.map (·.1) = (names ts).eraseDups.filter (Shared ts ·) := by
  rw [duplicates_eq, List.map_map]
  exact List.map_id _

theorem mem_keys_duplicates (ts : List Table) (n : String) :
    n ∈ (ofTables ts).duplicates.map (·.1) ↔ Shared ts n := by
  rw [keys_duplicates, List.mem_filter, List.mem_eraseDups, decide_eq_true_eq,
    and_iff_right_iff_imp]
  rintro ⟨i, j, hij, hj, hi, -⟩
  exact List.mem_map.mpr ⟨ts[i], List.getElem_mem _, hi⟩

/-- The duplicates name each shared name once, with the tables that have it. -/
theorem duplicates_spec (ts : List Table) :
    ((ofTables ts).duplicates.map (·.1)).Nodup ∧
      (∀ n, n ∈ (ofTables ts).duplicates.map (·.1) ↔ Shared ts n) ∧
      ∀ g ∈ (ofTables ts).duplicates, g.2 = ts.filter (·.name = g.1) := by
  refine ⟨?_, mem_keys_duplicates ts, fun g hg => ?_⟩
  · rw [keys_duplicates]
    exact (nodup_eraseDups _).filter _
  · rw [duplicates_eq] at hg
    obtain ⟨n, -, rfl⟩ := List.mem_map.mp hg
    rfl

theorem exists_shared_iff (ts : List Table) : (∃ n, Shared ts n) ↔ ¬ (names ts).Nodup := by
  simp only [shared_iff_duplicate]
  exact List.exists_duplicate_iff_not_nodup

/-- There are no duplicates exactly if no two tables have one name. -/
theorem duplicates_eq_nil_iff (ts : List Table) :
    (ofTables ts).duplicates = [] ↔ (names ts).Nodup := by
  rw [← not_iff_not, ← exists_shared_iff, ← List.map_eq_nil_iff (f := (·.1)),
    List.eq_nil_iff_forall_not_mem]
  simp [duplicates_spec]

/-! ## Snapshots as a whole -/

theorem get?_duplicates (ts : List Table) (n : String) :
    Assoc.get? (ofTables ts).duplicates n =
      if Shared ts n then some (ts.filter (·.name = n)) else none := by
  rw [duplicates_eq, Assoc.get?_map]
  refine if_congr ?_ rfl rfl
  rw [← keys_duplicates, mem_keys_duplicates]

/-- The groups hold each table whose name is shared as often as it is listed, and no others. -/
theorem count_members (ts : List Table) (t : Table) :
    ((ofTables ts).duplicates.flatMap (·.2)).count t =
      if Shared ts t.name then ts.count t else 0 := by
  have hother : ∀ n ≠ t.name, n ∈ (names ts).eraseDups.filter (Shared ts ·) →
      (ts.filter (·.name = n)).count t = 0 := by
    intro n hn _
    refine List.count_eq_zero.mpr fun ht => hn ?_
    have hname : t.name = n := by simpa using (List.mem_filter.mp ht).2
    exact hname.symm
  have hgroup : (ts.filter (·.name = t.name)).count t = ts.count t :=
    List.count_filter (by simp)
  have hkeys : ((names ts).eraseDups.filter (Shared ts ·)).Nodup := (nodup_eraseDups _).filter _
  rw [duplicates_eq, List.flatMap_map, List.count_flatMap]
  refine (List.sum_map_eq_nsmul_single t.name _ hother).trans ?_
  rw [hgroup, hkeys.count, ← keys_duplicates]
  simp only [mem_keys_duplicates]
  split
  · exact one_nsmul _
  · exact zero_nsmul _

/-- **Snapshots.** The tables stay as they are listed. The groups are named by exactly the names
that two positions share, in order of first appearance and so each once, and a name has the tables
that bear it, in their order. There are none if the names are distinct. Together the groups hold
exactly the tables whose name is shared, each as often as it is listed. -/
theorem ofTables_groups (ts : List Table) :
    (ofTables ts).tables = ts ∧
      ((ofTables ts).duplicates.map (·.1)).Pairwise
        (fun n n' => (names ts).idxOf n < (names ts).idxOf n') ∧
      (∀ n, n ∈ (ofTables ts).duplicates.map (·.1) ↔ Shared ts n) ∧
      (∀ n, Assoc.get? (ofTables ts).duplicates n =
        if Shared ts n then some (ts.filter (·.name = n)) else none) ∧
      ((ofTables ts).duplicates = [] ↔ (names ts).Nodup) ∧
      ∀ t, ((ofTables ts).duplicates.flatMap (·.2)).count t =
        if Shared ts t.name then ts.count t else 0 := by
  refine ⟨rfl, ?_, mem_keys_duplicates ts, get?_duplicates ts, duplicates_eq_nil_iff ts,
    count_members ts⟩
  rw [keys_duplicates]
  exact (pairwise_idxOf_eraseDups _).filter _

end Snapshot

end TableDiscovery
