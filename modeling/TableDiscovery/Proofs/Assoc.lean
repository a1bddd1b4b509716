import TableDiscovery.Assoc

/-!
# Maps entry by entry

What a map gives a key is told from the lists of entries that it is put together from.

* `Assoc.get?_eq_none_of_notMem`, `Assoc.get?_append`: keys that are not there, and maps in a row;
* `Assoc.get?_update`, `Assoc.nodup_update`: a map written over another one;
* `Assoc.ofList_eq_self`: entries with different keys;
* `Assoc.filter_put`: the part of a map that a write leaves alone;
* `Assoc.get?_filter_isSome`: a map without the entries that have no value;
* `Assoc.present`, `Assoc.get?_present`: the values of entries that have one.
-/

namespace TableDiscovery.Assoc

variable {α β : Type} [DecidableEq α] {m other : Assoc α β} {k : α}

theorem get?_eq_none_of_notMem (h : k ∉ m.map (·.1)) : m.get? k = none := by
  induction m with
  | nil => rfl
  | cons x m ih =>
    rw [get?, if_neg (Ne.symm (List.ne_of_not_mem_cons h)), ih (List.not_mem_of_not_mem_cons h)]

/-- What stands behind a map counts for the keys that the map does not have. -/
theorem get?_append (m other : Assoc α β) (k : α) :
    Assoc.get? (m ++ other) k = (m.get? k).or (other.get? k) := by
  induction m with
  | nil => rfl
  | cons x m ih =>
    rw [List.cons_append, get?, get?, ih]
    split <;> rfl

/-- A map is written over another one. -/
theorem get?_update (hkeys : (other.map (·.1)).Nodup) :
    (m.update other).get? k = (other.get? k).or (m.get? k) := by
  induction other generalizing m with
  | nil => rfl
  | cons x other ih =>
    obtain ⟨hx, hother⟩ := List.nodup_cons.mp hkeys
    rw [update, List.foldl_cons, ← update, ih hother, get?_put, get?]
    split
    · rename_i hk
      rw [get?_eq_none_of_notMem (hk ▸ hx)]
      rfl
    · rfl

theorem keys_put (m : Assoc α β) (key : α) (value : β) :
    (m.put key value).map (·.1) =
      if key ∈ m.map (·.1) then m.map (·.1) else m.map (·.1) ++ [key] := by
  induction m with
  | nil => rfl
  | cons x m ih =>
    rw [put]
    split
    · rename_i hx
      simp [hx]
    · rename_i hx
      rw [List.map_cons, ih]
      split <;> simp_all [Ne.symm hx]

theorem nodup_put (h : (m.map (·.1)).Nodup) (key : α) (value : β) :
    ((m.put key value).map (·.1)).Nodup := by
  rw [keys_put]
  split
  · exact h
  · rename_i hkey
    refine List.nodup_append.mpr ⟨h, List.nodup_cons.mpr ⟨nofun, List.nodup_nil⟩, ?_⟩
    rintro k hk k' hk' rfl
    exact hkey (List.mem_singleton.mp hk' ▸ hk)

theorem nodup_update (h : (m.map (·.1)).Nodup) (other : Assoc α β) :
    ((m.update other).map (·.1)).Nodup := by
  induction other generalizing m with
  | nil => exact h
  | cons x other ih => exact ih (nodup_put h x.1 x.2)

theorem put_of_notMem {key : α} (h : key ∉ m.map (·.1)) (value : β) :
    m.put key value = m ++ [(key, value)] := by
  induction m with
  | nil => rfl
  | cons x m ih =>
    rw [put, if_neg (Ne.symm (List.ne_of_not_mem_cons h)), ih (List.not_mem_of_not_mem_cons h),
      List.cons_append]

theorem update_of_nodup (h : ((m ++ other).map (·.1)).Nodup) : m.update other = m ++ other := by
  induction other generalizing m with
  | nil => exact (List.append_nil m).symm
  | cons x other ih =>
    have hx : x.1 ∉ m.map (·.1) := by
      rw [List.map_append, List.nodup_append] at h
      exact fun hmem => h.2.2 _ hmem _ List.mem_cons_self rfl
    rw [update, List.foldl_cons, ← update, put_of_notMem hx, ih (by simpa using h)]
    simp

/-- Entries with different keys are the map that they give. -/
theorem ofList_eq_self (h : (m.map (·.1)).Nodup) : ofList m = m := update_of_nodup h

theorem mem_put {key : α} {value : β} {p : α × β} (h : p ∈ m.put key value) :
    p ∈ m ∨ p = (key, value) := by
  induction m with
  | nil => exact .inr (List.mem_singleton.mp h)
  | cons x m ih =>
    rw [put] at h
    split at h
    · rename_i hx
      exact (List.mem_cons.mp h).symm.imp (List.mem_cons_of_mem x) (hx ▸ ·)
    · obtain rfl | h := List.mem_cons.mp h
      · exact .inl List.mem_cons_self
      · exact (ih h).imp_left (List.mem_cons_of_mem x)

theorem mem_update {p : α × β} (h : p ∈ m.update other) : p ∈ m ∨ p ∈ other := by
  induction other generalizing m with
  | nil => exact .inl h
  | cons x other ih =>
    obtain hput | hother := ih h
    · refine (mem_put hput).imp_right ?_
      rintro rfl
      exact List.mem_cons_self
    · exact .inr (List.mem_cons_of_mem x hother)

/-- A write shows only to those who look at the key. -/
theorem filter_put {q : α → Bool} {key : α} (h : q key = false) (m : Assoc α β) (value : β) :
    (m.put key value).filter (fun p => q p.1) = m.filter fun p => q p.1 := by
  induction m with
  | nil => simp [put, h]
  | cons x m ih =>
    rw [put]
    split
    · rename_i hx
      simp [hx, h]
    · rw [List.filter_cons, List.filter_cons, ih]

/-- The values of all entries are changed in one way. -/
theorem get?_mapValues {γ : Type} (m : Assoc α β) (f : β → γ) :
    Assoc.get? (m.map fun x => (x.1, f x.2)) k = (m.get? k).map f := by
  induction m with
  | nil => rfl
  | cons x m ih =>
    rw [List.map_cons, get?, get?, ih]
    split <;> rfl

/-- Entries without a value are left out. -/
theorem get?_filter_isSome {m : Assoc α (Option β)} (hkeys : (m.map (·.1)).Nodup) :
    Assoc.get? (m.filter fun x => x.2.isSome) k = (m.get? k).join.map some := by
  induction m with
  | nil => rfl
  | cons x m ih =>
    obtain ⟨key, value⟩ := x
    obtain ⟨hx, hm⟩ := List.nodup_cons.mp hkeys
    cases value with
    | none =>
      rw [List.filter_cons_of_neg (by simp), ih hm, get?]
      split
      · rename_i hk
        rw [get?_eq_none_of_notMem (hk ▸ hx)]
        rfl
      · rfl
    | some value =>
      rw [List.filter_cons_of_pos rfl, get?, get?, ih hm]
      split <;> rfl

/-- The entries that have a value. -/
def present (m : Assoc α (Option β)) : Assoc α β := m.filterMap fun x => x.2.map fun v => (x.1, v)

omit [DecidableEq α] in
theorem keys_present (m : Assoc α (Option β)) :
    ((present m).map (·.1)).Sublist (m.map (·.1)) := by
  induction m with
  | nil => exact .slnil
  | cons x m ih =>
    obtain ⟨key, _ | value⟩ := x
    · exact ih.cons key
    · exact ih.cons_cons key

theorem get?_present {m : Assoc α (Option β)} (hkeys : (m.map (·.1)).Nodup) :
    Assoc.get? (present m) k = (m.get? k).join := by
  induction m with
  | nil => rfl
  | cons x m ih =>
    obtain ⟨hx, hm⟩ := List.nodup_cons.mp hkeys
    have hmissing : get? (present m) x.1 = none :=
      get?_eq_none_of_notMem fun h => hx ((keys_present m).subset h)
    obtain ⟨key, _ | value⟩ := x
    · have hnext : present ((key, none) :: m) = present m := rfl
      rw [hnext, get?]
      split
      · rename_i hk
        exact hk ▸ hmissing
      · exact ih hm
    · have hnext : present ((key, some value) :: m) = (key, value) :: present m := rfl
      rw [hnext, get?, get?, ih hm]
      split <;> rfl

end TableDiscovery.Assoc
