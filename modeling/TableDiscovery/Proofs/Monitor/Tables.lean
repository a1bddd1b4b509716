import TableDiscovery.Proofs.Monitor.Reachable
import TableDiscovery.Proofs.Snapshot

/-!
# The tables for those who ask

A reader gets the filtered tables of the newest listing, unless two of them share a bare name. The
check is made on the groups of the snapshot, which always belong to its tables.

* `outcome_tables_some`, `fault_of_tables`: what a reader gets of a snapshot, and how it fails;
* **`tables_of_reachable`**: what a reader gets, and which names the error carries.
-/

namespace TableDiscovery.Monitor

open Act Snapshot

variable {m : Monitor} {w : Watch} {newest : Option (List Table)}

/-- Without a snapshot the wait times out, unless the platform cannot wait for so long. -/
theorem outcome_tables_none (h : w.snapshot = none) :
    m.tables.outcome w = .error
      (if w.script.refusesWait m.timeout then .waitTooLong else .tableListTimeout m.timeout) := by
  rw [tables, outcome_bind]
  simp only [outcome_get, after_get, h]
  rw [outcome_bind, outcome_liftSite, (checkWait_views m.timeout w.toSite).1]
  cases w.script.refusesWait m.timeout <;> rfl

/-- What a reader gets of a snapshot depends on whether it has duplicates. -/
theorem outcome_tables_some {ts : List Table} (h : w.snapshot = some (.ofTables ts)) :
    m.tables.outcome w = if (names ts).Nodup then .ok ts
      else .error (.duplicateTables (ofTables ts).duplicates m.filter.hint) := by
  rw [tables, outcome_bind]
  simp only [outcome_get, h, ← duplicates_eq_nil_iff]
  cases hd : (ofTables ts).duplicates with
  | nil => simp; rfl
  | cons d ds => simp

/-- The faults of readers. -/
theorem fault_of_tables {f : Fault} (h : m.tables.outcome w = .error f) :
    (f = .tableListTimeout m.timeout ∨ f = .waitTooLong) ∨
      ∃ groups, f = .duplicateTables groups m.filter.hint := by
  cases hsnapshot : w.snapshot with
  | none =>
    rw [outcome_tables_none hsnapshot] at h
    cases h
    split
    · exact .inl (.inr rfl)
    · exact .inl (.inl rfl)
  | some s =>
    rw [tables, outcome_bind] at h
    simp only [outcome_get, hsnapshot] at h
    split at h
    · cases h
    · cases h
      exact .inr ⟨_, rfl⟩

/-- Readers look at nothing but the snapshot and the platform. -/
theorem outcome_tables_congr {v : Watch} (h : v.snapshot = w.snapshot)
    (hscript : v.script = w.script) : m.tables.outcome v = m.tables.outcome w := by
  cases hsnapshot : w.snapshot with
  | none => rw [outcome_tables_none (h.trans hsnapshot), outcome_tables_none hsnapshot, hscript]
  | some s =>
    rw [tables, outcome_bind, outcome_bind]
    simp only [outcome_get, h, hsnapshot]
    split <;> rfl

/-- **What a reader gets.** Without a listing the wait times out, or there is none because the
platform cannot wait for so long; a wait for a number of seconds that is none does not end. With a
listing the reader gets what passes the filter of the newest one, or an error if two positions of it
share a bare name: it carries these names, each with its tables in their order, and the setting to
narrow. So no reader ever gets two tables of one name. -/
theorem tables_of_reachable (h : m.Reachable newest w) :
    m.tables.after w = w ∧ (w.snapshot = none ↔ newest = none) ∧
    (m.timeout.isNaN = false →
      (m.tables.outcome w = .error (.tableListTimeout m.timeout) ↔
        w.snapshot = none ∧ w.script.refusesWait m.timeout = false) ∧
      (m.tables.outcome w = .error .waitTooLong ↔
        w.snapshot = none ∧ w.script.refusesWait m.timeout = true)) ∧
    (∀ listed, newest = some listed →
      let current := m.filter.apply m.dialect listed
      ((∃ n, Shared current n) → ∃ groups,
        m.tables.outcome w = .error (.duplicateTables groups m.filter.hint) ∧
        (groups.map (·.1)).Nodup ∧ (∀ n, n ∈ groups.map (·.1) ↔ Shared current n) ∧
        ∀ g ∈ groups, g.2 = current.filter (·.name = g.1)) ∧
      ((¬ ∃ n, Shared current n) → m.tables.outcome w = .ok current)) ∧
    ∀ ts, m.tables.outcome w = .ok ts → (names ts).Nodup := by
  have hsnap := h.snapshot
  refine ⟨after_tables m w, ?_⟩
  cases newest with
  | none =>
    have hout := outcome_tables_none (m := m) hsnap
    refine ⟨by simp [hsnap], fun _ => ?_, nofun, fun ts hts => ?_⟩
    · rw [hout]
      cases w.script.refusesWait m.timeout <;> simp [hsnap]
    · cases hout.symm.trans hts
  | some listed =>
    have hout := outcome_tables_some (m := m) hsnap
    obtain ⟨hnodup, hmem, htables⟩ := duplicates_spec (m.filter.apply m.dialect listed)
    refine ⟨by simp [hsnap], fun _ => ?_, fun listed' hl => ?_, fun ts hts => ?_⟩
    · rw [hout, hsnap]
      split <;> simp
    · cases hl
      refine ⟨fun hshared => ⟨_, ?_, hnodup, hmem, htables⟩, fun hnone => ?_⟩
      · rw [hout, if_neg ((exists_shared_iff _).mp hshared)]
      · rw [exists_shared_iff, not_not] at hnone
        rw [hout, if_pos hnone]
    · rw [hout] at hts
      split at hts
      · cases hts
        assumption
      · cases hts

/-- A table of orders in each of two schemas. -/
theorem tables_of_reachable_shop :
    let w := shopWatch [{ rows :=
      [[none, some "public", some "orders"], [none, some "archive", some "orders"]] }]
    let listed : List Table :=
      [⟨none, some "public", "orders", by decide⟩, ⟨none, some "archive", "orders", by decide⟩]
    shop.Reachable (some listed) (shop.poll.after w) ∧
      ∃ groups, shop.tables.outcome (shop.poll.after w) =
        .error (.duplicateTables groups "'table.whitelist'") ∧
        (∀ n, n ∈ groups.map (·.1) ↔ Shared (shop.filter.apply shop.dialect listed) n) ∧
        "orders" ∈ groups.map (·.1) := by
  intro w listed
  have hlisting : (shop.listing w).toOption = some listed := by decide +kernel
  have hreach : shop.Reachable (some listed) (shop.poll.after w) := by
    have := Reachable.poll (m := shop) (w := w) (.fresh rfl)
    rwa [hlisting] at this
  have hshared : Shared (shop.filter.apply shop.dialect listed) "orders" := by decide +kernel
  obtain ⟨-, -, -, hsome, -⟩ := tables_of_reachable hreach
  obtain ⟨groups, hout, -, hmem, -⟩ := (hsome listed rfl).1 ⟨"orders", hshared⟩
  exact ⟨hreach, groups, hout, hmem, (hmem "orders").mpr hshared⟩

/-- A shop whose readers are to wait for the first listing without an end. -/
def endlessShop : Monitor := { shop with timeout := 1.0 / 0.0 }

/-- The platform has no such wait, and a reader that comes before the first listing is told so. -/
theorem tables_refused :
    endlessShop.Reachable none (shopWatch []) ∧ endlessShop.timeout.isNaN = false ∧
      endlessShop.tables.outcome (shopWatch []) = .error .waitTooLong := by
  have hrefused : (shopWatch []).script.refusesWait endlessShop.timeout = true := by
    decide +kernel
  refine ⟨.fresh rfl, by decide +kernel, ?_⟩
  rw [outcome_tables_none rfl, if_pos hrefused]

end TableDiscovery.Monitor
