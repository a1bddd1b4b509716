import Mathlib.Data.List.Destutter
import TableDiscovery.Proofs.Monitor.Reachable

/-!
# Polls one after the other

What has been published after some polls depends only on the listings that succeeded, in their
order. A poll whose listing failed leaves no trace, wherever it stands.

* `Monitor.afterPolls`: the state after a number of polls;
* `Monitor.listings`, `Monitor.snapshots`, `Monitor.reports`: what was listed, published and
  reported on the way;
* `reachable_afterPolls`: the newest listing;
* `snapshots_eq`, `reports_eq`: what is published and reported, from the listings;
* **`poll_history`**: the newest listing is published, and failed polls leave no trace.
-/

namespace TableDiscovery.Monitor

open Act

section Definitions

variable (m : Monitor) (w : Watch)

/-- The state after a number of polls. -/
def afterPolls : Nat → Watch
  | 0 => w
  | n + 1 => m.poll.after (afterPolls n)

/-- The listings among the first polls that succeeded. -/
def listings (n : Nat) : List (List Table) :=
  (List.range n).filterMap fun k => (m.listing (m.afterPolls w k)).toOption

/-- What passes the filter of each of these listings. -/
def filtered (n : Nat) : List (List Table) := (m.listings w n).map (m.filter.apply m.dialect)

/-- The snapshots that the first polls published. -/
def snapshots (n : Nat) : List Snapshot :=
  (List.range n).filterMap fun k =>
    if (m.afterPolls w (k + 1)).published = (m.afterPolls w k).published then none
    else (m.afterPolls w (k + 1)).snapshot

/-- How those of the first polls ended whose listing succeeded. -/
def reports (n : Nat) : List (Except Fault Bool) :=
  (List.range n).filterMap fun k =>
    (m.listing (m.afterPolls w k)).toOption.map fun _ => m.poll.outcome (m.afterPolls w k)

end Definitions

/-- For each listing, whether one came before it and was another. -/
def changes (ls : List (List Table)) : List Bool :=
  (List.range ls.length).map fun k => decide (0 < k ∧ ls[k - 1]? ≠ ls[k]?)

theorem changes_concat (ls : List (List Table)) (ts : List Table) :
    changes (ls ++ [ts]) = changes ls ++ [decide (∃ old, ls.getLast? = some old ∧ old ≠ ts)] := by
  simp only [changes, List.length_append, List.length_singleton, List.range_succ, List.map_append,
    List.map_singleton]
  congr 1
  · refine List.map_congr_left fun k hk => ?_
    rw [List.mem_range] at hk
    rw [List.getElem?_append_left (by omega), List.getElem?_append_left hk]
  · rcases List.eq_nil_or_concat ls with rfl | ⟨l, a, rfl⟩
    · simp
    · simp

/-- Of a list without its repetitions in a row, a new last element is kept unless it is one. -/
theorem destutter_concat {α : Type} [DecidableEq α] (l : List α) (a : α) :
    (l ++ [a]).destutter (· ≠ ·) =
      l.destutter (· ≠ ·) ++ if l.getLast? = some a then [] else [a] := by
  cases l with
  | nil => simp
  | cons b l =>
    simp only [List.cons_append, List.destutter_cons']
    induction l generalizing b with
    | nil => by_cases h : b = a <;> simp [h]
    | cons c l ih =>
      have hlast : (b :: c :: l).getLast? = (c :: l).getLast? := rfl
      by_cases h : b = c
      · subst h
        rw [List.cons_append, List.destutter'_cons_neg _ (by simp),
          List.destutter'_cons_neg _ (by simp), ih, hlast]
      · rw [List.cons_append, List.destutter'_cons_pos _ h, List.destutter'_cons_pos _ h, ih, hlast,
          List.cons_append]

section Succ

variable {m : Monitor} {w : Watch} {n : Nat}

theorem listings_succ_ok {ts : List Table} (h : m.listing (m.afterPolls w n) = .ok ts) :
    m.listings w (n + 1) = m.listings w n ++ [ts] := by
  simp [listings, List.range_succ, h, Except.toOption]

theorem listings_succ_error {f : Fault} (h : m.listing (m.afterPolls w n) = .error f) :
    m.listings w (n + 1) = m.listings w n := by
  simp [listings, List.range_succ, h, Except.toOption]

theorem filtered_succ_ok {ts : List Table} (h : m.listing (m.afterPolls w n) = .ok ts) :
    m.filtered w (n + 1) = m.filtered w n ++ [m.filter.apply m.dialect ts] := by
  simp [filtered, listings_succ_ok h]

theorem filtered_succ_error {f : Fault} (h : m.listing (m.afterPolls w n) = .error f) :
    m.filtered w (n + 1) = m.filtered w n := by
  rw [filtered, listings_succ_error h, filtered]

theorem reports_succ_ok {ts : List Table} (h : m.listing (m.afterPolls w n) = .ok ts) :
    m.reports w (n + 1) = m.reports w n ++ [m.poll.outcome (m.afterPolls w n)] := by
  simp [reports, List.range_succ, h, Except.toOption]

theorem reports_succ_error {f : Fault} (h : m.listing (m.afterPolls w n) = .error f) :
    m.reports w (n + 1) = m.reports w n := by
  simp [reports, List.range_succ, h, Except.toOption]

theorem snapshots_succ_same
    (h : (m.afterPolls w (n + 1)).published = (m.afterPolls w n).published) :
    m.snapshots w (n + 1) = m.snapshots w n := by
  simp [snapshots, List.range_succ, h]

theorem snapshots_succ_other {s : Snapshot}
    (h : (m.afterPolls w (n + 1)).published ≠ (m.afterPolls w n).published)
    (hs : (m.afterPolls w (n + 1)).snapshot = some s) :
    m.snapshots w (n + 1) = m.snapshots w n ++ [s] := by
  simp [snapshots, List.range_succ, h, hs]

end Succ

/-! ## What follows from the listings -/

theorem tables_map_ofTables (o : Option (List Table)) :
    (o.map Snapshot.ofTables).map (·.tables) = o := by
  cases o <;> rfl

section Fresh

variable {m : Monitor} {w : Watch} (fresh : w.snapshot = none)
include fresh

/-- A history reaches its states with the newest of its listings. -/
theorem reachable_afterPolls (n : Nat) :
    m.Reachable (m.listings w n).getLast? (m.afterPolls w n) := by
  induction n with
  | zero => exact .fresh fresh
  | succ n ih =>
    have hpoll := ih.poll
    cases hl : m.listing (m.afterPolls w n) with
    | error f =>
      rw [hl] at hpoll
      rw [listings_succ_error hl]
      exact hpoll
    | ok ts =>
      rw [hl] at hpoll
      rw [listings_succ_ok hl, List.getLast?_concat]
      exact hpoll

theorem snapshot_afterPolls (n : Nat) :
    (m.afterPolls w n).snapshot = (m.filtered w n).getLast?.map Snapshot.ofTables := by
  rw [(reachable_afterPolls fresh n).snapshot, filtered, List.getLast?_map, Option.map_map]
  rfl

/-- A poll whose listing succeeds tells whether another one was published. -/
theorem outcome_of_listing {n : Nat} {ts : List Table} (h : m.listing (m.afterPolls w n) = .ok ts) :
    m.poll.outcome (m.afterPolls w n) = .ok (decide (∃ old,
      (m.filtered w n).getLast? = some old ∧ old ≠ m.filter.apply m.dialect ts)) := by
  have hsnap := snapshot_afterPolls (m := m) fresh n
  obtain ⟨hsame, -, -, hr⟩ | ⟨hother, -, -, hr⟩ := poll_of_ok h
  · rw [hsnap, tables_map_ofTables] at hsame
    simp [hr, hsame]
  · rw [hsnap, tables_map_ofTables] at hother
    rw [hr, hsnap]
    cases hlast : (m.filtered w n).getLast? with
    | none => simp
    | some old =>
      rw [hlast] at hother
      simpa using fun hold => hother (congrArg some hold)

/-- **The published snapshots are those of the listings, without repetitions in a row.** -/
theorem snapshots_eq (n : Nat) :
    m.snapshots w n = ((m.filtered w n).destutter (· ≠ ·)).map Snapshot.ofTables := by
  induction n with
  | zero => rfl
  | succ n ih =>
    have hsnap := snapshot_afterPolls (m := m) fresh n
    cases hl : m.listing (m.afterPolls w n) with
    | error f =>
      obtain ⟨-, h, -⟩ := poll_of_error hl
      rw [filtered_succ_error hl, snapshots_succ_same h, ih]
    | ok ts =>
      rw [filtered_succ_ok hl, destutter_concat, List.map_append, ← ih]
      obtain ⟨hsame, -, h, -⟩ | ⟨hother, hnew, h, -⟩ := poll_of_ok hl
      · rw [hsnap, tables_map_ofTables] at hsame
        rw [snapshots_succ_same h, if_pos hsame, List.map_nil, List.append_nil]
      · rw [hsnap, tables_map_ofTables] at hother
        have hcount :
            (m.poll.after (m.afterPolls w n)).published ≠ (m.afterPolls w n).published := by
          omega
        rw [snapshots_succ_other hcount hnew, if_neg hother, List.map_singleton]

/-- **The polls that report a change are those with another listing than the one before.** -/
theorem reports_eq (n : Nat) : m.reports w n = (changes (m.filtered w n)).map .ok := by
  induction n with
  | zero => rfl
  | succ n ih =>
    cases hl : m.listing (m.afterPolls w n) with
    | error f => rw [filtered_succ_error hl, reports_succ_error hl, ih]
    | ok ts =>
      rw [filtered_succ_ok hl, reports_succ_ok hl, ih, changes_concat, List.map_append,
        outcome_of_listing fresh hl, List.map_singleton]

end Fresh

/-! ## Histories -/

/-- **The history of polls.** After any number of polls the newest listing that succeeded is
published, filtered and grouped, and nothing if there is none. A poll reports a change if its
listing succeeded and what passes the filter is not what passed of the listing before. Two histories
with the same listings, between which other polls may have failed, publish and report the same. -/
theorem poll_history (m : Monitor) (w : Watch) (fresh : w.snapshot = none) (n : Nat) :
    ((m.afterPolls w n).snapshot = none ↔ m.listings w n = []) ∧
    (∀ ts, (m.listings w n).getLast? = some ts →
      (m.afterPolls w n).snapshot = some (.ofTables (m.filter.apply m.dialect ts))) ∧
    (m.poll.outcome (m.afterPolls w n) = .ok true ↔
      ∃ ts old, m.listing (m.afterPolls w n) = .ok ts ∧ (m.listings w n).getLast? = some old ∧
        m.filter.apply m.dialect old ≠ m.filter.apply m.dialect ts) ∧
    ∀ (w' : Watch) (n' : Nat), w'.snapshot = none → m.listings w' n' = m.listings w n →
      m.snapshots w' n' = m.snapshots w n ∧ m.reports w' n' = m.reports w n := by
  have hsnap := snapshot_afterPolls (m := m) fresh n
  refine ⟨?_, fun ts h => ?_, ⟨fun h => ?_, ?_⟩, fun w' n' fresh' h => ?_⟩
  · rw [hsnap, Option.map_eq_none_iff, List.getLast?_eq_none_iff, filtered, List.map_eq_nil_iff]
  · rw [hsnap, filtered, List.getLast?_map, h]
    rfl
  · cases hl : m.listing (m.afterPolls w n) with
    | error f =>
      obtain ⟨-, -, hr⟩ := poll_of_error hl
      exact absurd h hr
    | ok ts =>
      rw [outcome_of_listing fresh hl] at h
      obtain ⟨passed, hlast, hne⟩ := of_decide_eq_true (Except.ok.inj h)
      rw [filtered, List.getLast?_map, Option.map_eq_some_iff] at hlast
      obtain ⟨old, hold, rfl⟩ := hlast
      exact ⟨ts, old, rfl, hold, hne⟩
  · rintro ⟨ts, old, hl, hold, hne⟩
    rw [outcome_of_listing fresh hl]
    refine congrArg Except.ok (decide_eq_true ⟨m.filter.apply m.dialect old, ?_, hne⟩)
    rw [filtered, List.getLast?_map, hold]
    rfl
  · rw [snapshots_eq fresh, snapshots_eq fresh', reports_eq fresh, reports_eq fresh', filtered,
      filtered, h]
    exact ⟨rfl, rfl⟩

/-- Items appear while the connection breaks, and are noticed one poll later. -/
theorem poll_history_broken :
    let w := shopWatch [shopListing ["orders"], brokenListing, shopListing ["items", "orders"]]
    let w' := shopWatch [shopListing ["orders"], shopListing ["items", "orders"]]
    w.snapshot = none ∧ w'.snapshot = none ∧ shop.listings w' 2 = shop.listings w 3 ∧
      shop.poll.outcome (shop.afterPolls w 2) = .ok true ∧
      shop.snapshots w' 2 = shop.snapshots w 3 ∧ shop.reports w' 2 = shop.reports w 3 := by
  intro w w'
  have h : shop.listings w' 2 = shop.listings w 3 := by decide +kernel
  obtain ⟨-, -, hchange, -⟩ := poll_history shop w rfl 2
  obtain ⟨-, -, -, hsame⟩ := poll_history shop w rfl 3
  refine ⟨rfl, rfl, h, hchange.mpr ?_, hsame w' 2 rfl h⟩
  refine ⟨[⟨none, some "public", "items", by decide⟩, ⟨none, some "public", "orders", by decide⟩],
    [⟨none, some "public", "orders", by decide⟩], eq_ok_of_toOption ?_, ?_, ?_⟩ <;> decide +kernel

end TableDiscovery.Monitor
