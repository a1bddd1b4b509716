import Mathlib.Algebra.Ring.Nat
import TableDiscovery.Metrics.Basic
import TableDiscovery.Snapshot

/-!
# What metrics show

The metrics of a dialect are read through the numbers that they count and the sizes that they show.
They show a tally of polls and requests if all of them agree with it; each way to change the metrics
goes with one step of the tally.

* `Assoc.sum_alter`, `Histogram.count_observe`: a step up in a sum and in a histogram;
* `Metrics.polled`, `Metrics.pollsOf`, `Metrics.timed`, `Metrics.requested`: what is read;
* `Tally`, `Metrics.Shows`: what there is to count, and metrics that agree with it;
* `Metrics.Shows.addPoll`, `Metrics.Shows.publish`, `Metrics.Shows.addRequest`: the steps.
-/

namespace TableDiscovery

namespace Assoc

variable {α β : Type} [DecidableEq α]

theorem get?_alter (m : Assoc α β) (key : α) (start : β) (f : β → β) (k : α) :
    (m.alter key start f).get? k =
      if key = k then some (f ((m.get? key).getD start)) else m.get? k := get?_put ..

/-- The sum of the values of some keys goes up with the value of one of them. -/
theorem sum_alter (m : Assoc α Nat) {P : α → Bool} {key : α} (hkey : P key = true) :
    (((m.alter key 0 (· + 1)).filter (P ·.1)).map (·.2)).sum =
      ((m.filter (P ·.1)).map (·.2)).sum + 1 := by
  unfold alter
  induction m with
  | nil => simp [put, get?, hkey]
  | cons p rest ih =>
    obtain ⟨k, v⟩ := p
    by_cases h : k = key
    · subst h
      simp only [put, get?, if_true, List.filter_cons, hkey, List.map_cons, List.sum_cons,
        Option.getD_some]
      omega
    · simp only [put, get?, if_neg h, List.filter_cons]
      cases P k with
      | true =>
        simp only [if_true, List.map_cons, List.sum_cons, ih]
        omega
      | false => simpa using ih

end Assoc

namespace Histogram

variable {h : Histogram} {x : Float}

theorem sum_modify {l : List Nat} {i : Nat} (hi : i < l.length) :
    (l.modify i (· + 1)).sum = l.sum + 1 := by
  induction l generalizing i with
  | nil => cases hi
  | cons n l ih =>
    cases i with
    | zero =>
      simp only [List.modify_zero_cons, List.sum_cons]
      omega
    | succ i =>
      have hrest := ih (Nat.lt_of_succ_lt_succ hi)
      simp only [List.modify_succ_cons, List.sum_cons, hrest]
      omega

/-- A histogram has a bucket for each bound, and a last one. -/
def Complete (h : Histogram) : Prop := h.counts.length = bounds.length + 1

theorem Complete.observe (hh : h.Complete) : (h.observe x).Complete := by
  rw [Complete, Histogram.observe]
  split
  · exact hh
  · rw [List.length_modify]
    exact hh

/-- **An observation that is a number is counted once.** -/
theorem count_observe (hh : h.Complete) (hx : x.isNaN = false) :
    (h.observe x).count = h.count + 1 := by
  have hbucket : bucketOf x < h.counts.length := by
    rw [hh]
    exact Nat.lt_succ_of_le List.findIdx_le_length
  simp only [count, Histogram.observe, hx, Bool.false_eq_true, if_false, ← List.sum_eq_foldl]
  exact sum_modify hbucket

end Histogram

/-- What there is to count: the polls that returned, the snapshots that were published, the polls
that failed transiently, and the requests that the host has taken. -/
structure Tally where
  returned : Nat := 0
  published : Nat := 0
  failed : Nat := 0
  served : Nat := 0
deriving DecidableEq, Repr

namespace Metrics

variable {o : Metrics} {name status : String} {x : Float} {t : Tally} {s : Option Snapshot}

/-- The number of polls of a dialect, whatever their outcome. -/
def polled (o : Metrics) (dialect : String) : Nat :=
  ((o.polls.filter (·.1.1 = dialect)).map (·.2)).sum

/-- The number of polls of a dialect with an outcome. -/
def pollsOf (o : Metrics) (dialect status : String) : Nat :=
  (Assoc.get? o.polls (dialect, status)).getD 0

/-- The number of durations of polls of a dialect. -/
def timed (o : Metrics) (dialect : String) : Nat :=
  ((Assoc.get? o.durations dialect).map (·.count)).getD 0

/-- The number of reconfiguration requests for a dialect. -/
def requested (o : Metrics) (dialect : String) : Nat :=
  (Assoc.get? o.requests dialect).getD 0

/-- The metrics of a dialect agree with a tally and with what is published. -/
structure Shows (o : Metrics) (dialect : String) (t : Tally) (s : Option Snapshot) : Prop where
  polls : o.polled dialect = t.returned
  durations : o.timed dialect = t.returned
  changed : o.pollsOf dialect "changed" = t.published
  failed : o.pollsOf dialect "failed" = t.failed
  tables : Assoc.get? o.tables dialect = s.map fun s => Float.ofNat s.tables.length
  duplicates : Assoc.get? o.duplicates dialect = s.map fun s => Float.ofNat s.duplicates.length
  requests : o.requested dialect = t.served
  fewer : o.requested dialect ≤ o.pollsOf dialect "changed" - 1
  shown : s.isSome = true ↔ 0 < t.published
  complete : ∀ h, Assoc.get? o.durations dialect = some h → h.Complete

/-- Metrics without entries show that nothing has happened. -/
theorem shows_empty (dialect : String) : ({ } : Metrics).Shows dialect { } none where
  polls := rfl
  durations := rfl
  changed := rfl
  failed := rfl
  tables := rfl
  duplicates := rfl
  requests := rfl
  fewer := Nat.le_refl 0
  shown := by decide
  complete := nofun

/-! ## What a change does to what is read -/

theorem polled_addPoll (o : Metrics) (dialect status : String) (x : Float) :
    (o.addPoll dialect status x).polled dialect = o.polled dialect + 1 :=
  Assoc.sum_alter o.polls (P := fun k => decide (k.1 = dialect)) (decide_eq_true rfl)

theorem pollsOf_addPoll (o : Metrics) (dialect status status' : String) (x : Float) :
    (o.addPoll dialect status x).pollsOf dialect status' =
      o.pollsOf dialect status' + if status = status' then 1 else 0 := by
  rw [pollsOf, addPoll, Assoc.get?_alter]
  by_cases h : status = status'
  · subst h
    simp [pollsOf]
  · simp [pollsOf, h]

theorem complete_addPoll (hs : ∀ h, Assoc.get? o.durations name = some h → h.Complete)
    (status : String) (x : Float) :
    ∀ h, Assoc.get? (o.addPoll name status x).durations name = some h → h.Complete := by
  intro h hh
  rw [addPoll, Assoc.get?_alter, if_pos rfl] at hh
  cases hh
  refine Histogram.Complete.observe ?_
  cases hold : Assoc.get? o.durations name with
  | none => rfl
  | some h => exact hs h hold

theorem timed_addPoll (hs : ∀ h, Assoc.get? o.durations name = some h → h.Complete)
    (hx : x.isNaN = false) : (o.addPoll name status x).timed name = o.timed name + 1 := by
  rw [timed, addPoll, Assoc.get?_alter, if_pos rfl, timed]
  cases hold : Assoc.get? o.durations name with
  | none => exact Histogram.count_observe rfl hx
  | some h => exact Histogram.count_observe (hs h hold) hx

theorem requested_addRequest (o : Metrics) (dialect : String) :
    (o.addRequest dialect).requested dialect = o.requested dialect + 1 := by
  rw [requested, Metrics.addRequest, Assoc.get?_alter, if_pos rfl]
  rfl

section SetSizes

variable (o : Metrics) (name dialect status : String) (tables duplicates : Nat)

@[simp] theorem polled_setSizes :
    (o.setSizes name tables duplicates).polled dialect = o.polled dialect := rfl

@[simp] theorem timed_setSizes :
    (o.setSizes name tables duplicates).timed dialect = o.timed dialect := rfl

@[simp] theorem pollsOf_setSizes :
    (o.setSizes name tables duplicates).pollsOf dialect status = o.pollsOf dialect status := rfl

end SetSizes

/-! ## Steps -/

namespace Shows

/-- A poll that publishes nothing is counted. -/
theorem addPoll (h : o.Shows name t s) (status : String) (hstatus : status ≠ "changed")
    (hx : x.isNaN = false) :
    (o.addPoll name status x).Shows name
      { t with
        returned := t.returned + 1
        failed := t.failed + if status = "failed" then 1 else 0 } s where
  polls := by rw [polled_addPoll, h.polls]
  durations := by rw [timed_addPoll h.complete hx, h.durations]
  changed := by rw [pollsOf_addPoll, h.changed, if_neg hstatus, Nat.add_zero]
  failed := by rw [pollsOf_addPoll, h.failed]
  tables := h.tables
  duplicates := h.duplicates
  requests := h.requests
  fewer := by
    rw [pollsOf_addPoll, if_neg hstatus, Nat.add_zero]
    exact h.fewer
  shown := h.shown
  complete := complete_addPoll h.complete status x

/-- A poll that publishes a snapshot is counted, and the sizes of the snapshot are shown. -/
theorem publish (h : o.Shows name t s) (u : Snapshot) (hx : x.isNaN = false) :
    ((o.addPoll name "changed" x).setSizes name u.tables.length u.duplicates.length).Shows name
      { t with returned := t.returned + 1, published := t.published + 1 } (some u) where
  polls := by rw [polled_setSizes, polled_addPoll, h.polls]
  durations := by rw [timed_setSizes, timed_addPoll h.complete hx, h.durations]
  changed := by rw [pollsOf_setSizes, pollsOf_addPoll, h.changed, if_pos rfl]
  failed := by rw [pollsOf_setSizes, pollsOf_addPoll, h.failed, if_neg (by decide), Nat.add_zero]
  tables := by
    rw [setSizes, Assoc.get?_put, if_pos rfl]
    rfl
  duplicates := by
    rw [setSizes, Assoc.get?_put, if_pos rfl]
    rfl
  requests := h.requests
  fewer := by
    have hfewer := h.fewer
    rw [pollsOf_setSizes, pollsOf_addPoll, if_pos rfl]
    change o.requested name ≤ o.pollsOf name "changed" + 1 - 1
    omega
  shown := by simp
  complete := complete_addPoll h.complete "changed" x

/-- A request is counted. Each comes after the publication of a snapshot in the place of another. -/
theorem addRequest (h : o.Shows name t s) (hmore : t.served + 1 < t.published) :
    (o.addRequest name).Shows name { t with served := t.served + 1 } s where
  polls := h.polls
  durations := h.durations
  changed := h.changed
  failed := h.failed
  tables := h.tables
  duplicates := h.duplicates
  requests := by rw [requested_addRequest, h.requests]
  fewer := by
    have hchanged := h.changed
    have hrequests := h.requests
    rw [requested_addRequest]
    change o.requested name + 1 ≤ o.pollsOf name "changed" - 1
    omega
  shown := h.shown
  complete := h.complete

end Shows

end Metrics

end TableDiscovery
