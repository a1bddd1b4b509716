import TableDiscovery.Proofs.Connector.Running
import TableDiscovery.Proofs.Dialect.NameList

/-!
# Queries

A query takes one task, which finds the empty text in place of its tables. Whether there is a query
is decided in several places: by the settings, by the filter, which lets no table pass then, by the
connector, which does not ask its monitor then, and by the plan. All of them agree, and no task with
tables is taken for one with a query, since a list of names is never the empty text.

* `Watch.Vacant`: at most the empty set is published, and the host has been asked so often;
* **`keeps_vacant`**: a monitor whose filter lets no table pass keeps this;
* `runs_start_query`, `runs_use_query`: a connector that runs a query keeps it as well;
* **`text_of_taskSettings`**: without a query each task finds tables;
* **`lines_queryMark_iff`**: the plan marks a query and nothing else;
* **`queryMode_closed`**: all of this together.
-/

namespace TableDiscovery

open Act

/-! ## Monitors whose filter lets no table pass -/

/-- Nothing is published but the empty set, if anything, and the host has been asked for
reconfiguration `k` times. -/
structure Watch.Vacant (k : Nat) (w : Watch) : Prop where
  snapshot : ∀ snap, w.snapshot = some snap → snap = .ofTables []
  requests : w.host.requests = k

section Vacant

variable {k : Nat} {m : Monitor} {w v : Watch}

theorem Watch.Vacant.beside (h : w.Vacant k) (hb : w.Beside v) : v.Vacant k :=
  ⟨fun snap hsnap => h.snapshot snap (hb.snapshot.symm.trans hsnap), hb.host ▸ h.requests⟩

/-- A poll of such a monitor changes nothing that was published before. -/
theorem vacant_poll (hm : ∀ ts, m.filter.apply m.dialect ts = []) (hw : w.Vacant k) :
    (m.poll.after w).Vacant k ∧ m.poll.outcome w ≠ .ok true := by
  have hrequests : (m.poll.after w).host.requests = k :=
    (congrArg Host.requests (Monitor.poll_host m w)).trans hw.requests
  have hsame (h : (m.poll.after w).snapshot = w.snapshot) : (m.poll.after w).Vacant k :=
    ⟨fun snap hsnap => hw.snapshot snap (h.symm.trans hsnap), hrequests⟩
  have hends := Monitor.poll_ends m w
  generalize m.listing w = l at hends
  generalize m.poll.outcome w = r at hends
  cases hends with
  | passed _ h => exact ⟨hsame h, nofun⟩
  | skipped _ h _ hfalse => exact ⟨hsame h, fun hr => by cases hfalse true hr⟩
  | kept _ h => exact ⟨hsame h, nofun⟩
  | replaced hother h =>
    rw [hm] at hother h
    refine ⟨⟨fun snap hsnap => (Option.some.inj (h.symm.trans hsnap)).symm, hrequests⟩, ?_⟩
    cases hsnap : w.snapshot with
    | none => nofun
    | some snap =>
      -- the empty set cannot replace itself
      rw [hsnap, hw.snapshot snap hsnap] at hother
      exact (hother rfl).elim

/-- **A monitor whose filter lets no table pass** never publishes any, and never asks for a
reconfiguration. -/
theorem keeps_vacant (hm : ∀ ts, m.filter.apply m.dialect ts = []) :
    m.Keeps (Watch.Vacant k) (fun _ => True) where
  beside _ _ := Watch.Vacant.beside
  turn w hw := by
    obtain ⟨hpoll, hfalse⟩ := vacant_poll hm hw
    refine ⟨?_, fun _ _ => trivial⟩
    rw [Monitor.pollAndRequest, after_bind]
    cases hr : m.poll.outcome w with
    | error f => exact hpoll
    | ok changed =>
      cases changed with
      | false => exact hpoll
      | true => exact (hfalse hr).elim
  report f _ w hw := by
    have hnear := (near_reportError (E := fun _ => True) f w (.refl w)).1
    refine ⟨⟨fun snap hsnap => hw.snapshot snap (hnear.snapshot.symm.trans hsnap), ?_⟩,
      fun _ _ => trivial⟩
    rw [host_reportError]
    exact hw.requests

/-- Readers get no tables, or wait in vain, but find no duplicates. -/
theorem Watch.Vacant.tables (h : w.Vacant k) {f : Fault} (hf : m.tables.outcome w = .error f) :
    f.kind ≠ .duplicateTable := by
  cases hsnap : w.snapshot with
  | none =>
    cases hf.symm.trans (Monitor.outcome_tables_none hsnap)
    split <;> nofun
  | some snap =>
    obtain rfl := h.snapshot snap hsnap
    cases hf.symm.trans (Monitor.outcome_tables_some hsnap)

end Vacant

/-! ## Connectors that run a query -/

namespace Connector

/-- **A start with a query.** -/
theorem runs_start_query {p : Props} {c : Connector} (hp : p.SetsQuery)
    (hout : (start p).outcome c = .ok ()) :
    ∃ s d m, Settings.ofProps p = .ok s ∧ (∀ ts, m.filter.apply m.dialect ts = []) ∧
      Runs s d m (Watch.Vacant c.host.requests) ((start p).after c) := by
  have hd : c.dialect = none := by
    by_contra hd
    cases hout.symm.trans (start_of_held hd p).1
  obtain ⟨site, -, hstarts⟩ := start_spec hd p
  rw [hout] at hstarts
  generalize (start p).after c = e at hstarts
  cases hstarts with
  | @started s t d n v hread ht _ _ hv =>
    have hs := Settings.read_of_ofProps hread
    have hm := Settings.apply_of_queryMode hs ht (hs.queryMode_iff.mpr hp) d
    let m := s.monitor d t c.timeout
    have hbegun (q : Pool) : (c.toWatch.onPool q).begun.Vacant c.host.requests := ⟨nofun, rfl⟩
    have hstarted := (kept_start (m := m) (keeps_vacant hm) _
      (hbegun ((s.provider d).get.after { toSite := site }))).1
    exact ⟨s, d, m, hread, hm, rfl, rfl, rfl, hstarted.beside hv⟩

/-- No use but a stop ends this. -/
theorem runs_use_query {s : Settings} {d : Dialect} {m : Monitor} {k : Nat} {u : Use}
    (hm : ∀ ts, m.filter.apply m.dialect ts = []) (hstop : u ≠ .stop) :
    Meets (Runs s d m (Watch.Vacant k)) (fun _ => True) (use u) :=
  runs_use (keeps_vacant hm) (fun _ hw => ⟨(vacant_poll hm hw).1, fun _ _ => trivial⟩)
    (fun _ _ h => ⟨h.snapshot, h.requests⟩) hstop

/-! ## Tasks with tables -/

/-- **Without a query no task finds the empty text.** -/
theorem text_of_taskSettings {s : Settings} {c : Connector} {n : Int} {maps : List Props}
    (hs : c.settings = some s) (hq : s.queryMode = false)
    (h : (taskSettings n).outcome c = .ok maps) :
    ∀ map ∈ maps, ∃ text, Assoc.get? map tablesKey = some (some text) ∧ text ≠ "" := by
  cases hm : c.monitor with
  | none =>
    simp only [taskSettings, outcome_bind, outcome_get, after_get, hs, hm] at h
    cases h
  | some m =>
  cases hd : c.dialect with
  | none =>
    simp only [taskSettings, outcome_bind, outcome_get, after_get, hs, hm, hd] at h
    cases h
  | some d =>
  by_cases hshort : n.natAbs < Nat.pow 10 Text.maxDigits
  swap
  · cases (outcome_taskSettings_long hs hm hd hq hshort).symm.trans h
  rw [outcome_taskSettings_tables hs hm hd hq hshort] at h
  obtain ⟨gs, hgroups, rfl⟩ := ok_of_map h
  obtain ⟨ts, -, hassign⟩ := ok_of_bind hgroups
  intro map hmap
  obtain ⟨g, hg, rfl⟩ := List.mem_map.mp hmap
  refine ⟨d.renderList g, by rw [get?_taskProps, if_pos rfl], ?_⟩
  rw [Ne, Dialect.renderList_eq_empty_iff]
  exact Assignment.nonempty_of_assign hassign g hg

end Connector

/-! ## The plan -/

namespace Assignment

variable {gs : List (List Table)} {d : Dialect} {ts : List Table} {n : Int} {query : Bool}

/-- A group with tables is not marked as a query. -/
theorem taskText_renderList_iff {g : List Table} {delimiter : String} :
    taskText (d.renderList g delimiter) = queryMark ↔ g = [] := by
  by_cases hg : g = []
  · subst hg
    exact iff_of_true rfl rfl
  · have hne : d.renderList g delimiter ≠ "" := fun h => hg (Dialect.renderList_eq_empty_iff.mp h)
    rw [taskText, if_neg hne]
    refine iff_of_false (fun hmark => ?_) hg
    have hhead := Dialect.head?_renderList d hg delimiter
    rw [hmark] at hhead
    cases hsystem : d.system <;> rw [hsystem] at hhead <;> cases hhead

/-- **The plan marks the task of a query, and no other one.** -/
theorem lines_queryMark_iff (h : assign ts n query = .ok gs) (d : Dialect) {i : Nat}
    (hi : i < gs.length) :
    (lines gs d)[i]? = some ("task-" ++ toString i ++ ": " ++ queryMark) ↔ query = true := by
  rw [getElem?_lines d hi, Option.some.injEq, String.append_right_inj, taskText_renderList_iff]
  cases query with
  | true =>
    cases h.symm.trans (assign_query (one_le_of_assign h) ts)
    obtain rfl : i = 0 := by simpa using hi
    exact iff_of_true rfl rfl
  | false => exact iff_of_false (nonempty_of_assign h _ (List.getElem_mem hi)) nofun

end Assignment

/-! ## Queries from the settings to the tasks -/

namespace Connector

/-- **A query is a mode of its own.** Settings and filter agree on whether there is one. With a
query and without lists, however the loop of the monitor goes, nothing but the empty set is
published, the host is not asked for reconfiguration, and readers find no duplicates. The same holds
of a connector that has been started with a query, whatever use is made of it up to the next stop,
and it always gives one task, which finds the empty text. Without a query no task finds the empty
text. And the plan marks the task of a query, and no other one. -/
theorem queryMode_closed :
    (∀ p s t, Settings.ofProps p = .ok s → s.filter = .ok t →
      t.queryMode = s.queryMode ∧ (s.queryMode = true ↔ p.SetsQuery)) ∧
    (∀ p s, Settings.ofProps p = .ok s → p.SetsQuery → ¬ p.SetsList "table.whitelist" →
      ¬ p.SetsList "table.blacklist" → ∃ t, s.filter = .ok t ∧
        ∀ d timeout (w : Watch) n, w.snapshot = none →
          let m := s.monitor d t timeout
          let v := (m.run n).after w
          v.Vacant w.host.requests ∧
            ∀ f, m.tables.outcome v = .error f → f.kind ≠ .duplicateTable) ∧
    (∀ p (c : Connector) us, p.SetsQuery → (start p).outcome c = .ok () → .stop ∉ us →
      let e := afterAll use us ((start p).after c)
      e.toWatch.Vacant c.host.requests ∧
      (∃ m, e.monitor = some m ∧
        ∀ f, m.tables.outcome e.toWatch = .error f → f.kind ≠ .duplicateTable) ∧
      ∃ map, Assoc.get? map tablesKey = some (some "") ∧
        ∀ n, (taskSettings n).outcome e = .ok [map]) ∧
    (∀ p s (c : Connector) n maps, Settings.ofProps p = .ok s → ¬ p.SetsQuery →
      c.settings = some s → (taskSettings n).outcome c = .ok maps →
      ∀ map ∈ maps, ∃ text, Assoc.get? map tablesKey = some (some text) ∧ text ≠ "") ∧
    ∀ ts n query gs d, Assignment.assign ts n query = .ok gs → ∀ i < gs.length,
      ((Assignment.lines gs d)[i]? =
        some ("task-" ++ toString i ++ ": " ++ Assignment.queryMark) ↔ query = true) := by
  refine ⟨fun p s t hread ht => ?_, fun p s hread hp hallowed hdenied => ?_,
    fun p c us hp hout hstop => ?_, fun p s c n maps hread hp hs hout => ?_,
    fun ts n query gs d h i hi => Assignment.lines_queryMark_iff h d hi⟩
  · have hs := Settings.read_of_ofProps hread
    exact ⟨Settings.queryMode_filter hs ht, hs.queryMode_iff⟩
  · have hs := Settings.read_of_ofProps hread
    have hfree : ¬ p.Conflicting := by
      rintro (⟨h, -⟩ | ⟨h, -⟩ | ⟨h, -⟩)
      · exact hallowed h
      · exact hallowed h
      · exact hdenied h
    cases ht : s.filter with
    | error f => exact (hfree ((Settings.filter_eq_error_iff hs).mp ⟨f, ht⟩)).elim
    | ok t =>
      refine ⟨t, rfl, fun d timeout w n hnone => ?_⟩
      intro m v
      have hm := Settings.apply_of_queryMode hs ht (hs.queryMode_iff.mpr hp) d
      have hw : w.Vacant w.host.requests := ⟨fun snap h => (by cases hnone.symm.trans h), rfl⟩
      have hv := (kept_run (m := m) (keeps_vacant hm) n w hw).1
      exact ⟨hv, fun f => hv.tables⟩
  · obtain ⟨s, d, m, hread, hm, hstarted⟩ := runs_start_query hp hout
    have hused := afterAll_of_mem (fun u hu => runs_use_query hm fun h => hstop (h ▸ hu)) hstarted
    intro e
    refine ⟨hused.watch, ⟨m, hused.monitor, fun f => hused.watch.tables⟩, taskProps s "",
      by rw [get?_taskProps, if_pos rfl], fun n => ?_⟩
    have hq := (Settings.read_of_ofProps hread).queryMode_iff.mpr hp
    exact outcome_taskSettings_query hused.settings hused.monitor hused.dialect hq
  · have hq : s.queryMode = false := by
      rw [← Bool.not_eq_true, (Settings.read_of_ofProps hread).queryMode_iff]
      exact hp
    exact text_of_taskSettings hs hq hout

/-- A query on the shop's database, of which one poll fails. -/
theorem queryMode_closed_shop :
    let p : Props := ("query", some " select 1 ") :: shopProps
    let listings :=
      [Monitor.shopListing ["items"], Monitor.brokenListing, Monitor.shopListing ["items", "users"]]
    let c : Connector := { toWatch := Monitor.shopWatch listings }
    let us := [Use.tick, .poll, .taskSettings 0, .start p]
    let e := afterAll use us ((start p).after c)
    (p.SetsQuery ∧ (start p).outcome c = .ok () ∧ Use.stop ∉ us) ∧
      e.toWatch.Vacant 0 ∧ e.published = 1 ∧
      ∃ map, Assoc.get? map tablesKey = some (some "") ∧
        (taskSettings 0).outcome e = .ok [map] ∧ (taskSettings 7).outcome e = .ok [map] := by
  intro p listings c us e
  have hp : p.SetsQuery := by
    unfold Props.SetsQuery
    decide +kernel
  have hout : (start p).outcome c = .ok () := eq_ok_of_toOption (by decide +kernel)
  have hstop : Use.stop ∉ us := by simp [us]
  obtain ⟨-, -, hquery, -, -⟩ := queryMode_closed
  obtain ⟨hvacant, -, map, htext, htasks⟩ := hquery p c us hp hout hstop
  exact ⟨⟨hp, hout, hstop⟩, hvacant, by decide +kernel, map, htext, htasks 0, htasks 7⟩

end Connector

end TableDiscovery
