import TableDiscovery.Proofs.Assignment
import TableDiscovery.Proofs.Connector.Reachable
import TableDiscovery.Proofs.Json.Room
import TableDiscovery.Proofs.Monitor.Tables

/-!
# Settings of tasks

A started connector cuts the published tables into slices, one for each task. The settings of a task
are those of the connector with the names of its tables.

* `outcome_taskGroups`, `outcome_taskSettings_tables`: what comes of a published snapshot;
* `outcome_taskSettings_long`: a number of tasks that cannot be written;
* `outcome_taskSettings_query`: a query takes one task;
* `get?_taskProps`: the settings of a task;
* **`taskSettings_slices`**: every table goes to one task, and nothing else is changed.
-/

namespace TableDiscovery.Connector

open Act Assignment Snapshot

variable {c : Connector} {m : Monitor} {s : Settings} {d : Dialect} {maxTasks : Int}

/-- The settings of a task, key by key. -/
theorem get?_taskProps (s : Settings) (tables key : String) :
    Assoc.get? (taskProps s tables) key =
      if key = tablesKey then some (some tables) else Assoc.get? s.props key := by
  rw [taskProps, Assoc.get?_put]
  simp only [eq_comm]

/-- Texts can be added to a span. -/
theorem outcome_addAttributes {attributes : List (String × Json)} {s : Site}
    (htexts : ∀ room, (Tracing.texts room attributes).2 = none) :
    (Tracing.addAttributes attributes).outcome s = .ok () := by
  have haside : Meets s.Aside (fun _ => False) (Tracing.addAttributes attributes) :=
    aside_addAttributes.mono fun f hf => by cases (htexts _).symm.trans hf
  obtain ⟨_, hout⟩ := haside.returns (.refl s)
  exact hout

/-- The groups of the tables that a reader gets. -/
theorem outcome_taskGroups (m : Monitor) (maxTasks : Int) (c : Connector) :
    (taskGroups m maxTasks).outcome c =
      (m.tables.outcome c.toWatch >>= fun ts => assign ts maxTasks false) := by
  rw [taskGroups, outcome_bind, outcome_liftWatch]
  cases m.tables.outcome c.toWatch with
  | error f => rfl
  | ok ts =>
    dsimp only
    rw [outcome_bind, outcome_ofExcept]
    cases hgs : assign ts maxTasks false with
    | error f => exact hgs.symm
    | ok gs =>
      dsimp only
      rw [outcome_bind, outcome_liftSite, outcome_addAttributes fun _ => rfl]
      exact hgs.symm

theorem outcome_taskSettings_query (hs : c.settings = some s) (hm : c.monitor = some m)
    (hd : c.dialect = some d) (hq : s.queryMode = true) :
    (taskSettings maxTasks).outcome c = .ok [taskProps s ""] := by
  rw [taskSettings, outcome_bind]
  simp only [outcome_get, after_get, hs, hm, hd, hq, if_true]
  rw [outcome_bind, outcome_liftSite, outcome_log]
  rfl

/-- A span can be told a number of tasks that is short. -/
theorem untold?_maxTasks (room : Nat) :
    Tracing.untold? room [("max_tasks", .int maxTasks)] =
      if maxTasks.natAbs < Nat.pow 10 Text.maxDigits then none else some .tooManyDigits := by
  have hchecked : Tracing.untold? room [("max_tasks", .int maxTasks)] =
      (Tracing.texts room [("max_tasks", .int maxTasks)]).2 := rfl
  rw [hchecked, Tracing.texts]
  by_cases hshort : maxTasks.natAbs < Nat.pow 10 Text.maxDigits
  · rw [if_pos hshort, Json.display?_int hshort]
    rfl
  · rw [if_neg hshort, Json.display?_int_of_le hshort]
    rfl

/-- The settings of tasks come from what a reader gets, if their number can be written. -/
theorem outcome_taskSettings_tables (hs : c.settings = some s) (hm : c.monitor = some m)
    (hd : c.dialect = some d) (hq : s.queryMode = false)
    (hshort : maxTasks.natAbs < Nat.pow 10 Text.maxDigits) :
    (taskSettings maxTasks).outcome c =
      (m.tables.outcome c.toWatch >>= fun ts => assign ts maxTasks false).map fun gs =>
        gs.map fun g => taskProps s (d.renderList g) := by
  obtain ⟨hopen, haside⟩ :=
    enter_views "task_configs" .inner [("max_tasks", .int maxTasks)] c.toSite
  rw [untold?_maxTasks, if_pos hshort, ← outcome_liftSite (c := c)] at hopen
  have hclose (leave : Span → Span) (t : Connector) :
      outcome (liftM (Tracing.closeSpan leave) : Act Connector Unit) t = .ok () :=
    (outcome_liftSite ..).trans (outcome_closeSpan ..)
  obtain ⟨htraced, -⟩ := traced_views (x := taskGroups m maxTasks) hopen hclose
  rw [after_liftSite] at htraced
  generalize (Tracing.enter _ _ _).after c.toSite = t at htraced haside
  -- the span leaves what is published as it is
  have hread : m.tables.outcome (c.toWatch.onSite t) = m.tables.outcome c.toWatch :=
    Monitor.outcome_tables_congr rfl haside.script
  have hgroups := htraced.trans (outcome_taskGroups ..)
  rw [show (c.onSite t).toWatch = c.toWatch.onSite t from rfl, hread] at hgroups
  rw [taskSettings, outcome_bind]
  simp only [outcome_get, after_get, hs, hm, hd, hq, Bool.false_eq_true, if_false]
  rw [outcome_bind, hgroups]
  cases m.tables.outcome c.toWatch >>= fun ts => assign ts maxTasks false with
  | error f => rfl
  | ok gs =>
    dsimp only
    rw [outcome_bind, outcome_liftSite, outcome_log]
    rfl

/-- The settings of the tasks of these groups. -/
theorem outcome_taskSettings {ts : List Table} {gs : List (List Table)}
    (hs : c.settings = some s) (hm : c.monitor = some m) (hd : c.dialect = some d)
    (hq : s.queryMode = false) (hshort : maxTasks.natAbs < Nat.pow 10 Text.maxDigits)
    (hts : m.tables.outcome c.toWatch = .ok ts) (hgs : assign ts maxTasks false = .ok gs) :
    (taskSettings maxTasks).outcome c = .ok (gs.map fun g => taskProps s (d.renderList g)) := by
  rw [outcome_taskSettings_tables hs hm hd hq hshort, hts]
  exact congrArg (Except.map _) hgs

/-- A number of tasks that cannot be written is not put on the span, and the tables are not even
looked at. -/
theorem outcome_taskSettings_long (hs : c.settings = some s) (hm : c.monitor = some m)
    (hd : c.dialect = some d) (hq : s.queryMode = false)
    (hlong : ¬ maxTasks.natAbs < Nat.pow 10 Text.maxDigits) :
    (taskSettings maxTasks).outcome c = .error .tooManyDigits := by
  obtain ⟨hopen, -⟩ := enter_views "task_configs" .inner [("max_tasks", .int maxTasks)] c.toSite
  rw [untold?_maxTasks, if_neg hlong, ← outcome_liftSite (c := c)] at hopen
  rw [taskSettings, outcome_bind]
  simp only [outcome_get, after_get, hs, hm, hd, hq, Bool.false_eq_true, if_false]
  rw [outcome_bind, Tracing.traced, outcome_bind, hopen]
  rfl

/-- **The settings of the tasks.** A started connector without a query gives as many tasks their
settings as are asked for, or as there are tables, if the number that is asked for can be written.
The published tables are cut into as many slices. The settings of a task are those of the connector,
but for the key under which it finds the names of its slice. A number with too many digits is
refused. -/
theorem taskSettings_slices (hc : c.Reachable) (hs : c.settings = some s)
    (hm : c.monitor = some m) (hd : c.dialect = some d) (hq : s.queryMode = false)
    {snap : Snapshot} (hsnap : c.snapshot = some snap) (hnames : (names snap.tables).Nodup)
    (hk : 1 ≤ maxTasks) :
    (maxTasks.natAbs < Nat.pow 10 Text.maxDigits →
      ∃ slices maps, (taskSettings maxTasks).outcome c = .ok maps ∧
        maps.length = min maxTasks.toNat snap.tables.length ∧
        slices.length = maps.length ∧ Slices snap.tables slices ∧
        ∀ i, ∀ (hi : i < maps.length) (hi' : i < slices.length),
          Assoc.get? maps[i] tablesKey = some (some (d.renderList slices[i])) ∧
          ∀ key, key ≠ tablesKey → Assoc.get? maps[i] key = Assoc.get? s.props key) ∧
    (Nat.pow 10 Text.maxDigits ≤ maxTasks.natAbs →
      (taskSettings maxTasks).outcome c = .error .tooManyDigits) := by
  refine ⟨fun hshort => ?_, fun hlong =>
    outcome_taskSettings_long hs hm hd hq (Nat.not_lt_of_le hlong)⟩
  obtain ⟨newest, hreach⟩ := hc.follows m hm
  obtain ⟨listed, -, rfl⟩ := Option.map_eq_some_iff.mp (hreach.snapshot.symm.trans hsnap)
  have hts := (Monitor.outcome_tables_some (m := m) hsnap).trans (if_pos hnames)
  obtain ⟨slices, hassign, hlength, hslices⟩ := assign_spec _ hk
  refine ⟨slices, _, outcome_taskSettings hs hm hd hq hshort hts hassign, ?_, ?_, hslices, ?_⟩
  · rw [List.length_map, hlength]
    rfl
  · rw [List.length_map]
  · intro i hi hi'
    rw [List.getElem_map]
    refine ⟨?_, fun key hkey => ?_⟩
    · rw [get?_taskProps, if_pos rfl]
    · rw [get?_taskProps, if_neg hkey]

/-- Settings for a shop's database, with a key that tasks find their tables under. -/
def shopProps : Props :=
  [("connection.url", some "postgresql://db/shop"), ("connection.attempts", some "1"),
    ("connection.backoff.ms", some "0"), ("tables", some "all of them")]

/-- The connector of the shop after its start. -/
def shopConnector : Connector :=
  (start shopProps).after
    { toWatch := Monitor.shopWatch [Monitor.shopListing ["items", "orders", "users"]] }

/-- Three tables for two tasks. -/
theorem taskSettings_slices_shop :
    shopConnector.Reachable ∧ shopConnector.settings.map (·.queryMode) = some false ∧
      shopConnector.monitor.isSome ∧
      shopConnector.dialect =
        some ⟨.postgres, "postgresql://db/shop", none, none, ["TABLE"], none⟩ ∧
      shopConnector.snapshot.map (names ·.tables) = some ["items", "orders", "users"] ∧
      ∃ snap slices maps, shopConnector.snapshot = some snap ∧ (names snap.tables).Nodup ∧
        (taskSettings 2).outcome shopConnector = .ok maps ∧ maps.length = 2 ∧
        slices.length = 2 ∧ Slices snap.tables slices := by
  have hreach : shopConnector.Reachable := .start shopProps (.fresh rfl rfl rfl rfl)
  have hquery : shopConnector.settings.map (·.queryMode) = some false := by decide +kernel
  have hmonitor : shopConnector.monitor.isSome := by decide +kernel
  have hdialect : shopConnector.dialect =
      some ⟨.postgres, "postgresql://db/shop", none, none, ["TABLE"], none⟩ := by decide +kernel
  have hnames :
      shopConnector.snapshot.map (names ·.tables) = some ["items", "orders", "users"] := by
    decide +kernel
  obtain ⟨s, hs, hq⟩ := Option.map_eq_some_iff.mp hquery
  obtain ⟨m, hm⟩ := Option.isSome_iff_exists.mp hmonitor
  obtain ⟨snap, hsnap, htables⟩ := Option.map_eq_some_iff.mp hnames
  have hnodup : (names snap.tables).Nodup := by
    rw [htables]
    decide
  have hlength : snap.tables.length = 3 := by
    have := congrArg List.length htables
    simpa [names] using this
  obtain ⟨slices, maps, hout, hmaps, hslices, hcut, -⟩ :=
    (taskSettings_slices hreach hs hm hdialect hq hsnap hnodup (show 1 ≤ (2 : Int) by decide)).1
      (by decide +kernel)
  rw [hlength] at hmaps
  exact ⟨hreach, hquery, hmonitor, hdialect, hnames, snap, slices, maps, hsnap, hnodup, hout, hmaps,
    hslices.trans hmaps, hcut⟩

/-- No table is looked at for a number of tasks with 4301 digits. -/
theorem taskSettings_overlong :
    shopConnector.snapshot.map (names ·.tables) = some ["items", "orders", "users"] ∧
      (taskSettings (Nat.pow 10 Text.maxDigits)).outcome shopConnector = .error .tooManyDigits := by
  have hquery : shopConnector.settings.map (·.queryMode) = some false := by decide +kernel
  have hmonitor : shopConnector.monitor.isSome := by decide +kernel
  have hdialect : shopConnector.dialect =
      some ⟨.postgres, "postgresql://db/shop", none, none, ["TABLE"], none⟩ := by decide +kernel
  obtain ⟨s, hs, hq⟩ := Option.map_eq_some_iff.mp hquery
  obtain ⟨m, hm⟩ := Option.isSome_iff_exists.mp hmonitor
  refine ⟨by decide +kernel, outcome_taskSettings_long hs hm hdialect hq ?_⟩
  rw [Int.natAbs_natCast]
  exact Nat.lt_irrefl _

end TableDiscovery.Connector
