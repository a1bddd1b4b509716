import TableDiscovery.Proofs.Connector.Running
import TableDiscovery.Proofs.Monitor.Steady

/-!
# Connectors on a database that does not change

If the settings are well-formed, the connections are accepted and the listings are always the same,
what a connector comes to follows from its settings and the rows of the listing alone.

* `Settings.WellFormed`, `good_of_wellFormed`: settings with which a connection can be made;
* `Dialect.NamesTables`, `exists_tablesOfRows`: rows that all name tables;
* `Settings.shown`, `Settings.planned`: the tables that settings come to with such rows, and their
  groups;
* `shown_eq_ok`, `shown_eq_error`, `planned_of_shown`: how they come to them, or fail to;
* `start_of_unusable`, **`start_shows`**: a start fails, or the tables are shown after it;
* **`taskSettings_of_shows`**: then the tasks are those of an assignment of the tables.
-/

namespace TableDiscovery

open Act Snapshot

variable {p : Props} {s : Settings} {t : Filter} {d : Dialect} {m : Monitor} {f : Fault}
  {rows : List Dialect.Row} {ts tables : List Table}

/-! ## Settings and rows -/

/-- The URL can be read, with its port, and the delay between attempts is a number of seconds. -/
structure Settings.WellFormed (s : Settings) : Prop where
  url : ∃ u port, Url.parse s.url = .ok u ∧ u.port? = .ok port
  backoff : ∃ x, secondsOfMilliseconds s.backoff = .ok x

/-- **A connection can be made with well-formed settings.** -/
theorem good_of_wellFormed (hread : Settings.ofProps p = .ok s) (hwell : s.WellFormed)
    (ht : s.filter = .ok t) (hd : s.dialect = .ok d) : Connector.Good p s t d := by
  obtain ⟨u, port, hparse, hport⟩ := hwell.url
  obtain ⟨hsystem, hurl⟩ := Dialect.system_of_find hd
  have htarget := Dialect.exists_connectionString (hurl.symm ▸ hparse) hport
  have hattempts := (Settings.read_of_ofProps hread).one_le_attempts
  exact ⟨hread, ht, hd, ⟨hsystem, htarget⟩, hattempts, hwell.backoff⟩

/-- Each row has three columns at least, of which the third one is a name that is not empty. -/
def Dialect.NamesTables (rows : List Row) : Prop :=
  ∀ row ∈ rows, ∃ catalog schema name rest,
    row = catalog :: schema :: some name :: rest ∧ name ≠ ""

theorem Dialect.exists_tablesOfRows (h : NamesTables rows) (d : Dialect) :
    ∃ ts, d.tablesOfRows rows = .ok ts := by
  induction rows with
  | nil => exact ⟨[], rfl⟩
  | cons row rows ih =>
    obtain ⟨catalog, schema, name, rest, rfl, hname⟩ := h row List.mem_cons_self
    obtain ⟨ts, hts⟩ := ih fun row hrow => h row (List.mem_cons_of_mem _ hrow)
    have hrow : ∃ t, d.tableOfRow (catalog :: schema :: some name :: rest) = .ok t := by
      rw [tableOfRow, Option.getD_some, Table.of?, dif_pos hname]
      exact ⟨_, rfl⟩
    obtain ⟨t, ht⟩ := hrow
    refine ⟨t :: ts, ?_⟩
    rw [tablesOfRows] at hts
    rw [tablesOfRows, List.mapM_cons, ht, hts]
    rfl

/-- What settings come to with the rows of a listing: the dialect, and the tables that pass the
filter unless two of them share a name. -/
def Settings.shown (s : Settings) (rows : List Dialect.Row) :
    Except Fault (Dialect × List Table) := do
  let t ← s.filter
  let d ← s.dialect
  let ts ← d.tablesOfRows rows
  let tables := t.apply d ts
  if (names tables).Nodup then return (d, tables)
  else throw (.duplicateTables (ofTables tables).duplicates t.hint)

/-- What settings come to with the rows of a listing: the dialect, and the groups of the tables. -/
def Settings.planned (s : Settings) (rows : List Dialect.Row) :
    Except Fault (Dialect × List (List Table)) := do
  let (d, tables) ← s.shown rows
  return (d, ← Assignment.assign tables s.tasksMax s.queryMode)

theorem Settings.shown_of_tables (ht : s.filter = .ok t) (hd : s.dialect = .ok d)
    (hts : d.tablesOfRows rows = .ok ts) :
    s.shown rows = if (names (t.apply d ts)).Nodup then .ok (d, t.apply d ts)
      else .error (.duplicateTables (ofTables (t.apply d ts)).duplicates t.hint) := by
  rw [shown, ht]
  simp only [bind, Except.bind, hd, hts]
  split <;> rfl

theorem Settings.shown_eq_ok (h : s.shown rows = .ok (d, tables)) :
    ∃ t ts, s.filter = .ok t ∧ s.dialect = .ok d ∧ d.tablesOfRows rows = .ok ts ∧
      tables = t.apply d ts ∧ (names tables).Nodup := by
  obtain ⟨t, ht, h⟩ := ok_of_bind h
  obtain ⟨d', hd, h⟩ := ok_of_bind h
  obtain ⟨ts, hts, h⟩ := ok_of_bind h
  dsimp only at h
  split at h
  · cases h
    exact ⟨t, ts, ht, hd, hts, rfl, ‹_›⟩
  · cases h

/-- Settings are unusable: there is no filter, or no dialect for them. -/
def Settings.Unusable (s : Settings) (f : Fault) : Prop :=
  s.filter = .error f ∨ ∃ t, s.filter = .ok t ∧ s.dialect = .error f

theorem Settings.shown_eq_error (hrows : Dialect.NamesTables rows) (h : s.shown rows = .error f) :
    s.Unusable f ∨ ∃ t d ts, s.filter = .ok t ∧ s.dialect = .ok d ∧
      d.tablesOfRows rows = .ok ts ∧ ¬ (names (t.apply d ts)).Nodup ∧
      f = .duplicateTables (ofTables (t.apply d ts)).duplicates t.hint := by
  obtain ht | ⟨t, ht, h⟩ := error_of_bind h
  · exact .inl (.inl ht)
  obtain hd | ⟨d, hd, h⟩ := error_of_bind h
  · exact .inl (.inr ⟨t, ht, hd⟩)
  obtain hts | ⟨ts, hts, h⟩ := error_of_bind h
  · obtain ⟨ts, hsome⟩ := Dialect.exists_tablesOfRows hrows d
    cases hsome.symm.trans hts
  dsimp only at h
  split at h
  · cases h
  · cases h
    exact .inr ⟨t, d, ts, ht, hd, hts, ‹_›, rfl⟩

/-- **Tables that are shown can be planned**: as slices, or as the empty group of a query. -/
theorem Settings.planned_of_shown (hs : s.Read p) (h : s.shown rows = .ok (d, tables)) :
    ∃ gs, s.planned rows = .ok (d, gs) ∧ gs.flatten = tables ∧ (s.queryMode = true → gs = [[]]) ∧
      (s.queryMode = false → ∀ g ∈ gs, g ≠ []) := by
  obtain ⟨t, ts, ht, -, -, rfl, -⟩ := shown_eq_ok h
  have hplanned {gs : List (List Table)}
      (hgs : Assignment.assign (t.apply d ts) s.tasksMax s.queryMode = .ok gs) :
      s.planned rows = .ok (d, gs) := by
    rw [planned, h]
    simp only [bind, Except.bind, hgs]
    rfl
  cases hq : s.queryMode with
  | true =>
    rw [hq] at hplanned
    refine ⟨[[]], hplanned (Assignment.assign_query hs.one_le_tasksMax _), ?_, fun _ => rfl, nofun⟩
    exact (apply_of_queryMode hs ht hq d ts).symm
  | false =>
    rw [hq] at hplanned
    obtain ⟨gs, hgs, -, hslices⟩ := Assignment.assign_spec (t.apply d ts) hs.one_le_tasksMax
    exact ⟨gs, hplanned hgs, hslices.flatten, nofun, fun _ => hslices.nonempty⟩

/-- **Well-formed settings fail for reasons that the commands report.** -/
theorem isA_discovery_of_shown (hwell : s.WellFormed) (hrows : Dialect.NamesTables rows)
    (h : s.shown rows = .error f) : f.isA .discovery = true := by
  obtain (ht | ⟨t, -, hd⟩) | ⟨t, d, ts, -, -, -, -, rfl⟩ := Settings.shown_eq_error hrows h
  · rw [Fault.isA, Settings.kind_of_filter ht]
    rfl
  · obtain hkind | ⟨cause, hparse, -⟩ := Settings.fault_of_dialect hd
    · rw [Fault.isA, hkind]
      rfl
    · obtain ⟨u, -, hu, -⟩ := hwell.url
      cases hu.symm.trans hparse
  · rfl

namespace Connector

variable {c : Connector} {n : Int}

/-! ## Starts -/

/-- With unusable settings a start fails. -/
theorem start_of_unusable (hd : c.dialect = none) (hread : Settings.ofProps p = .ok s)
    (hs : s.Unusable f) : (start p).outcome c = .error f := by
  obtain ⟨site, -, hstarts⟩ := start_spec hd p
  generalize (start p).outcome c = r at hstarts
  generalize (start p).after c = e at hstarts
  cases hstarts with
  | refused hread' => cases hread'.symm.trans hread
  | conflicting hread' ht' =>
    cases hread'.symm.trans hread
    obtain ht | ⟨t, ht, -⟩ := hs
    · cases ht'.symm.trans ht
      rfl
    · cases ht'.symm.trans ht
  | unknown hread' ht' hdialect' =>
    cases hread'.symm.trans hread
    obtain ht | ⟨t, -, hdialect⟩ := hs
    · cases ht'.symm.trans ht
    · cases hdialect'.symm.trans hdialect
      rfl
  | unconnected hread' ht' hdialect' | started hread' ht' hdialect' =>
    cases hread'.symm.trans hread
    obtain ht | ⟨t, -, hdialect⟩ := hs
    · cases ht'.symm.trans ht
    · cases hdialect'.symm.trans hdialect

/-- **After a start with good settings the tables are shown**: its first poll has published them. -/
theorem start_shows (hd : c.dialect = none) (hp : Good p s t d) (hsteady : c.script.Steady rows)
    (hwoken : c.host.woken = false) (hts : d.tablesOfRows rows = .ok ts) :
    (start p).outcome c = .ok () ∧
      Runs s d (s.monitor d t c.timeout) (Watch.Shows rows (t.apply d ts)) ((start p).after c) := by
  have haccepts : c.toSite.Accepts := Script.Steady.accepts hsteady
  obtain ⟨hout, hmonitor⟩ := start_of_accepts hd hp haccepts
  refine ⟨hout, ?_⟩
  obtain ⟨site, hsite, hstarts⟩ := start_spec hd p
  rw [hout] at hstarts
  generalize (start p).after c = e at hstarts
  cases hstarts with
  | @started s' t' d' n v hread ht hdialect hget hv =>
    cases hread.symm.trans hp.read
    cases ht.symm.trans hp.filter
    cases hdialect.symm.trans hp.dialect
    let m := s.monitor d t c.timeout
    let w := (c.toWatch.onPool ((s.provider d).get.after { toSite := site })).begun
    obtain ⟨-, u, hu, hturn⟩ := TableDiscovery.start_spec m (w := w) rfl rfl
    have hscript : u.script = c.script := by
      have hmade := (get_made (s.provider d) { toSite := site }).1
      exact hu.script.trans (hmade.script.trans hsite.script)
    have hawaits : u.Awaits rows (t.apply d ts) :=
      ⟨hscript.symm ▸ hsteady, .inl hu.snapshot, (congrArg Host.woken hu.host).trans hwoken⟩
    have hturned := shows_turn (m := m) hp.works hts hawaits
    have hstarted := hturned.2.beside (hturn hturned.1)
    exact ⟨rfl, rfl, rfl, hstarted.beside hv⟩

/-! ## Tasks -/

/-- **The tasks are those of an assignment of the tables**, unless two of these share a name. -/
theorem taskSettings_of_shows (hc : Runs s d m (Watch.Shows rows tables) c)
    (hquery : s.queryMode = true → tables = []) (hn : 1 ≤ n)
    (hshort : n.natAbs < Nat.pow 10 Text.maxDigits) :
    ((names tables).Nodup → ∃ gs, Assignment.assign tables n s.queryMode = .ok gs ∧
      (taskSettings n).outcome c = .ok (gs.map fun g => taskProps s (d.renderList g))) ∧
    (¬ (names tables).Nodup → (taskSettings n).outcome c =
      .error (.duplicateTables (ofTables tables).duplicates m.filter.hint)) := by
  have hread := Monitor.outcome_tables_some (m := m) hc.watch.snapshot
  cases hq : s.queryMode with
  | true =>
    obtain rfl := hquery hq
    refine ⟨fun _ => ⟨[[]], Assignment.assign_query hn [], ?_⟩, fun h => (h List.nodup_nil).elim⟩
    exact outcome_taskSettings_query hc.settings hc.monitor hc.dialect hq
  | false =>
    have hout : (taskSettings n).outcome c =
        (m.tables.outcome c.toWatch >>= fun ts => Assignment.assign ts n false).map fun gs =>
          gs.map fun g => taskProps s (d.renderList g) :=
      outcome_taskSettings_tables hc.settings hc.monitor hc.dialect hq hshort
    refine ⟨fun hnodup => ?_, fun hshared => ?_⟩
    · obtain ⟨gs, hassign, -⟩ := Assignment.assign_spec tables hn
      rw [if_pos hnodup] at hread
      rw [hread] at hout
      exact ⟨gs, hassign, hout.trans (congrArg (Except.map _) hassign)⟩
    · rw [if_neg hshared] at hread
      rw [hread] at hout
      exact hout

end Connector

end TableDiscovery
