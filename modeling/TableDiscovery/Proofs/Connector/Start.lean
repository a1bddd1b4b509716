import TableDiscovery.Proofs.Connecting
import TableDiscovery.Proofs.Connector.Reachable
import TableDiscovery.Proofs.Settings

/-!
# Starts

What a start comes to is said once, for each place where it can fail, with the connector that it
leaves there. The settings are read, and the filter and the dialect are found, before anything is
connected. After the connection, nothing fails any more: settings that have been read pass the
checks of the provider and of the monitor, and what the monitor runs into stays in its thread.

* `Settings.provider`, `Settings.monitor`: the provider and the monitor that settings ask for;
* `Connector.Starts`: the ways a start can end without a dialect;
* `start_of_held`: with a dialect it changes nothing;
* **`start_spec`**: there are no other ways;
* `start_of_accepts`: a start with good settings, if the next connection is accepted.
-/

namespace TableDiscovery

open Act

/-- The provider that settings ask for. -/
def Settings.provider (s : Settings) (d : Dialect) : Provider := ⟨d, s.attempts, s.backoff⟩

/-- The monitor that settings ask for. -/
def Settings.monitor (s : Settings) (d : Dialect) (t : Filter) (timeout : Float) : Monitor :=
  ⟨s.provider d, s.pollInterval, t, timeout⟩

/-- A monitor that is new has published nothing, and its thread has not been started. -/
def Watch.begun (w : Watch) : Watch :=
  { w with snapshot := none, published := 0, stopping := false, thread := .idle }

theorem Settings.Read.check_provider {p : Props} {s : Settings} (h : s.Read p) (d : Dialect) :
    Provider.check (s.provider d) = .ok (s.provider d) := by
  have hattempts := h.one_le_attempts
  exact if_neg (show ¬ s.attempts < 1 by omega)

theorem Settings.Read.check_monitor {p : Props} {s : Settings} (h : s.Read p) (d : Dialect)
    (t : Filter) (timeout : Float) :
    Monitor.check (s.monitor d t timeout) = .ok (s.monitor d t timeout) := by
  have hinterval := h.one_le_pollInterval
  exact if_neg (show ¬ s.pollInterval ≤ 0 by omega)

namespace Connector

variable {α : Type} {c : Connector} {p : Props} {s : Settings} {t : Filter} {d : Dialect}

/-! ## The connector beside a start -/

/-- The connector with settings, a dialect and its provider, and what this has connected. -/
def holding (c : Connector) (s : Settings) (d : Dialect) (q : Pool) : Connector :=
  { c.onWatch (c.toWatch.onPool q) with
    settings := some s, dialect := some d, provider := some (s.provider d) }

/-! ## The ways a start can end -/

/-- The ways a start can end on a connector without a dialect, with the connector that it leaves on
the site. -/
inductive Starts (p : Props) (c : Connector) (site : Site) : Except Fault Unit → Connector → Prop
  /-- The settings cannot be read. -/
  | refused {cause : Fault} : Settings.ofProps p = .error cause →
      Starts p c site (.error (.couldNotStart cause)) (c.onSite site)
  /-- The lists and the query exclude each other. -/
  | conflicting {s : Settings} {f : Fault} : Settings.ofProps p = .ok s → s.filter = .error f →
      Starts p c site (.error f) { c.onSite site with settings := some s }
  /-- There is no dialect for the URL. -/
  | unknown {s : Settings} {t : Filter} {f : Fault} : Settings.ofProps p = .ok s →
      s.filter = .ok t → s.dialect = .error f →
      Starts p c site (.error f) { c.onSite site with settings := some s }
  /-- There is no connection. -/
  | unconnected {s : Settings} {t : Filter} {d : Dialect} {f : Fault} :
      Settings.ofProps p = .ok s → s.filter = .ok t → s.dialect = .ok d →
      (s.provider d).get.outcome { toSite := site } = .error f →
      Starts p c site (.error f) (c.holding s d ((s.provider d).get.after { toSite := site }))
  /-- Monitoring has begun. -/
  | started {s : Settings} {t : Filter} {d : Dialect} {n : Nat} {v : Watch} :
      Settings.ofProps p = .ok s → s.filter = .ok t → s.dialect = .ok d →
      (s.provider d).get.outcome { toSite := site } = .ok n →
      ((s.monitor d t c.timeout).start.after
        (c.toWatch.onPool ((s.provider d).get.after { toSite := site })).begun).Beside v →
      Starts p c site (.ok ())
        { (c.holding s d ((s.provider d).get.after { toSite := site })).onWatch v with
          monitor := some (s.monitor d t c.timeout), started := true }

/-- A connector with a dialect refuses to start, and changes nothing. -/
theorem start_of_held (h : c.dialect ≠ none) (p : Props) :
    (start p).outcome c = .error .alreadyStarted ∧ (start p).after c = c := by
  have hd : c.dialect.isSome = true := Option.isSome_iff_ne_none.mpr h
  rw [start, outcome_bind, after_bind]
  simp only [outcome_get, after_get, hd, if_true]
  exact ⟨rfl, rfl⟩

theorem views_readSettings (p : Props) (c : Connector) :
    (∃ cause, Settings.ofProps p = .error cause ∧
      (readSettings p).outcome c = .error (.couldNotStart cause) ∧ (readSettings p).after c = c) ∨
    ∃ s, Settings.ofProps p = .ok s ∧ (readSettings p).outcome c = .ok s ∧
      (readSettings p).after c = { c with settings := some s } := by
  rw [readSettings]
  cases hread : Settings.ofProps p with
  | error cause => exact .inl ⟨cause, rfl, rfl, rfl⟩
  | ok s => exact .inr ⟨s, rfl, rfl, rfl⟩

theorem views_findDialect (s : Settings) (c : Connector) :
    (∃ f, s.dialect = .error f ∧ (findDialect s).outcome c = .error f ∧
      (findDialect s).after c = c) ∨
    ∃ d site, s.dialect = .ok d ∧ c.toSite.Aside site ∧ (findDialect s).outcome c = .ok d ∧
      (findDialect s).after c = { c.onSite site with dialect := some d } := by
  rw [findDialect, outcome_bind, after_bind, outcome_ofExcept, after_ofExcept]
  cases hd : s.dialect with
  | error f => exact .inl ⟨f, rfl, rfl, rfl⟩
  | ok d =>
    obtain ⟨hout, site, hsite, hafter⟩ :=
      log_spec c .info Dialect.logger ("Using " ++ d.name ++ " dialect")
    refine .inr ⟨d, site, rfl, hsite, ?_, ?_⟩
    · dsimp only
      rw [outcome_bind, Dialect.announce, hout]
      rfl
    · dsimp only
      rw [after_bind, Dialect.announce, hout, hafter]
      rfl

theorem views_makeProvider (h : s.Read p) (d : Dialect) (c : Connector) :
    (makeProvider s d).outcome c = .ok (s.provider d) ∧
      (makeProvider s d).after c =
        { c with provider := some (s.provider d), cached := none, connects := 0 } := by
  have hcheck := h.check_provider d
  rw [Settings.provider] at hcheck
  rw [makeProvider, outcome_bind, after_bind, outcome_ofExcept, after_ofExcept, hcheck]
  exact ⟨rfl, rfl⟩

theorem views_makeMonitor (h : s.Read p) (d : Dialect) (t : Filter) (c : Connector) :
    (makeMonitor s (s.provider d) t).outcome c = .ok (s.monitor d t c.timeout) ∧
      (makeMonitor s (s.provider d) t).after c =
        { c.onWatch c.toWatch.begun with monitor := some (s.monitor d t c.timeout) } := by
  have hcheck := h.check_monitor d t c.timeout
  rw [Settings.monitor] at hcheck
  rw [makeMonitor, outcome_bind, after_bind]
  simp only [outcome_get, after_get]
  rw [outcome_bind, after_bind, outcome_ofExcept, after_ofExcept, hcheck]
  exact ⟨rfl, rfl⟩

/-- **What a start comes to.** -/
theorem start_spec (hd : c.dialect = none) (p : Props) :
    ∃ site, c.toSite.Aside site ∧ Starts p c site ((start p).outcome c) ((start p).after c) := by
  rw [start, outcome_bind, after_bind]
  simp only [outcome_get, after_get, hd, Option.isSome_none, Bool.false_eq_true, if_false]
  let Q (r : Except Fault Unit) (e : Connector) := ∃ site, c.toSite.Aside site ∧ Starts p c site r e
  obtain ⟨hlog, site, hsite, hlogged⟩ := log_spec c .info logger "Starting table source connector"
  refine views_of_ok (Q := Q) hlog hlogged ?_
  obtain ⟨cause, hread, hout, hafter⟩ | ⟨s, hread, hout, hafter⟩ :=
    views_readSettings p (c.onSite site)
  · exact views_of_error (Q := Q) hout hafter ⟨site, hsite, .refused hread⟩
  have hs := Settings.read_of_ofProps hread
  refine views_of_ok (Q := Q) hout hafter ?_
  cases ht : s.filter with
  | error f =>
    exact views_of_error (Q := Q) (outcome_ofExcept ..) (after_ofExcept ..)
      ⟨site, hsite, .conflicting hread ht⟩
  | ok t =>
  refine views_of_ok (Q := Q) (outcome_ofExcept ..) (after_ofExcept ..) ?_
  obtain ⟨f, hdialect, hout, hafter⟩ | ⟨d, site', hdialect, hsite', hout, hafter⟩ :=
    views_findDialect s { c.onSite site with settings := some s }
  · exact views_of_error (Q := Q) hout hafter ⟨site, hsite, .unknown hread ht hdialect⟩
  have hsite := hsite.trans hsite'
  refine views_of_ok (Q := Q) hout hafter ?_
  obtain ⟨hout, hafter⟩ := views_makeProvider hs d _
  refine views_of_ok (Q := Q) hout hafter ?_
  cases hget : (s.provider d).get.outcome { toSite := site' } with
  | error f =>
    exact views_of_error (Q := Q) ((outcome_liftPool ..).trans hget) (after_liftPool ..)
      ⟨site', hsite, .unconnected hread ht hdialect hget⟩
  | ok n =>
  refine views_of_ok (Q := Q) ((outcome_liftPool ..).trans hget) (after_liftPool ..) ?_
  obtain ⟨hout, hafter⟩ := views_makeMonitor hs d t _
  refine views_of_ok (Q := Q) hout hafter ?_
  have hstart := (TableDiscovery.start_spec (s.monitor d t c.timeout) (w := (c.toWatch.onPool
    ((s.provider d).get.after { toSite := site' })).begun) rfl rfl).1
  refine views_of_ok (Q := Q) ((outcome_liftWatch ..).trans hstart) (after_liftWatch ..) ?_
  obtain ⟨⟨⟩, hout⟩ := (stays_settle (E := fun _ => False)).returns (.refl _)
  obtain ⟨v, hv, hafter⟩ := (stays_settle (E := fun _ => False) _ (.refl _)).1
  refine views_of_ok (Q := Q) hout hafter ?_
  exact ⟨site', hsite, .started hread ht hdialect hget hv⟩

/-! ## Starts that go well -/

/-- Settings that a connection can be made with: they are read, and there are a filter and a dialect
for them that can connect. -/
structure Good (p : Props) (s : Settings) (t : Filter) (d : Dialect) : Prop where
  read : Settings.ofProps p = .ok s
  filter : s.filter = .ok t
  dialect : s.dialect = .ok d
  works : (s.provider d).Works

/-- **With good settings a start returns**, and the connector monitors tables, as soon as the next
connection is accepted. -/
theorem start_of_accepts (hd : c.dialect = none) (hp : Good p s t d) (hc : c.toSite.Accepts) :
    (start p).outcome c = .ok () ∧
      ((start p).after c).monitor = some (s.monitor d t c.timeout) := by
  obtain ⟨site, hsite, hstarts⟩ := start_spec hd p
  have hget : (s.provider d).get.outcome { toSite := site } = .ok (site.opened + 1) :=
    get_of_accepts hp.works (hc.aside hsite) rfl
  generalize (start p).outcome c = r at hstarts
  generalize (start p).after c = e at hstarts
  cases hstarts with
  | refused hread => cases hread.symm.trans hp.read
  | conflicting hread ht =>
    cases hread.symm.trans hp.read
    cases ht.symm.trans hp.filter
  | unknown hread _ hdialect =>
    cases hread.symm.trans hp.read
    cases hdialect.symm.trans hp.dialect
  | unconnected hread _ hdialect hfail =>
    cases hread.symm.trans hp.read
    cases hdialect.symm.trans hp.dialect
    cases hfail.symm.trans hget
  | started hread ht hdialect _ _ =>
    cases hread.symm.trans hp.read
    cases ht.symm.trans hp.filter
    cases hdialect.symm.trans hp.dialect
    exact ⟨rfl, rfl⟩

end Connector

end TableDiscovery
