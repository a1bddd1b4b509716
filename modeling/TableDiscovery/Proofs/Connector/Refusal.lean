import TableDiscovery.Proofs.Connector.Lifecycle

/-!
# Settings that are refused

Settings are checked in several places, some of them after the connection. Still a start that
refuses its settings does so before it has connected, and leaves nothing behind that is in the way
of the next start: what is checked later has been checked before.

* `isA_configuration_of_get`: connecting does not fail for the settings;
* **`start_refuses_iff`**: the settings that a start refuses;
* `after_of_refused`: what such a start leaves;
* **`refusal_atomic`**: nothing has happened by then, and the next start can do its work.
-/

namespace TableDiscovery

open Act

theorem Fault.isA_of_kind {f : Fault} {k : Kind} (h : f.kind = k) (above : Kind) :
    f.isA above = k.isA above := by rw [isA, h]

/-- Connecting by itself does not fail for the settings. -/
theorem Fault.isA_configuration_of_connecting {f : Fault} (h : f.isOfConnecting = true) :
    f.isA .configuration = false := by
  cases f with
  | power cause => cases cause <;> rfl
  | unreachable | url | tooManyDigits | attemptsExhausted | integerTooLarge | notImplemented
  | waitTooLong => rfl
  | _ => cases h

namespace Connector

variable {c : Connector} {p : Props} {f : Fault}

/-- There is no dialect for the settings: its name is unknown, or the scheme of the URL is. -/
def LacksDialect (p : Props) : Prop :=
  ∃ s f, Settings.ofProps p = .ok s ∧ s.dialect = .error f ∧ f.isA .configuration = true

/-- What connecting ends in is not taken for a fault of the settings, if drivers report none. -/
theorem isA_configuration_of_get (hscript : c.script.Gives fun f => f.isA .configuration = false)
    {site : Site} (hsite : c.toSite.Aside site) {q : Provider}
    (h : q.get.outcome { toSite := site } = .error f) : f.isA .configuration = false := by
  have harises := (get_made q { toSite := site }).2 f h
  rw [show site.script = c.script from hsite.script] at harises
  exact hscript.of_arises Fault.isA_configuration_of_connecting harises

/-- Settings that a start goes on with are none of those that it refuses, but for the dialect. -/
theorem refuses_iff_lacksDialect {s : Settings} {t : Filter} (hread : Settings.ofProps p = .ok s)
    (ht : s.filter = .ok t) :
    p.Invalid ∨ p.Conflicting ∨ LacksDialect p ↔
      ∃ f, s.dialect = .error f ∧ f.isA .configuration = true := by
  have hvalid : ¬ p.Invalid := by
    intro h
    obtain ⟨f, hf⟩ := Settings.ofProps_eq_error_iff.mpr h
    cases hf.symm.trans hread
  have hfree : ¬ p.Conflicting := by
    intro h
    obtain ⟨f, hf⟩ := (Settings.filter_eq_error_iff (Settings.read_of_ofProps hread)).mpr h
    cases hf.symm.trans ht
  rw [or_iff_right hvalid, or_iff_right hfree]
  constructor
  · rintro ⟨s', f, hread', hf⟩
    cases hread.symm.trans hread'
    exact ⟨f, hf⟩
  · rintro ⟨f, hf⟩
    exact ⟨s, f, hread, hf⟩

/-- **The settings that a start refuses** are invalid by themselves, or conflicting, or there is no
dialect for them. -/
theorem start_refuses_iff (hd : c.dialect = none)
    (hscript : c.script.Gives fun f => f.isA .configuration = false) (p : Props) :
    (∃ f, (start p).outcome c = .error f ∧ f.isA .configuration = true) ↔
      p.Invalid ∨ p.Conflicting ∨ LacksDialect p := by
  obtain ⟨site, hsite, hstarts⟩ := start_spec hd p
  generalize (start p).outcome c = r at hstarts
  generalize (start p).after c = e at hstarts
  cases hstarts with
  | refused hread =>
    exact iff_of_true ⟨_, rfl, rfl⟩ (.inl (Settings.ofProps_eq_error_iff.mp ⟨_, hread⟩))
  | conflicting hread ht =>
    have hs := Settings.read_of_ofProps hread
    refine iff_of_true ⟨_, rfl, ?_⟩ (.inr (.inl ((Settings.filter_eq_error_iff hs).mp ⟨_, ht⟩)))
    rw [Fault.isA_of_kind (Settings.kind_of_filter ht)]
    rfl
  | unknown hread ht hdialect =>
    rw [refuses_iff_lacksDialect hread ht, hdialect]
    simp
  | unconnected hread ht hdialect hget =>
    have hother := isA_configuration_of_get hscript hsite hget
    rw [refuses_iff_lacksDialect hread ht, hdialect]
    simp [hother]
  | started hread ht hdialect =>
    rw [refuses_iff_lacksDialect hread ht, hdialect]
    simp

/-- **A start that refuses its settings** has done nothing but to read them. -/
theorem after_of_refused (hd : c.dialect = none)
    (hscript : c.script.Gives fun f => f.isA .configuration = false)
    (hout : (start p).outcome c = .error f) (hf : f.isA .configuration = true) :
    let e := (start p).after c
    c.toSite.Aside e.toSite ∧ e.dialect = none ∧ e.provider = c.provider ∧
      e.monitor = c.monitor := by
  obtain ⟨site, hsite, hstarts⟩ := start_spec hd p
  rw [hout] at hstarts
  generalize (start p).after c = e at hstarts
  cases hstarts with
  | refused | conflicting | unknown => exact ⟨hsite, hd, rfl, rfl⟩
  | unconnected _ _ _ hget => cases hf.symm.trans (isA_configuration_of_get hscript hsite hget)

/-- **A start that refuses its settings leaves nothing behind.** On a connector without a dialect,
where drivers report no faults of settings, a start that fails for its settings has neither
connected nor asked the database for anything, and the connector holds what it held before. So
another start with good settings returns and monitors tables, if the connection is accepted. And
settings are refused whenever they are invalid by themselves or conflicting. -/
theorem refusal_atomic (hd : c.dialect = none)
    (hscript : c.script.Gives fun f => f.isA .configuration = false) (p : Props) :
    (∀ f, (start p).outcome c = .error f → f.isA .configuration = true →
      let e := (start p).after c
      c.toSite.Aside e.toSite ∧
      e.dialect = none ∧ e.provider = c.provider ∧ e.monitor = c.monitor ∧
      (c.Nested → e.Released) ∧
      ∀ p' s t d, Good p' s t d → c.toSite.Accepts →
        (start p').outcome e = .ok () ∧ ((start p').after e).monitor ≠ none) ∧
    (p.Invalid ∨ p.Conflicting →
      ∃ f, (start p).outcome c = .error f ∧ f.isA .configuration = true) := by
  constructor
  · intro f hout hf e
    obtain ⟨haside, hdialect, hprovider, hmonitor⟩ := after_of_refused hd hscript hout hf
    refine ⟨haside, hdialect, hprovider, hmonitor, fun hc => ?_, fun p' s t d hgood haccepts => ?_⟩
    · have hreleased := hc.released hd
      exact ⟨hmonitor.trans hreleased.monitor, hprovider.trans hreleased.provider, hdialect⟩
    · obtain ⟨hstart, hstarted⟩ := start_of_accepts hdialect hgood (haccepts.aside haside)
      exact ⟨hstart, by rw [hstarted]; exact nofun⟩
  · intro hrefused
    refine (start_refuses_iff hd hscript p).mpr ?_
    rcases hrefused with h | h
    · exact .inl h
    · exact .inr (.inl h)

/-- The settings of the shop as they are read. -/
def shopSettings : Settings where
  props := shopProps
  url := "postgresql://db/shop"
  user := none
  password := none
  attempts := 1
  backoff := 0
  dialectName := none
  pollInterval := 60000
  whitelist := []
  blacklist := []
  tableTypes := ["TABLE"]
  schemaPattern := none
  query := ""
  tasksMax := 1

/-- The dialect of the shop's database. -/
def shopDialect : Dialect := ⟨.postgres, "postgresql://db/shop", none, none, ["TABLE"], none⟩

theorem connects_shopDialect : shopDialect.Connects where
  system := nofun
  target := by
    have hsome : shopDialect.connectionString.toOption.isSome = true := by decide +kernel
    obtain ⟨target, htarget⟩ := Option.isSome_iff_exists.mp hsome
    exact ⟨target, eq_ok_of_toOption htarget⟩

theorem good_shopProps : Good shopProps shopSettings { } shopDialect where
  read := eq_ok_of_toOption (by decide +kernel)
  filter := eq_ok_of_toOption (by decide +kernel)
  dialect := eq_ok_of_toOption (by decide +kernel)
  works := ⟨connects_shopDialect, Int.le_refl 1, _, rfl⟩

/-- A list of which one item is not blank, next to a query. -/
theorem refusal_atomic_shop :
    let c : Connector := { toWatch := Monitor.shopWatch [] }
    let p : Props := ("table.blacklist", some " , items") :: ("query", some "select 1") :: shopProps
    (c.dialect = none ∧ c.script.Gives fun f => f.isA .configuration = false) ∧ p.Conflicting ∧
      ∃ f, (start p).outcome c = .error f ∧ f.isA .configuration = true ∧
        c.toSite.Aside ((start p).after c).toSite ∧ ((start p).after c).Released ∧
        (start shopProps).outcome ((start p).after c) = .ok () := by
  intro c p
  have hscript : c.script.Gives fun f => f.isA .configuration = false :=
    ⟨nofun, nofun, nofun, nofun⟩
  have hconflict : p.Conflicting := by
    have hlist : " items" ∈ Text.split ',' (p.given "table.blacklist") := by decide +kernel
    have hitem : Text.strip " items" ≠ "" := by decide +kernel
    have hquery : Text.strip (p.given "query") ≠ "" := by decide +kernel
    exact .inr (.inr ⟨⟨_, hlist, hitem⟩, hquery⟩)
  obtain ⟨hrefused, hfails⟩ := refusal_atomic rfl hscript p
  obtain ⟨f, hout, hf⟩ := hfails (.inr hconflict)
  obtain ⟨haside, -, -, -, hreleased, hnext⟩ := hrefused f hout hf
  have hempty : c.Released := ⟨rfl, rfl, rfl⟩
  exact ⟨⟨rfl, hscript⟩, hconflict, f, hout, hf, haside, hreleased hempty.nested,
    (hnext shopProps shopSettings _ _ good_shopProps ⟨rfl, rfl⟩).1⟩

end Connector

end TableDiscovery
