import TableDiscovery.Proofs.Attempts
import TableDiscovery.Proofs.Connector.Refusal
import TableDiscovery.Proofs.Connector.Steady
import TableDiscovery.Proofs.Text.Integer

/-!
# The faults of a start

A start is documented to end in a fault of its settings, in a transient fault if the first
connection fails, or in the report that there has been a start before. Next to these it passes on
what cannot be read or converted: the URL, when its scheme is asked for or a connection string is
made of it, and the time between attempts. The platform may refuse to wait for that time, too.

* `Dialect.LacksTarget`, `Dialect.fault_of_connect`: how a call of connecting fails;
* `Provider.Untranslated`, **`Provider.fault_of_get`**: how a provider fails that has a driver with
  transient failures only;
* `Connector.Documented`, `Connector.Escapes`, `Connector.Stalled`: the faults that are documented,
  those passed on, and those of a pause between attempts;
* **`Connector.start_faults`**: a start has no other faults.
-/

namespace TableDiscovery

open Act

/-- When it connects, the driver fails transiently only. -/
structure Script.FailsTransiently (c : Script) (d : Dialect) : Prop where
  connect : ∀ n f, c.connect n = some f → d.isTransient f = true
  session : ∀ n f, c.session n = some f → d.isTransient f = true

/-! ## Connecting -/

namespace Dialect

variable {d : Dialect} {s : Site} {f : Fault} {cause : Url.Fault}

/-- No connection string can be made of the URL, and one is needed. -/
def LacksTarget (d : Dialect) (cause : Url.Fault) : Prop :=
  d.system = .sqlServer ∧ d.connectionString = .error cause

theorem outcome_connect_of_lacksTarget (h : d.LacksTarget cause) (s : Site) :
    d.connect.outcome s = .error (.url cause) := by
  obtain ⟨hsystem, htarget⟩ := h
  rw [connect, hsystem]
  dsimp only
  rw [htarget]
  rfl

/-- A call of connecting fails as the driver does, or for the URL. -/
theorem fault_of_connect (hd : d.system ≠ .generic) (h : d.connect.outcome s = .error f) :
    (∃ n, s.script.connect n = some f ∨ s.script.session n = some f) ∨
      ∃ cause, d.LacksTarget cause ∧ f = .url cause := by
  have hopen {target : String} {arguments : List (String × Json)}
      (h : (Site.openConnection target arguments).outcome s = .error f) :
      s.script.connect s.counts.connect = some f := by
    rw [(openConnection_views target arguments s).1] at h
    split at h
    · cases h
      assumption
    · cases h
  rw [connect] at h
  split at h
  · contradiction
  · rw [outcome_bind, (openConnection_views ..).2] at h
    split at h
    · rw [outcome_bind, (beginSession_views ..).1] at h
      dsimp only at h
      cases hsession : s.script.session s.counts.session with
      | none =>
        rw [hsession] at h
        cases h
      | some g =>
        rw [hsession] at h
        cases h
        exact .inl ⟨_, .inr hsession⟩
    · rename_i hfail
      cases h
      exact .inl ⟨_, .inl (hopen hfail)⟩
  · rename_i hsystem
    split at h
    · rename_i cause htarget
      cases h
      exact .inr ⟨cause, ⟨hsystem, htarget⟩, rfl⟩
    · exact .inl ⟨_, .inl (hopen h)⟩

/-- Where the driver is reached, the attempt fails as it does. -/
theorem outcome_connect_of_refused (hd : d.ReachesDriver)
    (h : s.script.connect s.counts.connect = some f) : d.connect.outcome s = .error f := by
  have hopen (target : String) (arguments : List (String × Json)) :
      (Site.openConnection target arguments).outcome s = .error f := by
    rw [(openConnection_views target arguments s).1, h]
  rw [connect]
  obtain hsystem | ⟨hsystem, target, htarget⟩ := hd
  · rw [hsystem]
    dsimp only
    rw [outcome_bind, hopen]
  · rw [hsystem]
    dsimp only
    rw [htarget]
    dsimp only
    exact hopen _ _

theorem script_called (d : Dialect) (n : Nat) (s : Site) : (d.called n s).script = s.script := by
  induction n with
  | zero => rfl
  | succ n ih =>
    have hstep : d.called (n + 1) s = d.connect.after (d.called n s) := afterCalls_succ ..
    rw [hstep, (quiet_connect _ (Site.Made.refl _)).1.script, ih]

/-- Attempts with such a driver fail transiently, or for the URL. -/
theorem fault_of_attempt (hd : d.system ≠ .generic) (hscript : s.script.FailsTransiently d)
    {n : Nat} (h : d.attempt n s = .error f) :
    d.isTransient f = true ∨ ∃ cause, d.LacksTarget cause ∧ f = .url cause := by
  obtain ⟨k, hk⟩ | htarget := fault_of_connect hd h
  · rw [script_called] at hk
    exact .inl (hk.elim (hscript.connect k f) (hscript.session k f))
  · exact .inr htarget

end Dialect

namespace Provider

variable {p : Provider} {q : Pool} {f : Fault}

/-- What keeps a provider from connecting, without a translation: its time between attempts has no
double, or its URL no connection string. -/
inductive Untranslated (p : Provider) : Fault → Prop
  | backoff : secondsOfMilliseconds p.backoff = .error .integerTooLarge →
    Untranslated p .integerTooLarge
  | target {delay : Float} {cause : Url.Fault} : secondsOfMilliseconds p.backoff = .ok delay →
    p.dialect.LacksTarget cause → Untranslated p (.url cause)

/-- Without seconds between attempts, no attempt is made. -/
theorem get_of_seconds (hnone : q.cached = none) (h : secondsOfMilliseconds p.backoff = .error f) :
    p.get.outcome q = .error f := by
  rw [get, outcome_bind, outcome_get, after_get]
  dsimp only
  rw [hnone]
  dsimp only
  rw [renew, outcome_bind, openNew, outcome_bind, outcome_ofExcept, h]

/-- A provider that works passes nothing on. -/
theorem Works.not_untranslated (h : p.Works) (f : Fault) : ¬ p.Untranslated f := by
  intro hf
  cases hf with
  | backoff hbackoff =>
    obtain ⟨x, hx⟩ := h.backoff
    cases hx.symm.trans hbackoff
  | target _ htarget =>
    obtain ⟨target, hok⟩ := h.dialect.target
    cases hok.symm.trans htarget.2

variable (hnone : q.cached = none) (hattempts : 1 ≤ p.maxAttempts)

include hnone hattempts

theorem get_of_untranslated (h : p.Untranslated f) : p.get.outcome q = .error f := by
  cases h with
  | backoff h => exact get_of_seconds hnone h
  | @target delay cause hdelay htarget =>
    have hattempt (n : Nat) : p.dialect.attempt n q.toSite = .error (.url cause) :=
      Dialect.outcome_connect_of_lacksTarget htarget _
    have hfatal : p.dialect.isTransient (.url cause) = false := Dialect.not_isTransient (.inr rfl)
    obtain ⟨n, hn, -⟩ | ⟨n, hn⟩ := get_cases hnone hattempts hdelay
    · exact hn.fatal _ (hattempt n) hfatal
    · obtain ⟨g, hg, htransient⟩ := hn.failed 1 (Nat.le_refl 1) hn.left.1
      cases (hattempt 1).symm.trans hg
      cases htransient.symm.trans hfatal

/-- **How a provider fails to connect** whose driver fails transiently only. -/
theorem fault_of_get (hd : p.dialect.system ≠ .generic)
    (hscript : q.script.FailsTransiently p.dialect) (h : p.get.outcome q = .error f) :
    f.isA .transientDiscovery = true ∨ p.Untranslated f ∨
      ∃ (delay : Float) (n : Nat), secondsOfMilliseconds p.backoff = .ok delay ∧ 1 ≤ n ∧
        (n : Int) < p.maxAttempts ∧ p.Overlong q.script delay n f := by
  cases hdelay : secondsOfMilliseconds p.backoff with
  | error g =>
    cases seconds_eq_error hdelay
    cases (get_of_seconds hnone hdelay).symm.trans h
    exact .inr (.inl (.backoff hdelay))
  | ok delay =>
  obtain ⟨n, hn, -⟩ | ⟨n, hn⟩ := get_cases hnone hattempts hdelay
  · cases hattempt : p.dialect.attempt n q.toSite with
    | ok c => cases (hn.returned c hattempt).1.symm.trans h
    | error g =>
      cases htransient : p.dialect.isTransient g with
      | true =>
        cases (hn.exhausted g hattempt htransient).symm.trans h
        exact .inl rfl
      | false =>
        cases (hn.fatal g hattempt htransient).symm.trans h
        obtain hyes | ⟨cause, htarget, rfl⟩ := Dialect.fault_of_attempt hd hscript hattempt
        · cases htransient.symm.trans hyes
        · exact .inr (.inl (.target hdelay htarget))
  · obtain ⟨g, hoverlong, hg⟩ := hn.overlong
    cases hg.symm.trans h
    exact .inr (.inr ⟨delay, n, rfl, hn.left.1, hn.left.2, hoverlong⟩)

/-- If the first attempt fails and the platform refuses the pause after it, there is no other. -/
theorem get_of_refused {delay : Float} (hdelay : secondsOfMilliseconds p.backoff = .ok delay)
    (hshort : p.maxAttempts.natAbs < Nat.pow 10 Text.maxDigits) (hmore : 2 ≤ p.maxAttempts)
    (hpos : 0.0 < pauseSeconds delay) (hrefuses : q.script.refusesWait (pauseSeconds delay) = true)
    (hfails : p.FailsAt q.toSite 1) : p.get.outcome q = .error .waitTooLong := by
  have hno : ¬ p.CanPause q.script delay 1 := (Overlong.wait hpos hrefuses).not_canPause
  obtain ⟨n, hn, hpauses⟩ | ⟨n, hn⟩ := get_cases hnone hattempts hdelay
  · have hfirst : 1 ≤ n := hn.last.1.1
    rcases Nat.lt_or_eq_of_le hfirst with hlt | rfl
    · exact (hno (hpauses 1 (Nat.le_refl 1) hlt)).elim
    · have hall := hn.last.1.2 hfails
      omega
  · obtain ⟨f, hoverlong, hout⟩ := hn.overlong
    rcases Nat.lt_or_eq_of_le hn.left.1 with hlt | rfl
    · exact (hno (hn.paused 1 (Nat.le_refl 1) hlt)).elim
    · cases hoverlong with
      | delay hmany => exact absurd (Number.lt_limit (Nat.zero_le 1023)) (by omega)
      | total hlong => exact (hlong hshort).elim
      | wait => exact hout

end Provider

/-! ## Settings -/

namespace Settings

variable {p : Props} {s : Settings} {d : Dialect} {f : Fault} {cause : Url.Fault}

/-- No dialect is named, and the URL that is to tell one cannot be read. -/
def LacksScheme (s : Settings) (cause : Url.Fault) : Prop :=
  s.dialectName.filter (· ≠ "") = none ∧ Url.parse s.url = .error cause

theorem dialect_of_lacksScheme (h : s.LacksScheme cause) : s.dialect = .error (.url cause) := by
  obtain ⟨hname, hparse⟩ := h
  have hfind : Dialect.System.find s.url s.dialectName = .error (.url cause) := by
    rw [Dialect.System.find, hname]
    dsimp only
    rw [hparse]
  rw [dialect, Dialect.find, hfind]
  rfl

/-- A dialect that is not found is unknown, or its name is to be read from the URL. -/
theorem lacksScheme_of_dialect (h : s.dialect = .error f) :
    f.kind = .configuration ∨ ∃ cause, s.LacksScheme cause ∧ f = .url cause := by
  obtain hkind | ⟨cause, hparse, rfl⟩ := fault_of_dialect h
  · exact .inl hkind
  · refine .inr ⟨cause, ⟨?_, hparse⟩, rfl⟩
    rw [dialect, Dialect.find] at h
    have hfind := error_of_map h
    rw [Dialect.System.find] at hfind
    split at hfind
    · split at hfind <;> cases hfind
    · assumption

end Settings

namespace Connector

variable {c : Connector} {p : Props} {f : Fault}

/-! ## Starts -/

/-- The faults that a start is documented to end in. -/
inductive Documented (f : Fault) : Prop
  /-- Settings are invalid or conflicting. -/
  | settings : f.isA .configuration = true → Documented f
  /-- The first connection fails. -/
  | connection : f.isA .transientDiscovery = true → Documented f
  /-- The connector holds what an earlier start has left. -/
  | held : f = .alreadyStarted → Documented f

/-- The faults that a start with the settings passes on as they are. -/
inductive Escapes (p : Props) : Fault → Prop
  | scheme {s : Settings} {t : Filter} {cause : Url.Fault} : Settings.ofProps p = .ok s →
    s.filter = .ok t → s.LacksScheme cause → Escapes p (.url cause)
  | connection {s : Settings} {t : Filter} {d : Dialect} {f : Fault} : Settings.ofProps p = .ok s →
    s.filter = .ok t → s.dialect = .ok d → (s.provider d).Untranslated f → Escapes p f

/-- The faults of a pause between two attempts to connect that cannot be made: the number of the
attempts before it has no double, or the platform does not wait for so long. -/
inductive Stalled (p : Props) (c : Script) : Fault → Prop
  | many {s : Settings} : Settings.ofProps p = .ok s → (Number.limit + 1 : Int) < s.attempts →
    Stalled p c (.power .exponentTooLarge)
  | long {s : Settings} {delay : Float} : Settings.ofProps p = .ok s → 2 ≤ s.attempts →
    secondsOfMilliseconds s.backoff = .ok delay → 0.0 < Provider.pauseSeconds delay →
    c.refusesWait (Provider.pauseSeconds delay) = true → Stalled p c .waitTooLong

theorem documented_of_kind (h : f.kind = .configuration) : Documented f :=
  .settings (by rw [Fault.isA_of_kind h]; rfl)

theorem not_documented_of_kind (hkind : f.kind = .value ∨ f.kind = .overflow) :
    ¬ Documented f := by
  intro hf
  cases hf with
  | settings h => rcases hkind with hk | hk <;> cases (Fault.isA_of_kind hk _).symm.trans h
  | connection h => rcases hkind with hk | hk <;> cases (Fault.isA_of_kind hk _).symm.trans h
  | held h =>
    rw [h] at hkind
    rcases hkind with hk | hk <;> cases hk

theorem not_documented_of_escapes (h : Escapes p f) : ¬ Documented f := by
  cases h with
  | scheme => exact not_documented_of_kind (.inl rfl)
  | connection _ _ _ h =>
    cases h with
    | backoff => exact not_documented_of_kind (.inr rfl)
    | target => exact not_documented_of_kind (.inl rfl)

/-- If no connection can be had, the start fails as the provider does. -/
theorem start_of_get {s : Settings} {t : Filter} {d : Dialect} (hd : c.dialect = none)
    (hread : Settings.ofProps p = .ok s) (ht : s.filter = .ok t) (hdialect : s.dialect = .ok d)
    (hget : ∀ site, c.toSite.Aside site →
      (s.provider d).get.outcome { toSite := site } = .error f) :
    (start p).outcome c = .error f := by
  obtain ⟨site, hsite, hstarts⟩ := start_spec hd p
  specialize hget site hsite
  generalize (start p).outcome c = r at hstarts
  generalize (start p).after c = e at hstarts
  cases hstarts with
  | refused hread' => cases hread.symm.trans hread'
  | conflicting hread' ht' =>
    cases hread.symm.trans hread'
    cases ht.symm.trans ht'
  | unknown hread' _ hdialect' =>
    cases hread.symm.trans hread'
    cases hdialect.symm.trans hdialect'
  | unconnected hread' _ hdialect' hget' =>
    cases hread.symm.trans hread'
    cases hdialect.symm.trans hdialect'
    cases hget.symm.trans hget'
    rfl
  | started hread' _ hdialect' hget' =>
    cases hread.symm.trans hread'
    cases hdialect.symm.trans hdialect'
    cases hget.symm.trans hget'

/-- **What is passed on comes out of the start.** -/
theorem start_of_escapes (hd : c.dialect = none) (h : Escapes p f) :
    (start p).outcome c = .error f := by
  cases h with
  | scheme hread ht hscheme =>
    have hdialect := Settings.dialect_of_lacksScheme hscheme
    obtain ⟨site, -, hstarts⟩ := start_spec hd p
    generalize (start p).outcome c = r at hstarts
    generalize (start p).after c = e at hstarts
    cases hstarts with
    | refused hread' => cases hread.symm.trans hread'
    | conflicting hread' ht' =>
      cases hread.symm.trans hread'
      cases ht.symm.trans ht'
    | unknown hread' _ hdialect' =>
      cases hread.symm.trans hread'
      cases hdialect.symm.trans hdialect'
      rfl
    | unconnected hread' _ hdialect' | started hread' _ hdialect' =>
      cases hread.symm.trans hread'
      cases hdialect.symm.trans hdialect'
  | connection hread ht hdialect hfault =>
    have hs := Settings.read_of_ofProps hread
    exact start_of_get hd hread ht hdialect fun _ _ =>
      Provider.get_of_untranslated rfl hs.one_le_attempts hfault

/-- **A pause that the platform refuses ends the start** whose first connection fails. -/
theorem start_of_long {s : Settings} {t : Filter} {d : Dialect} (hd : c.dialect = none)
    (hread : Settings.ofProps p = .ok s) (ht : s.filter = .ok t) (hdialect : s.dialect = .ok d)
    (hreach : d.ReachesDriver) (hscript : c.script.FailsTransiently d)
    (hfails : (c.script.connect c.counts.connect).isSome = true)
    (hlong : Stalled p c.script .waitTooLong) : (start p).outcome c = .error .waitTooLong := by
  obtain ⟨g, hg⟩ := Option.isSome_iff_exists.mp hfails
  refine start_of_get hd hread ht hdialect fun site hsite => ?_
  have hs := Settings.read_of_ofProps hread
  have hasked : site.script.connect site.counts.connect = some g := by
    rw [hsite.script, hsite.counts]
    exact hg
  have hfirst : (s.provider d).FailsAt site 1 :=
    ⟨g, Dialect.outcome_connect_of_refused hreach hasked, hscript.connect _ g hg⟩
  cases hlong with
  | long hread' hmore hdelay hpos hrefuses =>
    cases hread.symm.trans hread'
    exact Provider.get_of_refused rfl hs.one_le_attempts hdelay hs.attempts_lt hmore hpos
      (hsite.script.symm ▸ hrefuses) hfirst

/-- A start fails as documented, or with a fault that it passes on, or because of a pause between
its attempts to connect. -/
theorem fault_of_start
    (hscript : ∀ s d, Settings.ofProps p = .ok s → s.dialect = .ok d →
      c.script.FailsTransiently d)
    (hout : (start p).outcome c = .error f) :
    Documented f ∨ Escapes p f ∨ Stalled p c.script f := by
  by_cases hd : c.dialect = none
  · obtain ⟨site, hsite, hstarts⟩ := start_spec hd p
    rw [hout] at hstarts
    generalize (start p).after c = e at hstarts
    cases hstarts with
    | refused => exact .inl (.settings rfl)
    | conflicting _ ht => exact .inl (documented_of_kind (Settings.kind_of_filter ht))
    | unknown hread ht hdialect =>
      obtain hkind | ⟨cause, hscheme, rfl⟩ := Settings.lacksScheme_of_dialect hdialect
      · exact .inl (documented_of_kind hkind)
      · exact .inr (.inl (.scheme hread ht hscheme))
    | @unconnected s t d _ hread ht hdialect hget =>
      have hs := Settings.read_of_ofProps hread
      obtain htransient | hfault | ⟨delay, n, hdelay, hpos, hlt, hoverlong⟩ :=
        Provider.fault_of_get (p := s.provider d) (q := { toSite := site }) rfl hs.one_le_attempts
          (Dialect.system_of_find hdialect).1 (hsite.script.symm ▸ hscript s d hread hdialect) hget
      · exact .inl (.connection htransient)
      · exact .inr (.inl (.connection hread ht hdialect hfault))
      · have hlt : (n : Int) < s.attempts := hlt
        cases hoverlong with
        | delay hmany => exact .inr (.inr (.many hread (by omega)))
        | total hlong => exact (hlong hs.attempts_lt).elim
        | wait hwait hrefuses =>
          exact .inr (.inr (.long hread (by omega) hdelay hwait (hsite.script ▸ hrefuses)))
  · cases (start_of_held hd p).1.symm.trans hout
    exact .inl (.held rfl)

/-- Well-formed settings leave nothing to pass on. -/
theorem not_escapes_of_wellFormed {s : Settings} (hread : Settings.ofProps p = .ok s)
    (hwell : s.WellFormed) : ¬ Escapes p f := by
  intro hf
  cases hf with
  | scheme hread' _ hscheme =>
    cases hread.symm.trans hread'
    obtain ⟨u, port, hu, -⟩ := hwell.url
    cases hu.symm.trans hscheme.2
  | connection hread' ht hdialect hfault =>
    cases hread.symm.trans hread'
    exact (good_of_wellFormed hread hwell ht hdialect).works.not_untranslated f hfault

/-- **The faults of a start**, where the driver fails transiently only. They are documented if what
the settings hold can be read and converted and every pause between attempts can be made. If not, a
start without a dialect passes on that its URL cannot be read or that its time between attempts is
too large for a double. It passes on as well that the platform refuses this time, once the first
connection has failed. None of that is documented, and there is nothing else, but for the attempts,
which may be too many to be counted by a double. -/
theorem start_faults
    (hscript : ∀ s d, Settings.ofProps p = .ok s → s.dialect = .ok d →
      c.script.FailsTransiently d) :
    ((∀ s, Settings.ofProps p = .ok s → s.WellFormed) → (∀ f, ¬ Stalled p c.script f) →
      ∀ f, (start p).outcome c = .error f → Documented f) ∧
    (c.dialect = none → ∀ f, Escapes p f → (start p).outcome c = .error f ∧ ¬ Documented f) ∧
    (c.dialect = none → ∀ s t d, Settings.ofProps p = .ok s → s.filter = .ok t →
      s.dialect = .ok d → d.ReachesDriver →
      (c.script.connect c.counts.connect).isSome = true → Stalled p c.script .waitTooLong →
      (start p).outcome c = .error .waitTooLong ∧ ¬ Documented .waitTooLong) ∧
    ∀ f, (start p).outcome c = .error f →
      Documented f ∨ Escapes p f ∨ Stalled p c.script f := by
  refine ⟨fun hall hpauses f hout => ?_, fun hd f hf => ?_,
    fun hd s t d hread ht hdialect hreach hfails hlong => ?_, fun f => fault_of_start hscript⟩
  · obtain hdocumented | hescapes | hstalled := fault_of_start hscript hout
    · exact hdocumented
    · cases hread : Settings.ofProps p with
      | ok s => exact (not_escapes_of_wellFormed hread (hall s hread) hescapes).elim
      | error g => cases hescapes with
        | scheme hread' | connection hread' => cases hread.symm.trans hread'
    · exact (hpauses f hstalled).elim
  · exact ⟨start_of_escapes hd hf, not_documented_of_escapes hf⟩
  · exact ⟨start_of_long hd hread ht hdialect hreach (hscript s d hread hdialect) hfails hlong,
      not_documented_of_kind (.inr rfl)⟩

/-- A shop that refuses every connection. -/
def closedShop : Connector where
  script := { connect := fun _ => some (.raised (.driver .postgres .operational) none) }

theorem failsTransiently_closedShop (d : Dialect) (hd : d.system = .postgres) :
    closedShop.script.FailsTransiently d where
  connect n f hf := by
    cases hf
    obtain ⟨_, _, _, _, _, _⟩ := d
    cases hd
    rfl
  session n f hf := nomatch hf

theorem wellFormed_shopSettings : shopSettings.WellFormed := by
  have hport : ((Url.parse shopSettings.url).toOption.bind (·.port?.toOption)).isSome = true := by
    decide +kernel
  obtain ⟨port, hsome⟩ := Option.isSome_iff_exists.mp hport
  obtain ⟨u, hu, hport⟩ := Option.bind_eq_some_iff.mp hsome
  exact ⟨⟨u, port, eq_ok_of_toOption hu, eq_ok_of_toOption hport⟩, _, rfl⟩

/-- A connection that is refused is reported as documented. -/
theorem start_faults_closedShop :
    (∀ s d, Settings.ofProps shopProps = .ok s → s.dialect = .ok d →
      closedShop.script.FailsTransiently d) ∧
    ∃ f, (start shopProps).outcome closedShop = .error f ∧ Documented f := by
  have hscript (s : Settings) (d : Dialect) (hread : Settings.ofProps shopProps = .ok s)
      (hdialect : s.dialect = .ok d) : closedShop.script.FailsTransiently d := by
    cases hread.symm.trans good_shopProps.read
    cases hdialect.symm.trans good_shopProps.dialect
    exact failsTransiently_closedShop _ rfl
  have hpauses (f : Fault) : ¬ Stalled shopProps closedShop.script f := by
    intro hstalled
    have hone : shopSettings.attempts = 1 := rfl
    cases hstalled with
    | many hread hmany =>
      cases hread.symm.trans good_shopProps.read
      omega
    | long hread hmore =>
      cases hread.symm.trans good_shopProps.read
      omega
  refine ⟨hscript, ?_⟩
  cases hout : (start shopProps).outcome closedShop with
  | ok u =>
    have hfails : ((start shopProps).outcome closedShop).toOption = none := by decide +kernel
    rw [hout] at hfails
    cases hfails
  | error f =>
    refine ⟨f, rfl, (start_faults hscript).1 (fun s hread => ?_) hpauses f hout⟩
    cases hread.symm.trans good_shopProps.read
    exact wellFormed_shopSettings

/-- The settings that a URL alone makes. -/
def plainSettings (url : String) : Settings :=
  { shopSettings with
    props := [("connection.url", some url)], url := url, attempts := 3, backoff := 10000 }

/-- A URL with a bracket that is not closed, and one with a port that is no number: no driver fails,
and neither fault is documented. -/
theorem start_escapes_malformed :
    let c : Connector := { }
    let f : Fault := .url .brackets
    let g : Fault := .url (.portNotNumeric "port")
    (∀ d, c.script.FailsTransiently d) ∧
      (start [("connection.url", some "postgresql://[localhost/shop")]).outcome c = .error f ∧
      (start [("connection.url", some "sqlserver://localhost:port/shop")]).outcome c = .error g ∧
      ¬ Documented f ∧ ¬ Documented g := by
  intro c f g
  have hbrackets : Escapes [("connection.url", some "postgresql://[localhost/shop")]
      (.url .brackets) := by
    refine .scheme (s := plainSettings "postgresql://[localhost/shop") (t := { }) ?_ ?_ ⟨rfl, ?_⟩
    · exact eq_ok_of_toOption (by decide +kernel)
    · exact eq_ok_of_toOption (by decide +kernel)
    · decide +kernel
  have hport : Escapes [("connection.url", some "sqlserver://localhost:port/shop")]
      (.url (.portNotNumeric "port")) := by
    refine .connection (s := plainSettings "sqlserver://localhost:port/shop") (t := { })
      (d := .make .sqlServer "sqlserver://localhost:port/shop" { }) ?_ ?_ ?_
      (.target rfl ⟨rfl, ?_⟩)
    · exact eq_ok_of_toOption (by decide +kernel)
    · exact eq_ok_of_toOption (by decide +kernel)
    · exact eq_ok_of_toOption (by decide +kernel)
    · decide +kernel
  exact ⟨fun d => ⟨nofun, nofun⟩, start_of_escapes rfl hbrackets, start_of_escapes rfl hport,
    not_documented_of_escapes hbrackets, not_documented_of_escapes hport⟩

end Connector

end TableDiscovery
