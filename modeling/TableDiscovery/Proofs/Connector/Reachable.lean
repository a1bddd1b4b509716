import TableDiscovery.Connector
import TableDiscovery.Proofs.Monitor.Reachable

/-!
# Reachable states of the connector

What a connector with a monitor has published is what this monitor published: a start makes a
monitor that has published nothing, and nothing but this monitor publishes until the next one.

* `Connector.Beside`: between two states nothing was taken hold of, let go of or published;
* `Connector.Stays`: nor was anything else of the connector changed;
* `stays_taskSettings`, `beside_readSettings` and the like: the steps that do no more than that;
* `Connector.Reachable`: the states that a connector reaches by its operations;
* `Connector.Follows`: its monitor reaches the state of monitoring;
* `follows_start`, `follows_stop` and the like: each operation keeps this;
* **`Reachable.follows`**: so it holds in all reachable states.
-/

namespace TableDiscovery.Connector

open Act

variable {α β : Type}

/-! ## Actions on the state of monitoring -/

section Lift

variable (c : Connector)

/-- The connector with another state of monitoring. -/
def onWatch (w : Watch) : Connector := { c with toWatch := w }

/-- The connector on another site. -/
def onSite (site : Site) : Connector := c.onWatch (c.toWatch.onSite site)

@[simp] theorem outcome_liftWatch (x : Act Watch α) :
    (liftM x : Act Connector α).outcome c = x.outcome c.toWatch := outcome_zoom ..

@[simp] theorem after_liftWatch (x : Act Watch α) :
    (liftM x : Act Connector α).after c = c.onWatch (x.after c.toWatch) := after_zoom ..

theorem outcome_liftSite (x : Act Site α) :
    (liftM x : Act Connector α).outcome c = x.outcome c.toSite :=
  (outcome_liftWatch ..).trans (TableDiscovery.outcome_liftSite ..)

theorem after_liftSite (x : Act Site α) :
    (liftM x : Act Connector α).after c = c.onSite (x.after c.toSite) :=
  (after_liftWatch ..).trans (congrArg c.onWatch (TableDiscovery.after_liftSite ..))

theorem outcome_liftPool (x : Act Pool α) :
    (liftM x : Act Connector α).outcome c = x.outcome c.toPool :=
  (outcome_liftWatch ..).trans (TableDiscovery.outcome_liftPool ..)

theorem after_liftPool (x : Act Pool α) :
    (liftM x : Act Connector α).after c = c.onWatch (c.toWatch.onPool (x.after c.toPool)) :=
  (after_liftWatch ..).trans (congrArg c.onWatch (TableDiscovery.after_liftPool ..))

theorem log_spec (level : Level) (logger message : String) :
    (liftM (Site.log level logger message) : Act Connector Unit).outcome c = .ok () ∧
      ∃ site, c.toSite.Aside site ∧
        (liftM (Site.log level logger message) : Act Connector Unit).after c = c.onSite site := by
  rw [outcome_liftSite, after_liftSite, outcome_log]
  exact ⟨rfl, _, (aside_log (E := fun _ => True) _ (.refl _)).1, rfl⟩

end Lift

/-! ## Steps that change nothing of what the connector holds -/

/-- Later the connector holds the same, and so does its state of monitoring. -/
structure Beside (c e : Connector) : Prop where
  watch : c.toWatch.Beside e.toWatch
  dialect : e.dialect = c.dialect
  provider : e.provider = c.provider
  monitor : e.monitor = c.monitor

theorem Beside.refl (c : Connector) : c.Beside c := ⟨.refl _, rfl, rfl, rfl⟩

theorem Beside.trans {c d e : Connector} (h : c.Beside d) (h' : d.Beside e) : c.Beside e :=
  ⟨h.watch.trans h'.watch, h'.dialect.trans h.dialect, h'.provider.trans h.provider,
    h'.monitor.trans h.monitor⟩

/-- What holds of a connector still holds after an action beside what it holds. -/
theorem meets_of_beside {I : Connector → Prop} {E : Fault → Prop} {x : Act Connector α}
    (hI : ∀ c e : Connector, I c → c.Beside e → I e) (hx : ∀ c : Connector, Meets c.Beside E x) :
    Meets I E x := by
  intro c hc
  obtain ⟨h₁, h₂⟩ := hx c c (.refl c)
  exact ⟨hI c _ hc h₁, h₂⟩

/-- Later only monitoring has gone on beside its polls. -/
def Stays (c e : Connector) : Prop := ∃ w, c.toWatch.Beside w ∧ e = c.onWatch w

theorem Stays.refl (c : Connector) : c.Stays c := ⟨_, .refl _, rfl⟩

theorem Stays.trans {c d e : Connector} (h : c.Stays d) (h' : d.Stays e) : c.Stays e := by
  obtain ⟨v, hv, rfl⟩ := h
  obtain ⟨w, hw, rfl⟩ := h'
  exact ⟨w, hv.trans hw, rfl⟩

theorem Stays.beside {c e : Connector} (h : c.Stays e) : c.Beside e := by
  obtain ⟨w, hw, rfl⟩ := h
  exact ⟨hw, rfl, rfl, rfl⟩

section Stays

variable {c₀ : Connector} {E : Fault → Prop}

theorem meets_of_stays {I : Connector → Prop} {x : Act Connector α}
    (hI : ∀ c e : Connector, I c → c.Stays e → I e) (hx : ∀ c : Connector, Meets c.Stays E x) :
    Meets I E x := by
  intro c hc
  obtain ⟨h₁, h₂⟩ := hx c c (.refl c)
  exact ⟨hI c _ hc h₁, h₂⟩

theorem stays_liftWatch {x : Act Watch α} (hx : ∀ w : Watch, Meets w.Beside E x) :
    Meets c₀.Stays E (liftM x : Act Connector α) := by
  intro c hc
  obtain ⟨h₁, h₂⟩ := hx c.toWatch c.toWatch (.refl _)
  rw [after_liftWatch, outcome_liftWatch]
  exact ⟨hc.trans ⟨_, h₁, rfl⟩, h₂⟩

theorem stays_liftSite {x : Act Site α} (hx : ∀ s : Site, Meets s.Aside E x) :
    Meets c₀.Stays E (liftM x : Act Connector α) :=
  stays_liftWatch fun _ => TableDiscovery.beside_liftSite hx

theorem stays_log {level : Level} {logger message : String} :
    Meets c₀.Stays E (liftM (Site.log level logger message) : Act Connector Unit) :=
  stays_liftSite fun _ => aside_log

theorem stays_settle : Meets c₀.Stays E settle :=
  meets_get_bind fun _ _ => meets_ite
    (fun _ => stays_liftWatch fun _ => TableDiscovery.beside_settle) fun _ => meets_pure _

theorem stays_taskGroups (m : Monitor) (maxTasks : Int) :
    Meets c₀.Stays (fun _ => True) (taskGroups m maxTasks) := by
  refine meets_bind (stays_liftWatch fun _ => beside_tables m) fun _ => ?_
  refine meets_bind (meets_ofExcept fun _ _ => trivial) fun _ => ?_
  exact meets_bind (stays_liftSite fun _ => aside_addAttributes.mono fun _ _ => trivial) fun _ =>
    meets_pure _

theorem stays_taskSettings (maxTasks : Int) :
    Meets c₀.Stays (fun _ => True) (taskSettings maxTasks) := by
  refine meets_get_bind fun c _ => ?_
  split
  · refine meets_ite (fun _ => meets_bind stays_log fun _ => meets_pure _) fun _ => ?_
    refine meets_bind (meets_traced
      (stays_liftSite fun _ => aside_enter.mono fun _ _ => trivial)
      (fun _ => stays_liftSite fun _ => aside_closeSpan) (stays_taskGroups _ _)) fun _ => ?_
    exact meets_bind stays_log fun _ => meets_pure _
  · exact meets_throw trivial

end Stays

section Beside

variable {c₀ : Connector} {E : Fault → Prop}

theorem beside_of_stays {x : Act Connector α} (hx : ∀ c : Connector, Meets c.Stays E x) :
    Meets c₀.Beside E x := meets_of_stays (fun _ _ hc h => hc.trans h.beside) hx

theorem beside_liftWatch {x : Act Watch α} (hx : ∀ w : Watch, Meets w.Beside E x) :
    Meets c₀.Beside E (liftM x : Act Connector α) := beside_of_stays fun _ => stays_liftWatch hx

theorem beside_liftSite {x : Act Site α} (hx : ∀ s : Site, Meets s.Aside E x) :
    Meets c₀.Beside E (liftM x : Act Connector α) := beside_of_stays fun _ => stays_liftSite hx

theorem beside_log {level : Level} {logger message : String} :
    Meets c₀.Beside E (liftM (Site.log level logger message) : Act Connector Unit) :=
  beside_of_stays fun _ => stays_log

theorem beside_modify {g : Connector → Connector} (hwatch : ∀ c, (g c).toWatch = c.toWatch)
    (hdialect : ∀ c, (g c).dialect = c.dialect) (hprovider : ∀ c, (g c).provider = c.provider)
    (hmonitor : ∀ c, (g c).monitor = c.monitor) : Meets c₀.Beside E (modify g) :=
  meets_modify fun c hc => hc.trans ⟨hwatch c ▸ .refl _, hdialect c, hprovider c, hmonitor c⟩

theorem beside_settle : Meets c₀.Beside E settle := beside_of_stays fun _ => stays_settle

theorem beside_readSettings (p : Props) : Meets c₀.Beside (fun _ => True) (readSettings p) := by
  unfold readSettings
  split
  · exact meets_throw trivial
  · exact meets_bind (beside_modify (fun _ => rfl) (fun _ => rfl) (fun _ => rfl) fun _ => rfl)
      fun _ => meets_pure _

theorem beside_taskSettings (maxTasks : Int) :
    Meets c₀.Beside (fun _ => True) (taskSettings maxTasks) :=
  beside_of_stays fun _ => stays_taskSettings maxTasks

theorem beside_releaseThreads : Meets c₀.Beside E releaseThreads :=
  meets_get_bind fun _ _ => meets_bind (meets_forM fun _ => beside_log) fun _ =>
    beside_modify (fun _ => rfl) (fun _ => rfl) (fun _ => rfl) fun _ => rfl

end Beside

/-! ## What the connector follows -/

/-- The monitor of the connector, if there is one, reaches the state of monitoring. -/
def Follows (c : Connector) : Prop := ∀ m, c.monitor = some m → m.Reached c.toWatch

/-- The connector holds a monitor that reaches the state of monitoring. -/
def FollowsBy (m : Monitor) (c : Connector) : Prop := c.monitor = some m ∧ m.Reached c.toWatch

theorem FollowsBy.follows {m : Monitor} {c : Connector} (h : c.FollowsBy m) : c.Follows := by
  intro m' hm'
  cases h.1.symm.trans hm'
  exact h.2

theorem followsBy_liftWatch {m : Monitor} {x : Act Watch α}
    (hx : Meets m.Reached (fun _ => True) x) :
    Meets (FollowsBy m) (fun _ => True) (liftM x : Act Connector α) := by
  rintro c ⟨hm, hc⟩
  rw [after_liftWatch]
  exact ⟨⟨hm, (hx _ hc).1⟩, fun _ _ => trivial⟩

theorem follows_liftWatch {x : Act Watch α}
    (hx : ∀ m : Monitor, Meets m.Reached (fun _ => True) x) :
    Meets Follows (fun _ => True) (liftM x : Act Connector α) := by
  intro c hc
  rw [after_liftWatch]
  exact ⟨fun m hm => (hx m _ (hc m hm)).1, fun _ _ => trivial⟩

theorem Follows.beside {c e : Connector} (h : c.Follows) (hb : c.Beside e) : e.Follows :=
  fun m hm => Monitor.reached_of_near (h m (hb.monitor.symm.trans hm)) hb.watch.near

theorem FollowsBy.beside {m : Monitor} {c e : Connector} (h : c.FollowsBy m) (hb : c.Beside e) :
    e.FollowsBy m := ⟨hb.monitor.trans h.1, Monitor.reached_of_near h.2 hb.watch.near⟩

theorem follows_beside {x : Act Connector α}
    (hx : ∀ c : Connector, Meets c.Beside (fun _ => True) x) : Meets Follows (fun _ => True) x :=
  meets_of_beside (fun _ _ => Follows.beside) hx

theorem follows_liftSite {x : Act Site α} :
    Meets Follows (fun _ => True) (liftM x : Act Connector α) :=
  follows_liftWatch fun _ => Monitor.reached_liftSite

theorem follows_liftPool {x : Act Pool α} :
    Meets Follows (fun _ => True) (liftM x : Act Connector α) :=
  follows_liftWatch fun _ => Monitor.reached_liftPool

theorem follows_modify {g : Connector → Connector} (hmonitor : ∀ c, (g c).monitor = c.monitor)
    (hsnapshot : ∀ c, (g c).snapshot = c.snapshot) :
    Meets Follows (fun _ => True) (modify g) := by
  refine meets_modify fun c hc m hm => ?_
  rw [hmonitor] at hm
  obtain ⟨newest, h⟩ := hc m hm
  exact ⟨newest, .elsewhere h (hsnapshot c)⟩

/-- What a monitor that is held does, and what the connector does with it then. -/
theorem followsBy_settle {m : Monitor} : Meets (FollowsBy m) (fun _ => True) settle :=
  meets_of_beside (fun _ _ => FollowsBy.beside) fun _ => beside_settle

/-! ## Starting -/

theorem follows_findDialect (s : Settings) : Meets Follows (fun _ => True) (findDialect s) :=
  meets_bind (meets_ofExcept fun _ _ => trivial) fun _ => meets_bind follows_liftSite fun _ =>
    meets_bind (follows_modify (fun _ => rfl) fun _ => rfl) fun _ => meets_pure _

theorem follows_makeProvider (s : Settings) (d : Dialect) :
    Meets Follows (fun _ => True) (makeProvider s d) :=
  meets_bind (meets_ofExcept fun _ _ => trivial) fun _ =>
    meets_bind (follows_modify (fun _ => rfl) fun _ => rfl) fun _ => meets_pure _

/-- A monitor that is made has published nothing. -/
theorem makeMonitor_spec (s : Settings) (p : Provider) (f : Filter) (c : Connector) :
    match (makeMonitor s p f).outcome c with
    | .ok m => ((makeMonitor s p f).after c).FollowsBy m
    | .error _ => (makeMonitor s p f).after c = c := by
  rw [makeMonitor, outcome_bind, after_bind]
  simp only [outcome_get, after_get]
  rw [outcome_bind, after_bind, outcome_ofExcept, after_ofExcept]
  cases Monitor.check ⟨p, s.pollInterval, f, c.timeout⟩ with
  | error g => rfl
  | ok m => exact ⟨rfl, none, .fresh rfl⟩

theorem follows_makeMonitor_bind {s : Settings} {p : Provider} {f : Filter}
    {k : Monitor → Act Connector β} (hk : ∀ m, Meets (FollowsBy m) (fun _ => True) (k m)) :
    Meets Follows (fun _ => True) (makeMonitor s p f >>= k) := by
  intro c hc
  have hmade := makeMonitor_spec s p f c
  refine ⟨?_, fun _ _ => trivial⟩
  rw [after_bind]
  cases ho : (makeMonitor s p f).outcome c with
  | error g =>
    rw [ho] at hmade
    exact hmade.symm ▸ hc
  | ok m =>
    rw [ho] at hmade
    exact (hk m _ hmade).1.follows

theorem follows_start (p : Props) : Meets Follows (fun _ => True) (start p) := by
  refine meets_get_bind fun _ _ => meets_when (meets_throw trivial) fun _ => ?_
  refine meets_bind follows_liftSite fun _ => ?_
  refine meets_bind (follows_beside fun _ => beside_readSettings p) fun s => ?_
  refine meets_bind (meets_ofExcept fun _ _ => trivial) fun f => ?_
  refine meets_bind (follows_findDialect s) fun d => ?_
  refine meets_bind (follows_makeProvider s d) fun provider => ?_
  refine meets_bind follows_liftPool fun _ => ?_
  refine follows_makeMonitor_bind fun m => ?_
  refine meets_bind (followsBy_liftWatch Monitor.reached_start) fun _ => ?_
  refine meets_bind followsBy_settle fun _ => ?_
  exact meets_modify fun _ hc => hc

/-! ## Stopping -/

theorem follows_stopMonitor : Meets Follows (fun _ => True) stopMonitor := by
  have hrelease : Meets Follows (fun _ => True) (modify fun c => { c with monitor := none }) :=
    meets_modify fun _ _ m hm => absurd hm.symm (Option.some_ne_none m)
  refine meets_get_bind fun _ _ => meets_ite (fun _ => ?_) fun _ => meets_pure _
  refine meets_bind (follows_liftWatch fun _ => Monitor.reached_shutDown) fun _ => ?_
  refine meets_bind (follows_beside fun _ => beside_settle) fun _ => meets_get_bind fun c _ => ?_
  dsimp only
  split
  · refine meets_bind follows_liftSite fun _ => meets_bind follows_liftSite fun _ => ?_
    exact meets_bind (follows_modify (fun _ => rfl) fun _ => rfl) fun _ => hrelease
  · exact hrelease

theorem follows_stopProvider : Meets Follows (fun _ => True) stopProvider := by
  refine meets_get_bind fun _ _ => ?_
  split
  · exact meets_pure _
  · exact meets_bind follows_liftPool fun _ => follows_modify (fun _ => rfl) fun _ => rfl

theorem follows_stopDialect : Meets Follows (fun _ => True) stopDialect := by
  refine meets_get_bind fun c _ => ?_
  split
  · exact meets_pure _
  · refine meets_andFinally ?_ (follows_modify (fun _ => rfl) fun _ => rfl)
    split
    · exact meets_pure _
    · exact meets_ite (fun _ => follows_liftSite) fun _ => meets_throw trivial

theorem follows_stop : Meets Follows (fun _ => True) stop :=
  meets_bind follows_liftSite fun _ => meets_andFinally follows_stopMonitor
    (meets_andFinally follows_stopProvider follows_stopDialect)

/-! ## Threads -/

theorem follows_tick : Meets Follows (fun _ => True) tick := by
  intro c hc
  refine ⟨?_, fun _ _ => trivial⟩
  rw [tick, after_bind]
  simp only [outcome_get, after_get]
  cases hm : c.monitor with
  | none => exact hc
  | some m =>
    have hticks : Meets (FollowsBy m) (fun _ => True)
        (do liftM m.tick; settle : Act Connector Unit) :=
      meets_bind (followsBy_liftWatch Monitor.reached_tick) fun _ => followsBy_settle
    exact (hticks c ⟨hm, hc m hm⟩).1.follows

/-! ## Reachable states -/

/-- The states that a connector reaches from one that holds nothing. -/
inductive Reachable : Connector → Prop
  | fresh {c : Connector} : c.settings = none → c.dialect = none → c.provider = none →
      c.monitor = none → Reachable c
  | start {c : Connector} (p : Props) : Reachable c → Reachable ((start p).after c)
  | taskSettings {c : Connector} (maxTasks : Int) : Reachable c →
      Reachable ((taskSettings maxTasks).after c)
  | stop {c : Connector} : Reachable c → Reachable (stop.after c)
  | tick {c : Connector} : Reachable c → Reachable (tick.after c)
  | releaseThreads {c : Connector} : Reachable c → Reachable (releaseThreads.after c)
  /-- What else happens on the site and at the host. -/
  | elsewhere {c : Connector} (s : Site) (h : Host) : Reachable c →
      Reachable { c with toSite := s, host := h }

/-- **In all reachable states, what is published is what the monitor of the connector
published.** -/
theorem Reachable.follows {c : Connector} (h : c.Reachable) : c.Follows := by
  induction h with
  | fresh _ _ _ hm =>
    intro m hm'
    cases hm.symm.trans hm'
  | start p _ ih => exact (follows_start p _ ih).1
  | taskSettings maxTasks _ ih =>
    exact (follows_beside (fun _ => beside_taskSettings maxTasks) _ ih).1
  | stop _ ih => exact (follows_stop _ ih).1
  | tick _ ih => exact (follows_tick _ ih).1
  | releaseThreads _ ih => exact (follows_beside (fun _ => beside_releaseThreads) _ ih).1
  | elsewhere s h _ ih =>
    intro m hm
    obtain ⟨newest, hreach⟩ := ih m hm
    exact ⟨newest, .elsewhere hreach rfl⟩

end TableDiscovery.Connector
