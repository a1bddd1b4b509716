import TableDiscovery.Proofs.Connecting
import TableDiscovery.Proofs.Connector.Reachable

/-!
# Stops

A stop lets go of the monitor, of the provider and of the dialect, whatever fails meanwhile, as long
as that is no interrupt.

* `Connector.Released`: the connector holds none of them;
* `Connector.Ordinary`: closing for the connector fails without interrupts;
* `leads_stopMonitor`, `leads_stopProvider`, `leads_stopDialect`: the three parts of a stop;
* **`stop_spec`**: a stop returns and releases the connector;
* `stop_of_released`: a connector that has been released is only noted to be stopped.
-/

namespace TableDiscovery.Connector

open Act

variable {α : Type} {E : Fault → Prop} {c c₀ : Connector}

/-- The connector holds no monitor, no provider and no dialect. -/
structure Released (c : Connector) : Prop where
  monitor : c.monitor = none
  provider : c.provider = none
  dialect : c.dialect = none

/-- No interrupt comes up while the connection and the dialect are closed. -/
structure Ordinary (c : Connector) : Prop where
  closes : c.script.ClosesQuietly
  dialect : ∀ f, c.dialectCloseFault = some f → f.isFailure = true

/-- Later everything is answered as before. -/
structure Alike (c e : Connector) : Prop where
  script : e.script = c.script
  closeFault : e.dialectCloseFault = c.dialectCloseFault

theorem Alike.refl (c : Connector) : c.Alike c := ⟨rfl, rfl⟩

theorem Alike.trans {c d e : Connector} (h : c.Alike d) (h' : d.Alike e) : c.Alike e :=
  ⟨h'.script.trans h.script, h'.closeFault.trans h.closeFault⟩

theorem Alike.ordinary {e : Connector} (h : c.Alike e) (hc : c.Ordinary) : e.Ordinary :=
  ⟨h.script.symm ▸ hc.closes, h.closeFault.symm ▸ hc.dialect⟩

theorem Stays.alike {e : Connector} (h : c.Stays e) : c.Alike e := by
  obtain ⟨w, hw, rfl⟩ := h
  exact ⟨hw.script, rfl⟩

/-! ## The parts of a stop -/

/-- The monitor is let go of. -/
theorem leads_stopMonitor :
    Leads c₀.Alike (fun _ e => c₀.Alike e ∧ e.monitor = none) (fun _ _ => False) stopMonitor := by
  have hside {x : Act Connector Unit} (hx : ∀ c : Connector, Meets c.Stays (fun _ => False) x) :
      Leads c₀.Alike (fun _ => c₀.Alike) (fun _ _ => False) x :=
    leads_of_returns (meets_of_stays (fun _ _ hd h => hd.trans h.alike) hx)
  have hrelease : Leads c₀.Alike (fun _ e => c₀.Alike e ∧ e.monitor = none) (fun _ _ => False)
      (modify fun e => { e with monitor := none }) := leads_modify fun _ he => ⟨{ he with }, rfl⟩
  refine leads_get_bind fun e he => leads_ite (fun _ => ?_) fun hnone => ?_
  · refine Leads.here (P := c₀.Alike) ?_ he
    refine leads_bind (hside fun _ => stays_liftWatch fun _ => beside_shutDown) fun _ => ?_
    refine leads_bind (hside fun _ => stays_settle) fun _ => leads_get_bind fun d hd => ?_
    refine Leads.here (P := c₀.Alike) ?_ hd
    refine leads_ite (fun _ => ?_) fun _ => hrelease
    refine leads_bind (hside fun _ => stays_liftWatch fun _ => beside_record rfl) fun _ => ?_
    refine leads_bind (hside fun _ => stays_log) fun _ => ?_
    exact leads_bind (Q := fun _ => c₀.Alike) (leads_modify fun _ h => { h with }) fun _ => hrelease
  · refine leads_pure fun _ h => h ▸ ⟨he, ?_⟩
    simpa using hnone

/-- The provider is let go of. -/
theorem leads_stopProvider (hc : c₀.Ordinary) :
    Leads (fun e => c₀.Alike e ∧ e.monitor = none)
      (fun _ e => c₀.Alike e ∧ e.monitor = none ∧ e.provider = none) (fun _ _ => False)
      stopProvider := by
  refine leads_get_bind fun e ⟨he, hm⟩ => ?_
  split
  · rename_i hp
    exact leads_pure fun _ h => h ▸ ⟨he, hm, hp⟩
  · rename_i p hp
    refine leads_bind (Q := fun _ e => c₀.Alike e ∧ e.monitor = none) ?_
      fun _ => leads_modify fun _ h => ⟨{ h.1 with }, h.2, rfl⟩
    rintro d rfl
    obtain ⟨hmade, hfault⟩ :=
      returns_close (he.ordinary hc).closes p d.toPool (Site.Made.refl d.toSite)
    rw [outcome_liftPool, after_liftPool]
    exact ⟨fun _ _ => ⟨⟨hmade.script.trans he.script, he.closeFault⟩, hm⟩, hfault⟩

/-- The dialect is let go of. -/
theorem leads_stopDialect (hc : c₀.Ordinary) :
    Leads (fun e => c₀.Alike e ∧ e.monitor = none ∧ e.provider = none)
      (fun _ e => c₀.Alike e ∧ e.Released) (fun _ _ => False) stopDialect := by
  refine leads_get_bind fun e ⟨he, hm, hp⟩ => ?_
  split
  · rename_i hd
    exact leads_pure fun _ h => h ▸ ⟨he, hm, hp, hd⟩
  · have hrelease : Leads (fun e => c₀.Alike e ∧ e.monitor = none ∧ e.provider = none)
        (fun _ e => c₀.Alike e ∧ e.Released) (fun _ _ => False)
        (modify fun e => { e with dialect := none, started := false }) :=
      leads_modify fun _ ⟨h, hm, hp⟩ => ⟨{ h with }, hm, hp, rfl⟩
    refine (leads_andFinally_of_returns (leads_of_returns (meets_of_stays ?_ fun d => ?_))
      hrelease).here ⟨he, hm, hp⟩
    · rintro d d' ⟨h, hm, hp⟩ hs
      exact ⟨h.trans hs.alike, hs.beside.monitor.trans hm, hs.beside.provider.trans hp⟩
    · split
      · exact meets_pure _
      · rename_i f hf
        refine meets_ite (fun _ => stays_log) fun hno => ?_
        rw [closeFault?] at hf
        split at hf
        · exact (hno ((he.ordinary hc).dialect f hf)).elim
        · cases hf

/-! ## Stops -/

/-- **A stop returns, and releases the connector.** -/
theorem stop_spec (hc : c.Ordinary) :
    stop.outcome c = .ok () ∧ c.Alike (stop.after c) ∧ (stop.after c).Released := by
  have hlog : Leads (· = c) (fun _ => c.Alike) (fun _ _ => False)
      (liftM (Site.log .info logger "Stopping table monitoring thread") : Act Connector Unit) := by
    rintro c rfl
    obtain ⟨h₁, h₂⟩ := stays_log (E := fun _ => False) c (Stays.refl c)
    exact ⟨fun _ _ => h₁.alike, h₂⟩
  have hstop := leads_bind hlog fun _ => leads_andFinally_of_returns leads_stopMonitor
    (leads_andFinally_of_returns (leads_stopProvider hc) (leads_stopDialect hc))
  obtain ⟨⟨⟩, hout, hafter⟩ := hstop.returns rfl
  exact ⟨hout, hafter⟩

/-- **A connector that has been released is only noted to be stopped.** -/
theorem stop_of_released (hc : c.Released) :
    stop.outcome c = .ok () ∧ ∃ site, c.toSite.Aside site ∧ stop.after c = c.onSite site := by
  obtain ⟨hlog, site, hsite, hlogged⟩ := log_spec c .info logger "Stopping table monitoring thread"
  have hm : (c.onSite site).monitor = none := hc.monitor
  have hp : (c.onSite site).provider = none := hc.provider
  have hd : (c.onSite site).dialect = none := hc.dialect
  generalize hsame : c.onSite site = d at hlogged hm hp hd
  have hmonitor : Leads (· = d) (fun _ => (· = d)) (fun _ _ => False) stopMonitor := by
    refine leads_get_bind fun e he => leads_ite (fun hsome => ?_) fun _ =>
      leads_pure fun _ h => h.trans he
    simp [he, hm] at hsome
  have hprovider : Leads (· = d) (fun _ => (· = d)) (fun _ _ => False) stopProvider := by
    refine leads_get_bind fun e he => ?_
    rw [he, hp]
    exact leads_pure fun _ h => h
  have hdialect : Leads (· = d) (fun _ => (· = d)) (fun _ _ => False) stopDialect := by
    refine leads_get_bind fun e he => ?_
    rw [he, hd]
    exact leads_pure fun _ h => h
  obtain ⟨⟨⟩, hout, hafter⟩ := (leads_andFinally_of_returns hmonitor
    (leads_andFinally_of_returns hprovider hdialect)).returns rfl
  exact views_of_ok (Q := fun r e => r = .ok () ∧ ∃ site, c.toSite.Aside site ∧ e = c.onSite site)
    hlog hlogged ⟨hout, site, hsite, hafter.trans hsame.symm⟩

end TableDiscovery.Connector
