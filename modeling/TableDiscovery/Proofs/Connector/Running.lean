import TableDiscovery.Proofs.Connector.Connections
import TableDiscovery.Proofs.Connector.Start

/-!
# Connectors that run

Up to the next stop a connector that has been started holds the same settings, dialect and monitor.
So it keeps what its monitor keeps, whatever use is made of it.

* `Connector.Runs`: what the connector holds, with a condition on its state of monitoring;
* `runs_stays`, `runs_tick`: steps that keep this;
* **`runs_use`**: so does every use but a stop.
-/

namespace TableDiscovery.Connector

open Act

/-- The connector holds settings, a dialect and a monitor, and its state of monitoring meets a
condition. -/
structure Runs (s : Settings) (d : Dialect) (m : Monitor) (I : Watch → Prop) (c : Connector) :
    Prop where
  settings : c.settings = some s
  dialect : c.dialect = some d
  monitor : c.monitor = some m
  watch : I c.toWatch

variable {α : Type} {E E' : Fault → Prop} {s : Settings} {d : Dialect} {m : Monitor}
  {I : Watch → Prop} {u : Use}

theorem runs_liftWatch {x : Act Watch α} (hx : Meets I E x) :
    Meets (Runs s d m I) E (liftM x : Act Connector α) := by
  intro c hc
  obtain ⟨hwatch, hfault⟩ := hx _ hc.watch
  rw [after_liftWatch, outcome_liftWatch]
  exact ⟨⟨hc.settings, hc.dialect, hc.monitor, hwatch⟩, hfault⟩

theorem runs_stays (h : m.Keeps I E') {x : Act Connector α}
    (hx : ∀ c : Connector, Meets c.Stays E x) : Meets (Runs s d m I) E x := by
  refine meets_of_stays ?_ hx
  rintro c - hc ⟨w, hw, rfl⟩
  exact ⟨hc.settings, hc.dialect, hc.monitor, h.beside _ _ hc.watch hw⟩

/-- The thread of the monitor goes on. -/
theorem runs_tick (h : m.Keeps I E) : Meets (Runs s d m I) (fun _ => False) tick := by
  refine meets_get_bind fun c hc => ?_
  rw [hc.monitor]
  exact meets_bind (runs_liftWatch (kept_tick h)) fun _ => runs_stays h fun _ => stays_settle

/-- **A connector that runs keeps what its monitor keeps.** Another start is one too many. -/
theorem runs_use (h : m.Keeps I E) (hpoll : Meets I (fun _ => True) m.poll)
    (hsite : ∀ w site, I w → I (w.onSite site)) (hstop : u ≠ .stop) :
    Meets (Runs s d m I) (fun _ => True) (use u) := by
  cases u with
  | start p =>
    intro c hc
    have hd : c.dialect ≠ none := fun hnone => by cases hnone.symm.trans hc.dialect
    rw [use, (start_of_held hd p).2]
    exact ⟨hc, fun _ _ => trivial⟩
  | stop => exact (hstop rfl).elim
  | tick => exact (runs_tick h).mono fun _ => False.elim
  | poll =>
    refine meets_get_bind fun c hc => ?_
    rw [hc.monitor]
    exact meets_bind (runs_liftWatch hpoll) fun _ => meets_pure _
  | taskSettings maxTasks =>
    exact meets_bind (runs_stays h fun _ => stays_taskSettings maxTasks) fun _ => meets_pure _
  | releaseThreads =>
    refine meets_get_bind fun _ _ => meets_bind (meets_forM fun _ => ?_) fun _ => ?_
    · exact runs_stays h fun _ => stays_log
    · exact meets_modify fun _ hc => ⟨hc.settings, hc.dialect, hc.monitor, hc.watch⟩
  | drop =>
    intro c hc
    refine ⟨?_, fun _ _ => trivial⟩
    rw [use, after_liftSite]
    exact ⟨hc.settings, hc.dialect, hc.monitor, hsite _ _ hc.watch⟩

end TableDiscovery.Connector
