import TableDiscovery.Proofs.Monitor.Beside
import TableDiscovery.Proofs.Monitor.Poll

/-!
# Reachable states of monitoring

Only polls publish. In every state that monitoring reaches, the newest listing that succeeded is
published, filtered and grouped, and nothing if there is none.

* `Monitor.Reachable`: the states that monitoring reaches, with the newest listing;
* **`Reachable.snapshot`**: what is published in them;
* `Monitor.Reached`, `reached_run`, `reached_start` and the like: the loop and the thread stay in
  such states.
-/

namespace TableDiscovery.Monitor

open Act

variable {α : Type} {m : Monitor} {w v : Watch} {newest : Option (List Table)}

/-! ## Steps that publish nothing -/

/-- What is published. -/
def Publishes (o : Option Snapshot) (w : Watch) : Prop := w.snapshot = o

section Publishes

variable {o : Option Snapshot}

theorem publishes_liftPool {x : Act Pool α} :
    Meets (Publishes o) (fun _ => True) (liftM x : Act Watch α) := by
  intro w hw
  rw [after_liftPool]
  exact ⟨hw, fun _ _ => trivial⟩

theorem publishes_liftSite {x : Act Site α} :
    Meets (Publishes o) (fun _ => True) (liftM x : Act Watch α) := by
  intro w hw
  rw [after_liftSite]
  exact ⟨hw, fun _ _ => trivial⟩

theorem publishes_near {x : Act Watch α}
    (hx : ∀ w : Watch, Meets w.Near (fun _ => True) x) : Meets (Publishes o) (fun _ => True) x :=
  meets_of_near (fun _ _ h hb => hb.snapshot.trans h) hx

end Publishes

/-! ## Reachable states -/

/-- The states that monitoring reaches from one in which nothing is published, with the newest
listing that succeeded. -/
inductive Reachable (m : Monitor) : Option (List Table) → Watch → Prop
  | fresh {w : Watch} : w.snapshot = none → Reachable m none w
  | poll {newest : Option (List Table)} {w : Watch} : Reachable m newest w →
      Reachable m ((m.listing w).toOption.or newest) (m.poll.after w)
  | request {newest : Option (List Table)} {w : Watch} : Reachable m newest w →
      Reachable m newest (m.requestReconfiguration.after w)
  | report {newest : Option (List Table)} {w : Watch} (f : Fault) : Reachable m newest w →
      Reachable m newest ((reportError f).after w)
  | shutDown {newest : Option (List Table)} {w : Watch} : Reachable m newest w →
      Reachable m newest (shutDown.after w)
  | read {newest : Option (List Table)} {w : Watch} : Reachable m newest w →
      Reachable m newest (m.tables.after w)
  /-- What else happens, on the site, to the thread or at the host, publishes nothing. -/
  | elsewhere {newest : Option (List Table)} {w v : Watch} : Reachable m newest w →
      v.snapshot = w.snapshot → Reachable m newest v

/-- **The newest listing is published, filtered and grouped.** -/
theorem Reachable.snapshot (h : m.Reachable newest w) :
    w.snapshot = newest.map fun ts => .ofTables (m.filter.apply m.dialect ts) := by
  induction h with
  | fresh h => exact h
  | @poll newest w _ ih =>
    cases hl : m.listing w with
    | error f =>
      obtain ⟨h, -, -⟩ := poll_of_error hl
      exact h.trans ih
    | ok ts =>
      obtain ⟨hsame, h, -, -⟩ | ⟨-, h, -, -⟩ := poll_of_ok hl
      · cases newest with
        | none => simp [ih] at hsame
        | some old =>
          rw [ih] at h hsame
          have : m.filter.apply m.dialect old = m.filter.apply m.dialect ts :=
            Option.some.inj hsame
          simpa [Except.toOption, this] using h
      · exact h
  | request _ ih => exact (publishes_near (fun _ => near_requestReconfiguration m) _ ih).1
  | report f _ ih => exact (publishes_near (fun _ => near_reportError f) _ ih).1
  | shutDown _ ih =>
    exact (publishes_near (fun _ => near_of_beside fun _ => beside_shutDown) _ ih).1
  | read _ ih => rwa [after_tables]
  | elsewhere _ h ih => exact h.trans ih

/-! ## The loop and the thread -/

/-- Monitoring reaches the state. -/
def Reached (m : Monitor) (w : Watch) : Prop := ∃ newest, m.Reachable newest w

/-- What publishes nothing stays in reachable states. -/
theorem reached_of_publishes {x : Act Watch α}
    (hx : ∀ o, Meets (Publishes o) (fun _ => True) x) : Meets m.Reached (fun _ => True) x := by
  rintro w ⟨newest, hw⟩
  exact ⟨⟨newest, .elsewhere hw (hx w.snapshot w rfl).1⟩, fun _ _ => trivial⟩

theorem reached_liftPool {x : Act Pool α} :
    Meets m.Reached (fun _ => True) (liftM x : Act Watch α) :=
  reached_of_publishes fun _ => publishes_liftPool

theorem reached_liftSite {x : Act Site α} :
    Meets m.Reached (fun _ => True) (liftM x : Act Watch α) :=
  reached_of_publishes fun _ => publishes_liftSite

theorem reached_of_near (h : m.Reached w) (hb : w.Near v) : m.Reached v := by
  obtain ⟨newest, hw⟩ := h
  exact ⟨newest, .elsewhere hw hb.snapshot⟩

theorem reached_beside {x : Act Watch α} (hx : ∀ w : Watch, Meets w.Beside (fun _ => True) x) :
    Meets m.Reached (fun _ => True) x :=
  meets_of_beside (fun _ _ h hb => reached_of_near h hb.near) hx

theorem reached_poll : Meets m.Reached (fun _ => True) m.poll :=
  fun _ ⟨_, hw⟩ => ⟨⟨_, .poll hw⟩, fun _ _ => trivial⟩

theorem keeps_reached : m.Keeps m.Reached (fun _ => True) :=
  keeps_of_poll (fun _ _ => reached_of_near) reached_poll

/-- **A run of the loop stays in reachable states.** -/
theorem reached_run (n : Nat) : Meets m.Reached (fun _ => True) (m.run n) :=
  kept_run keeps_reached n

/-- Starting the thread leads to reachable states. -/
theorem reached_start : Meets m.Reached (fun _ => True) m.start :=
  kept_start keeps_reached

theorem reached_tick : Meets m.Reached (fun _ => True) m.tick :=
  (kept_tick keeps_reached).mono fun _ => False.elim

theorem reached_shutDown : Meets m.Reached (fun _ => True) shutDown :=
  reached_beside fun _ => beside_shutDown

/-- Stopping the thread leads to reachable states. -/
theorem reached_stop : Meets m.Reached (fun _ => True) stop := reached_beside fun _ => beside_stop

end TableDiscovery.Monitor
