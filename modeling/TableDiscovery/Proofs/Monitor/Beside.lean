import TableDiscovery.Monitor.Run
import TableDiscovery.Proofs.Connections
import TableDiscovery.Proofs.Monitor.Made

/-!
# Monitoring beside its polls

Only polls connect, list and publish, and only requests and reports tell the host something. The
rest of the loop and of its thread logs and waits. So a condition on what is connected and published
holds of whole runs as soon as polls keep it, and one on the host as well if requests and reports
keep it.

* `Watch.Near`: between two states nothing was connected, closed, listed or published;
* `Watch.Beside`: nor was the host told anything;
* `beside_shutDown`, `near_requestReconfiguration` and the like: the steps beside polls;
* `Monitor.Keeps`: what a poll with its request and a report keep;
* **`kept_round`**, **`kept_run`**, **`kept_start`**, **`kept_tick`**: what the loop keeps;
* **`start_spec`**: a thread that begins with a poll that goes well.
-/

namespace TableDiscovery

open Act

variable {α : Type} {E : Fault → Prop} {w₀ : Watch}

/-- Later monitoring has the same connection, no events are about connections, and the same is
published. -/
structure Watch.Near (w v : Watch) : Prop where
  pool : w.toPool.Beside v.toPool
  snapshot : v.snapshot = w.snapshot

/-- Moreover the host was told nothing. -/
structure Watch.Beside (w v : Watch) : Prop extends near : Watch.Near w v where
  host : v.host = w.host

theorem Watch.Near.refl (w : Watch) : w.Near w := ⟨.refl _, rfl⟩

theorem Watch.Near.trans {u v w : Watch} (h : u.Near v) (h' : v.Near w) : u.Near w :=
  ⟨h.pool.trans h'.pool, h'.snapshot.trans h.snapshot⟩

theorem Watch.Near.script {w v : Watch} (h : w.Near v) : v.script = w.script := by
  obtain ⟨es, hes, -⟩ := h.pool.site
  exact hes.script

theorem Watch.Beside.refl (w : Watch) : w.Beside w := ⟨.refl w, rfl⟩

theorem Watch.Beside.trans {u v w : Watch} (h : u.Beside v) (h' : v.Beside w) : u.Beside w :=
  ⟨h.near.trans h'.near, h'.host.trans h.host⟩

theorem Watch.beside_onSite (w : Watch) {s : Site} (h : w.toSite.Apart s) :
    w.Beside (w.onSite s) := ⟨⟨⟨h, rfl, rfl⟩, rfl⟩, rfl⟩

/-- What holds of a state of monitoring still holds after an action beside it. -/
theorem meets_of_beside {I : Watch → Prop} {x : Act Watch α}
    (hI : ∀ w v : Watch, I w → w.Beside v → I v) (hx : ∀ w : Watch, Meets w.Beside E x) :
    Meets I E x := by
  intro w hw
  obtain ⟨h₁, h₂⟩ := hx w w (.refl w)
  exact ⟨hI w _ hw h₁, h₂⟩

theorem meets_of_near {I : Watch → Prop} {x : Act Watch α}
    (hI : ∀ w v : Watch, I w → w.Near v → I v) (hx : ∀ w : Watch, Meets w.Near E x) :
    Meets I E x := by
  intro w hw
  obtain ⟨h₁, h₂⟩ := hx w w (.refl w)
  exact ⟨hI w _ hw h₁, h₂⟩

theorem near_of_beside {x : Act Watch α} (hx : ∀ w : Watch, Meets w.Beside E x) :
    Meets w₀.Near E x := meets_of_beside (fun _ _ h hb => h.trans hb.near) hx

/-! ## Steps -/

theorem beside_liftSite {x : Act Site α} (hx : ∀ s : Site, Meets s.Aside E x) :
    Meets w₀.Beside E (liftM x : Act Watch α) := by
  intro w hw
  obtain ⟨h₁, h₂⟩ := hx w.toSite w.toSite (.refl _)
  rw [after_liftSite, outcome_liftSite]
  exact ⟨hw.trans (w.beside_onSite h₁.apart), h₂⟩

theorem beside_log {level : Level} {logger message : String} :
    Meets w₀.Beside E (liftM (Site.log level logger message) : Act Watch Unit) :=
  beside_liftSite fun _ => aside_log

theorem beside_record {e : Event} (he : e.connection? = none) :
    Meets w₀.Beside E (liftM (Site.record e) : Act Watch Unit) := by
  intro w hw
  rw [after_liftSite]
  refine ⟨hw.trans (w.beside_onSite ⟨[e], ⟨rfl, rfl, rfl, rfl⟩, ?_⟩), nofun⟩
  simpa using he

theorem near_modify {g : Watch → Watch} (hpool : ∀ w, (g w).toPool = w.toPool)
    (hsnapshot : ∀ w, (g w).snapshot = w.snapshot) : Meets w₀.Near E (modify g) :=
  meets_modify fun w hw => hw.trans ⟨hpool w ▸ .refl _, hsnapshot w⟩

theorem beside_modify {g : Watch → Watch} (hpool : ∀ w, (g w).toPool = w.toPool)
    (hsnapshot : ∀ w, (g w).snapshot = w.snapshot) (hhost : ∀ w, (g w).host = w.host) :
    Meets w₀.Beside E (modify g) :=
  meets_modify fun w hw => hw.trans ⟨⟨hpool w ▸ .refl _, hsnapshot w⟩, hhost w⟩

theorem beside_shutDown : Meets w₀.Beside E Monitor.shutDown :=
  meets_get_bind fun _ _ => meets_ite (fun _ => meets_bind beside_log
    fun _ => beside_modify (fun _ => rfl) (fun _ => rfl) fun _ => rfl) fun _ => meets_pure _

theorem beside_recordPoll (m : Monitor) (status : String) (started : Float) :
    Meets w₀.Beside E (m.recordPoll status started) :=
  meets_get_bind fun _ _ => meets_ite (fun _ => meets_bind (beside_liftSite fun _ => aside_now)
    fun _ => beside_modify (fun _ => rfl) (fun _ => rfl) fun _ => rfl) fun _ => meets_pure _

theorem beside_recordTables (m : Monitor) (s : Snapshot) :
    Meets w₀.Beside E (m.recordTables s) := by
  refine meets_get_bind fun _ _ => meets_ite (fun _ => ?_) fun _ => meets_pure _
  refine meets_bind (beside_modify (fun _ => rfl) (fun _ => rfl) fun _ => rfl) fun _ => ?_
  exact beside_liftSite fun _ => meets_ite (fun _ => aside_log) fun _ => meets_pure _

/-- What the host does in a call that is noted. -/
theorem beside_note {level : Level} {logger message : String} {h : Host} :
    Meets w₀.Beside E (liftM (do Site.log level logger message; return h : Act Site Host) :
      Act Watch Host) :=
  beside_liftSite fun _ => meets_bind aside_log fun _ => meets_pure _

theorem near_callHost : Meets w₀.Near (fun _ => True) Monitor.callHost := by
  refine meets_get_bind fun w _ => ?_
  refine meets_when (near_of_beside fun _ => beside_record rfl) fun _ => ?_
  refine meets_bind (near_of_beside fun _ => beside_note) fun _ => ?_
  refine meets_bind (near_modify (fun _ => rfl) fun _ => rfl) fun _ => ?_
  split
  · exact meets_pure _
  · exact near_of_beside fun _ => beside_shutDown
  · exact meets_throw trivial

theorem near_requestReconfiguration (m : Monitor) :
    Meets w₀.Near (fun _ => True) m.requestReconfiguration := by
  have hlog {level : Level} {message : String} :
      Meets w₀.Near (fun _ => True) (liftM (Site.log level Monitor.logger message) :
        Act Watch Unit) := near_of_beside fun _ => beside_log
  refine meets_get_bind fun _ _ => meets_ite (fun _ => hlog) fun _ => meets_bind hlog fun _ => ?_
  exact meets_bind near_callHost fun _ => near_modify (fun _ => rfl) fun _ => rfl

theorem near_reportError (f : Fault) : Meets w₀.Near E (Monitor.reportError f) := by
  refine meets_get_bind fun w _ => ?_
  refine meets_when (near_of_beside fun _ => beside_record rfl) fun _ => ?_
  refine meets_bind (near_of_beside fun _ => beside_note) fun _ => ?_
  exact near_modify (fun _ => rfl) fun _ => rfl

/-- A report is noted by the host and is no request. -/
theorem host_reportError (f : Fault) (w : Watch) :
    ((Monitor.reportError f).after w).host = w.host.noteError f := by
  have hnote (v : Watch) : (after (do
      let host ← liftM (w.host.raiseError f)
      modify fun u : Watch => { u with host := host } : Act Watch Unit) v).host =
        w.host.noteError f := by
    rw [after_bind, outcome_liftSite, Host.raiseError, outcome_bind, outcome_log]
    rfl
  rw [Monitor.reportError, after_bind]
  simp only [outcome_get, after_get]
  split
  · rw [after_bind, outcome_liftSite]
    exact hnote _
  · exact hnote _

theorem beside_settle : Meets w₀.Beside E Monitor.settle :=
  meets_get_bind fun _ _ => meets_ite
    (fun _ => meets_bind beside_log fun _ =>
      beside_modify (fun _ => rfl) (fun _ => rfl) fun _ => rfl)
    fun _ => meets_pure _

theorem beside_stop : Meets w₀.Beside E Monitor.stop :=
  meets_bind beside_shutDown fun _ =>
    meets_bind (beside_modify (fun _ => rfl) (fun _ => rfl) fun _ => rfl) fun _ => beside_settle

theorem Monitor.after_tables (m : Monitor) (w : Watch) : m.tables.after w = w := by
  rw [tables, after_bind]
  simp only [outcome_get, after_get]
  split
  · -- a reader that waits in vain, or cannot wait
    rw [after_bind, outcome_liftSite, after_liftSite, (checkWait_views m.timeout w.toSite).2]
    split <;> rfl
  · split <;> rfl

/-- Readers change nothing. -/
theorem beside_tables (m : Monitor) : Meets w₀.Beside (fun _ => True) m.tables := by
  intro w hw
  rw [m.after_tables]
  exact ⟨hw, fun _ _ => trivial⟩

/-- The wait between two polls is none of the calls that matter here. -/
theorem beside_awaitPoll (m : Monitor) : Meets w₀.Beside (fun _ => True) m.awaitPoll := by
  unfold Monitor.awaitPoll
  -- nothing is to compute how long a text may be
  generalize Text.writeInt? m.interval = text
  cases text with
  | none => exact meets_throw trivial
  | some interval =>
    refine meets_bind beside_log fun _ => meets_bind (meets_ofExcept fun _ _ => trivial) fun x => ?_
    refine meets_get_bind fun w _ v hv => ⟨?_, fun _ _ => trivial⟩
    rw [after_liftSite, (block_views w.stopping x v.toSite).2]
    split
    · exact hv
    · exact (beside_record (E := fun _ => True) (e := .wait x) rfl v hv).1

/-! ## The loop -/

/-- What the loop keeps as a whole: nothing beside polls matters to it, a poll with its request
keeps it, and so does the report of a fault that this can end in. -/
structure Monitor.Keeps (m : Monitor) (I : Watch → Prop) (E : Fault → Prop) : Prop where
  beside : ∀ w v : Watch, I w → w.Beside v → I v
  turn : Meets I E m.pollAndRequest
  report : ∀ f, E f → Meets I (fun _ => True) (Monitor.reportError f)

/-- A condition on what is connected and published is kept as soon as polls keep it. -/
theorem Monitor.keeps_of_poll {m : Monitor} {I : Watch → Prop}
    (hI : ∀ w v : Watch, I w → w.Near v → I v) (hpoll : Meets I (fun _ => True) m.poll) :
    m.Keeps I (fun _ => True) where
  beside w v hw hb := hI w v hw hb.near
  turn := meets_bind hpoll fun _ => meets_ite
    (fun _ => meets_of_near hI fun _ => near_requestReconfiguration m) fun _ => meets_pure _
  report f _ := meets_of_near hI fun _ => near_reportError f

section Kept

variable {I : Watch → Prop} {m : Monitor} (h : m.Keeps I E)

include h

theorem kept_log {level : Level} {logger message : String} :
    Meets I (fun _ => True) (liftM (Site.log level logger message) : Act Watch Unit) :=
  meets_of_beside h.beside fun _ => beside_log

/-- **A round keeps what its poll, request and report keep.** -/
theorem kept_round : Meets I (fun _ => True) m.round := by
  refine meets_get_bind fun w _ => meets_ite
    (fun _ => meets_bind (kept_log h) fun _ => meets_pure _) fun _ => ?_
  refine meets_attempt_bind h.turn (fun _ => ?_) fun f hf => ?_
  · exact meets_bind (meets_of_beside h.beside fun _ => beside_awaitPoll m) fun _ => meets_pure _
  · refine meets_ite (fun _ => meets_bind (kept_log h) fun _ => ?_) fun _ => meets_throw trivial
    exact meets_bind (h.report f hf) fun _ => meets_pure _

theorem kept_rounds (more : Nat) : Meets I (fun _ => True) (m.rounds more) := by
  have hfinish : Meets I (fun _ => True) Monitor.finish := kept_log h
  induction more with
  | zero =>
    refine meets_bind (kept_round h) fun _ => meets_ite (fun _ => ?_) fun _ => meets_pure _
    refine meets_bind (meets_of_beside h.beside fun _ => beside_modify (fun w => ?_) (fun w => ?_)
      fun w => ?_) fun _ => hfinish
    all_goals
      rw [Watch.overtaken]
      split <;> rfl
  | succ more ih =>
    refine meets_bind (kept_round h) fun _ => meets_ite (fun _ => ?_) fun _ => meets_pure _
    exact meets_get_bind fun _ _ => meets_ite (fun _ => hfinish) fun _ => ih

/-- **A run keeps what its turns keep.** -/
theorem kept_run (n : Nat) : Meets I (fun _ => True) (m.run n) :=
  meets_bind (kept_log h) fun _ => kept_rounds h _

/-- What is thrown in a round stays in the thread. -/
theorem kept_advance : Meets I (fun _ => False) m.advance := by
  have hthread (t : Thread) :
      Meets I (fun _ => False) (modify fun w : Watch => { w with thread := t }) :=
    meets_of_beside h.beside fun _ => beside_modify (fun _ => rfl) (fun _ => rfl) fun _ => rfl
  refine meets_attempt_bind (kept_round h) (fun waits => ?_) fun _ _ => hthread _
  cases waits <;> exact hthread _

theorem kept_start : Meets I (fun _ => True) m.start :=
  meets_get_bind fun _ _ => meets_ite
    (fun _ => meets_bind (kept_log h) fun _ => (kept_advance h).mono fun _ => False.elim)
    fun _ => meets_throw trivial

theorem kept_tick : Meets I (fun _ => False) m.tick :=
  meets_get_bind fun _ _ => meets_ite (fun _ => kept_advance h) fun _ => meets_pure _

end Kept

/-- A round after a poll that goes well does no more than to wait. -/
theorem round_spec_of_ok (m : Monitor) {w : Watch} (hgo : w.stopping = false)
    (hturn : m.pollAndRequest.outcome w = .ok ()) :
    (m.pollAndRequest.after w).Beside (m.round.after w) := by
  have hwait : Meets (m.pollAndRequest.after w).Beside (fun _ => True)
      (do m.awaitPoll; return true : Act Watch Bool) :=
    meets_bind (beside_awaitPoll m) fun _ => meets_pure _
  rw [Monitor.round, after_bind]
  simp only [outcome_get, after_get, hgo, Bool.false_eq_true, if_false]
  rw [after_bind, outcome_attempt, after_attempt, hturn]
  exact (hwait _ (.refl _)).1

/-- **A thread that is started** begins with a poll, and leaves what this leaves if it goes well. -/
theorem start_spec (m : Monitor) {w : Watch} (hthread : w.thread = .idle)
    (hgo : w.stopping = false) :
    m.start.outcome w = .ok () ∧ ∃ v, w.Beside v ∧ (m.pollAndRequest.outcome v = .ok () →
      (m.pollAndRequest.after v).Beside (m.start.after w)) := by
  have hany : m.Keeps (fun _ => True) (fun _ => True) :=
    Monitor.keeps_of_poll (fun _ _ _ _ => trivial) fun _ _ => ⟨trivial, fun _ _ => trivial⟩
  have hstart : m.start.outcome w = m.advance.outcome (Monitor.enter.after w) ∧
      m.start.after w = m.advance.after (Monitor.enter.after w) := by
    rw [Monitor.start, outcome_bind, after_bind]
    simp only [outcome_get, after_get, hthread, if_true]
    rw [outcome_bind, after_bind, Monitor.enter, outcome_liftSite, outcome_log]
    exact ⟨rfl, rfl⟩
  obtain ⟨hout, hafter⟩ := hstart
  rw [hout, hafter]
  have henter : w.Beside (Monitor.enter.after w) := (beside_log (E := fun _ => True) w (.refl w)).1
  have hgo' : (Monitor.enter.after w).stopping = false := by
    rw [Monitor.enter, after_liftSite]
    exact hgo
  generalize Monitor.enter.after w = v at henter hgo'
  obtain ⟨⟨⟩, hreturns⟩ := (kept_advance hany).returns (s := v) trivial
  refine ⟨hreturns, v, henter, fun hturn => ?_⟩
  have hround := round_spec_of_ok m hgo' hturn
  have hthread (t : Thread) :
      Meets (m.pollAndRequest.after v).Beside (fun _ => True)
        (modify fun w : Watch => { w with thread := t }) :=
    beside_modify (fun _ => rfl) (fun _ => rfl) fun _ => rfl
  rw [Monitor.advance, after_bind, outcome_attempt, after_attempt]
  dsimp only
  rcases m.round.outcome v with f | waits
  · exact (hthread _ _ hround).1
  · cases waits <;> exact (hthread _ _ hround).1

end TableDiscovery
