import TableDiscovery.Proofs.Metrics
import TableDiscovery.Proofs.Monitor.Turn

/-!
# The metrics of a monitor

A monitor with metrics counts its polls when they return, by what became of them, and its requests
when the host has taken them. So between any two polls the metrics agree with a tally of what has
happened, whatever was listed, failed or told the monitor to stop.

* `Script.TellsTime`: a clock the readings of which lie a number of seconds apart;
* `Watch.Same`, **`same_list`**: steps that change neither the metrics nor what is published;
* `Monitor.Counts`, **`Monitor.poll_counts`**: what a poll does to the metrics;
* `Watch.answers`: requests that are taken;
* `Monitor.Asks`, **`Monitor.requestReconfiguration_counts`**: what a request does to the metrics;
* `Monitor.returns`, `Monitor.publishes`, `Monitor.failsTransiently`, `Monitor.serves`: what there
  is to count of the poll in a cycle and of its request;
* `Monitor.Move`, `Monitor.cycles`, `Monitor.tally`: cycles and shutdowns, and what they come to;
* `Monitor.Accounts`, `Monitor.accounts_cycle`: metrics that agree with it still do after a cycle;
* **`Monitor.metrics_account`**: they do after any sequence of cycles and shutdowns.
-/

namespace TableDiscovery

open Act

/-- Readings of the clock lie a number of seconds apart. -/
def Script.TellsTime (c : Script) : Prop := ∀ i j, (c.clock j - c.clock i).isNaN = false

/-! ## Steps that change no figure -/

/-- The script, the metrics and what is published are the same. -/
structure Watch.Same (w v : Watch) : Prop where
  script : v.script = w.script
  metrics : v.metrics = w.metrics
  snapshot : v.snapshot = w.snapshot
  published : v.published = w.published

theorem Watch.Same.refl (w : Watch) : w.Same w := ⟨rfl, rfl, rfl, rfl⟩

section Same

variable {α : Type} {w₀ w : Watch}

theorem same_liftPool {x : Act Pool α} (hx : ∀ q, (x.after q).script = q.script) :
    Meets w₀.Same (fun _ => True) (liftM x : Act Watch α) := by
  intro w hw
  rw [after_liftPool]
  exact ⟨{ hw with script := (hx w.toPool).trans hw.script }, fun _ _ => trivial⟩

theorem same_liftSite {x : Act Site α} (hx : ∀ s, (x.after s).script = s.script) :
    Meets w₀.Same (fun _ => True) (liftM x : Act Watch α) := by
  intro w hw
  rw [after_liftSite]
  exact ⟨{ hw with script := (hx w.toSite).trans hw.script }, fun _ _ => trivial⟩

theorem same_quiet {x : Act Site α} {E : Fault → Prop}
    (hx : ∀ s : Site, Meets (s.Made []) E x) :
    Meets w₀.Same (fun _ => True) (liftM x : Act Watch α) :=
  same_liftSite fun s => (hx s s (.refl s)).1.script

theorem same_log {level : Level} {logger message : String} :
    Meets w₀.Same (fun _ => True) (liftM (Site.log level logger message) : Act Watch Unit) :=
  same_liftSite fun s => (made_log level logger message s).script

theorem same_shutDown : Meets w₀.Same (fun _ => True) Monitor.shutDown :=
  meets_get_bind fun _ _ => meets_ite
    (fun _ => meets_bind same_log fun _ => meets_modify fun _ h => { h with }) fun _ => meets_pure _

/-- **Listing changes no figure.** -/
theorem same_list (m : Monitor) : Meets w₀.Same (fun _ => True) m.list := by
  have hfetch (connection : Nat) : Meets w₀.Same (fun _ => True) (m.fetch connection) :=
    meets_bind (same_liftSite fun s => (made_query m.dialect connection s).1.script) fun listing =>
      meets_when same_shutDown fun _ => meets_pure listing
  refine meets_traced (same_quiet (E := fun _ => True) fun _ =>
    quiet_enter (untold?_dialect m.dialect))
    (fun _ => same_quiet (E := fun _ => True) fun _ => quiet_closeSpan) ?_
  refine meets_bind (same_liftPool fun q => (get_made m.provider q).1.script) fun n => ?_
  refine meets_bind (hfetch n) fun listing => ?_
  exact meets_bind (meets_ofExcept fun _ _ => trivial) fun tables =>
    meets_bind (same_quiet (E := fun _ => True) fun _ => quiet_setAttribute) fun _ =>
      meets_pure tables

/-- The host may tell the monitor to stop in a request. -/
theorem same_callHost : Meets w₀.Same (fun _ => True) Monitor.callHost := by
  refine meets_get_bind fun w _ => ?_
  refine meets_when (same_liftSite fun _ => rfl) fun _ => ?_
  refine meets_bind (same_liftSite fun s => (Monitor.made_request w.host s).1.script) fun _ => ?_
  refine meets_bind (meets_modify fun _ h => { h with }) fun _ => ?_
  split
  · exact meets_pure _
  · exact same_shutDown
  · exact meets_throw trivial

/-- After a log record it is left to look at the rest. -/
theorem same_log_bind {level : Level} {logger message : String} {k : PUnit → Act Watch α}
    {Q : Except Fault α → Watch → Prop}
    (hk : ∀ s, w.Same (w.onSite s) → Q ((k ⟨⟩).outcome (w.onSite s)) ((k ⟨⟩).after (w.onSite s))) :
    Q ((liftM (Site.log level logger message) >>= k).outcome w)
      ((liftM (Site.log level logger message) >>= k).after w) := by
  have hsame : w.Same ((liftM (Site.log level logger message) : Act Watch Unit).after w) :=
    (same_log w (.refl w)).1
  rw [after_liftSite] at hsame
  exact views_of_ok (idle_log level logger message w).2 (after_liftSite ..) (hk _ hsame)

end Same

/-- A request that is made now is taken: the monitor is not to stop, and the host does not fail. -/
def Watch.answers (w : Watch) : Bool :=
  !w.stopping && match w.reaction w.host.requests with
    | .fail _ => false
    | _ => true

namespace Monitor

variable {m : Monitor} {w v : Watch} {o : Metrics}

/-! ## Polls -/

/-- A poll is counted with the time since it began. -/
theorem metrics_recordPoll (hw : w.metrics = some o) (m : Monitor) (status : String)
    (started : Float) :
    ((m.recordPoll status started).after w).metrics =
      some (o.addPoll m.dialect.name status (w.script.clock w.counts.clock - started)) := by
  have hnow : (liftM Site.now : Act Watch Float).outcome w = .ok (w.script.clock w.counts.clock) :=
    outcome_liftSite ..
  have hmetrics : ((liftM Site.now : Act Watch Float).after w).metrics = some o := by
    rw [after_liftSite]
    exact hw
  rw [recordPoll, after_bind, outcome_get, after_get]
  dsimp only
  rw [hw]
  simp only [Option.isSome_some, if_true]
  rw [after_bind, hnow]
  dsimp only
  rw [after_modify, hmetrics]
  rfl

theorem metrics_recordTables (hw : w.metrics = some o) (m : Monitor) (s : Snapshot) :
    ((m.recordTables s).after w).metrics =
      some (o.setSizes m.dialect.name s.tables.length s.duplicates.length) := by
  rw [recordTables, after_bind, outcome_get, after_get]
  dsimp only
  rw [hw]
  simp only [Option.isSome_some, if_true]
  rw [after_bind, outcome_modify, after_modify]
  dsimp only
  rw [after_liftSite, hw]
  rfl

/-- What a poll does to the metrics, by what was published before, what its listing comes to and
how it ends. -/
inductive Counts (m : Monitor) (before : Option Snapshot) (o : Metrics) :
    Except Fault (List Table) → Except Fault Bool → Metrics → Prop
  /-- A poll that fails is not counted. -/
  | raised {l : Except Fault (List Table)} {f : Fault} : Counts m before o l (.error f) o
  /-- A poll that is skipped. -/
  | skipped {f : Fault} {x : Float} : m.dialect.isTransient f = true → x.isNaN = false →
    Counts m before o (.error f) (.ok false) (o.addPoll m.dialect.name "failed" x)
  /-- The tables are the published ones. -/
  | kept {ts : List Table} {b : Bool} {x : Float} :
    before.map (·.tables) = some (m.filter.apply m.dialect ts) → x.isNaN = false →
    Counts m before o (.ok ts) (.ok b) (o.addPoll m.dialect.name "unchanged" x)
  /-- Other tables are published. -/
  | replaced {ts : List Table} {b : Bool} {x : Float} {s : Snapshot} :
    before.map (·.tables) ≠ some (m.filter.apply m.dialect ts) → x.isNaN = false →
    s = .ofTables (m.filter.apply m.dialect ts) →
    Counts m before o (.ok ts) (.ok b)
      ((o.addPoll m.dialect.name "changed" x).setSizes m.dialect.name s.tables.length
        s.duplicates.length)

/-- The metrics after an action are counted as its listing and its end say. -/
def CountsIn (m : Monitor) (before : Option Snapshot) (o : Metrics)
    (l : Except Fault (List Table)) (r : Except Fault Bool) (v : Watch) : Prop :=
  ∃ o', v.metrics = some o' ∧ m.Counts before o l r o'

section Conclude

variable {started : Float} (hw : w.metrics = some o)
  (hclock : ∀ i, (w.script.clock i - started).isNaN = false)

include hw hclock

theorem publish_counts (ts : List Table) :
    m.CountsIn w.snapshot o (.ok ts) ((m.publish started ts).outcome w)
      ((m.publish started ts).after w) := by
  rw [publish, after_bind, outcome_bind]
  simp only [outcome_get, after_get]
  split
  · rename_i hsame
    refine views_of_ok (Q := m.CountsIn w.snapshot o (.ok ts)) (idle_recordPoll m _ _ w).2 rfl ?_
    exact ⟨_, metrics_recordPoll hw m "unchanged" started, .kept hsame (hclock _)⟩
  · rename_i hother
    refine views_of_ok (Q := m.CountsIn w.snapshot o (.ok ts)) (outcome_modify ..)
      (after_modify ..) ?_
    refine same_log_bind (Q := m.CountsIn w.snapshot o (.ok ts)) fun s hv => ?_
    refine views_of_ok (Q := m.CountsIn w.snapshot o (.ok ts)) (idle_recordPoll m _ _ _).2 rfl ?_
    have hcounted := metrics_recordPoll (hv.metrics.trans hw) m "changed" started
    refine views_of_ok (Q := m.CountsIn w.snapshot o (.ok ts)) (idle_recordTables m _ _).2 rfl ?_
    exact ⟨_, metrics_recordTables hcounted m _, .replaced hother (hv.script ▸ hclock _) rfl⟩

/-- Giving the connection up may fail; then the poll is not counted. -/
theorem skip_counts {f : Fault} (ht : m.dialect.isTransient f = true) :
    m.CountsIn w.snapshot o (.error f) ((m.skip started).outcome w) ((m.skip started).after w) := by
  refine same_log_bind (Q := m.CountsIn w.snapshot o (.error f)) fun s hv => ?_
  have hsame := (same_liftPool (fun q => (quiet_close m.provider q (.refl _)).1.script) _ hv).1
  have hmetrics := hsame.metrics.trans hw
  cases hout : (liftM m.provider.close : Act Watch Unit).outcome (w.onSite s) with
  | error g =>
    exact views_of_error (Q := m.CountsIn w.snapshot o (.error f)) hout rfl ⟨o, hmetrics, .raised⟩
  | ok u =>
    refine views_of_ok (Q := m.CountsIn w.snapshot o (.error f)) hout rfl ?_
    refine views_of_ok (Q := m.CountsIn w.snapshot o (.error f)) (idle_recordPoll m _ _ _).2 rfl ?_
    exact ⟨_, metrics_recordPoll hmetrics m "failed" started,
      .skipped ht (hsame.script ▸ hclock _)⟩

theorem conclude_counts (l : Except Fault (List Table)) :
    m.CountsIn w.snapshot o l ((m.conclude started l).outcome w)
      ((m.conclude started l).after w) := by
  cases l with
  | error f =>
    rw [conclude]
    split
    · exact skip_counts hw hclock ‹_›
    · exact ⟨o, hw, .raised⟩
  | ok ts =>
    refine same_log_bind (Q := m.CountsIn w.snapshot o (.ok ts)) fun s hv => ?_
    exact hv.snapshot ▸ publish_counts (hv.metrics.trans hw) (hv.script ▸ hclock) ts

end Conclude

/-- **What a poll does to the metrics.** -/
theorem poll_counts (m : Monitor) (hw : w.metrics = some o) (hclock : w.script.TellsTime) :
    m.CountsIn w.snapshot o (m.listing w) (m.poll.outcome w) (m.poll.after w) := by
  obtain ⟨hafter, hout⟩ := poll_views m w
  have hnow : w.Same (w.onSite (Site.now.after w.toSite)) := ⟨rfl, rfl, rfl, rfl⟩
  have hlisted := (same_list m _ hnow).1
  rw [hafter, hout]
  generalize m.list.after (w.onSite (Site.now.after w.toSite)) = v at hlisted
  have hreadings (i : Nat) : (v.script.clock i - w.script.clock w.counts.clock).isNaN = false := by
    rw [hlisted.script]
    exact hclock _ i
  have hconclude :=
    conclude_counts (m := m) (hlisted.metrics.trans hw) hreadings (m.listing w)
  rwa [hlisted.snapshot] at hconclude

/-! ## Requests -/

theorem outcome_callHost (w : Watch) :
    callHost.outcome w = match w.reaction w.host.requests with
      | .fail f => .error f
      | _ => .ok () := by
  cases hcalls : w.announcesCalls with
  | true => exact (callHost_spec hcalls).2
  | false =>
    obtain ⟨-, hrequest⟩ := made_request w.host w.toSite
    simp only [callHost, outcome_bind, outcome_get, after_get, hcalls, Bool.false_eq_true, if_false,
      outcome_liftSite, after_liftSite, hrequest, outcome_modify, after_modify]
    cases hreaction : w.reaction w.host.requests with
    | accept | fail => rfl
    | shutDown =>
      obtain ⟨-, -, -, hout⟩ :=
        shutDown_spec { w.onSite (w.host.request.after w.toSite) with host := w.host.noteRequest }
      exact hout

/-- What a request leaves unchanged, and what the metrics count of it. -/
structure Asks (m : Monitor) (w : Watch) (o : Metrics) (v : Watch) : Prop where
  script : v.script = w.script
  snapshot : v.snapshot = w.snapshot
  published : v.published = w.published
  metrics : v.metrics = some (if w.answers then o.addRequest m.dialect.name else o)

/-- A request that is not taken is not counted. -/
theorem asks_of_same (hw : w.metrics = some o) (h : w.Same v) (hno : w.answers = false) :
    m.Asks w o v := by
  refine ⟨h.script, h.snapshot, h.published, ?_⟩
  rw [h.metrics, hw, hno]
  rfl

/-- **What a request does to the metrics.** -/
theorem requestReconfiguration_counts (m : Monitor) (hw : w.metrics = some o) :
    m.Asks w o (m.requestReconfiguration.after w) := by
  rw [requestReconfiguration, after_bind]
  simp only [outcome_get, after_get]
  split
  · rename_i hstop
    exact asks_of_same hw (same_log w (.refl w)).1 (by simp [Watch.answers, hstop])
  · rename_i hgo
    refine same_log_bind (Q := fun _ => m.Asks w o) fun s hs => ?_
    have hcalled := (same_callHost _ hs).1
    have hout := outcome_callHost (w.onSite s)
    cases hreaction : w.reaction w.host.requests with
    | fail f =>
      rw [show (w.onSite s).reaction (w.onSite s).host.requests = .fail f from hreaction] at hout
      refine views_of_error (Q := fun _ => m.Asks w o) hout rfl (asks_of_same hw hcalled ?_)
      simp [Watch.answers, hreaction]
    | accept | shutDown =>
      rw [show (w.onSite s).reaction (w.onSite s).host.requests = _ from hreaction] at hout
      have hyes : w.answers = true := by simp [Watch.answers, hreaction, hgo]
      refine views_of_ok (Q := fun _ => m.Asks w o) hout rfl
        ⟨hcalled.script, hcalled.snapshot, hcalled.published, ?_⟩
      rw [after_modify, hyes]
      exact congrArg (Option.map (·.addRequest m.dialect.name)) (hcalled.metrics.trans hw)

/-! ## What there is to count -/

section Cycle

variable (m) (w)

/-- The poll of a cycle returns. -/
def returns : Bool := (m.poll.outcome w).toOption.isSome

/-- The poll of a cycle publishes a snapshot. -/
def publishes : Bool := (m.poll.after w).published ≠ w.published

/-- The poll of a cycle returns after a listing that has failed transiently. -/
def failsTransiently : Bool :=
  m.returns w && match m.listing w with
    | .error f => m.dialect.isTransient f
    | .ok _ => false

/-- The poll of a cycle calls for a request, and the host takes it. -/
def serves : Bool := decide (m.Replaces w) && (m.poll.after w).answers

end Cycle

/-- What there is to count of cycles that begin in some states. -/
def tally (m : Monitor) (vs : List Watch) : Tally where
  returned := vs.countP m.returns
  published := vs.countP m.publishes
  failed := vs.countP m.failsTransiently
  served := vs.countP m.serves

theorem tally_concat (m : Monitor) (vs : List Watch) (w : Watch) :
    m.tally (vs ++ [w]) =
      { returned := (m.tally vs).returned + if m.returns w then 1 else 0
        published := (m.tally vs).published + if m.publishes w then 1 else 0
        failed := (m.tally vs).failed + if m.failsTransiently w then 1 else 0
        served := (m.tally vs).served + if m.serves w then 1 else 0 } := by
  simp only [tally, List.countP_append, List.countP_singleton]

/-- **The metrics agree with a tally after a poll.** What its request comes to is counted later. -/
theorem shows_poll {t : Tally} (hw : w.metrics = some o) (hclock : w.script.TellsTime)
    (h : o.Shows m.dialect.name t w.snapshot) :
    ∃ o', (m.poll.after w).metrics = some o' ∧
      o'.Shows m.dialect.name
        { t with
          returned := t.returned + if m.returns w then 1 else 0
          published := t.published + if m.publishes w then 1 else 0
          failed := t.failed + if m.failsTransiently w then 1 else 0 }
        (m.poll.after w).snapshot := by
  obtain ⟨o', hmetrics, hcounts⟩ := poll_counts m hw hclock
  refine ⟨o', hmetrics, ?_⟩
  generalize hr : m.poll.outcome w = r at hcounts
  have hreturns : m.returns w = r.toOption.isSome := by rw [returns, hr]
  cases hl : m.listing w with
  | error f =>
    obtain ⟨hsnapshot, hpublished, -⟩ := poll_of_error hl
    have hquiet : m.publishes w = false := by simp [publishes, hpublished]
    rw [hl] at hcounts
    rw [hsnapshot]
    cases hcounts with
    | raised => simpa [failsTransiently, hreturns, hquiet, Except.toOption] using h
    | skipped ht hx =>
      simpa [failsTransiently, hreturns, hquiet, hl, ht, Except.toOption] using
        h.addPoll "failed" (by decide) hx
  | ok ts =>
    have hfails : m.failsTransiently w = false := by simp [failsTransiently, hl]
    rw [hl] at hcounts
    obtain ⟨hsame, hsnapshot, hpublished, hout⟩ | ⟨hother, hsnapshot, hpublished, hout⟩ :=
      poll_of_ok hl
    · have hquiet : m.publishes w = false := by simp [publishes, hpublished]
      rw [hsnapshot]
      cases hr.symm.trans hout
      cases hcounts with
      | kept _ hx =>
        simpa [hreturns, hquiet, hfails, Except.toOption] using
          h.addPoll "unchanged" (by decide) hx
      | replaced hother => exact (hother hsame).elim
    · have hloud : m.publishes w = true := by simp [publishes, hpublished]
      rw [hsnapshot]
      cases hr.symm.trans hout
      cases hcounts with
      | kept hsame => exact (hother hsame).elim
      | replaced _ hx hs =>
        subst hs
        simpa [hreturns, hloud, hfails, Except.toOption] using h.publish _ hx

/-- The metrics of a monitor agree with cycles that begin in some states. -/
structure Accounts (m : Monitor) (vs : List Watch) (w : Watch) : Prop where
  clock : w.script.TellsTime
  published : w.published = (m.tally vs).published
  metrics : ∃ o, w.metrics = some o ∧ o.Shows m.dialect.name (m.tally vs) w.snapshot

theorem published_poll (m : Monitor) (w : Watch) :
    (m.poll.after w).published = w.published + if m.publishes w then 1 else 0 := by
  cases hl : m.listing w with
  | error f =>
    obtain ⟨-, hpublished, -⟩ := poll_of_error hl
    simp [publishes, hpublished]
  | ok ts =>
    obtain ⟨-, -, hpublished, -⟩ | ⟨-, -, hpublished, -⟩ := poll_of_ok hl <;>
      simp [publishes, hpublished]

theorem after_pollAndRequest (m : Monitor) (w : Watch) :
    m.pollAndRequest.after w =
      if m.Replaces w then m.requestReconfiguration.after (m.poll.after w) else m.poll.after w := by
  have hreplaces := outcome_eq_true_iff m w
  rw [pollAndRequest, after_bind]
  cases hout : m.poll.outcome w with
  | error f =>
    have hno : ¬ m.Replaces w := by
      intro h
      cases hout.symm.trans (hreplaces.mpr h)
    rw [if_neg hno]
  | ok b =>
    cases b with
    | true =>
      rw [if_pos (hreplaces.mp hout)]
      rfl
    | false =>
      have hno : ¬ m.Replaces w := by
        intro h
        cases hout.symm.trans (hreplaces.mpr h)
      rw [if_neg hno]
      rfl

/-- **A cycle is counted.** -/
theorem accounts_cycle {vs : List Watch} (h : m.Accounts vs w) :
    m.Accounts (vs ++ [w]) (m.pollAndRequest.after w) := by
  obtain ⟨o, hw, hshows⟩ := h.metrics
  obtain ⟨o', hpolled, hshows'⟩ := shows_poll hw h.clock hshows
  obtain ⟨cs, -, hmade⟩ := poll_made m w
  have hclock : (m.poll.after w).script.TellsTime := hmade.script.symm ▸ h.clock
  have hpublished := published_poll m w
  rw [h.published] at hpublished
  rw [after_pollAndRequest]
  split
  · rename_i hreplaces
    have hasks := requestReconfiguration_counts m hpolled
    have hserves : m.serves w = (m.poll.after w).answers := by simp [serves, hreplaces]
    refine ⟨hasks.script.symm ▸ hclock, ?_, _, hasks.metrics, ?_⟩
    · rw [hasks.published, hpublished, tally_concat]
    · rw [hasks.snapshot, tally_concat, hserves]
      split
      · -- the poll has replaced a snapshot, so that there is a publication more than requests
        have hmore : 0 < (m.tally vs).published := hshows.shown.mp hreplaces.1
        have hfewer := hshows.fewer
        have hloud : m.publishes w = true := by simpa [publishes] using hreplaces.2
        rw [hshows.requests, hshows.changed] at hfewer
        refine hshows'.addRequest ?_
        rw [hloud]
        change (m.tally vs).served + 1 < (m.tally vs).published + 1
        omega
      · exact hshows'
  · rename_i hno
    have hserves : m.serves w = false := by simp [serves, hno]
    refine ⟨hclock, ?_, o', hpolled, ?_⟩
    · rw [hpublished, tally_concat]
    · rw [tally_concat, hserves]
      exact hshows'

/-! ## Runs -/

/-- A cycle of the loop, or the call that tells the monitor to stop. -/
inductive Move
  | cycle
  | shutDown
deriving DecidableEq, Repr

/-- What a move does. -/
def move (m : Monitor) : Move → Act Watch Unit
  | .cycle => m.pollAndRequest
  | .shutDown => shutDown

/-- The states in which the cycles among some moves begin. -/
def cycles (m : Monitor) : List Move → Watch → List Watch
  | [], _ => []
  | .cycle :: ms, w => w :: m.cycles ms (m.pollAndRequest.after w)
  | .shutDown :: ms, w => m.cycles ms (shutDown.after w)

theorem accounts_shutDown {vs : List Watch} (h : m.Accounts vs w) :
    m.Accounts vs (shutDown.after w) := by
  have hsame := (same_shutDown w (.refl w)).1
  refine ⟨hsame.script.symm ▸ h.clock, hsame.published.trans h.published, ?_⟩
  rw [hsame.metrics, hsame.snapshot]
  exact h.metrics

theorem accounts_afterAll {vs : List Watch} (h : m.Accounts vs w) (ms : List Move) :
    m.Accounts (vs ++ m.cycles ms w) (afterAll m.move ms w) := by
  induction ms generalizing vs w with
  | nil => simpa [cycles, afterAll] using h
  | cons k ms ih =>
    cases k with
    | cycle =>
      have hrest := ih (accounts_cycle h)
      rwa [List.append_assoc] at hrest
    | shutDown => exact ih (accounts_shutDown h)

end Monitor

/-- Nothing has been published, and the metrics are new. -/
structure Watch.Uncounted (w : Watch) : Prop where
  snapshot : w.snapshot = none
  published : w.published = 0
  metrics : w.metrics = some { }

namespace Monitor

/-- **The metrics agree with what has happened**, between any two cycles. With new metrics, whatever
is listed or fails, and whenever the monitor is told to stop, the polls that are counted, over all
outcomes, and their durations are the polls that returned. Of these, the changed ones are the
snapshots that were published, and the failed ones those that failed transiently. The gauges show
the sizes of the published snapshot, as soon as there is one. And the requests are those that the
host has taken, fewer than the publications, unless there is neither. -/
theorem metrics_account (m : Monitor) {w : Watch} (hw : w.Uncounted)
    (hclock : w.script.TellsTime) (ms : List Move) :
    let v := afterAll m.move ms w
    let t := m.tally (m.cycles ms w)
    v.published = t.published ∧
      ∃ o, v.metrics = some o ∧ o.Shows m.dialect.name t v.snapshot := by
  have hbegin : m.Accounts [] w := by
    refine ⟨hclock, hw.published, _, hw.metrics, ?_⟩
    rw [hw.snapshot]
    exact Metrics.shows_empty m.dialect.name
  have haccounts := accounts_afterAll hbegin ms
  exact ⟨haccounts.published, haccounts.metrics⟩

/-- A listing that fails for good. -/
def refusedListing : Listing :=
  { failure := some (.raised .memory none, .fetch) }

/-- A shop with metrics: its second listing breaks, its fourth one fails for good, and its host
fails in the second request. -/
def meteredShop : Watch :=
  { shopWatch [shopListing ["items"], brokenListing, shopListing ["items", "orders"],
      refusedListing, shopListing ["orders"], shopListing []] with
    reaction := fun n => if n = 1 then .fail (.raised .runtime none) else .accept
    metrics := some { } }

theorem metrics_account_meteredShop :
    let ms := [Move.cycle, .cycle, .cycle, .cycle, .cycle, .shutDown, .cycle]
    meteredShop.Uncounted ∧ meteredShop.script.TellsTime ∧
      shop.tally (shop.cycles ms meteredShop) = ⟨5, 4, 1, 1⟩ ∧
      ∃ o, (afterAll shop.move ms meteredShop).metrics = some o ∧
        o.polled "postgresql" = 5 ∧ o.timed "postgresql" = 5 ∧
        o.pollsOf "postgresql" "changed" = 4 ∧ o.pollsOf "postgresql" "failed" = 1 ∧
        o.requested "postgresql" = 1 := by
  intro ms
  have hfresh : meteredShop.Uncounted := ⟨rfl, rfl, rfl⟩
  have hclock : meteredShop.script.TellsTime := fun _ _ =>
    show ((0.0 : Float) - 0.0).isNaN = false by decide
  have htally : shop.tally (shop.cycles ms meteredShop) = ⟨5, 4, 1, 1⟩ := by decide +kernel
  obtain ⟨-, o, hmetrics, hshows⟩ := metrics_account shop hfresh hclock ms
  rw [htally] at hshows
  exact ⟨hfresh, hclock, htally, o, hmetrics, hshows.polls, hshows.durations, hshows.changed,
    hshows.failed, hshows.requests⟩

end Monitor

end TableDiscovery
