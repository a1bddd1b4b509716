import TableDiscovery.Program
import TableDiscovery.Proofs.Connector.Tasks
import TableDiscovery.Proofs.Monitor.Connections

/-!
# The connections of a connector

A connector that has been stopped holds no connection. Of those that were opened for it, each has
been closed once, but for the half-open ones: when a session cannot be begun, the connection stays
open for good.

* `Connector.Tidy`, `Connector.Idle`, `Connector.Ready`: what a connector holds;
* `tidy_start`, `tidy_tick`, `idle_stop`: its operations;
* `free_discoverOnce`: a poll on a connection of its own;
* `Site.ClosesConnected`: everything has been closed but what is half open;
* **`finished_closesConnected`**: so it is after every run;
* `stop_leaks_halfOpen`: a half-open connection stays open.
-/

namespace TableDiscovery

open Act

namespace Connector

variable {α : Type} {E : Fault → Prop} {c e : Connector}

/-! ## What a connector holds -/

/-- The connections are owned. None is held, and there is no monitor, without a dialect and a
provider. -/
structure Tidy (c : Connector) : Prop where
  owns : ∃ k, c.toPool.Owns k
  idle : c.dialect = none ∨ c.provider = none → c.monitor = none ∧ c.cached = none

/-- The connector holds neither a connection nor a monitor. -/
def Idle (c : Connector) : Prop := (∃ k, c.toPool.Free k) ∧ c.monitor = none

/-- The connector may hold a connection: it has a dialect and a provider. -/
def Ready (c : Connector) : Prop :=
  (∃ k, c.toPool.Owns k) ∧ c.dialect ≠ none ∧ c.provider ≠ none

theorem Idle.tidy (h : c.Idle) : c.Tidy := by
  obtain ⟨⟨k, cs, hc⟩, hmonitor⟩ := h
  exact ⟨⟨k, cs, none, hc⟩, fun _ => ⟨hmonitor, hc.cached⟩⟩

theorem Ready.tidy (h : c.Ready) : c.Tidy :=
  ⟨h.1, fun hnone => (hnone.elim h.2.1 h.2.2).elim⟩

theorem Tidy.idle_of_dialect (h : c.Tidy) (hd : c.dialect = none) : c.Idle := by
  obtain ⟨k, cs, held, hc⟩ := h.owns
  obtain ⟨hmonitor, hcached⟩ := h.idle (.inl hd)
  obtain rfl := hc.cached.symm.trans hcached
  exact ⟨⟨k, cs, hc⟩, hmonitor⟩

theorem Tidy.ready_of_monitor (h : c.Tidy) {m : Monitor} (hm : c.monitor = some m) : c.Ready := by
  have hsome (hnone : c.dialect = none ∨ c.provider = none) : False := by
    cases hm.symm.trans (h.idle hnone).1
  exact ⟨h.owns, fun hd => hsome (.inl hd), fun hp => hsome (.inr hp)⟩

theorem Tidy.beside (h : c.Tidy) (hb : c.Beside e) : e.Tidy := by
  obtain ⟨k, hk⟩ := h.owns
  refine ⟨⟨k, hk.beside hb.watch.pool⟩, ?_⟩
  rw [hb.dialect, hb.provider, hb.monitor, hb.watch.pool.cached]
  exact h.idle

theorem Idle.beside (h : c.Idle) (hb : c.Beside e) : e.Idle := by
  obtain ⟨⟨k, hk⟩, hm⟩ := h
  exact ⟨⟨k, hk.beside hb.watch.pool⟩, hb.monitor.trans hm⟩

theorem Ready.beside (h : c.Ready) (hb : c.Beside e) : e.Ready := by
  obtain ⟨⟨k, hk⟩, hd, hp⟩ := h
  exact ⟨⟨k, hk.beside hb.watch.pool⟩, hb.dialect ▸ hd, hb.provider ▸ hp⟩

theorem tidy_beside {x : Act Connector α} (hx : ∀ c : Connector, Meets c.Beside E x) :
    Meets Tidy E x := meets_of_beside (fun _ _ => Tidy.beside) hx

theorem idle_beside {x : Act Connector α} (hx : ∀ c : Connector, Meets c.Beside E x) :
    Meets Idle E x := meets_of_beside (fun _ _ => Idle.beside) hx

theorem ready_beside {x : Act Connector α} (hx : ∀ c : Connector, Meets c.Beside E x) :
    Meets Ready E x := meets_of_beside (fun _ _ => Ready.beside) hx

theorem ready_liftWatch {x : Act Watch α}
    (hx : ∀ k, Meets (fun w : Watch => w.toPool.Owns k) E x) :
    Meets Ready E (liftM x : Act Connector α) := by
  rintro c ⟨⟨k, hk⟩, hd, hp⟩
  rw [after_liftWatch, outcome_liftWatch]
  exact ⟨⟨⟨k, (hx k _ hk).1⟩, hd, hp⟩, (hx k _ hk).2⟩

/-! ## Starting -/

theorem idle_findDialect (s : Settings) :
    Leads Idle (fun _ c => c.Idle ∧ c.dialect ≠ none) (fun _ => Tidy) (findDialect s) := by
  refine leads_bind (Q := fun _ => Idle)
    (leads_ofExcept (fun _ _ h => h) fun _ _ h => h.tidy) fun d => ?_
  refine leads_bind (leads_of_returns (idle_beside fun _ => beside_liftSite fun _ => aside_log))
    fun _ => ?_
  refine leads_bind (Q := fun _ c => c.Idle ∧ c.dialect ≠ none)
    (leads_modify fun c hc => ⟨hc, nofun⟩) fun _ => leads_pure fun _ h => h

theorem idle_makeProvider (s : Settings) (d : Dialect) :
    Leads (fun c => c.Idle ∧ c.dialect ≠ none) (fun _ => Ready) (fun _ => Tidy)
      (makeProvider s d) := by
  refine leads_bind (Q := fun _ c => c.Idle ∧ c.dialect ≠ none)
    (leads_ofExcept (fun _ _ h => h) fun _ _ h => h.1.tidy) fun p => ?_
  refine leads_bind (Q := fun _ => Ready) (leads_modify ?_) fun _ => leads_pure fun _ h => h
  rintro c ⟨⟨⟨k, cs, hc⟩, hm⟩, hd⟩
  -- the connections are counted from here on
  exact ⟨⟨cs.length, cs, none, hc.site, rfl, rfl⟩, hd, nofun⟩

theorem ready_makeMonitor (s : Settings) (p : Provider) (f : Filter) :
    Meets Ready (fun _ => True) (makeMonitor s p f) :=
  meets_get_bind fun _ _ => meets_bind (meets_ofExcept fun _ _ => trivial) fun _ =>
    meets_bind (meets_modify fun _ h => h) fun _ => meets_pure _

/-- **A start, even one that fails, keeps the connections owned.** -/
theorem tidy_start (p : Props) : Meets Tidy (fun _ => True) (start p) := by
  have hready (s : Settings) (f : Filter) (provider : Provider) :
      Meets Ready (fun _ => True) (do
        let _ ← provider.get
        let m ← makeMonitor s provider f
        m.start
        settle
        modify fun c => { c with started := true } : Act Connector Unit) := by
    refine meets_bind (ready_liftWatch fun k => owns_get provider) fun _ => ?_
    refine meets_bind (ready_makeMonitor s provider f) fun m => ?_
    refine meets_bind (ready_liftWatch fun k =>
      kept_start (Monitor.keeps_of_poll (fun w v h hb => h.beside hb.pool) (owns_poll m)))
      fun _ => ?_
    exact meets_bind (ready_beside fun _ => beside_settle) fun _ => meets_modify fun _ h => h
  refine meets_of_leads (leads_get_bind fun c hc => ?_)
  refine leads_ite (fun _ => leads_bind (Q := fun _ _ => False)
    (leads_throw fun _ h => h ▸ hc) fun _ _ h => h.elim) fun hd => ?_
  have hidle : c.Idle := hc.idle_of_dialect (by simpa using hd)
  refine Leads.here (P := Idle) ?_ hidle
  refine leads_bind (leads_of_returns (idle_beside fun _ => beside_log)) fun _ => ?_
  refine leads_bind ((leads_of_meets (idle_beside fun _ => beside_readSettings p)).widen
    (fun _ _ h => h) fun _ _ h => h.tidy) fun s => ?_
  refine leads_bind (Q := fun _ => Idle)
    (leads_ofExcept (fun _ _ h => h) fun _ _ h => h.tidy) fun f => ?_
  refine leads_bind (idle_findDialect s) fun d => ?_
  refine leads_bind (idle_makeProvider s d) fun provider => ?_
  exact (leads_of_meets (hready s f provider)).widen (fun _ _ h => h.tidy) fun _ _ h => h.tidy

/-! ## Polls -/

/-- The monitor of the connector, if there is one, polls. -/
def poll : Act Connector Unit := do
  match (← get).monitor with
  | none => pure ()
  | some m =>
    let _ ← m.poll

theorem tidy_onMonitor {k : Option Monitor → Act Connector Unit}
    (hnone : Meets Tidy (fun _ => True) (k none))
    (hsome : ∀ m, Meets Ready (fun _ => True) (k (some m))) :
    Meets Tidy (fun _ => True) (get >>= fun c => k c.monitor) := by
  intro c hc
  refine ⟨?_, fun _ _ => trivial⟩
  rw [after_bind, outcome_get, after_get]
  dsimp only
  cases hm : c.monitor with
  | none => exact (hnone c hc).1
  | some m => exact (hsome m c (hc.ready_of_monitor hm)).1.tidy

theorem tidy_poll : Meets Tidy (fun _ => True) poll := by
  refine tidy_onMonitor (k := fun o => match o with
    | none => pure ()
    | some m => do let _ ← m.poll) (meets_pure _) fun m => ?_
  exact meets_bind (ready_liftWatch fun k => owns_poll m) fun _ => meets_pure _

theorem tidy_tick : Meets Tidy (fun _ => True) tick := by
  refine tidy_onMonitor (k := fun o => match o with
    | none => pure ()
    | some m => do m.tick; settle) (meets_pure _) fun m => ?_
  refine meets_bind (ready_liftWatch fun k => ?_) fun _ => ready_beside fun _ => beside_settle
  exact (kept_tick (Monitor.keeps_of_poll (fun w v h hb => h.beside hb.pool) (owns_poll m))).mono
    fun _ => False.elim

/-- The server closes the newest connection. -/
theorem tidy_drop : Meets Tidy (fun _ => True) (liftM Site.drop : Act Connector Unit) := by
  intro c hc
  obtain ⟨k, cs, held, hk⟩ := hc.owns
  rw [after_liftSite]
  have hsite := (owned_drop c.toSite hk.site).1
  exact ⟨⟨⟨k, cs, held, { hk with site := hsite }⟩, hc.idle⟩, fun _ _ => trivial⟩

/-! ## Stopping -/

theorem tidy_stopMonitor :
    Leads Tidy (fun _ c => c.Tidy ∧ c.monitor = none) (fun _ c => c.Tidy ∧ c.monitor = none)
      stopMonitor := by
  have hrelease : Leads Tidy (fun _ c => c.Tidy ∧ c.monitor = none)
      (fun _ c => c.Tidy ∧ c.monitor = none) (modify fun c => { c with monitor := none }) :=
    leads_modify fun c hc => ⟨⟨hc.owns, fun h => ⟨rfl, (hc.idle h).2⟩⟩, rfl⟩
  have hside {x : Act Connector Unit} (hx : ∀ c : Connector, Meets c.Beside (fun _ => False) x) :
      Leads Tidy (fun _ => Tidy) (fun _ c => c.Tidy ∧ c.monitor = none) x :=
    leads_of_returns (tidy_beside hx)
  refine leads_get_bind fun c hc => leads_ite (fun _ => ?_) fun hm => ?_
  · refine Leads.here (P := Tidy) ?_ hc
    refine leads_bind (hside fun _ => beside_liftWatch fun _ => beside_shutDown) fun _ => ?_
    refine leads_bind (hside fun _ => beside_settle) fun _ => leads_get_bind fun c hc => ?_
    refine Leads.here (P := Tidy) ?_ hc
    refine leads_ite (fun _ => ?_) fun _ => hrelease
    refine leads_bind (hside fun _ => beside_liftWatch fun _ => beside_record rfl) fun _ => ?_
    refine leads_bind (hside fun _ => beside_log) fun _ => ?_
    exact leads_bind (hside fun _ => beside_modify (fun _ => rfl) (fun _ => rfl) (fun _ => rfl)
      fun _ => rfl) fun _ => hrelease
  · refine leads_pure fun _ h => h ▸ ⟨hc, ?_⟩
    simpa using hm

theorem idle_stopProvider :
    Leads (fun c => c.Tidy ∧ c.monitor = none) (fun _ => Idle) (fun _ => Idle) stopProvider := by
  refine leads_get_bind fun c ⟨hc, hm⟩ => ?_
  obtain ⟨k, hk⟩ := hc.owns
  split
  · rename_i hp
    obtain ⟨cs, held, hcs⟩ := hk
    obtain rfl := hcs.cached.symm.trans (hc.idle (.inr hp)).2
    exact leads_pure fun _ h => h ▸ ⟨⟨k, cs, hcs⟩, hm⟩
  · rename_i p hp
    refine leads_bind (Q := fun _ => Idle) ?_ fun _ => leads_modify fun _ h => h
    rintro c rfl
    have hclose := leads_after (leads_liftWatch (Pool.owns_close p)) hk
    rw [show (liftM p.close : Act Connector Unit).after c =
      c.onWatch ((liftM p.close : Act Watch Unit).after c.toWatch) from after_liftWatch ..]
    exact ⟨fun _ _ => ⟨⟨k, hclose⟩, hm⟩, fun _ _ => ⟨⟨k, hclose⟩, hm⟩⟩

theorem idle_stopDialect : Meets Idle (fun _ => True) stopDialect := by
  refine meets_get_bind fun c _ => ?_
  split
  · exact meets_pure _
  · refine meets_andFinally ?_ (meets_modify fun _ h => h)
    split
    · exact meets_pure _
    · exact meets_ite (fun _ => idle_beside fun _ => beside_log) fun _ => meets_throw trivial

/-- **A connector that has been stopped holds no connection.** -/
theorem idle_stop : Leads Tidy (fun _ => Idle) (fun _ => Idle) stop := by
  refine leads_bind (leads_of_returns (tidy_beside fun _ => beside_log)) fun _ => ?_
  exact leads_andFinally tidy_stopMonitor
    (leads_andFinally idle_stopProvider (leads_of_meets idle_stopDialect))

end Connector

/-! ## A poll on a connection of its own -/

theorem owns_firstPoll {k : Nat} (d : Dialect) (p : Provider) (m : Monitor) :
    Meets (fun w : Watch => w.toPool.Owns k) (fun _ => True) (do
      let _ ← p.get
      let _ ← m.poll
      if (← get).snapshot.isNone then throw .listingUnavailable
      return (d, ← m.tables) : Act Watch (Dialect × List Table)) := by
  refine meets_bind (owns_get p) fun _ => meets_bind (owns_poll m) fun _ => ?_
  refine meets_get_bind fun _ _ => ?_
  refine meets_when (meets_throw trivial) fun _ => ?_
  exact meets_bind (owns_beside fun _ => beside_tables m) fun _ => meets_pure _

/-- **After a poll on a connection of its own, no connection is held.** -/
theorem free_discoverOnce {k : Nat} (s : Settings) :
    Leads (fun w : Watch => w.toPool.Free k) (fun _ w => w.toPool.Free k)
      (fun _ w => w.toPool.Free k) (Program.discoverOnce s) := by
  have hexcept {β : Type} (r : Except Fault β) :
      Leads (fun w : Watch => w.toPool.Free k) (fun _ w => w.toPool.Free k)
        (fun _ w => w.toPool.Free k) (Act.ofExcept r : Act Watch β) :=
    leads_ofExcept (fun _ _ h => h) fun _ _ h => h
  refine leads_bind (hexcept _) fun f => leads_bind (hexcept _) fun d => ?_
  refine leads_bind (leads_of_returns (free_beside fun _ => beside_liftSite fun _ => aside_log))
    fun _ => ?_
  refine leads_bind (hexcept _) fun provider => leads_bind (hexcept _) fun m => ?_
  exact leads_andFinally ((leads_of_meets (owns_firstPoll d provider m)).narrow fun _ h => h.owns)
    (leads_liftWatch (Pool.owns_close provider))

/-! ## Stopped connectors -/

/-- Of the connections that were opened, the half-open ones have never been closed, and each of the
others once. -/
def Site.ClosesConnected (s : Site) : Prop :=
  ∀ n, 1 ≤ n → n ≤ s.opened → s.closings.count n = if n ∈ s.halfOpen then 0 else 1

theorem Pool.Free.closesConnected {k : Nat} {p : Pool} (h : p.Free k) :
    p.toSite.ClosesConnected := by
  obtain ⟨cs, hp⟩ := h
  intro n h₁ h₂
  by_cases hhalf : n ∈ p.halfOpen
  · rw [if_pos hhalf, List.count_eq_zero]
    intro hclosed
    have hn := hp.site.closed n hclosed
    rw [← hp.site.connected] at hn
    exact (Site.mem_connected.mp hn).2 hhalf
  · rw [if_neg hhalf]
    refine List.count_eq_one_of_mem hp.site.once (hp.site.given n ?_ nofun)
    rw [← hp.site.connected]
    exact Site.mem_connected.mpr ⟨⟨h₁, h₂⟩, hhalf⟩

namespace Connector

/-- Nothing has been opened for the connector, and it holds nothing. -/
structure Fresh (c : Connector) : Prop where
  pool : c.toPool.Fresh
  dialect : c.dialect = none
  provider : c.provider = none
  monitor : c.monitor = none

/-- What may be done with a connector, or happen to it. -/
inductive Use
  | start (p : Props)
  | tick
  | poll
  | taskSettings (maxTasks : Int)
  | stop
  | releaseThreads
  | drop

/-- The action of a use. -/
def use : Use → Act Connector Unit
  | .start p => start p
  | .tick => tick
  | .poll => poll
  | .taskSettings maxTasks => do
    let _ ← taskSettings maxTasks
  | .stop => stop
  | .releaseThreads => releaseThreads
  | .drop => Site.drop

theorem tidy_use (u : Use) : Meets Tidy (fun _ => True) (use u) := by
  cases u with
  | start p => exact tidy_start p
  | tick => exact tidy_tick
  | poll => exact tidy_poll
  | taskSettings maxTasks =>
    exact meets_bind (tidy_beside fun _ => beside_taskSettings maxTasks) fun _ => meets_pure _
  | stop => exact meets_of_leads (idle_stop.widen (fun _ _ h => h.tidy) fun _ _ h => h.tidy)
  | releaseThreads => exact tidy_beside fun _ => beside_releaseThreads
  | drop => exact tidy_drop

theorem Fresh.tidy {c : Connector} (h : c.Fresh) : c.Tidy := by
  obtain ⟨cs, hcs⟩ := h.pool.free
  exact Idle.tidy ⟨⟨0, cs, hcs⟩, h.monitor⟩

/-- The sites on which a connector has been stopped, or a poll on a connection of its own has been
made. -/
inductive Finished : Site → Prop
  | stopped {c : Connector} (us : List Use) : c.Fresh →
      Finished (stop.after (afterAll use us c)).toSite
  | polledOnce {w : Watch} (s : Settings) : w.toPool.Fresh →
      Finished ((Program.discoverOnce s).after w).toSite

theorem Finished.free {s : Site} (h : Finished s) : ∃ k, ∃ p : Pool, p.toSite = s ∧ p.Free k := by
  cases h with
  | stopped us hc =>
    have htidy := afterAll_induction (E := fun _ => True) tidy_use us hc.tidy
    obtain ⟨⟨k, hfree⟩, -⟩ := leads_after idle_stop htidy
    exact ⟨k, _, rfl, hfree⟩
  | polledOnce s hw => exact ⟨0, _, rfl, leads_after (free_discoverOnce s) hw.free⟩

/-- **What is left open.** When a connector has been stopped, and after a poll on a connection of
its own, each connection that was opened has been closed once, but for those whose session could not
be begun: they stay open. So all have been closed just when every session could be begun. -/
theorem finished_closesConnected {s : Site} (h : Finished s) :
    s.ClosesConnected ∧ ((∀ n, 1 ≤ n → n ≤ s.opened → n ∈ s.closings) ↔ s.halfOpen = []) := by
  obtain ⟨k, p, rfl, hfree⟩ := h.free
  have hcloses := hfree.closesConnected
  refine ⟨hcloses, fun hall => ?_, fun hnone n h₁ h₂ => ?_⟩
  · obtain ⟨cs, hp⟩ := hfree
    refine List.eq_nil_iff_forall_not_mem.mpr fun n hn => ?_
    obtain ⟨h₁, h₂⟩ := hp.site.bounds_of_halfOpen hn
    have hcount := hcloses n h₁ h₂
    rw [if_pos hn, List.count_eq_zero] at hcount
    exact hcount (hall n h₁ h₂)
  · have hcount := hcloses n h₁ h₂
    rw [hnone, if_neg nofun] at hcount
    exact List.count_pos_iff.mp (by omega)

/-- A connector for a shop whose first session cannot be begun. -/
def halfOpenShop : Connector :=
  { script :=
      { session := fun n => if n = 0 then some (.raised (.driver .postgres .operational) none)
          else none
        listing := fun n =>
          [Monitor.shopListing ["items"], Monitor.brokenListing].getD n { } } }

theorem fresh_halfOpenShop : halfOpenShop.Fresh :=
  ⟨⟨rfl, rfl, rfl, rfl, nofun⟩, rfl, rfl, rfl⟩

/-- Of three connections, the first one stays open. -/
theorem finished_closesConnected_halfOpenShop :
    let s := (stop.after (afterAll use [.start shopProps, .stop, .start shopProps, .tick, .tick,
      .taskSettings 2] halfOpenShop)).toSite
    Finished s ∧ (s.opened = 3 ∧ s.halfOpen = [1] ∧ s.closings = [2, 3]) ∧ s.ClosesConnected := by
  have hfinished := Finished.stopped
    [.start shopProps, .stop, .start shopProps, .tick, .tick, .taskSettings 2] fresh_halfOpenShop
  exact ⟨hfinished, by decide +kernel, (finished_closesConnected hfinished).1⟩

/-- **A connection leaks.** It was opened, its session could not be begun, and neither the start,
which fails, nor the stop closes it. -/
theorem stop_leaks_halfOpen :
    let s := (stop.after (afterAll use [.start shopProps] halfOpenShop)).toSite
    s.opened = 1 ∧ 1 ∉ s.closings := by
  decide +kernel

end Connector

end TableDiscovery
