import Mathlib.Data.List.Nodup
import TableDiscovery.Proofs.Monitor.Beside
import TableDiscovery.Proofs.Monitor.Poll

/-!
# The connections of a monitor

A monitor polls over the connection that its provider keeps. Whatever the database answers, each
connection has one owner: it is kept, or it has been closed once and is not used any more.

* `leads_liftWatch`, `pool_beside`: actions on the pool, and beside it, in monitoring;
* `owns_lookUp`, `owns_poll`: polls keep the connections owned;
* `Monitor.free_of_transient`, `Monitor.free_of_failsToConnect`: polls that give the connection up;
* `Monitor.Use`: what may be done to a provider, by polls or beside them;
* `Monitor.OwnsConnections`: who owns the connections;
* **`connections_owned`**: after every sequence of uses.
-/

namespace TableDiscovery

open Act

variable {α : Type} {k n : Nat} {E : Fault → Prop}

/-! ## Steps of monitoring -/

/-- An action on the pool leads where it leads without the rest of monitoring. -/
theorem leads_liftWatch {P : Pool → Prop} {Q : α → Pool → Prop} {R : Fault → Pool → Prop}
    {x : Act Pool α} (hx : Leads P Q R x) :
    Leads (fun w : Watch => P w.toPool) (fun a w => Q a w.toPool) (fun f w => R f w.toPool)
      (liftM x : Act Watch α) := by
  intro w hw
  rw [after_liftPool, outcome_liftPool]
  exact hx w.toPool hw

/-- What holds of the pool still holds after an action beside it. -/
theorem pool_beside {I : Pool → Prop} {x : Act Watch α}
    (hI : ∀ p q : Pool, I p → p.Beside q → I q) (hx : ∀ w : Watch, Meets w.Beside E x) :
    Meets (fun w : Watch => I w.toPool) E x :=
  meets_of_beside (fun w v hw hb => hI w.toPool v.toPool hw hb.pool) hx

theorem owns_beside {x : Act Watch α} (hx : ∀ w : Watch, Meets w.Beside E x) :
    Meets (fun w : Watch => w.toPool.Owns k) E x := pool_beside (fun _ _ => Pool.Owns.beside) hx

theorem free_beside {x : Act Watch α} (hx : ∀ w : Watch, Meets w.Beside E x) :
    Meets (fun w : Watch => w.toPool.Free k) E x := pool_beside (fun _ _ => Pool.Free.beside) hx

theorem holds_beside {x : Act Watch α} (hx : ∀ w : Watch, Meets w.Beside E x) :
    Meets (fun w : Watch => w.toPool.Holds k n) E x := pool_beside (fun _ _ => Pool.Holds.beside) hx

theorem owns_get (p : Provider) :
    Meets (fun w : Watch => w.toPool.Owns k) (fun _ => True) (liftM p.get : Act Watch Nat) :=
  meets_of_leads ((leads_liftWatch (Pool.owns_get p)).widen (fun _ _ h => h.owns) fun _ _ h => h)

theorem owns_close (p : Provider) :
    Meets (fun w : Watch => w.toPool.Owns k) (fun _ => True) (liftM p.close : Act Watch Unit) :=
  meets_of_leads ((leads_liftWatch (Pool.owns_close p)).widen (fun _ _ h => h.owns)
    fun _ _ h => h.owns)

/-! ## Polls -/

theorem holds_fetch (m : Monitor) :
    Meets (fun w : Watch => w.toPool.Holds k n) (fun _ => True) (m.fetch n) := by
  have hquery : Meets (fun w : Watch => w.toPool.Holds k n) (fun _ => True)
      (liftM (m.dialect.query n) : Act Watch Listing) := by
    rintro w ⟨cs, hw⟩
    rw [after_liftSite]
    have hsite := (owned_query (d := m.dialect) w.toSite hw.site).1
    exact ⟨⟨cs, { hw with site := hsite }⟩, fun _ _ => trivial⟩
  exact meets_bind hquery fun listing =>
    meets_when (holds_beside fun _ => beside_shutDown) fun _ => meets_pure listing

theorem owns_lookUp (m : Monitor) :
    Meets (fun w : Watch => w.toPool.Owns k) (fun _ => True) m.lookUp := by
  refine meets_of_leads (leads_bind (leads_liftWatch (Pool.owns_get m.provider)) fun n => ?_)
  have hrest : Meets (fun w : Watch => w.toPool.Holds k n) (fun _ => True) (do
      let listing ← m.fetch n
      let tables ← Act.ofExcept (m.dialect.tablesOf listing)
      Tracing.setAttribute "table_count" (.int tables.length)
      return tables : Act Watch (List Table)) := by
    refine meets_bind (holds_fetch m) fun listing => ?_
    refine meets_bind (meets_ofExcept fun _ _ => trivial) fun tables => ?_
    exact meets_bind (holds_beside fun _ => beside_liftSite fun _ => aside_setAttribute) fun _ =>
      meets_pure tables
  exact (leads_of_meets hrest).widen (fun _ _ h => h.owns) fun _ _ h => h.owns

theorem owns_list (m : Monitor) :
    Meets (fun w : Watch => w.toPool.Owns k) (fun _ => True) m.list :=
  meets_traced (owns_beside fun _ => beside_liftSite fun _ => aside_enter.mono fun _ _ => trivial)
    (fun _ => owns_beside fun _ => beside_liftSite fun _ => aside_closeSpan) (owns_lookUp m)

/-- A poll that is skipped gives the connection up. -/
theorem owns_skip (m : Monitor) (started : Float) :
    Leads (fun w : Watch => w.toPool.Owns k) (fun _ w => w.toPool.Free k)
      (fun _ w => w.toPool.Free k) (m.skip started) := by
  refine leads_bind (leads_of_returns (owns_beside fun _ => beside_log)) fun _ => ?_
  refine leads_bind (leads_liftWatch (Pool.owns_close m.provider)) fun _ => ?_
  refine leads_bind (leads_of_returns (free_beside fun _ => beside_recordPoll m _ _)) fun _ => ?_
  exact leads_pure fun _ h => h

theorem owns_publish (m : Monitor) (started : Float) (ts : List Table) :
    Meets (fun w : Watch => w.toPool.Owns k) E (m.publish started ts) := by
  refine meets_get_bind fun _ _ => meets_ite (fun _ => ?_) fun _ => ?_
  · exact meets_bind (owns_beside fun _ => beside_recordPoll m _ _) fun _ => meets_pure _
  · refine meets_bind (meets_modify fun _ h => h) fun _ => ?_
    refine meets_bind (owns_beside fun _ => beside_log) fun _ => ?_
    refine meets_bind (owns_beside fun _ => beside_recordPoll m _ _) fun _ => ?_
    exact meets_bind (owns_beside fun _ => beside_recordTables m _) fun _ => meets_pure _

theorem owns_conclude (m : Monitor) (started : Float) (l : Except Fault (List Table)) :
    Meets (fun w : Watch => w.toPool.Owns k) (fun _ => True) (m.conclude started l) := by
  cases l with
  | error f =>
    refine meets_ite (fun _ => ?_) fun _ => meets_throw trivial
    exact meets_of_leads ((owns_skip m started).widen (fun _ _ h => h.owns) fun _ _ h => h.owns)
  | ok ts =>
    exact meets_bind (owns_beside fun _ => beside_log) fun _ => owns_publish m started ts

/-- **A poll keeps the connections owned.** -/
theorem owns_poll (m : Monitor) :
    Meets (fun w : Watch => w.toPool.Owns k) (fun _ => True) m.poll := by
  refine meets_bind (owns_beside fun _ => beside_liftSite fun _ => aside_now) fun started => ?_
  exact meets_attempt_bind (owns_list m) (fun ts => owns_conclude m started (.ok ts))
    fun f _ => owns_conclude m started (.error f)

/-! ## Polls without a listing -/

namespace Monitor

variable {m : Monitor} {w : Watch}

/-- The state in which a poll that begins in `w` asks its provider for a connection. -/
def asking (m : Monitor) (w : Watch) : Watch :=
  (liftM (Tracing.enter "list_tables" .client [("dialect", .str m.dialect.name)]) :
    Act Watch Unit).after (w.onSite (Site.now.after w.toSite))

theorem beside_now (w : Watch) : w.Beside (w.onSite (Site.now.after w.toSite)) :=
  w.beside_onSite (aside_now (E := fun _ => True) w.toSite (.refl _)).1.apart

/-- Until it asks, a poll only does things beside the connections. -/
theorem beside_asking (m : Monitor) (w : Watch) : w.Beside (m.asking w) :=
  (beside_now w).trans (beside_liftSite (E := fun _ => True)
    (fun _ => aside_enter.mono fun _ _ => trivial) _ (.refl _)).1

theorem free_conclude (m : Monitor) (started : Float) (f : Fault) :
    Meets (fun w : Watch => w.toPool.Free k) (fun _ => True) (m.conclude started (.error f)) := by
  refine meets_ite (fun _ => ?_) fun _ => meets_throw trivial
  exact meets_of_leads ((owns_skip m started).narrow fun _ h => h.owns)

/-- **A poll whose listing fails for a transient reason gives the connection up.** -/
theorem free_of_transient {f : Fault} (h : w.toPool.Owns k) (hl : m.listing w = .error f)
    (ht : m.dialect.isTransient f) : (m.poll.after w).toPool.Free k := by
  have hlist := (owns_list m _ (h.beside (beside_now w).pool)).1
  rw [(poll_views m w).1, hl, conclude, if_pos ht]
  exact leads_after (owns_skip m _) hlist

/-- **A poll that fails to connect holds no connection.** -/
theorem free_of_failsToConnect (h : w.toPool.Owns k)
    (hf : m.provider.FailsToConnect (m.asking w).toPool) : (m.poll.after w).toPool.Free k := by
  obtain ⟨f, hget⟩ := hf.1
  obtain ⟨cs, held, hasked⟩ := h.beside (beside_asking m w).pool
  have hfree : (m.lookUp.after (m.asking w)).toPool.Free k := by
    rw [lookUp, after_bind, outcome_liftPool, hget, after_liftPool]
    exact ⟨cs, owned_of_failsToConnect hasked hf⟩
  have hlookUp : m.lookUp.outcome (m.asking w) = .error f := by
    rw [lookUp, outcome_bind, outcome_liftPool, hget]
  have hopen : (liftM (Tracing.enter "list_tables" .client [("dialect", .str m.dialect.name)]) :
      Act Watch Unit).outcome (w.onSite (Site.now.after w.toSite)) = .ok () :=
    (outcome_liftSite ..).trans
      (outcome_of_quiet (fun _ => quiet_enter (untold?_dialect m.dialect)) _)
  have hclose (leave : Span → Span) (v : Watch) :
      (liftM (Tracing.closeSpan leave) : Act Watch Unit).outcome v = .ok () :=
    (outcome_liftSite ..).trans (outcome_closeSpan ..)
  obtain ⟨hout, hafter⟩ := traced_views (x := m.lookUp) hopen hclose
  have hlisting : m.listing w = .error f := hout.trans hlookUp
  have hlist : (m.list.after (w.onSite (Site.now.after w.toSite))).toPool.Free k := by
    rw [list, hafter]
    exact (free_beside (E := fun _ => True)
      (fun _ => beside_liftSite fun _ => aside_closeSpan) _ hfree).1
  rw [(poll_views m w).1, hlisting]
  exact (free_conclude m _ f _ hlist).1

/-! ## Sequences of uses -/

/-- What may be done to a provider: a connection is got or given up, the monitor polls, or the
server closes the newest connection. -/
inductive Use
  | get
  | close
  | poll
  | drop
deriving DecidableEq, Repr

/-- The action of a use. -/
def use (m : Monitor) : Use → Act Watch Unit
  | .get => do
    let _ ← m.provider.get
  | .close => m.provider.close
  | .poll => do
    let _ ← m.poll
  | .drop => Site.drop

/-- The connections that connecting has returned have one owner each. -/
structure OwnsConnections (m : Monitor) (w : Watch) : Prop where
  /-- Each of them is the cached one and open, or has been closed once. -/
  owned : ∀ n ∈ w.connected, (w.cached = some n ∧ n ∉ w.closings) ∨
    (w.cached ≠ some n ∧ w.closings.count n = 1)
  /-- No others are cached or closed. -/
  others : ∀ n, w.cached = some n ∨ n ∈ w.closings → n ∈ w.connected
  /-- Nothing is sent on a connection that has been closed. -/
  unused : w.trace.Pairwise fun e e' => ∀ n, e.closed? = some n → e'.used? ≠ some n
  /-- They have been counted. -/
  counted : w.connects = w.connected.length
  /-- The connection that is got, by a poll or beside it, is the cached one and open. -/
  got : ∀ v, v = w ∨ v = m.asking w → ∀ n, m.provider.get.outcome v.toPool = .ok n →
    (m.provider.get.after v.toPool).cached = some n ∧ n ∉ (m.provider.get.after v.toPool).closings
  /-- After a poll whose listing fails for a transient reason, or that fails to connect, none is
  cached, and the next poll gets a new one. -/
  renewed : (∃ f, m.listing w = .error f ∧ m.dialect.isTransient f = true) ∨
      m.provider.FailsToConnect (m.asking w).toPool →
    (m.poll.after w).cached = none ∧
      ∀ n, m.provider.get.outcome (m.asking (m.poll.after w)).toPool = .ok n →
        n ∉ (m.poll.after w).connected

theorem ownsConnections_of_owns (h : w.toPool.Owns 0) : m.OwnsConnections w := by
  obtain ⟨cs, held, hw⟩ := h
  have hcs := hw.site.connected
  have hcached := hw.cached
  refine
    { owned := fun n hn => ?_
      others := fun n hn => ?_
      unused := hw.site.unused
      counted := ?_
      got := fun v hv n hn => ?_
      renewed := fun hfail => ?_ }
  · rw [hcs] at hn
    rw [hcached]
    by_cases hheld : held = some n
    · exact .inl ⟨hheld, (hw.site.kept n hheld).2⟩
    · exact .inr ⟨hheld, List.count_eq_one_of_mem hw.site.once (hw.site.given n hn hheld)⟩
  · rw [hcs]
    obtain hn | hn := hn
    · exact (hw.site.kept n (hcached ▸ hn)).1
    · exact hw.site.closed n hn
  · rw [hcs, hw.counted, Nat.zero_add]
  · have howns : v.toPool.Owns 0 := by
      obtain rfl | rfl := hv
      · exact ⟨cs, held, hw⟩
      · exact ⟨cs, held, hw.beside (beside_asking m w).pool⟩
    obtain ⟨ds, hds⟩ := (Pool.owns_get m.provider _ howns).1 n hn
    exact ⟨hds.cached, (hds.site.kept n rfl).2⟩
  · have hfree : (m.poll.after w).toPool.Free 0 := by
      obtain ⟨f, hl, ht⟩ | hf := hfail
      · exact free_of_transient ⟨cs, held, hw⟩ hl ht
      · exact free_of_failsToConnect ⟨cs, held, hw⟩ hf
    obtain ⟨ds, hds⟩ := hfree
    refine ⟨hds.cached, fun n hn => ?_⟩
    rw [hds.site.connected]
    exact fresh_of_get (hds.beside (beside_asking m _).pool) hn

/-- Each use keeps the connections owned. -/
theorem owns_use (m : Monitor) (u : Use) :
    Meets (fun w : Watch => w.toPool.Owns k) (fun _ => True) (m.use u) := by
  cases u with
  | get => exact meets_bind (owns_get m.provider) fun _ => meets_pure _
  | close => exact owns_close m.provider
  | poll => exact meets_bind (owns_poll m) fun _ => meets_pure _
  | drop =>
    rintro w ⟨cs, held, hw⟩
    rw [use, after_liftSite]
    exact ⟨⟨cs, held, { hw with site := (owned_drop w.toSite hw.site).1 }⟩, fun _ _ => trivial⟩

/-- **Every connection has one owner.** Whatever is done to the provider of a monitor, and however
the database answers, each connection that connecting has returned is either the cached one or has
been closed, exactly once. Nothing is sent on a closed connection, and none is handed out. A poll
that cannot list the tables leaves no connection cached, so that the next one opens another. -/
theorem connections_owned (m : Monitor) {w : Watch} (hw : w.toPool.Fresh) (us : List Use) :
    m.OwnsConnections (afterAll m.use us w) :=
  ownsConnections_of_owns (afterAll_induction (E := fun _ => True) (fun u => owns_use m u) us
    hw.free.owns)

/-- A shop whose second listing breaks, whose second session cannot be begun and whose first
connection cannot be closed. -/
def brittleShop : Watch :=
  { script :=
      { listing := fun n => [shopListing ["items"], brokenListing].getD n { }
        session := fun n => if n = 1 then some (.raised .connection none) else none
        close := fun n => if n = 0 then some (.raised .os none) else none } }

/-- Four connections: two were closed, one is half open and one is cached. -/
theorem connections_owned_brittleShop :
    let v := afterAll shop.use [.poll, .get, .poll, .get, .get, .drop, .get] brittleShop
    brittleShop.toPool.Fresh ∧ (v.opened = 4 ∧ v.connected = [1, 3, 4] ∧ v.closings = [1, 3] ∧
      v.cached = some 4) ∧ shop.OwnsConnections v := by
  have hfresh : brittleShop.toPool.Fresh := ⟨rfl, rfl, rfl, rfl, nofun⟩
  exact ⟨hfresh, by decide +kernel, connections_owned shop hfresh _⟩

end Monitor

end TableDiscovery
