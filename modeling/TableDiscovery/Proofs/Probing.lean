import TableDiscovery.Proofs.Attempts
import TableDiscovery.Proofs.Connections

/-!
# A probe that fails

A cached connection is probed before it is handed out again. If the probe fails in a way that the
dialect tolerates, the connection is closed and a new one is opened. One dialect tolerates all
transient failures, the other one only those of its driver: any other transient failure of its probe
goes on as it is, and the connection stays.

* `ping_views`, `close_views`: a probe and a close, as the script says;
* `Dialect.ProbeFails`, `Dialect.Tolerates`: probes that fail, and the failures that are tolerated;
* `Dialect.isValid_views`: a probe in each dialect;
* `Provider.Closes`, `Provider.Reconnects`: a stale connection is closed, and a new one is opened;
* `Provider.Unreachable`: the transient faults of connecting;
* **`Provider.get_probes`**: what a failing probe makes of getting a connection.
-/

namespace TableDiscovery

open Act

/-! ## Probes and closes -/

theorem ping_views (n : Nat) (s : Site) :
    (Site.ping n).outcome s =
        (match s.script.ping s.counts.ping with
          | some f => .error f
          | none => .ok ()) ∧
      (Site.ping n).after s =
        { s with trace := s.trace ++ [.ping n], counts.ping := s.counts.ping + 1 } := by
  simp only [Site.ping, Site.record, outcome_bind, after_bind, outcome_modify, after_modify,
    outcome_get, after_get, outcome_set, after_set]
  cases s.script.ping s.counts.ping <;> exact ⟨rfl, rfl⟩

theorem close_views (n : Nat) (s : Site) :
    (Site.close n).outcome s =
        (match s.script.close s.counts.close with
          | some f => .error f
          | none => .ok ()) ∧
      (Site.close n).after s =
        { s with
          trace := s.trace ++ [.close n]
          counts.close := s.counts.close + 1
          closed :=
            if (s.script.close s.counts.close).isNone then n :: s.closed else s.closed } := by
  simp only [Site.close, Site.record, outcome_bind, after_bind, outcome_modify, after_modify,
    outcome_get, after_get, outcome_set, after_set]
  cases s.script.close s.counts.close <;> exact ⟨rfl, rfl⟩

theorem blind_close (n : Nat) : Site.Blind (Site.close n) := by
  intro s t h
  obtain ⟨hs, hs'⟩ := close_views n s
  obtain ⟨ht, ht'⟩ := close_views n t
  have hasked : t.counts.close = s.counts.close := by rw [h.counts]
  rw [hs, ht, hs', ht', h.script, hasked, h.closed]
  refine ⟨rfl, rfl, h.opened, rfl, ?_, ?_⟩
  · rw [h.counts]
  · rw [List.filter_append, List.filter_append, h.calls]

namespace Dialect

variable {d : Dialect} {n : Nat} {s : Site} {f : Fault}

/-- The probe of a connection is sent, and the driver reports a failure. -/
structure ProbeFails (d : Dialect) (n : Nat) (s : Site) (f : Fault) : Prop where
  sent : d.system = .postgres → n ∉ s.closed
  fails : s.script.ping s.counts.ping = some f

/-- The transient failures of a probe after which a connection counts as stale: all of them, or only
those of the driver. -/
def Tolerates (d : Dialect) (f : Fault) : Prop :=
  d.system = .sqlServer ∨ f.isA (.driver .postgres .error) = true

theorem tolerates_iff (hd : d.system ≠ .generic) (h : d.isTransient f = true) :
    d.Tolerates f ↔ f.isAnyOf d.probeKinds = true := by
  obtain ⟨system, url, user, password, types, pattern⟩ := d
  cases system with
  | generic => exact (hd rfl).elim
  | sqlServer => exact iff_of_true (.inl rfl) h
  | postgres =>
    have hkinds (k : Kind) : [Kind.driver .postgres .error, .connection, .os,
        .transientDiscovery].any k.isA = true → (k.isA (.driver .postgres .error) = true ↔
          [Kind.driver .postgres .error, .driver .postgres .warning].any k.isA = true) := by
      cases k with
      | driver r g => cases r <;> cases g <;> decide
      | _ => decide
    simp only [Tolerates, reduceCtorEq, false_or]
    exact hkinds f.kind h

theorem answersProbe_views (d : Dialect) (n : Nat) (s : Site) :
    (d.answersProbe n).outcome s =
        (match s.script.ping s.counts.ping with
          | some f => if f.isAnyOf d.probeKinds then .ok false else .error f
          | none => .ok true) ∧
      (d.answersProbe n).after s = (Site.ping n).after s := by
  rw [answersProbe, outcome_bind, after_bind, outcome_attempt, after_attempt, (ping_views n s).1]
  cases s.script.ping s.counts.ping with
  | none => exact ⟨rfl, rfl⟩
  | some f =>
    dsimp only
    split <;> exact ⟨rfl, rfl⟩

/-- A connection that is known to be closed is not probed. -/
theorem isValid_views (hd : d.system ≠ .generic) (n : Nat) (s : Site) :
    (d.system = .postgres ∧ n ∈ s.closed ∧ (d.isValid (some n)).outcome s = .ok false) ∨
      ((d.system = .postgres → n ∉ s.closed) ∧
        (d.isValid (some n)).outcome s = (d.answersProbe n).outcome s ∧
        (d.isValid (some n)).after s = (d.answersProbe n).after s) := by
  cases hsystem : d.system with
  | generic => exact (hd hsystem).elim
  | sqlServer =>
    have hvalid : d.isValid (some n) = d.answersProbe n := by
      simp only [isValid, hsystem]
    rw [hvalid]
    exact .inr ⟨nofun, rfl, rfl⟩
  | postgres =>
    have hvalid : d.isValid (some n) = (do
        if (← get).closed.contains n then return false else d.answersProbe n) := by
      simp only [isValid, hsystem]
    rw [hvalid, outcome_bind, after_bind, outcome_get, after_get]
    dsimp only
    by_cases hclosed : n ∈ s.closed
    · rw [if_pos (List.contains_iff_mem.mpr hclosed)]
      exact .inl ⟨rfl, hclosed, rfl⟩
    · rw [if_neg fun h => hclosed (List.contains_iff_mem.mp h)]
      exact .inr ⟨fun _ => hclosed, rfl, rfl⟩

theorem isValid_of_probeFails (hd : d.system ≠ .generic) (h : d.ProbeFails n s f) :
    (d.isValid (some n)).outcome s = (if f.isAnyOf d.probeKinds then .ok false else .error f) ∧
      (d.isValid (some n)).after s = (Site.ping n).after s := by
  obtain ⟨hsystem, hclosed, -⟩ | ⟨-, hout, hafter⟩ := isValid_views hd n s
  · exact (h.sent hsystem hclosed).elim
  · obtain ⟨hout', hafter'⟩ := answersProbe_views d n s
    rw [h.fails] at hout'
    exact ⟨hout.trans hout', hafter.trans hafter'⟩

/-- Only a probe that fails ends in a fault, and only in one that it does not tolerate. -/
theorem probeFails_of_isValid (hd : d.system ≠ .generic)
    (h : (d.isValid (some n)).outcome s = .error f) :
    d.ProbeFails n s f ∧ ¬ f.isAnyOf d.probeKinds = true := by
  obtain ⟨-, -, hout⟩ | ⟨hsent, hout, -⟩ := isValid_views hd n s
  · cases hout.symm.trans h
  · rw [h, (answersProbe_views d n s).1] at hout
    split at hout
    · rename_i g hping
      split at hout
      · cases hout
      · cases hout
        exact ⟨⟨hsent, hping⟩, ‹_›⟩
    · cases hout

end Dialect

/-! ## The provider -/

namespace Provider

variable {p : Provider} {q : Pool} {n : Nat}

/-- What comes of closing a cached connection: it is forgotten, and only an interrupt goes on. -/
inductive Closes (q : Pool) (n : Nat) : Except Fault Unit → Pool → Prop
  | quietly {t : Site} : ((Site.close n).after q.toSite).Aside t →
    Closes q n (.ok ()) { q with toSite := t, cached := none }
  | interrupted {g : Fault} : q.script.close q.counts.close = some g → g.isFailure = false →
    Closes q n (.error g) { q with toSite := (Site.close n).after q.toSite, cached := none }

theorem closeQuietly_spec (hcached : q.cached = some n) :
    Closes q n (closeQuietly.outcome q) (closeQuietly.after q) := by
  rw [closeQuietly]
  refine views_of_ok (Q := Closes q n) (outcome_get ..) (after_get ..) ?_
  rw [hcached]
  dsimp only
  refine views_of_ok (outcome_modify ..) (after_modify ..) ?_
  refine views_of_ok (outcome_attempt ..) (after_attempt ..) ?_
  rw [outcome_liftSiteOnPool, after_liftSiteOnPool, (close_views ..).1]
  dsimp only
  cases hclose : q.script.close q.counts.close with
  | none => exact .quietly (.refl _)
  | some g =>
    dsimp only
    split
    · rw [outcome_liftSiteOnPool, outcome_log, after_liftSiteOnPool]
      exact .quietly (aside_log (E := fun _ => True) _ (.refl _)).1
    · rename_i hfailure
      exact .interrupted hclose (by simpa using hfailure)

/-- A stale connection is closed, and a new one is opened and kept, unless closing is
interrupted. -/
inductive Reconnects (p : Provider) (q : Pool) (n : Nat) : Except Fault Nat → Pool → Prop
  | anew {t : Site} : ((Site.close n).after ((Site.ping n).after q.toSite)).Alike t →
    Reconnects p q n (p.renew.outcome { q with toSite := t, cached := none })
      (p.renew.after { q with toSite := t, cached := none })
  | interrupted {t : Site} {g : Fault} :
    ((Site.close n).after ((Site.ping n).after q.toSite)).Alike t →
    q.script.close q.counts.close = some g → g.isFailure = false →
    Reconnects p q n (.error g) { q with toSite := t, cached := none }

/-- What follows a probe that only means that the connection is stale. -/
theorem get_of_stale (hcached : q.cached = some n)
    (hout : (p.dialect.isValid (some n)).outcome q.toSite = .ok false)
    (hafter : (p.dialect.isValid (some n)).after q.toSite = (Site.ping n).after q.toSite) :
    Reconnects p q n (p.get.outcome q) (p.get.after q) := by
  rw [get]
  refine views_of_ok (Q := Reconnects p q n) (outcome_get ..) (after_get ..) ?_
  rw [hcached]
  dsimp only
  refine views_of_ok ((outcome_liftSiteOnPool ..).trans hout) (after_liftSiteOnPool ..) ?_
  rw [if_neg Bool.false_ne_true, hafter]
  refine views_of_ok ((outcome_liftSiteOnPool ..).trans (outcome_log ..))
    (after_liftSiteOnPool ..) ?_
  have haside := aside_after_log .warning logger
    "Cached connection is no longer valid, reconnecting" ((Site.ping n).after q.toSite)
  generalize (Site.log .warning logger "Cached connection is no longer valid, reconnecting").after
    ((Site.ping n).after q.toSite) = u at haside
  obtain ⟨-, hcalls⟩ := blind_close n _ _ haside.alike
  have hscript : u.script.close u.counts.close = q.script.close q.counts.close := by
    rw [haside.script, haside.counts, (ping_views ..).2]
  have hcloses := closeQuietly_spec (q := { q with toSite := u }) hcached
  generalize hout' : closeQuietly.outcome _ = out, hafter' : closeQuietly.after _ = r at hcloses
  cases hcloses with
  | quietly haside' => exact views_of_ok hout' hafter' (.anew (hcalls.trans haside'.alike))
  | interrupted hclose hfailure =>
    exact views_of_error hout' hafter' (.interrupted hcalls (hscript ▸ hclose) hfailure)

/-- The transient faults of connecting are reports that all attempts have failed. -/
def Unreachable (p : Provider) (f : Fault) : Prop :=
  p.dialect.isTransient f = true → ∃ cause, f = .unreachable p.dialect.name p.maxAttempts cause

theorem unreachable_log {level : Level} {name message : String} :
    Meets (fun _ => True) p.Unreachable
      (liftM (Site.log level name message) : Act Pool Unit) := by
  refine fun q _ => ⟨trivial, fun g hg => ?_⟩
  rw [outcome_liftSiteOnPool, outcome_log] at hg
  cases hg

theorem unreachable_openNew : Meets (fun _ => True) p.Unreachable p.openNew := by
  refine meets_bind (meets_ofExcept fun g hg ht => ?_) fun delay => ?_
  · cases seconds_eq_error hg
    rw [Dialect.not_isTransient (.inl rfl)] at ht
    cases ht
  · have hany {x : Act Pool Nat} : Meets (fun _ => True) (fun _ => True) x :=
      fun _ _ => ⟨trivial, fun _ _ => trivial⟩
    refine meets_attempt_bind hany (fun c => ?_) fun g _ => ?_
    · exact meets_bind (meets_modify fun _ h => h) fun _ =>
        meets_bind unreachable_log fun _ => meets_pure c
    · exact meets_ite (fun _ => meets_throw fun _ => ⟨g, rfl⟩) fun hno =>
        meets_throw fun ht => (hno ht).elim

theorem unreachable_renew : Meets (fun _ => True) p.Unreachable p.renew :=
  meets_bind unreachable_openNew fun c =>
    meets_bind (meets_modify fun _ h => h) fun _ => meets_pure c

/-- Only an interrupt comes out of closing, and no interrupt is transient. -/
theorem unreachable_closeQuietly : Meets (fun _ => True) p.Unreachable closeQuietly := by
  intro q _
  refine ⟨trivial, fun g hg ht => ?_⟩
  cases hcached : q.cached with
  | none =>
    rw [closeQuietly, outcome_bind, outcome_get, after_get] at hg
    dsimp only at hg
    rw [hcached] at hg
    cases hg
  | some n =>
    have hcloses := closeQuietly_spec hcached
    rw [hg] at hcloses
    generalize closeQuietly.after q = r at hcloses
    cases hcloses with
    | interrupted _ hfailure =>
      rw [Dialect.isFailure_of_isTransient ht] at hfailure
      cases hfailure

/-- What a failing probe of the cached connection makes of getting a connection: where the failure
is tolerated, a new connection is opened; where it is not, it escapes with the old one still cached.
Any other transient fault reports that all attempts have failed. -/
structure ProbeReport (p : Provider) (q : Pool) (out : Except Fault Nat) (r : Pool) : Prop where
  stale : ∀ n f, q.cached = some n → p.dialect.ProbeFails n q.toSite f →
    p.dialect.isTransient f = true → p.dialect.Tolerates f → Reconnects p q n out r
  escapes : ∀ n f, q.cached = some n → p.dialect.ProbeFails n q.toSite f →
    p.dialect.isTransient f = true → ¬ p.dialect.Tolerates f →
    out = .error f ∧ r = { q with toSite := (Site.ping n).after q.toSite }
  transient : ∀ f, out = .error f → p.dialect.isTransient f = true →
    (∃ cause, f = .unreachable p.dialect.name p.maxAttempts cause) ∨
      ∃ n, q.cached = some n ∧ p.dialect.ProbeFails n q.toSite f ∧ ¬ p.dialect.Tolerates f

/-- **A failing probe leads to a new connection exactly if it is tolerated.** -/
theorem get_probes (p : Provider) (q : Pool) (hsystem : p.dialect.system ≠ .generic) :
    p.ProbeReport q (p.get.outcome q) (p.get.after q) := by
  refine ⟨fun n f hcached hprobe ht htolerates => ?_, fun n f hcached hprobe ht hno => ?_,
    fun f hf ht => ?_⟩
  · obtain ⟨hout, hafter⟩ := Dialect.isValid_of_probeFails hsystem hprobe
    rw [if_pos ((Dialect.tolerates_iff hsystem ht).mp htolerates)] at hout
    exact get_of_stale hcached hout hafter
  · obtain ⟨hout, hafter⟩ := Dialect.isValid_of_probeFails hsystem hprobe
    rw [if_neg fun h => hno ((Dialect.tolerates_iff hsystem ht).mpr h)] at hout
    rw [get, outcome_bind, after_bind, outcome_get, after_get]
    dsimp only
    rw [hcached]
    dsimp only
    rw [outcome_bind, after_bind, outcome_liftSiteOnPool, after_liftSiteOnPool, hout, hafter,
      hcached]
    exact ⟨rfl, rfl⟩
  · rw [get, outcome_bind, outcome_get, after_get] at hf
    dsimp only at hf
    cases hcached : q.cached with
    | none =>
      rw [hcached] at hf
      exact .inl ((unreachable_renew q trivial).2 f hf ht)
    | some n =>
      rw [hcached] at hf
      dsimp only at hf
      rw [outcome_bind, outcome_liftSiteOnPool] at hf
      cases hvalid : (p.dialect.isValid (some n)).outcome q.toSite with
      | error g =>
        rw [hvalid] at hf
        cases hf
        obtain ⟨hprobe, hkinds⟩ := Dialect.probeFails_of_isValid hsystem hvalid
        exact .inr ⟨n, rfl, hprobe, fun h => hkinds ((Dialect.tolerates_iff hsystem ht).mp h)⟩
      | ok valid =>
        rw [hvalid] at hf
        dsimp only at hf
        have hrest : Meets (fun _ => True) p.Unreachable (do
            Site.log .warning logger "Cached connection is no longer valid, reconnecting"
            closeQuietly
            p.renew : Act Pool Nat) :=
          meets_bind unreachable_log fun _ =>
            meets_bind unreachable_closeQuietly fun _ => unreachable_renew
        split at hf
        · cases hf
        · exact .inl ((hrest _ trivial).2 f hf ht)

/-- The first connection of a provider whose first probe will fail with a fault. -/
def probedPool (p : Provider) (f : Fault) : Pool :=
  p.get.after { script := { ping := fun n => if n = 0 then some f else none } }

/-- Three attempts at a shop, without a pause between them. -/
def shopProvider : Provider := ⟨.make .postgres "postgresql://localhost/shop" { }, 3, 0⟩

theorem get_probes_operational :
    let q := probedPool shopProvider (.raised (.driver .postgres .operational) none)
    shopProvider.Reconnects q 1 (shopProvider.get.outcome q) (shopProvider.get.after q) ∧
      (shopProvider.get.outcome q).toOption = some 2 := by
  refine ⟨(get_probes _ _ (by decide)).stale 1 (.raised (.driver .postgres .operational) none) ?_
    ⟨fun _ => ?_, rfl⟩ (by decide) (.inr (by decide)), ?_⟩
  · decide +kernel
  · decide +kernel
  · decide +kernel

/-- A lost connection is no failure of the driver: it is neither closed nor replaced. -/
theorem probe_escapes :
    let f : Fault := .raised .connection (some "connection is gone")
    let q := probedPool shopProvider f
    q.cached = some 1 ∧ shopProvider.dialect.ProbeFails 1 q.toSite f ∧
      shopProvider.dialect.isTransient f = true ∧ shopProvider.get.outcome q = .error f ∧
      (shopProvider.get.after q).cached = some 1 ∧ (shopProvider.get.after q).closings = [] := by
  refine ⟨?_, ⟨fun _ => ?_, rfl⟩, rfl, rfl, ?_, ?_⟩ <;> decide +kernel

end Provider

end TableDiscovery
