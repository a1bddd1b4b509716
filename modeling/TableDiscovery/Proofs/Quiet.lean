import TableDiscovery.Pool
import TableDiscovery.Proofs.Aside

/-!
# Quiet actions

The loop of the monitor is followed by a few calls: listing queries, requests and reports to the
host, and waits. Connecting, probing, closing, tracing and logging are quiet: they make none of
these calls, and they end in an interrupt only if the script of the site does.

* `Event.isLoopCall`, `loopCalls`: the calls of the loop among the events;
* `Script.Ordinary`, `Script.MayFail`: scripts without interrupts, and faults that are none on them;
* `Script.Arises`, `Script.Gives`: the faults of connecting, probing and closing;
* `Site.Made`: the calls of the loop that lie between two sites;
* `traced_views`: a span around an action;
* **`quiet_get`**, **`quiet_close`**: the provider is quiet.
-/

namespace TableDiscovery

open Act

/-- The calls that the loop of the monitor is followed by. -/
def Event.isLoopCall : Event → Bool
  | .query .. | .request | .raiseError _ | .wait _ => true
  | _ => false

/-- Listing queries. -/
def Event.isQuery : Event → Bool
  | .query .. => true
  | _ => false

/-- Requests to the host. -/
def Event.isRequest : Event → Bool
  | .request => true
  | _ => false

/-- Waits between polls. -/
def Event.isWait : Event → Bool
  | .wait _ => true
  | _ => false

/-- The calls of the loop among events. -/
def loopCalls (es : List Event) : List Event := es.filter Event.isLoopCall

/-- No call on the site ends in an interrupt. -/
structure Script.Ordinary (c : Script) : Prop where
  connect : ∀ n f, c.connect n = some f → f.isFailure = true
  session : ∀ n f, c.session n = some f → f.isFailure = true
  ping : ∀ n f, c.ping n = some f → f.isFailure = true
  close : ∀ n f, c.close n = some f → f.isFailure = true
  listing : ∀ n f stage, (c.listing n).failure = some (f, stage) → f.isFailure = true

/-- The fault is no interrupt as long as the script has none. -/
def Script.MayFail (c : Script) (f : Fault) : Prop := c.Ordinary → f.isFailure = true

/-- The faults of connecting that are not the site's. -/
def Fault.isOfConnecting : Fault → Bool
  | .unreachable .. | .url _ | .power _ | .tooManyDigits | .attemptsExhausted _ => true
  | .integerTooLarge | .waitTooLong | .notImplemented => true
  | _ => false

/-- The faults that connecting, probing and closing can end in on a site with the script. -/
inductive Script.Arises (c : Script) (f : Fault) : Prop
  | connect (n : Nat) : c.connect n = some f → Arises c f
  | session (n : Nat) : c.session n = some f → Arises c f
  | ping (n : Nat) : c.ping n = some f → Arises c f
  | close (n : Nat) : c.close n = some f → Arises c f
  | own : f.isOfConnecting = true → Arises c f

/-- What the database reports when it is connected to, probed and left meets `E`. -/
structure Script.Gives (c : Script) (E : Fault → Prop) : Prop where
  connect : ∀ n f, c.connect n = some f → E f
  session : ∀ n f, c.session n = some f → E f
  ping : ∀ n f, c.ping n = some f → E f
  close : ∀ n f, c.close n = some f → E f

theorem Script.Gives.of_arises {c : Script} {E : Fault → Prop} {f : Fault} (h : c.Gives E)
    (hown : f.isOfConnecting = true → E f) (hf : c.Arises f) : E f := by
  cases hf with
  | connect n hf => exact h.connect n f hf
  | session n hf => exact h.session n f hf
  | ping n hf => exact h.ping n f hf
  | close n hf => exact h.close n f hf
  | own hf => exact hown hf

theorem Fault.isFailure_of_connecting {f : Fault} (h : f.isOfConnecting = true) :
    f.isFailure = true := by
  cases f with
  | power cause => cases cause <;> rfl
  | unreachable | url | tooManyDigits | attemptsExhausted | integerTooLarge | waitTooLong
  | notImplemented => rfl
  | _ => cases h

theorem Script.Arises.mayFail {c : Script} {f : Fault} (h : c.Arises f) : c.MayFail f := by
  intro ho
  cases h with
  | connect n h => exact ho.connect n f h
  | session n h => exact ho.session n f h
  | ping n h => exact ho.ping n f h
  | close n h => exact ho.close n f h
  | own h => exact Fault.isFailure_of_connecting h

/-- Between the sites lie the calls `cs` of the loop: their script is the same, and every query
took a listing from it. -/
structure Site.Made (s₀ : Site) (cs : List Event) (s : Site) : Prop where
  script : s.script = s₀.script
  calls : loopCalls s.trace = loopCalls s₀.trace ++ cs
  listings : s.counts.listing = s₀.counts.listing + cs.countP Event.isQuery

namespace Site.Made

variable {s₀ s t : Site} {cs ds : List Event}

theorem refl (s : Site) : Made s [] s := ⟨rfl, by simp, rfl⟩

theorem trans (h : Made s₀ cs s) (h' : Made s ds t) : Made s₀ (cs ++ ds) t where
  script := h'.script.trans h.script
  calls := by rw [h'.calls, h.calls, List.append_assoc]
  listings := by rw [h'.listings, h.listings, List.countP_append, Nat.add_assoc]

theorem aside (h : Made s₀ cs s) (h' : s.Aside t) : Made s₀ cs t where
  script := h'.script.trans h.script
  calls := by
    obtain ⟨es, hes, haside⟩ := h'.trace
    have hnone : loopCalls es = [] := by
      refine List.filter_eq_nil_iff.mpr fun e he => ?_
      have := haside e he
      cases e <;> simp_all [Event.isAside, Event.isLoopCall]
    rw [← h.calls, hes, loopCalls, List.filter_append, ← loopCalls, ← loopCalls, hnone,
      List.append_nil]
  listings := by rw [← h.listings, h'.counts]

end Site.Made

/-! ## The site -/

section Site

variable {s₀ : Site} {cs : List Event} {E : Fault → Prop} {α : Type}

theorem quiet_record {e : Event} (he : e.isLoopCall = false) :
    Meets (Site.Made s₀ cs) E (Site.record e) :=
  meets_modify fun _ hs => ⟨hs.script, by simpa [loopCalls, he] using hs.calls, hs.listings⟩

theorem quiet_log {level : Level} {logger message : String} :
    Meets (Site.Made s₀ cs) E (Site.log level logger message) :=
  meets_of_aside (fun _ _ => Site.Made.aside) fun _ => aside_log

@[simp] theorem outcome_log (level : Level) (logger message : String) (s : Site) :
    (Site.log level logger message).outcome s = .ok () := by
  simp only [Site.log, outcome_bind, outcome_get, after_get]
  split <;> rfl

theorem made_log (level : Level) (logger message : String) (s : Site) :
    s.Made [] ((Site.log level logger message).after s) :=
  (quiet_log (E := fun _ => True) s (.refl s)).1

theorem quiet_openConnection {target : String} {arguments : List (String × Json)} :
    Meets (Site.Made s₀ cs) s₀.script.Arises (Site.openConnection target arguments) := by
  refine meets_bind (quiet_record rfl) fun _ => meets_get_bind fun s hs => ?_
  refine meets_bind (meets_set ⟨hs.script, hs.calls, hs.listings⟩) fun _ => ?_
  refine meets_bind (meets_failWith fun f hf => ?_) fun _ => ?_
  · exact .connect _ (hs.script ▸ hf)
  · exact meets_bind (meets_set ⟨hs.script, hs.calls, hs.listings⟩) fun _ => meets_pure _

theorem quiet_beginSession {connection : Nat} :
    Meets (Site.Made s₀ cs) s₀.script.Arises (Site.beginSession connection) := by
  refine meets_bind (quiet_record rfl) fun _ => meets_get_bind fun s hs => ?_
  refine meets_bind (meets_set ⟨hs.script, hs.calls, hs.listings⟩) fun _ => ?_
  exact meets_failWith fun f hf => .session _ (hs.script ▸ hf)

theorem quiet_ping {connection : Nat} :
    Meets (Site.Made s₀ cs) s₀.script.Arises (Site.ping connection) := by
  refine meets_bind (quiet_record rfl) fun _ => meets_get_bind fun s hs => ?_
  refine meets_bind (meets_set ⟨hs.script, hs.calls, hs.listings⟩) fun _ => ?_
  exact meets_failWith fun f hf => .ping _ (hs.script ▸ hf)

theorem quiet_siteClose {connection : Nat} :
    Meets (Site.Made s₀ cs) (fun f => ∃ n, s₀.script.close n = some f) (Site.close connection) := by
  refine meets_bind (quiet_record rfl) fun _ => meets_get_bind fun s hs => ?_
  refine meets_bind (meets_set ⟨hs.script, hs.calls, hs.listings⟩) fun _ => ?_
  refine meets_bind (meets_failWith fun f hf => ⟨_, hs.script ▸ hf⟩) fun _ => ?_
  exact meets_modify fun _ ht => ⟨ht.script, ht.calls, ht.listings⟩

theorem quiet_now : Meets (Site.Made s₀ cs) E Site.now :=
  meets_of_aside (fun _ _ => Site.Made.aside) fun _ => aside_now

/-- A span can be opened with attributes whose values are texts on every stack. -/
theorem quiet_enter {name : String} {kind : Span.Kind} {attributes : List (String × Json)}
    (htold : ∀ room, Tracing.untold? room attributes = none) :
    Meets (Site.Made s₀ cs) E (Tracing.enter name kind attributes) :=
  meets_of_aside (fun _ _ => Site.Made.aside) fun s => aside_enter.mono fun f hf => by
    cases (htold s.script.room).symm.trans hf

theorem quiet_closeSpan {leave : Span → Span} :
    Meets (Site.Made s₀ cs) E (Tracing.closeSpan leave) :=
  meets_of_aside (fun _ _ => Site.Made.aside) fun _ => aside_closeSpan

theorem quiet_setAttribute {key : String} {value : Json} :
    Meets (Site.Made s₀ cs) E (Tracing.setAttribute key value) :=
  meets_of_aside (fun _ _ => Site.Made.aside) fun _ => aside_setAttribute

end Site

/-! ## Spans -/

/-- A quiet action without faults returns. -/
theorem outcome_of_quiet {x : Act Site Unit}
    (hx : ∀ s : Site, Meets (s.Made []) (fun _ => False) x) (s : Site) : x.outcome s = .ok () := by
  obtain ⟨-, h⟩ := hx s s (.refl s)
  cases ho : x.outcome s with
  | ok _ => rfl
  | error f => exact (h f ho).elim

/-- Spans can be closed. -/
theorem outcome_closeSpan (leave : Span → Span) (s : Site) :
    (Tracing.closeSpan leave).outcome s = .ok () :=
  outcome_of_quiet (fun _ => quiet_closeSpan) s

/-- How a span is left on an action that ended in a certain way. -/
def Tracing.leaving {α : Type} : Except Fault α → Span → Span
  | .ok _ => id
  | .error f => (·.mark f)

section Traced

variable {σ α : Type} [MonadLiftT (Act Site) (Act σ)] {name : String} {kind : Span.Kind}
  {attributes : List (String × Json)} {x : Act σ α}

/-- Where spans can be opened and closed, an action in a span ends as it does without. -/
theorem traced_views {s : σ}
    (hopen : outcome (liftM (Tracing.enter name kind attributes) : Act σ Unit) s = .ok ())
    (hclose : ∀ leave t, outcome (liftM (Tracing.closeSpan leave) : Act σ Unit) t = .ok ()) :
    let t := after (liftM (Tracing.enter name kind attributes) : Act σ Unit) s
    (Tracing.traced name kind attributes x).outcome s = x.outcome t ∧
      (Tracing.traced name kind attributes x).after s =
        after (liftM (Tracing.closeSpan (Tracing.leaving (x.outcome t))) : Act σ Unit)
          (x.after t) := by
  intro t
  rw [Tracing.traced, outcome_bind, after_bind, hopen]
  dsimp only
  rw [outcome_bind, after_bind, outcome_attempt, after_attempt]
  dsimp only
  cases h : x.outcome t with
  | ok a =>
    rw [outcome_bind, after_bind, hclose]
    exact ⟨rfl, rfl⟩
  | error f =>
    rw [outcome_bind, after_bind, hclose]
    exact ⟨rfl, rfl⟩

theorem meets_traced {I : σ → Prop} {E : Fault → Prop}
    (hopen : Meets I E (liftM (Tracing.enter name kind attributes) : Act σ Unit))
    (hclose : ∀ leave, Meets I E (liftM (Tracing.closeSpan leave) : Act σ Unit))
    (hx : Meets I E x) : Meets I E (Tracing.traced name kind attributes x) :=
  meets_bind hopen fun _ => meets_attempt_bind hx
    (fun a => meets_bind (hclose id) fun _ => meets_pure a)
    fun f hf => meets_bind (hclose (·.mark f)) fun _ => meets_throw hf

end Traced

/-! ## Connections -/

section Connections

variable {s₀ : Site} {cs : List Event} {E : Fault → Prop} {α : Type}

theorem quiet_connect {d : Dialect} : Meets (Site.Made s₀ cs) s₀.script.Arises d.connect := by
  unfold Dialect.connect
  split
  · exact meets_throw (.own rfl)
  · exact meets_bind quiet_openConnection fun n =>
      meets_bind quiet_beginSession fun _ => meets_pure n
  · split
    · exact meets_throw (.own rfl)
    · exact quiet_openConnection

theorem quiet_answersProbe {d : Dialect} {connection : Nat} :
    Meets (Site.Made s₀ cs) s₀.script.Arises (d.answersProbe connection) :=
  meets_attempt_bind quiet_ping (fun _ => meets_pure _) fun _ hf =>
    meets_ite (fun _ => meets_pure _) fun _ => meets_throw hf

theorem quiet_isValid {d : Dialect} {connection : Option Nat} :
    Meets (Site.Made s₀ cs) s₀.script.Arises (d.isValid connection) := by
  unfold Dialect.isValid
  split
  · exact meets_throw (.own rfl)
  · exact meets_pure _
  · exact meets_get_bind fun _ _ =>
      meets_ite (fun _ => meets_pure _) fun _ => quiet_answersProbe
  · exact quiet_answersProbe

theorem meets_liftPool {I : Site → Prop} {E : Fault → Prop} {x : Act Site α}
    (hx : Meets I E x) : Meets (fun p : Pool => I p.toSite) E (liftM x : Act Pool α) :=
  meets_zoom fun p hp => hx p.toSite hp

theorem arises_seconds {c : Script} {n : Int} {f : Fault}
    (h : secondsOfMilliseconds n = .error f) : c.Arises f := by
  unfold secondsOfMilliseconds at h
  split at h
  · cases h
  · cases h
    exact .own rfl

theorem Retry.Policy.Stuck.isOfConnecting {p : Retry.Policy} {c : Script} {attempt : Nat}
    {f : Fault} (h : p.Stuck c attempt f) : f.isOfConnecting = true := by
  obtain ⟨s, -, hf⟩ := h
  cases hdelay : (Retry.delay p attempt).outcome s with
  | error g =>
    rw [hdelay] at hf
    cases hf
    obtain ⟨cause, rfl⟩ := Retry.power_of_delay hdelay
    rfl
  | ok d =>
    rw [hdelay, Retry.Policy.hindrance?] at hf
    split at hf
    · cases hf
      rfl
    · split at hf <;> cases hf
      rfl

theorem quiet_openNew (p : Provider) :
    Meets (fun q : Pool => s₀.Made cs q.toSite) s₀.script.Arises p.openNew := by
  refine meets_bind (meets_ofExcept fun f hf => arises_seconds hf) fun delay => ?_
  refine meets_attempt_bind (meets_liftPool (meets_iff_leads.mpr (leads_attempts
    (fun _ _ => Site.Made.aside) (meets_iff_leads.mp quiet_connect) ?_ ?_ _)))
    (fun connection => ?_) fun f hf => ?_
  · exact fun _ _ _ hf => .own hf.isOfConnecting
  · exact fun _ => .own rfl
  · exact meets_bind (meets_modify fun _ hq => hq) fun _ =>
      meets_bind (meets_liftPool quiet_log) fun _ => meets_pure connection
  · exact meets_ite (fun _ => meets_throw (.own rfl)) fun _ => meets_throw hf

theorem quiet_closeQuietly :
    Meets (fun q : Pool => s₀.Made cs q.toSite) s₀.script.Arises Provider.closeQuietly := by
  refine meets_get_bind fun q _ => ?_
  split
  · exact meets_pure _
  · refine meets_bind (meets_modify fun _ hq => hq) fun _ => ?_
    refine meets_attempt_bind (meets_liftPool quiet_siteClose) (fun _ => meets_pure _)
      fun f ⟨n, hf⟩ => ?_
    exact meets_ite (fun _ => meets_liftPool quiet_log) fun _ => meets_throw (.close n hf)

theorem quiet_renew (p : Provider) :
    Meets (fun q : Pool => s₀.Made cs q.toSite) s₀.script.Arises p.renew :=
  meets_bind (quiet_openNew p) fun n =>
    meets_bind (meets_modify fun _ hq => hq) fun _ => meets_pure n

/-- **Getting a connection makes no call of the loop.** -/
theorem quiet_get (p : Provider) :
    Meets (fun q : Pool => s₀.Made cs q.toSite) s₀.script.Arises p.get := by
  refine meets_get_bind fun q _ => ?_
  split
  · exact quiet_renew p
  · refine meets_bind (meets_liftPool quiet_isValid) fun valid => ?_
    refine meets_ite (fun _ => meets_pure _) fun _ => ?_
    exact meets_bind (meets_liftPool quiet_log) fun _ =>
      meets_bind quiet_closeQuietly fun _ => quiet_renew p

/-- Getting a connection, seen from the pool that it begins with. -/
theorem get_made (p : Provider) (q : Pool) :
    q.toSite.Made [] (p.get.after q).toSite ∧
      ∀ f, p.get.outcome q = .error f → q.script.Arises f :=
  quiet_get p q (Site.Made.refl q.toSite)

/-- **Giving the connection up makes no call of the loop.** -/
theorem quiet_close (p : Provider) :
    Meets (fun q : Pool => s₀.Made cs q.toSite) s₀.script.Arises p.close :=
  meets_get_bind fun _ _ => meets_ite
    (fun _ => meets_bind (meets_liftPool quiet_log) fun _ => quiet_closeQuietly)
    fun _ => quiet_closeQuietly

end Connections

end TableDiscovery
