import TableDiscovery.Proofs.Quiet

/-!
# Connecting and closing that go well

A provider that works gets its connection as soon as the database accepts one. Closing a connection
returns, whatever the driver reports, as long as that is no interrupt.

* `Dialect.Connects`, `Provider.Works`: dialects and providers that can connect;
* `Dialect.system_of_find`: a dialect that is found is one of a known system;
* `Site.Accepts`, **`get_of_accepts`**: the next connection is accepted;
* `Script.ClosesQuietly`, **`returns_close`**: no interrupt when connections are closed;
* `Script.Steady`, **`returns_get`**: all connections are accepted, and listings do not change.
-/

namespace TableDiscovery

open Act

/-! ## Dialects and providers -/

/-- The dialect can connect: its system is a known one, and its URL makes a connection string. -/
structure Dialect.Connects (d : Dialect) : Prop where
  system : d.system ≠ .generic
  target : ∃ s, d.connectionString = .ok s

/-- The provider can connect: it makes an attempt, and its delay is a number of seconds. -/
structure Provider.Works (p : Provider) : Prop where
  dialect : p.dialect.Connects
  attempts : 1 ≤ p.maxAttempts
  backoff : ∃ x, secondsOfMilliseconds p.backoff = .ok x

namespace Dialect

theorem System.ne_generic_of_ofName {name : String} {s : System}
    (h : System.ofName? name = some s) : s ≠ .generic := by
  simp only [System.ofName?, Assoc.get?] at h
  rintro rfl
  split at h
  · cases h
  · split at h
    · cases h
    · split at h
      · cases h
      · split at h <;> cases h

theorem System.ne_generic_of_ofExplicit {name : String} {s : System}
    (h : System.ofExplicit? name = some s) : s ≠ .generic := by
  rw [System.ofExplicit?, Option.or_eq_some_iff] at h
  rcases h with h | ⟨-, h⟩
  · exact System.ne_generic_of_ofName h
  · have hmem := List.mem_of_find?_eq_some h
    rintro rfl
    simp at hmem

/-- A dialect that is found is one of a known system, at the URL. -/
theorem system_of_find {url : String} {name : Option String} {o : Options} {d : Dialect}
    (h : find url name o = .ok d) : d.system ≠ .generic ∧ d.url = url := by
  rw [find] at h
  cases hs : System.find url name with
  | error f =>
    rw [hs] at h
    cases h
  | ok s =>
    rw [hs] at h
    cases h
    refine ⟨?_, rfl⟩
    rw [System.find] at hs
    split at hs
    · split at hs
      · rename_i hname
        cases hs
        exact System.ne_generic_of_ofExplicit hname
      · cases hs
    · split at hs
      · cases hs
      · split at hs
        · rename_i hname
          cases hs
          exact System.ne_generic_of_ofName hname
        · cases hs

/-- A URL that can be read, with its port, makes a connection string. -/
theorem exists_connectionString {d : Dialect} {u : Url} {port : Option Nat}
    (hu : Url.parse d.url = .ok u) (hport : u.port? = .ok port) :
    ∃ s, d.connectionString = .ok s := by
  have hkeywords : ∃ ks, d.keywords = .ok ks := by
    rw [keywords, hu]
    simp only [bind, Except.bind, hport]
    split <;> exact ⟨_, rfl⟩
  obtain ⟨ks, hks⟩ := hkeywords
  exact ⟨_, by rw [connectionString, hks]; rfl⟩

end Dialect

/-! ## Connections that are accepted -/

/-- The next connection is accepted, and its session can be begun. -/
structure Site.Accepts (s : Site) : Prop where
  connect : s.script.connect s.counts.connect = none
  session : s.script.session s.counts.session = none

theorem Site.Accepts.aside {s t : Site} (h : s.Accepts) (ha : s.Aside t) : t.Accepts := by
  constructor
  · rw [ha.script, ha.counts]
    exact h.connect
  · rw [ha.script, ha.counts]
    exact h.session

section Accepts

variable {α : Type} {d : Dialect} {p : Provider} {s : Site} {q : Pool}

theorem connect_of_accepts (hd : d.Connects) (hs : s.Accepts) :
    d.connect.outcome s = .ok (s.opened + 1) := by
  have hopen (target : String) (arguments : List (String × Json)) :
      (Site.openConnection target arguments).outcome s = .ok (s.opened + 1) := by
    simp only [Site.openConnection, Site.record, outcome_bind, outcome_modify, after_modify,
      outcome_get, after_get, outcome_set, after_set]
    rw [show s.script.connect s.counts.connect = none from hs.connect]
    rfl
  rw [Dialect.connect]
  split
  · rename_i hsystem
    exact (hd.system hsystem).elim
  · rw [outcome_bind, hopen]
    have hsession : ((Site.openConnection d.url d.connectArguments).after s).script.session
        ((Site.openConnection d.url d.connectArguments).after s).counts.session = none := by
      simp only [Site.openConnection, Site.record, after_bind, outcome_modify, after_modify,
        outcome_get, after_get, outcome_set, after_set]
      rw [show s.script.connect s.counts.connect = none from hs.connect]
      exact hs.session
    generalize (Site.openConnection d.url d.connectArguments).after s = t at hsession
    dsimp only
    simp only [Site.beginSession, Site.record, outcome_bind, after_bind, outcome_modify,
      after_modify, outcome_get, after_get, outcome_set, after_set, hsession]
    rfl
  · obtain ⟨target, htarget⟩ := hd.target
    rw [htarget]
    exact hopen ..

theorem outcome_liftSiteOnPool (x : Act Site α) (q : Pool) :
    (liftM x : Act Pool α).outcome q = x.outcome q.toSite := outcome_zoom ..

theorem after_liftSiteOnPool (x : Act Site α) (q : Pool) :
    (liftM x : Act Pool α).after q = { q with toSite := x.after q.toSite } := after_zoom ..

/-- A first attempt that returns is the last one. -/
theorem outcome_attempts {name : String} {policy : Retry.Policy}
    {callback : Option (Nat → Fault → Float → Act Site Unit)} {x : Act Site α} {a : α}
    (hx : x.outcome s = .ok a) (left attempt : Nat) :
    (Retry.attempts name policy callback x (left + 1) attempt).outcome s = .ok a := by
  rw [Retry.attempts, outcome_bind, outcome_attempt, hx]
  rfl

theorem openNew_of_accepts (hp : p.Works) (hq : q.toSite.Accepts) :
    p.openNew.outcome q = .ok (q.opened + 1) := by
  obtain ⟨x, hx⟩ := hp.backoff
  obtain ⟨left, hleft⟩ : ∃ left, ((p.policy x).maxRetries + 1).toNat = left + 1 := by
    have hattempts := hp.attempts
    exact ⟨(p.maxAttempts - 1).toNat, by simp only [Provider.policy]; omega⟩
  have hrun : (Retry.run "connect" (p.policy x) none p.dialect.connect).outcome q.toSite =
      .ok (q.opened + 1) := by
    rw [Retry.run, hleft]
    exact outcome_attempts (connect_of_accepts hp.dialect hq) ..
  rw [Provider.openNew, outcome_bind, outcome_ofExcept, after_ofExcept, hx]
  dsimp only
  rw [outcome_bind, outcome_attempt, outcome_liftSiteOnPool, hrun]
  dsimp only
  rw [outcome_bind, outcome_modify, after_modify]
  dsimp only
  rw [outcome_bind, outcome_liftSiteOnPool, outcome_log]
  rfl

/-- A new connection becomes the cached one. -/
theorem renew_of_accepts (hp : p.Works) (hq : q.toSite.Accepts) :
    p.renew.outcome q = .ok (q.opened + 1) := by
  rw [Provider.renew, outcome_bind, openNew_of_accepts hp hq]
  rfl

/-- **A provider that works gets a connection, if the next one is accepted.** -/
theorem get_of_accepts (hp : p.Works) (hq : q.toSite.Accepts) (hnone : q.cached = none) :
    p.get.outcome q = .ok (q.opened + 1) := by
  rw [Provider.get, outcome_bind, outcome_get, after_get]
  dsimp only
  rw [hnone]
  exact renew_of_accepts hp hq

end Accepts

/-! ## Closing -/

/-- No interrupt comes up while a connection is closed. -/
def Script.ClosesQuietly (c : Script) : Prop := ∀ n f, c.close n = some f → f.isFailure = true

section Closing

variable {s₀ : Site} {cs : List Event}

theorem returns_closeQuietly (hc : s₀.script.ClosesQuietly) :
    Meets (fun q : Pool => s₀.Made cs q.toSite) (fun _ => False) Provider.closeQuietly := by
  refine meets_get_bind fun q _ => ?_
  split
  · exact meets_pure _
  · refine meets_bind (meets_modify fun _ hq => hq) fun _ => ?_
    refine meets_attempt_bind (meets_liftPool quiet_siteClose) (fun _ => meets_pure _)
      fun f ⟨n, hf⟩ => ?_
    exact meets_ite (fun _ => meets_liftPool quiet_log) fun hno => (hno (hc n f hf)).elim

/-- **Closing returns, unless there is an interrupt.** -/
theorem returns_close (hc : s₀.script.ClosesQuietly) (p : Provider) :
    Meets (fun q : Pool => s₀.Made cs q.toSite) (fun _ => False) p.close :=
  meets_get_bind fun _ _ => meets_when (meets_liftPool quiet_log) fun _ => returns_closeQuietly hc

end Closing

/-! ## A database that does not change -/

/-- All connections are accepted and answer probes, no interrupt comes up while they are closed, and
all listings are the same. -/
structure Script.Steady (c : Script) (rows : List Dialect.Row) : Prop where
  connect : ∀ n, c.connect n = none
  session : ∀ n, c.session n = none
  ping : ∀ n, c.ping n = none
  closes : c.ClosesQuietly
  listing : ∀ n, c.listing n = { rows := rows }

section Steady

variable {s₀ : Site} {cs : List Event} {rows : List Dialect.Row} {d : Dialect} {p : Provider}

theorem Script.Steady.accepts {s : Site} (h : s.script.Steady rows) : s.Accepts :=
  ⟨h.connect _, h.session _⟩

theorem returns_ping (h : s₀.script.Steady rows) {connection : Nat} :
    Meets (Site.Made s₀ cs) (fun _ => False) (Site.ping connection) := by
  refine meets_bind (quiet_record rfl) fun _ => meets_get_bind fun s hs => ?_
  refine meets_bind (meets_set ⟨hs.script, hs.calls, hs.listings⟩) fun _ => ?_
  rw [hs.script, h.ping]
  exact meets_pure ()

theorem returns_isValid (h : s₀.script.Steady rows) (hd : d.system ≠ .generic)
    {connection : Option Nat} :
    Meets (Site.Made s₀ cs) (fun _ => False) (d.isValid connection) := by
  have hprobe (n : Nat) : Meets (Site.Made s₀ cs) (fun _ => False) (d.answersProbe n) :=
    meets_attempt_bind (returns_ping h) (fun _ => meets_pure _) fun _ hf => hf.elim
  unfold Dialect.isValid
  split
  · rename_i hsystem
    exact (hd hsystem).elim
  · exact meets_pure _
  · exact meets_get_bind fun _ _ => meets_ite (fun _ => meets_pure _) fun _ => hprobe _
  · exact hprobe _

theorem returns_renew (h : s₀.script.Steady rows) (hp : p.Works) :
    Meets (fun q : Pool => s₀.Made cs q.toSite) (fun _ => False) p.renew := by
  refine (quiet_renew p).of_returns fun q hq => ⟨_, renew_of_accepts hp ?_⟩
  exact Script.Steady.accepts (hq.script.symm ▸ h)

/-- **A provider that works always gets a connection.** -/
theorem returns_get (h : s₀.script.Steady rows) (hp : p.Works) :
    Meets (fun q : Pool => s₀.Made cs q.toSite) (fun _ => False) p.get := by
  refine meets_get_bind fun q _ => ?_
  split
  · exact returns_renew h hp
  · refine meets_bind (meets_liftPool (returns_isValid h hp.dialect.system)) fun valid => ?_
    refine meets_ite (fun _ => meets_pure _) fun _ => ?_
    exact meets_bind (meets_liftPool quiet_log) fun _ =>
      meets_bind (returns_closeQuietly h.closes) fun _ => returns_renew h hp

end Steady

end TableDiscovery
