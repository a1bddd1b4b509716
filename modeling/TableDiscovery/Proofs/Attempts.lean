import Mathlib.Order.Bounds.Defs
import Mathlib.Tactic.ByContra
import TableDiscovery.Proofs.Connecting
import TableDiscovery.Proofs.Number.Limit
import TableDiscovery.Proofs.Retry
import TableDiscovery.Proofs.Text.Integer

/-!
# How a provider connects

Without a cached connection the provider tries to connect until an attempt succeeds or fails in a
way that is not transient, or all attempts have been made. The last attempt decides: its connection
is returned and kept, or its fault is passed on, or all attempts are reported to have failed.

* `openConnection_views`, `beginSession_views`, `blind_connect`: what a call of connecting does;
* `Dialect.called`, `Dialect.attempt`: the calls of connecting, one after the other;
* `Provider.openNew_spec`: a new connection, as the retry ended;
* `Provider.LastAttempt`, `Provider.Decides`: the attempt that decides, and what it decides;
* `Provider.CanPause`, `Provider.Overlong`, `Provider.Stalls`: pauses between attempts, and what
  comes of one that cannot be made;
* **`Provider.get_cases`**: one of these two is what getting a connection comes to;
* **`Provider.get_attempts`**: which of them it is.
-/

namespace TableDiscovery

open Act

/-! ## Connecting -/

/-- How a connection is opened: as the script says. -/
theorem openConnection_views (target : String) (arguments : List (String × Json)) (s : Site) :
    (Site.openConnection target arguments).outcome s =
        (match s.script.connect s.counts.connect with
          | some f => .error f
          | none => .ok (s.opened + 1)) ∧
      (Site.openConnection target arguments).after s =
        { s with
          trace := s.trace ++ [.connect target arguments]
          counts.connect := s.counts.connect + 1
          opened := s.opened + if (s.script.connect s.counts.connect).isNone then 1 else 0 } := by
  simp only [Site.openConnection, Site.record, outcome_bind, after_bind, outcome_modify,
    after_modify, outcome_get, after_get, outcome_set, after_set]
  cases s.script.connect s.counts.connect <;> exact ⟨rfl, rfl⟩

theorem beginSession_views (n : Nat) (s : Site) :
    (Site.beginSession n).outcome s =
        (match s.script.session s.counts.session with
          | some f => .error f
          | none => .ok ()) ∧
      (Site.beginSession n).after s =
        { s with
          trace := s.trace ++ [.session n]
          counts.session := s.counts.session + 1 } := by
  simp only [Site.beginSession, Site.record, outcome_bind, after_bind, outcome_modify,
    after_modify, outcome_get, after_get, outcome_set, after_set]
  cases s.script.session s.counts.session <;> exact ⟨rfl, rfl⟩

theorem blind_openConnection (target : String) (arguments : List (String × Json)) :
    Site.Blind (Site.openConnection target arguments) := by
  intro s t h
  obtain ⟨hs, hs'⟩ := openConnection_views target arguments s
  obtain ⟨ht, ht'⟩ := openConnection_views target arguments t
  have hasked : t.counts.connect = s.counts.connect := by rw [h.counts]
  rw [hs, ht, hs', ht', h.script, hasked, h.opened]
  refine ⟨rfl, rfl, rfl, h.closed, ?_, ?_⟩
  · rw [h.counts]
  · rw [List.filter_append, List.filter_append, h.calls]

theorem blind_beginSession (n : Nat) : Site.Blind (Site.beginSession n) := by
  intro s t h
  obtain ⟨hs, hs'⟩ := beginSession_views n s
  obtain ⟨ht, ht'⟩ := beginSession_views n t
  have hasked : t.counts.session = s.counts.session := by rw [h.counts]
  rw [hs, ht, hs', ht', h.script, hasked]
  refine ⟨rfl, rfl, h.opened, h.closed, ?_, ?_⟩
  · rw [h.counts]
  · rw [List.filter_append, List.filter_append, h.calls]

theorem blind_connect (d : Dialect) : Site.Blind d.connect := by
  unfold Dialect.connect
  split
  · exact blind_throw _
  · exact blind_bind (blind_openConnection _ _) fun n =>
      blind_bind (blind_beginSession n) fun _ => blind_pure n
  · split
    · exact blind_throw _
    · exact blind_openConnection _ _

/-! ## Kinds -/

/-- A handler for anything but interrupts takes failures only. -/
theorem Kind.isA_exception {k above : Kind} (h : k.isA above = true) (hne : above ≠ .interrupt) :
    k.isA .exception = true := by
  cases k with
  | interrupt =>
    cases above <;> first | exact (hne rfl).elim | cases h
  | driver d g => cases d <;> cases g <;> rfl
  | _ => rfl

namespace Dialect

variable {d : Dialect} {f : Fault}

theorem isFailure_of_isTransient (h : d.isTransient f = true) : f.isFailure = true := by
  obtain ⟨k, hk, hf⟩ := List.any_eq_true.mp h
  refine Kind.isA_exception hf ?_
  rintro rfl
  simp only [transientKinds, List.mem_append, Option.mem_toList, Option.map_eq_some_iff] at hk
  simp at hk

theorem isTransient_of_isA (h : f.isA .transientDiscovery = true) : d.isTransient f = true :=
  List.any_eq_true.mpr ⟨.transientDiscovery, by simp [transientKinds], h⟩

/-- Numbers that are too large and texts that cannot be read are there to stay. -/
theorem not_isTransient (h : f.kind = .overflow ∨ f.kind = .value) : d.isTransient f = false := by
  change d.transientKinds.any f.kind.isA = false
  obtain ⟨system, _, _, _, _, _⟩ := d
  rcases h with h | h <;> rw [h] <;> cases system <;> rfl

end Dialect

/-! ## The provider -/

theorem seconds_eq_error {n : Int} {f : Fault} (h : secondsOfMilliseconds n = .error f) :
    f = .integerTooLarge := by
  rw [secondsOfMilliseconds] at h
  split at h <;> cases h
  rfl

/-- The site after calls of connecting. -/
def Dialect.called (d : Dialect) (n : Nat) (s : Site) : Site := d.connect.afterCalls n s

/-- How a call of connecting ends, the calls counted from one. -/
def Dialect.attempt (d : Dialect) (n : Nat) (s : Site) : Except Fault Nat :=
  d.connect.outcome (d.called (n - 1) s)

/-- Connecting gets as far as the driver. -/
def Dialect.ReachesDriver (d : Dialect) : Prop :=
  d.system = .postgres ∨ d.system = .sqlServer ∧ ∃ target, d.connectionString = .ok target

theorem connects_connect {d : Dialect} (hd : d.ReachesDriver) (s : Site) :
    (d.connect.after s).counts.connect = s.counts.connect + 1 := by
  rw [Dialect.connect]
  obtain hsystem | ⟨hsystem, target, htarget⟩ := hd
  · rw [hsystem]
    dsimp only
    obtain ⟨hout, hafter⟩ := openConnection_views d.url d.connectArguments s
    rw [after_bind, hafter, hout]
    cases s.script.connect s.counts.connect with
    | some f => rfl
    | none =>
      dsimp only
      rw [after_bind, (beginSession_views ..).2]
      split <;> rfl
  · rw [hsystem]
    dsimp only
    rw [htarget]
    dsimp only
    rw [(openConnection_views ..).2]

theorem connects_called {d : Dialect} (hd : d.ReachesDriver) (n : Nat) (s : Site) :
    (d.called n s).counts.connect = s.counts.connect + n := by
  induction n with
  | zero => rfl
  | succ n ih =>
    have hstep : d.called (n + 1) s = d.connect.after (d.called n s) := afterCalls_succ ..
    rw [hstep, connects_connect hd, ih, Nat.add_assoc]

namespace Provider

variable {p : Provider} {q : Pool} {s : Site}

/-- An attempt, counted from one, fails transiently. -/
def FailsAt (p : Provider) (s : Site) (n : Nat) : Prop :=
  ∃ f, p.dialect.attempt n s = .error f ∧ p.dialect.isTransient f = true

/-- The attempt is the first one that does not fail transiently, or else the last one that may be
made. -/
def LastAttempt (p : Provider) (s : Site) (n : Nat) : Prop :=
  IsLeast {n : Nat | 1 ≤ n ∧ (p.FailsAt s n → (n : Int) = p.maxAttempts)} n

/-- What is reported of a failed attempt. -/
def reported (p : Provider) (f : Fault) : Fault :=
  if p.dialect.isTransient f then .unreachable p.dialect.name p.maxAttempts f else f

theorem retries_policy (p : Provider) (delay : Float) (f : Fault) :
    (p.policy delay).retries f = p.dialect.isTransient f := by
  have hkinds : p.dialect.transientKinds.isEmpty = false := by
    simp [Dialect.transientKinds]
  simp only [Retry.Policy.retries, policy, hkinds, Bool.false_or, Dialect.isTransient]

theorem triesAgain_iff {α : Type} (p : Provider) (delay : Float) (r : Except Fault α) :
    (p.policy delay).TriesAgain r ↔ ∃ f, r = .error f ∧ p.dialect.isTransient f = true := by
  simp only [Retry.Policy.TriesAgain, retries_policy]
  exact exists_congr fun f => and_congr_right fun _ =>
    and_iff_right_of_imp Dialect.isFailure_of_isTransient

/-- What opening a new connection makes of how the retry in it ended, and of the site then. -/
inductive Opens (p : Provider) (q : Pool) (run : Except Fault Nat) (t : Site) :
    Except Fault Nat → Pool → Prop
  | opened {c : Nat} {u : Site} : run = .ok c → t.Aside u →
    Opens p q run t (.ok c) { q with toSite := u, connects := q.connects + 1 }
  | failed {f : Fault} : run = .error f →
    Opens p q run t (.error (p.reported f)) { q with toSite := t }

theorem openNew_spec {delay : Float} (hdelay : secondsOfMilliseconds p.backoff = .ok delay) :
    Opens p q ((Retry.run "connect" (p.policy delay) none p.dialect.connect).outcome q.toSite)
      ((Retry.run "connect" (p.policy delay) none p.dialect.connect).after q.toSite)
      (p.openNew.outcome q) (p.openNew.after q) := by
  generalize hrun : Retry.run "connect" (p.policy delay) none p.dialect.connect = run
  rw [openNew, hdelay]
  refine views_of_ok (Q := Opens p q _ _) (outcome_ofExcept ..) (after_ofExcept ..) ?_
  refine views_of_ok (outcome_attempt ..) (after_attempt ..) ?_
  rw [outcome_liftSiteOnPool, after_liftSiteOnPool, hrun]
  cases hout : run.outcome q.toSite with
  | ok c =>
    refine views_of_ok (outcome_modify ..) (after_modify ..) ?_
    refine views_of_ok ((outcome_liftSiteOnPool ..).trans (outcome_log ..))
      (after_liftSiteOnPool ..) ?_
    exact .opened rfl (aside_after_log ..)
  | error f =>
    have hfailed : Opens p q (.error f) (run.after q.toSite) (.error (p.reported f))
        { q with toSite := run.after q.toSite } := .failed rfl
    rw [reported] at hfailed
    dsimp only
    split at hfailed
    · rwa [if_pos ‹_›]
    · rwa [if_neg ‹_›]

/-- Without a cached connection, a new one is opened and kept. -/
theorem get_of_none (hnone : q.cached = none) {run : Except Fault Nat} {t : Site}
    (hopen : Opens p q run t (p.openNew.outcome q) (p.openNew.after q)) :
    (∃ c u, run = .ok c ∧ t.Aside u ∧ p.get.outcome q = .ok c ∧
        p.get.after q = { q with toSite := u, cached := some c, connects := q.connects + 1 }) ∨
      ∃ f, run = .error f ∧ p.get.outcome q = .error (p.reported f) ∧
        p.get.after q = { q with toSite := t } := by
  rw [get, outcome_bind, after_bind, outcome_get, after_get]
  dsimp only
  rw [hnone, renew]
  dsimp only
  rw [outcome_bind, after_bind]
  generalize p.openNew.outcome q = out, p.openNew.after q = r at hopen
  cases hopen with
  | opened hrun haside => exact .inl ⟨_, _, hrun, haside, rfl, rfl⟩
  | failed hrun => exact .inr ⟨_, hrun, rfl, by rw [hnone]⟩

/-- What comes of `n` attempts to connect, the last of which decides. -/
structure Decides (p : Provider) (q : Pool) (n : Nat) (out : Except Fault Nat) (r : Pool) :
    Prop where
  last : p.LastAttempt q.toSite n
  calls : (p.dialect.called n q.toSite).Alike r.toSite
  asked : p.dialect.ReachesDriver → r.counts.connect = q.counts.connect + n
  returned : ∀ c, p.dialect.attempt n q.toSite = .ok c →
    out = .ok c ∧ r.cached = some c ∧ r.connects = q.connects + 1
  fatal : ∀ f, p.dialect.attempt n q.toSite = .error f → p.dialect.isTransient f = false →
    out = .error f
  exhausted : ∀ f, p.dialect.attempt n q.toSite = .error f → p.dialect.isTransient f = true →
    out = .error (.unreachable p.dialect.name p.maxAttempts f)
  exhausted_iff : (∃ f, out = .error f ∧ f.isA .transientDiscovery = true) ↔
    ∀ i : Nat, 1 ≤ i → (i : Int) ≤ p.maxAttempts → p.FailsAt q.toSite i
  kept : ∀ f, out = .error f → r.cached = none ∧ r.connects = q.connects

/-- The seconds between two attempts: the delay times one, neither longer than itself nor
negative. -/
def pauseSeconds (delay : Float) : Float := Retry.greatest 0.0 (Retry.least (delay * 1.0) delay)

/-- The pause after `n` attempts can be made: their number has a double next to it, the number of
all attempts can be written, and the platform can wait for so long. -/
structure CanPause (p : Provider) (c : Script) (delay : Float) (n : Nat) : Prop where
  few : n ≤ Number.limit
  short : p.maxAttempts.natAbs < Nat.pow 10 Text.maxDigits
  accepted : 0.0 < pauseSeconds delay → c.refusesWait (pauseSeconds delay) = false

theorem CanPause.of_le {c : Script} {delay : Float} {i n : Nat} (h : p.CanPause c delay n)
    (hi : i ≤ n) : p.CanPause c delay i := ⟨hi.trans h.few, h.short, h.accepted⟩

/-- Why the pause after `n` attempts cannot be made. -/
inductive Overlong (p : Provider) (c : Script) (delay : Float) (n : Nat) : Fault → Prop
  | delay : Number.limit < n → Overlong p c delay n (.power .exponentTooLarge)
  | total : ¬ p.maxAttempts.natAbs < Nat.pow 10 Text.maxDigits → Overlong p c delay n .tooManyDigits
  | wait : 0.0 < pauseSeconds delay → c.refusesWait (pauseSeconds delay) = true →
    Overlong p c delay n .waitTooLong

/-- What comes of `n` attempts to connect after which there are more, but can be no pause, as there
was after each of those before. -/
structure Stalls (p : Provider) (q : Pool) (delay : Float) (n : Nat) (out : Except Fault Nat)
    (r : Pool) : Prop where
  left : 1 ≤ n ∧ (n : Int) < p.maxAttempts
  failed : ∀ i, 1 ≤ i → i ≤ n → p.FailsAt q.toSite i
  paused : ∀ i, 1 ≤ i → i < n → p.CanPause q.script delay i
  calls : (p.dialect.called n q.toSite).Alike r.toSite
  asked : p.dialect.ReachesDriver → r.counts.connect = q.counts.connect + n
  overlong : ∃ f, p.Overlong q.script delay n f ∧ out = .error f
  kept : r.cached = none ∧ r.connects = q.connects

section Pause

variable {c : Script} {delay : Float} {n : Nat} {f : Fault}

/-- The factor of a delay is always one. -/
theorem delay_policy (p : Provider) (delay : Float) (n : Nat) (s : Site) :
    (Retry.delay (p.policy delay) n).outcome s =
      if n < Number.limit then .ok (pauseSeconds delay) else .error (.power .exponentTooLarge) := by
  rw [Retry.outcome_delay rfl, Retry.bareDelay, show (p.policy delay).growth = 1.0 from rfl]
  rcases Nat.lt_or_ge n Number.limit with hlt | hge
  · rw [if_pos hlt, Number.power_one (Number.ofInt_of_lt hlt)]
    rfl
  · rw [if_neg (Nat.not_lt_of_le hge), Number.power, Number.ofInt_of_limit_le hge]
    rfl

theorem total_policy (p : Provider) (delay : Float) :
    (Text.writeInt? ((p.policy delay).maxRetries + 1)).isNone = true ↔
      ¬ p.maxAttempts.natAbs < Nat.pow 10 Text.maxDigits := by
  rw [policy, Int.sub_add_cancel, Option.isNone_iff_eq_none, Text.writeInt_eq_none_iff]

theorem canPause_of_pauses (h : (p.policy delay).Pauses c n) : p.CanPause c delay (n + 1) := by
  obtain ⟨s, -, h⟩ := h
  rw [delay_policy] at h
  split at h
  · rename_i hfew
    have htotal := total_policy p delay
    cases hcounts : (Text.writeInt? ((p.policy delay).maxRetries + 1)).isNone with
    | true => cases h.symm.trans (Retry.Policy.hindrance_of_uncounted hcounts _ _)
    | false =>
      rw [hcounts] at htotal
      refine ⟨hfew, Classical.not_not.mp fun hlong => ?_, fun hpos => ?_⟩
      · cases htotal.mpr hlong
      · by_contra hrefused
        rw [Bool.not_eq_false] at hrefused
        cases h.symm.trans (Retry.Policy.hindrance_of_refused hcounts hpos hrefused)
  · cases h

/-- Attempts that were paused after could be paused after, counted from one. -/
theorem canPause_of_before {k i : Nat} (h : ∀ j < k, (p.policy delay).Pauses c (0 + j))
    (hpos : 1 ≤ i) (hi : i < k + 1) : p.CanPause c delay i := by
  obtain ⟨j, rfl⟩ := Nat.exists_eq_add_of_le' hpos
  have hpauses := h j (by omega)
  rw [Nat.zero_add] at hpauses
  exact canPause_of_pauses hpauses

theorem overlong_of_stuck (h : (p.policy delay).Stuck c n f) : p.Overlong c delay (n + 1) f := by
  obtain ⟨s, -, h⟩ := h
  rw [delay_policy] at h
  split at h
  · cases hcounts : (Text.writeInt? ((p.policy delay).maxRetries + 1)).isNone with
    | true =>
      cases h.symm.trans (Retry.Policy.hindrance_of_uncounted hcounts _ _)
      exact .total ((total_policy p delay).mp hcounts)
    | false =>
      by_cases hwait : 0.0 < pauseSeconds delay ∧ c.refusesWait (pauseSeconds delay) = true
      · cases h.symm.trans (Retry.Policy.hindrance_of_refused hcounts hwait.1 hwait.2)
        exact .wait hwait.1 hwait.2
      · have hfree := Retry.Policy.hindrance_of_accepted (c := c) hcounts fun hpos =>
          Bool.eq_false_iff.mpr fun hrefused => hwait ⟨hpos, hrefused⟩
        cases h.symm.trans hfree
  · cases h
    exact .delay (Nat.lt_succ_of_le (Nat.le_of_not_lt ‹_›))

theorem Overlong.not_canPause (h : p.Overlong c delay n f) : ¬ p.CanPause c delay n := by
  intro hpause
  cases h with
  | delay hmany => exact Nat.not_lt_of_le hpause.few hmany
  | total hlong => exact hlong hpause.short
  | wait hpos hrefused => cases (hpause.accepted hpos).symm.trans hrefused

theorem not_isTransient_of_overlong (h : p.Overlong c delay n f) :
    p.dialect.isTransient f = false := by
  cases h with
  | total => exact Dialect.not_isTransient (.inr rfl)
  | delay | wait => exact Dialect.not_isTransient (.inl rfl)

end Pause

/-- Attempts that fail, one after the other, and one that is the last. -/
theorem lastAttempt_of_failsAt {n : Nat} (hn : (n : Int) < p.maxAttempts)
    (hbefore : ∀ i, 1 ≤ i → i ≤ n → p.FailsAt s i)
    (hlast : ((n + 1 : Nat) : Int) < p.maxAttempts → ¬ p.FailsAt s (n + 1)) :
    p.LastAttempt s (n + 1) := by
  refine ⟨⟨Nat.succ_pos n, fun hfails => ?_⟩, fun m ⟨hpos, hm⟩ => ?_⟩
  · by_contra hne
    exact hlast (by omega) hfails
  · by_contra hlt
    have := hm (hbefore m hpos (by omega))
    omega

/-- If the last attempt fails, all attempts have been made and failed. -/
theorem LastAttempt.failsAt_iff {n : Nat} (h : p.LastAttempt s n)
    (hattempts : 1 ≤ p.maxAttempts) :
    p.FailsAt s n ↔ ∀ i : Nat, 1 ≤ i → (i : Int) ≤ p.maxAttempts → p.FailsAt s i := by
  obtain ⟨⟨hpos, hmost⟩, hleast⟩ := h
  constructor
  · intro hfails i hi himax
    have heq := hmost hfails
    by_contra hno
    have hle := hleast ⟨hi, fun hfails => (hno hfails).elim⟩
    exact hno ((show i = n by omega) ▸ hfails)
  · intro hall
    refine hall n hpos ?_
    have hle := hleast (show p.maxAttempts.toNat ∈ _ from ⟨by omega, fun _ => by omega⟩)
    omega

/-- The last attempt decides how getting a connection ends. -/
theorem decides_of_lastAttempt {n : Nat} {out : Except Fault Nat} {r : Pool}
    (hattempts : 1 ≤ p.maxAttempts) (hlast : p.LastAttempt q.toSite n)
    (hcalls : (p.dialect.called n q.toSite).Alike r.toSite)
    (hout : (∃ c, p.dialect.attempt n q.toSite = .ok c ∧ out = .ok c ∧ r.cached = some c ∧
        r.connects = q.connects + 1) ∨
      ∃ f, p.dialect.attempt n q.toSite = .error f ∧ out = .error (p.reported f) ∧
        r.cached = none ∧ r.connects = q.connects) : p.Decides q n out r := by
  have hall := hlast.failsAt_iff hattempts
  have hasked (hd : p.dialect.ReachesDriver) : r.counts.connect = q.counts.connect + n := by
    rw [hcalls.counts]
    exact connects_called hd n q.toSite
  obtain ⟨c, hattempt, rfl, hcached⟩ | ⟨f, hattempt, rfl, hcached⟩ := hout
  · refine ⟨hlast, hcalls, hasked, fun c' hc' => ?_, fun f hf => ?_, fun f hf => ?_, ?_, nofun⟩
    · cases hattempt.symm.trans hc'
      exact ⟨rfl, hcached⟩
    · cases hattempt.symm.trans hf
    · cases hattempt.symm.trans hf
    · rw [← hall]
      constructor
      · rintro ⟨f, hf, -⟩
        cases hf
      · rintro ⟨f, hf, -⟩
        cases hattempt.symm.trans hf
  · refine ⟨hlast, hcalls, hasked, fun c' hc' => ?_, fun f hf => ?_, fun f hf => ?_, ?_,
      fun f _ => hcached⟩
    · cases hattempt.symm.trans hc'
    · cases hattempt.symm.trans hf
      intro ht
      rw [reported, if_neg (by rw [ht]; nofun)]
    · cases hattempt.symm.trans hf
      intro ht
      rw [reported, if_pos ht]
    · rw [← hall]
      constructor
      · rintro ⟨g, hg, hkind⟩
        cases hg
        by_cases ht : p.dialect.isTransient f = true
        · exact ⟨f, hattempt, ht⟩
        · rw [reported, if_neg ht] at hkind
          exact (ht (Dialect.isTransient_of_isA hkind)).elim
      · rintro ⟨g, hg, ht⟩
        cases hattempt.symm.trans hg
        rw [reported, if_pos ht]
        exact ⟨_, rfl, rfl⟩

/-- Calls of connecting leave the script as it is. -/
theorem script_connect (d : Dialect) (s : Site) : (d.connect.after s).script = s.script := by
  have hquiet := (quiet_connect (d := d) s (.refl s)).1
  exact hquiet.script

/-- **Getting a connection ends with the attempt that decides, or with a pause before it that cannot
be made.** -/
theorem get_cases {delay : Float} (hnone : q.cached = none) (hattempts : 1 ≤ p.maxAttempts)
    (hdelay : secondsOfMilliseconds p.backoff = .ok delay) :
    (∃ n, p.Decides q n (p.get.outcome q) (p.get.after q) ∧
      ∀ i, 1 ≤ i → i < n → p.CanPause q.script delay i) ∨
    ∃ n, p.Stalls q delay n (p.get.outcome q) (p.get.after q) := by
  have htotal : ((p.policy delay).maxRetries + 1).toNat = p.maxAttempts.toNat := by
    simp only [policy, Int.sub_add_cancel]
  obtain ⟨n, hn, hcalls⟩ := Retry.attempts_spec "connect" (p.policy delay) p.maxAttempts.toNat 0
    (blind_connect p.dialect) (script_connect p.dialect) (.refl q.toSite) (by omega)
  have hget := get_of_none hnone (openNew_spec (q := q) hdelay)
  rw [Retry.run, htotal] at hget
  generalize (Retry.attempts "connect" (p.policy delay) none p.dialect.connect
    p.maxAttempts.toNat 0).outcome q.toSite = run at hn hget
  generalize (Retry.attempts "connect" (p.policy delay) none p.dialect.connect
    p.maxAttempts.toNat 0).after q.toSite = t at hcalls hget
  cases hn with
  | @decided k hk hbefore hlast =>
    have hlast : p.LastAttempt q.toSite (k + 1) := by
      refine lastAttempt_of_failsAt (by omega) (fun i hpos hi => ?_) fun hlt hfails => ?_
      · exact (triesAgain_iff p delay _).mp (hbefore (i - 1) (by omega)).1
      · exact hlast (by omega) ((triesAgain_iff p delay _).mpr hfails)
    refine .inl ⟨k + 1, decides_of_lastAttempt hattempts hlast ?_ ?_, fun i hpos hi => ?_⟩
    · obtain ⟨c, u, -, haside, -, hafter⟩ | ⟨f, -, -, hafter⟩ := hget
      · exact hafter ▸ hcalls.trans haside.alike
      · exact hafter ▸ hcalls
    · obtain ⟨c, u, hrun, -, hout, hafter⟩ | ⟨f, hrun, hout, hafter⟩ := hget
      · exact .inl ⟨c, hrun, hout, hafter ▸ rfl, hafter ▸ rfl⟩
      · exact .inr ⟨f, hrun, hout, hafter ▸ hnone, hafter ▸ rfl⟩
    · exact canPause_of_before (fun j hj => (hbefore j hj).2) hpos hi
  | @stuck k f hk hbefore hagain hstuck =>
    rw [Nat.zero_add] at hstuck
    have hoverlong := overlong_of_stuck hstuck
    have hfailed (i : Nat) (hpos : 1 ≤ i) (hi : i ≤ k + 1) : p.FailsAt q.toSite i := by
      refine (triesAgain_iff p delay _).mp ?_
      rcases Nat.lt_or_eq_of_le hi with hlt | rfl
      · exact (hbefore (i - 1) (by omega)).1
      · exact hagain
    obtain ⟨c, u, hrun, -⟩ | ⟨g, hrun, hout, hafter⟩ := hget
    · cases hrun
    · cases hrun
      rw [reported, not_isTransient_of_overlong hoverlong, if_neg Bool.false_ne_true] at hout
      have hcalls' : (p.dialect.called (k + 1) q.toSite).Alike (p.get.after q).toSite :=
        hafter ▸ hcalls
      exact .inr ⟨k + 1,
        { left := ⟨by omega, by omega⟩
          failed := hfailed
          paused := fun i => canPause_of_before fun j hj => (hbefore j hj).2
          calls := hcalls'
          asked := fun hd => by rw [hcalls'.counts]; exact connects_called hd (k + 1) q.toSite
          overlong := ⟨f, hoverlong, hout⟩
          kept := hafter ▸ ⟨hnone, rfl⟩ }⟩

/-- There is a last attempt. -/
theorem exists_lastAttempt (p : Provider) (s : Site) (hattempts : 1 ≤ p.maxAttempts) :
    ∃ n, p.LastAttempt s n := by
  classical
  have hlast : ∃ n : Nat, 1 ≤ n ∧ (p.FailsAt s n → (n : Int) = p.maxAttempts) :=
    ⟨p.maxAttempts.toNat, by omega, fun _ => by omega⟩
  exact ⟨Nat.find hlast, Nat.isLeast_find hlast⟩

/-- **The first attempt that does not fail transiently decides, or else the last one.** Exactly the
attempts up to it are made, and getting a connection ends as it does, if it is the first attempt or
the pause before it can be made. Otherwise an earlier pause ends it. -/
theorem get_attempts {delay : Float} (hnone : q.cached = none) (hattempts : 1 ≤ p.maxAttempts)
    (hdelay : secondsOfMilliseconds p.backoff = .ok delay) :
    ∃ n, p.LastAttempt q.toSite n ∧
      (n = 1 ∨ p.CanPause q.script delay (n - 1) →
        p.Decides q n (p.get.outcome q) (p.get.after q)) ∧
      (¬ (n = 1 ∨ p.CanPause q.script delay (n - 1)) →
        ∃ m < n, p.Stalls q delay m (p.get.outcome q) (p.get.after q)) := by
  obtain ⟨n, hlast⟩ := exists_lastAttempt p q.toSite hattempts
  refine ⟨n, hlast, ?_⟩
  obtain ⟨k, hdecides, hpauses⟩ | ⟨k, hstalls⟩ := get_cases hnone hattempts hdelay
  · cases IsLeast.unique hlast hdecides.last
    refine ⟨fun _ => hdecides, fun hno => ?_⟩
    obtain ⟨hone, hpause⟩ := not_or.mp hno
    have hpos : 1 ≤ n := hlast.1.1
    exact (hpause (hpauses (n - 1) (by omega) (by omega))).elim
  · have hlt : k < n := by
      by_contra hle
      have hlastIs := hlast.1.2 (hstalls.failed n hlast.1.1 (by omega))
      have hleft := hstalls.left.2
      omega
    refine ⟨fun hyes => ?_, fun _ => ⟨k, hlt, hstalls⟩⟩
    obtain ⟨f, hoverlong, -⟩ := hstalls.overlong
    have hleft := hstalls.left.1
    obtain rfl | hpause := hyes
    · omega
    · exact (hoverlong.not_canPause (hpause.of_le (by omega))).elim

/-- The first connection is refused, the session of the second cannot be begun, and the third one is
good. -/
def stumblingPool : Pool where
  script :=
    { connect := fun n =>
        if n = 0 then some (.raised (.driver .postgres .operational) none) else none
      session := fun n => if n = 0 then some (.raised .connectionReset none) else none }

/-- Four attempts, without a pause between them. -/
def stumblingProvider : Provider :=
  ⟨.make .postgres "postgresql://localhost/shop" { }, 4, 0⟩

/-- No pause of the provider is waited. -/
theorem canPause_stumbling {n : Nat} (hn : n ≤ 1023) :
    stumblingProvider.CanPause stumblingPool.script (Float.ofInt 0 / 1000.0) n where
  few := (Number.lt_limit hn).le
  short := by decide +kernel
  accepted _ := by decide +kernel

/-- The third attempt decides. -/
theorem get_attempts_stumbling :
    secondsOfMilliseconds stumblingProvider.backoff = .ok (Float.ofInt 0 / 1000.0) ∧
      stumblingProvider.CanPause stumblingPool.script (Float.ofInt 0 / 1000.0) 2 ∧
      stumblingProvider.Decides stumblingPool 3 (stumblingProvider.get.outcome stumblingPool)
        (stumblingProvider.get.after stumblingPool) := by
  have hdelay : secondsOfMilliseconds stumblingProvider.backoff = .ok (Float.ofInt 0 / 1000.0) :=
    rfl
  obtain ⟨n, hlast, hdecides, -⟩ := get_attempts (p := stumblingProvider) (q := stumblingPool) rfl
    (by decide) hdelay
  have hmost : n ≤ 4 := hlast.2 ⟨by decide, fun _ => rfl⟩
  have h := hdecides (.inr (canPause_stumbling (by omega)))
  have hasked := h.asked (.inl rfl)
  have hthree : (stumblingProvider.get.after stumblingPool).counts.connect = 3 := by
    decide +kernel
  have hzero : stumblingPool.counts.connect = 0 := rfl
  cases (show n = 3 by omega)
  exact ⟨hdelay, canPause_stumbling (by decide), h⟩

/-- The first connection is refused. -/
def refusingPool : Pool where
  script :=
    { connect := fun n =>
        if n = 0 then some (.raised (.driver .postgres .operational) none) else none }

/-- Two attempts with ten thousand million seconds between them. -/
def patientProvider : Provider :=
  ⟨.make .postgres "postgresql://localhost/shop" { }, 2, 10000000000000⟩

/-- The platform cannot wait for so long: the second attempt, which would succeed, is not made. -/
theorem get_attempts_refused :
    (∃ x, secondsOfMilliseconds patientProvider.backoff = .ok x) ∧
      patientProvider.LastAttempt refusingPool.toSite 2 ∧
      (∃ c, patientProvider.dialect.attempt 2 refusingPool.toSite = .ok c) ∧
      patientProvider.get.outcome refusingPool = .error .waitTooLong ∧
      (patientProvider.get.after refusingPool).counts.connect = 1 := by
  have finite : (Float.ofInt 10000000000000).isInf = false := by decide +kernel
  have hdelay : secondsOfMilliseconds patientProvider.backoff =
      .ok (Float.ofInt 10000000000000 / 1000.0) := by
    simp [secondsOfMilliseconds, Number.ofInt?, patientProvider, finite]
  have hone : (patientProvider.get.after refusingPool).counts.connect = 1 := by decide +kernel
  have hzero : refusingPool.counts.connect = 0 := rfl
  have hfails : patientProvider.FailsAt refusingPool.toSite 1 := ⟨_, rfl, rfl⟩
  have hlast : patientProvider.LastAttempt refusingPool.toSite 2 :=
    lastAttempt_of_failsAt (by decide) (fun i hpos hi => (show i = 1 by omega) ▸ hfails)
      fun hlt => absurd hlt (by decide)
  refine ⟨⟨_, hdelay⟩, hlast, ⟨_, rfl⟩, ?_, hone⟩
  obtain ⟨n, hdecides, -⟩ | ⟨n, hstalls⟩ :=
    get_cases (p := patientProvider) (q := refusingPool) rfl (by decide) hdelay
  · have hasked := hdecides.asked (.inl rfl)
    cases IsLeast.unique hdecides.last hlast
    omega
  · obtain ⟨f, hoverlong, hout⟩ := hstalls.overlong
    have hasked := hstalls.asked (.inl rfl)
    cases (show n = 1 by omega)
    cases hoverlong with
    | delay hmany => exact absurd (Number.lt_limit (Nat.succ_le_succ (Nat.zero_le 1022))) (by omega)
    | total hlong => exact absurd (by decide +kernel) hlong
    | wait => exact hout

end Provider

end TableDiscovery
