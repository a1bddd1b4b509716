import Mathlib.Order.Bounds.Basic
import Mathlib.Order.Nat
import TableDiscovery.Proofs.Number.Conversion
import TableDiscovery.Proofs.Retry
import TableDiscovery.Retry.Trial

/-!
# What a retry does between its calls

A retry calls its function until a call is not worth another attempt, or no retry is left. Behind
each call but the last one it pauses: it computes a delay, tells the callback and waits.

* `Retry.Policy.wait`: the delays, as the random numbers come;
* `Retry.Trial.LastCall`, `Retry.Trial.eventsBefore`: the calls that are to be made, and what
  happens before each of them;
* `Retry.Trial.At`: how far a trial has gone;
* `Retry.Trial.leads_pause`, `Retry.Trial.leads_attempts`: one pause, and the attempts from one on;
* **`Retry.Trial.run_spec`**: how a run ends;
* **`Retry.Trial.run_completes_iff`**: when all calls are made, whatever the callback does.
-/

namespace TableDiscovery

open Act

/-- Log records. -/
def Event.isLog : Event → Bool
  | .log .. => true
  | _ => false

namespace Retry

/-! ## Delays -/

namespace Policy

variable {p : Policy} {n : Nat} {s : Site}

/-- The site after the delays of the first attempts have been computed, one after the other; each of
them may have taken a random number. -/
def drawn (p : Policy) (s : Site) : Nat → Site
  | 0 => s
  | n + 1 => (delay p n).after (p.drawn s n)

/-- The delay after an attempt, counted from zero. -/
def wait (p : Policy) (s : Site) (n : Nat) : Except Fault Float := (delay p n).outcome (p.drawn s n)

theorem delay_of_error {f : Fault} (h : bareDelay p n = .error f) (s : Site) :
    (delay p n).outcome s = .error f ∧ (delay p n).after s = s := by
  simp only [delay, outcome_bind, after_bind, outcome_ofExcept, after_ofExcept, h, and_self]

/-- What has been recorded makes no difference to a delay. -/
theorem delay_congr (p : Policy) (n : Nat) (s : Site) (es : List Event) :
    (delay p n).outcome { s with trace := es } = (delay p n).outcome s ∧
      (delay p n).after { s with trace := es } = { (delay p n).after s with trace := es } := by
  cases h : bareDelay p n with
  | error f =>
    obtain ⟨hout, hafter⟩ := delay_of_error h s
    obtain ⟨hout', hafter'⟩ := delay_of_error h { s with trace := es }
    rw [hout, hafter, hout', hafter']
    exact ⟨rfl, rfl⟩
  | ok bare =>
    simp only [delay, outcome_bind, after_bind, outcome_ofExcept, after_ofExcept, h]
    split <;> exact ⟨rfl, rfl⟩

/-- There is a delay if there is one before its random part. -/
theorem exists_wait_iff : (∃ d, p.wait s n = .ok d) ↔ ∃ d, bareDelay p n = .ok d := by
  rw [wait]
  cases h : bareDelay p n with
  | error f =>
    rw [(delay_of_error h _).1]
  | ok bare =>
    refine iff_of_true ?_ ⟨bare, rfl⟩
    simp only [delay, outcome_bind, outcome_ofExcept, after_ofExcept, h]
    split <;> exact ⟨_, rfl⟩

theorem not_triesAgain_ok {α : Type} (p : Policy) (a : α) : ¬ p.TriesAgain (.ok a) := by
  rintro ⟨f, ⟨⟩, -⟩

theorem triesAgain_error_iff {α : Type} {f : Fault} :
    p.TriesAgain (.error f : Except Fault α) ↔ f.isFailure = true ∧ p.retries f = true := by
  constructor
  · rintro ⟨g, ⟨⟩, h⟩
    exact h
  · exact fun h => ⟨f, rfl, h⟩

/-- The number of all attempts can be written. -/
def Counts (p : Policy) : Prop := (Text.writeInt? (p.maxRetries + 1)).isNone = false

theorem script_drawn (p : Policy) (s : Site) (n : Nat) : (p.drawn s n).script = s.script := by
  induction n with
  | zero => rfl
  | succ n ih =>
    have haside : (p.drawn s n).Aside ((delay p n).after (p.drawn s n)) :=
      (aside_delay (E := fun _ => True) (fun _ _ => trivial) _ (.refl _)).1
    exact haside.script.trans ih

/-- The first delay needs no power, and neither do delays that do not grow. -/
theorem exists_wait (h : n = 0 ∨ p.growth = 1.0 ∧ n < Number.bound) :
    ∃ d, p.wait s n = .ok d := by
  rw [exists_wait_iff, bareDelay]
  rcases h with rfl | ⟨hgrowth, hn⟩
  · rw [Int.natCast_zero, Number.power_zero]
    exact ⟨_, rfl⟩
  · obtain ⟨x, hx⟩ := Number.exists_ofInt hn
    rw [hgrowth, Number.power_one hx]
    exact ⟨_, rfl⟩

theorem counts_iff (h : 0 ≤ p.maxRetries) :
    p.Counts ↔ p.maxRetries + 1 < ((10 ^ Text.maxDigits : Nat) : Int) := by
  obtain ⟨total, htotal⟩ := Int.eq_ofNat_of_zero_le (Int.le_add_one h)
  rw [Counts, Text.writeInt?, htotal, Int.natAbs_natCast, Int.ofNat_lt]
  -- nothing is to compute the power
  generalize Text.maxDigits = digits
  rw [Nat.pow_eq]
  split
  · exact iff_of_true rfl ‹_›
  · exact iff_of_false nofun ‹_›

end Policy

namespace Trial

/-! ## Calls -/

variable {p : Policy} {t u : Trial} {withCallback : Bool} {name : String} {es : List Event}
  {drawn called answered n : Nat} {R : Fault → Trial → Prop}

/-- How a call of the function ends, the calls counted from zero. -/
def result (t : Trial) (n : Nat) : Except Fault Json := t.outcome (t.calls + n)

/-- The last call: the first one that is not worth another attempt, or else the one after which no
retry is left. -/
def LastCall (t : Trial) (p : Policy) (n : Nat) : Prop :=
  IsLeast {n : Nat | ¬ p.TriesAgain (t.result n) ∨ (n : Int) = p.maxRetries} n

/-- The callback is told of the failure of a call and of the delay after it. -/
def toldEvents (t : Trial) (p : Policy) (withCallback : Bool) (n : Nat) : List Event :=
  match t.result n, p.wait t.toSite n with
  | .error f, .ok d => if withCallback then [.retried (n + 1) f d] else []
  | _, _ => []

/-- What is done between a call and the next one: the callback is told of the failure and the delay,
and the delay is waited unless there is none. -/
def pauseEvents (t : Trial) (p : Policy) (withCallback : Bool) (n : Nat) : List Event :=
  match t.result n, p.wait t.toSite n with
  | .error f, .ok d =>
    (if withCallback then [.retried (n + 1) f d] else []) ++ if 0.0 < d then [.sleep d] else []
  | _, _ => []

/-- The platform can wait for as long as is to be waited after a call. -/
def CanWait (t : Trial) (p : Policy) (n : Nat) : Prop :=
  ∀ d, p.wait t.toSite n = .ok d → 0.0 < d → t.script.refusesWait d = false

/-- The pause after a call can be made: there is a delay, the number of all attempts can be written,
and the delay can be waited. -/
def CanPause (t : Trial) (p : Policy) (n : Nat) : Prop :=
  (∃ d, p.wait t.toSite n = .ok d) ∧ p.Counts ∧ t.CanWait p n

theorem pauseEvents_eq {f : Fault} {d : Float} (hf : t.result n = .error f)
    (hd : p.wait t.toSite n = .ok d) :
    t.pauseEvents p withCallback n =
      t.toldEvents p withCallback n ++ if 0.0 < d then [.sleep d] else [] := by
  rw [pauseEvents, toldEvents, hf, hd]

/-- Calls of the function, each with a pause behind it. -/
def eventsBefore (t : Trial) (p : Policy) (withCallback : Bool) (n : Nat) : List Event :=
  (List.range n).flatMap fun i => .call :: t.pauseEvents p withCallback i

theorem eventsBefore_succ (t : Trial) (p : Policy) (withCallback : Bool) (n : Nat) :
    t.eventsBefore p withCallback (n + 1) =
      t.eventsBefore p withCallback n ++ [.call] ++ t.pauseEvents p withCallback n := by
  simp only [eventsBefore, List.range_succ, List.flatMap_append, List.flatMap_cons,
    List.flatMap_nil, List.append_nil, List.append_assoc, List.singleton_append]

/-- How many calls of the callback go with a number of pauses. -/
def callbacksIn (withCallback : Bool) (pauses : Nat) : Nat := if withCallback then pauses else 0

/-- A trial that has gone on: so many delays have been computed and so many calls made, and but for
log records these are the events. -/
structure At (p : Policy) (t : Trial) (drawn called answered : Nat) (es : List Event) (u : Trial) :
    Prop where
  site : u.toSite = { p.drawn t.toSite drawn with trace := u.trace }
  trace : ∃ fs, u.trace = t.trace ++ fs ∧ fs.filter (!·.isLog) = es
  outcome : u.outcome = t.outcome
  answer : u.answer = t.answer
  calls : u.calls = t.calls + called
  callbacks : u.callbacks = t.callbacks + answered

theorem At.start (p : Policy) (t : Trial) (withCallback : Bool) :
    At p t 0 0 (callbacksIn withCallback 0) (t.eventsBefore p withCallback 0) t where
  site := rfl
  trace := ⟨[], (List.append_nil _).symm, rfl⟩
  outcome := rfl
  answer := rfl
  calls := rfl
  callbacks := by
    rw [callbacksIn, ite_self, Nat.add_zero]

/-- More events. -/
theorem At.append {fs gs : List Event} (h : At p t drawn called answered es u)
    (hfs : fs.filter (!·.isLog) = gs) :
    At p t drawn called answered (es ++ gs) { u with trace := u.trace ++ fs } where
  site := by
    rw [h.site]
  trace := by
    obtain ⟨hs, htrace, hfilter⟩ := h.trace
    refine ⟨hs ++ fs, ?_, by rw [List.filter_append, hfilter, hfs]⟩
    show u.trace ++ fs = _
    rw [htrace, List.append_assoc]
  outcome := h.outcome
  answer := h.answer
  calls := h.calls
  callbacks := h.callbacks

theorem after_liftSite {α : Type} (x : Act Site α) (t : Trial) :
    (liftM x : Act Trial α).after t = { t with toSite := x.after t.toSite } := after_zoom ..

theorem outcome_liftSite {α : Type} (x : Act Site α) (t : Trial) :
    (liftM x : Act Trial α).outcome t = x.outcome t.toSite := outcome_zoom ..

/-- An event is recorded. -/
theorem leads_record {e : Event} (he : e.isLog = false) :
    Leads (At p t drawn called answered es) (fun _ => At p t drawn called answered (es ++ [e])) R
      (liftM (Site.record e) : Act Trial Unit) := by
  intro u hu
  rw [outcome_liftSite, after_liftSite]
  exact ⟨fun _ _ => hu.append (by simp [he]), nofun⟩

/-- A log record is no event that is looked at. -/
theorem leads_log (level : Level) (logger message : String) :
    Leads (At p t drawn called answered es) (fun _ => At p t drawn called answered es) R
      (liftM (Site.log level logger message) : Act Trial Unit) := by
  intro u hu
  rw [outcome_liftSite, after_liftSite, outcome_log]
  refine ⟨fun _ _ => ?_, nofun⟩
  rw [Site.log, after_bind, outcome_get, after_get]
  dsimp only
  split
  · have hlogged : At p t drawn called answered (es ++ [])
        { u with trace := u.trace ++ [.log level.value logger message] } := hu.append rfl
    rwa [List.append_nil] at hlogged
  · exact hu

/-- A call of the function. -/
theorem leads_call :
    Leads (At p t drawn called answered es)
      (fun a u => t.result called = .ok a ∧
        At p t drawn (called + 1) answered (es ++ [.call]) u)
      (fun f u => t.result called = .error f ∧
        At p t drawn (called + 1) answered (es ++ [.call]) u)
      call := by
  refine leads_bind (leads_record rfl) fun _ u hu => ?_
  have hnext : At p t drawn (called + 1) answered (es ++ [.call])
      { u with calls := u.calls + 1 } := { hu with calls := congrArg (· + 1) hu.calls }
  have hresult : u.outcome u.calls = t.result called := by
    rw [hu.outcome, hu.calls, result]
  simp only [outcome_bind, after_bind, outcome_get, after_get, outcome_set, after_set,
    outcome_ofExcept, after_ofExcept, hresult]
  exact ⟨fun a ha => ⟨ha, hnext⟩, fun f hf => ⟨hf, hnext⟩⟩

/-- A call of the callback, whose failures are no interrupts. -/
theorem leads_callback (h : ∀ n f, t.answer n = some f → f.isFailure = true) (attempt : Nat)
    (f : Fault) (delay : Float) :
    Leads (At p t drawn called answered es)
      (fun _ => At p t drawn called (answered + 1) (es ++ [.retried attempt f delay]))
      (fun g u => g.isFailure = true ∧
        At p t drawn called (answered + 1) (es ++ [.retried attempt f delay]) u)
      (callback attempt f delay) := by
  refine leads_bind (leads_record rfl) fun _ u hu => ?_
  have hnext : At p t drawn called (answered + 1) (es ++ [.retried attempt f delay])
      { u with callbacks := u.callbacks + 1 } :=
    { hu with callbacks := congrArg (· + 1) hu.callbacks }
  simp only [outcome_bind, after_bind, outcome_get, after_get, outcome_set, after_set]
  rw [← hu.answer] at h
  cases hanswer : u.answer u.callbacks with
  | none => exact ⟨fun _ _ => hnext, nofun⟩
  | some g => exact ⟨nofun, fun _ hg => by cases hg; exact ⟨h _ _ hanswer, hnext⟩⟩

/-- A delay is computed. -/
theorem leads_delay :
    Leads (At p t n called answered es)
      (fun d u => p.wait t.toSite n = .ok d ∧ At p t (n + 1) called answered es u)
      (fun f u => p.wait t.toSite n = .error f ∧ At p t (n + 1) called answered es u)
      (liftM (delay p n) : Act Trial Float) := by
  intro u hu
  rw [outcome_liftSite, after_liftSite]
  obtain ⟨hwait, hafter⟩ := p.delay_congr n (p.drawn t.toSite n) u.trace
  rw [← hu.site] at hwait hafter
  have hnext : At p t (n + 1) called answered es
      { u with toSite := (delay p n).after u.toSite } :=
    { hu with
      site := by
        rw [hafter]
        rfl
      trace := by
        rw [hafter]
        exact hu.trace }
  exact ⟨fun _ hd => ⟨hwait.symm.trans hd, hnext⟩, fun _ hf => ⟨hwait.symm.trans hf, hnext⟩⟩

/-- The number of all attempts is written. -/
theorem leads_totalText {P : Trial → Prop} :
    Leads P (fun _ u => p.Counts ∧ P u) (fun f u => (¬ p.Counts ∧ f = .tooManyDigits) ∧ P u)
      (totalText p : Act Trial String) := by
  unfold totalText Policy.Counts
  generalize Text.writeInt? (p.maxRetries + 1) = text
  cases text with
  | some text => exact leads_pure fun u hu => ⟨rfl, hu⟩
  | none => exact leads_throw fun u hu => ⟨⟨nofun, rfl⟩, hu⟩

/-- A delay is waited unless there is none or the platform refuses to. -/
theorem leads_sleep (d : Float) :
    Leads (At p t drawn called answered es)
      (fun _ u => (0.0 < d → t.script.refusesWait d = false) ∧
        At p t drawn called answered (es ++ if 0.0 < d then [.sleep d] else []) u)
      (fun f u => (0.0 < d ∧ t.script.refusesWait d = true ∧ f = .waitTooLong) ∧
        At p t drawn called answered es u)
      (if 0.0 < d then liftM (Site.sleep d) else pure () : Act Trial Unit) := by
  split
  · rename_i hpos
    intro u hu
    have hscript : u.script = t.script := by
      rw [hu.site]
      exact p.script_drawn t.toSite drawn
    obtain ⟨hout, hafter⟩ := sleep_views d u.toSite
    rw [outcome_liftSite, after_liftSite, hout, hafter, ← hscript]
    cases u.script.refusesWait d with
    | true => exact ⟨nofun, fun f hf => ⟨⟨hpos, rfl, by cases hf; rfl⟩, hu⟩⟩
    | false => exact ⟨fun _ _ => ⟨fun _ => rfl, hu.append rfl⟩, nofun⟩
  · rename_i hno
    rw [List.append_nil]
    exact leads_pure fun _ h => ⟨fun hpos => (hno hpos).elim, h⟩

/-- How a run ends with a pause that cannot be made. The callback is told if it is only the wait
that cannot be made. -/
inductive Stops (t : Trial) (p : Policy) (withCallback : Bool) (n : Nat) : Fault → Trial → Prop
  | delay {f : Fault} {u : Trial} : p.wait t.toSite n = .error f →
    At p t (n + 1) (n + 1) (callbacksIn withCallback n) (t.eventsBefore p withCallback n ++ [.call])
      u → Stops t p withCallback n f u
  | total {u : Trial} : ¬ p.Counts →
    At p t (n + 1) (n + 1) (callbacksIn withCallback n) (t.eventsBefore p withCallback n ++ [.call])
      u → Stops t p withCallback n .tooManyDigits u
  | wait {d : Float} {u : Trial} : p.wait t.toSite n = .ok d → 0.0 < d →
    t.script.refusesWait d = true → p.Counts →
    At p t (n + 1) (n + 1) (callbacksIn withCallback (n + 1))
      (t.eventsBefore p withCallback n ++ [.call] ++ t.toldEvents p withCallback n) u →
    Stops t p withCallback n .waitTooLong u

theorem Stops.calls {f : Fault} (h : t.Stops p withCallback n f u) :
    u.calls = t.calls + (n + 1) := by
  cases h with
  | delay _ hu | total _ hu | wait _ _ _ _ hu => exact hu.calls

theorem Stops.not_canPause {f : Fault} (h : t.Stops p withCallback n f u) : ¬ t.CanPause p n := by
  rintro ⟨⟨d, hd⟩, hcounts, hwait⟩
  cases h with
  | delay hf => cases hd.symm.trans hf
  | total hno => exact hno hcounts
  | wait hd' hpos hrefused => cases (hwait _ hd' hpos).symm.trans hrefused

/-- The pause after a call that has failed. -/
theorem leads_pause {f : Fault}
    (h : withCallback = true → ∀ n f, t.answer n = some f → f.isFailure = true)
    (hf : t.result n = .error f) :
    Leads (At p t n (n + 1) (callbacksIn withCallback n)
        (t.eventsBefore p withCallback n ++ [.call]))
      (fun _ u => t.CanPause p n ∧
        At p t (n + 1) (n + 1) (callbacksIn withCallback (n + 1))
          (t.eventsBefore p withCallback (n + 1)) u)
      (t.Stops p withCallback n)
      (pause name p (if withCallback then some callback else none) n f) := by
  unfold pause
  refine leads_bind (leads_delay.widen (fun _ _ h => h) fun g u hg => .delay hg.1 hg.2) fun d =>
    leads_of_fact fun hd => ?_
  refine leads_bind (leads_totalText.widen (fun _ _ h => h) fun g u hg => ?_) fun total =>
    leads_of_fact fun hcounts => ?_
  · rw [hg.1.2]
    exact .total hg.1.1 hg.2
  refine leads_bind (leads_log _ _ _) fun _ => ?_
  have hsleep : Leads (At p t (n + 1) (n + 1) (callbacksIn withCallback (n + 1))
        (t.eventsBefore p withCallback n ++ [.call] ++ t.toldEvents p withCallback n))
      (fun _ u => t.CanPause p n ∧
        At p t (n + 1) (n + 1) (callbacksIn withCallback (n + 1))
          (t.eventsBefore p withCallback (n + 1)) u)
      (t.Stops p withCallback n)
      (if 0.0 < d then liftM (Site.sleep d) else pure () : Act Trial Unit) := by
    refine (leads_sleep d).widen (fun _ u hu => ⟨⟨⟨d, hd⟩, hcounts, fun d' hd' => ?_⟩, ?_⟩)
      fun g u hg => ?_
    · cases hd.symm.trans hd'
      exact hu.1
    · rw [eventsBefore_succ, pauseEvents_eq hf hd, ← List.append_assoc]
      exact hu.2
    · obtain ⟨⟨hpos, hrefused, rfl⟩, hu⟩ := hg
      exact .wait hd hpos hrefused hcounts hu
  rw [toldEvents, hf, hd] at hsleep
  dsimp only at hsleep
  cases withCallback with
  | false =>
    rw [if_neg Bool.false_ne_true, List.append_nil] at hsleep
    exact hsleep
  | true =>
    refine leads_attempt_bind (leads_callback (h rfl) _ _ _) (fun _ => hsleep)
      fun g => leads_of_fact fun hg => ?_
    refine leads_ite (fun _ => ?_) fun hno => (hno hg).elim
    exact leads_bind (leads_log _ _ _) fun _ => hsleep

/-! ## Runs -/

/-- How a run ends: with its last call, if all the pauses before it can be made, or else with the
first pause that cannot be made. -/
inductive Ended (p : Policy) (t : Trial) (withCallback : Bool) :
    Except Fault Json → Trial → Prop
  | decided {k : Nat} {u : Trial} : t.LastCall p k → (∀ i < k, t.CanPause p i) →
    At p t k (k + 1) (callbacksIn withCallback k) (t.eventsBefore p withCallback k ++ [.call]) u →
    Ended p t withCallback (t.result k) u
  | stuck {i : Nat} {f : Fault} {u : Trial} : (∀ k, t.LastCall p k → i < k) →
    (∀ j < i, t.CanPause p j) → t.Stops p withCallback i f u → Ended p t withCallback (.error f) u

theorem lastCall_of_decides {k : Nat} (hbefore : ∀ i < k, p.TriesAgain (t.result i))
    (hk : (k : Int) ≤ p.maxRetries)
    (hlast : (k : Int) < p.maxRetries → ¬ p.TriesAgain (t.result k)) : t.LastCall p k := by
  constructor
  · rcases Int.lt_or_eq_of_le hk with hlt | heq
    · exact .inl (hlast hlt)
    · exact .inr heq
  · refine fun m hm => Nat.le_of_not_lt fun hmk => ?_
    rcases hm with hm | hm
    · exact hm (hbefore m hmk)
    · omega

/-- No more calls are tried again than there are retries. -/
theorem LastCall.le {k : Nat} (hk : t.LastCall p k) (h : 0 ≤ p.maxRetries) :
    (k : Int) ≤ p.maxRetries := by
  have hle : k ≤ p.maxRetries.toNat := hk.2 (.inr (Int.toNat_of_nonneg h))
  omega

theorem exists_lastCall (t : Trial) (h : 0 ≤ p.maxRetries) : ∃ k, t.LastCall p k := by
  classical
  have hlast : ∃ n : Nat, ¬ p.TriesAgain (t.result n) ∨ (n : Int) = p.maxRetries :=
    ⟨p.maxRetries.toNat, .inr (Int.toNat_of_nonneg h)⟩
  exact ⟨Nat.find hlast, Nat.isLeast_find hlast⟩

/-- The attempts from one on end as the calls before them and after them say. The induction is on
the attempts that are left. -/
theorem leads_attempts
    (h : withCallback = true → ∀ n f, t.answer n = some f → f.isFailure = true) {left : Nat}
    (hleft : 0 < left) (hn : (n : Int) + left = p.maxRetries + 1)
    (hbefore : ∀ i < n, p.TriesAgain (t.result i)) (hpauses : ∀ i < n, t.CanPause p i) :
    Leads (At p t n n (callbacksIn withCallback n) (t.eventsBefore p withCallback n))
      (fun a => Ended p t withCallback (.ok a)) (fun f => Ended p t withCallback (.error f))
      (attempts name p (if withCallback then some callback else none) call left n) := by
  induction left generalizing n with
  | zero => cases hleft
  | succ left ih =>
    have hdecided {r : Except Fault Json} (hr : t.result n = r)
        (hlast : left ≠ 0 → ¬ p.TriesAgain r) {u : Trial}
        (hu : At p t n (n + 1) (callbacksIn withCallback n)
          (t.eventsBefore p withCallback n ++ [.call]) u) : Ended p t withCallback r u := by
      subst hr
      exact .decided (lastCall_of_decides hbefore (by omega) fun hlt => hlast (by omega)) hpauses hu
    unfold attempts
    refine leads_attempt_bind leads_call (fun a => ?_) fun f => leads_of_fact fun hf => ?_
    · exact leads_pure fun u hu => hdecided hu.1 (fun _ => p.not_triesAgain_ok a) hu.2
    dsimp only
    refine leads_ite (fun hinterrupt => ?_) fun hfailure => ?_
    · refine leads_throw fun u => hdecided hf fun _ hagain => ?_
      rw [(Policy.triesAgain_error_iff.mp hagain).1] at hinterrupt
      cases hinterrupt
    refine leads_ite (fun hfatal => ?_) fun hretries => ?_
    · refine leads_bind (leads_log _ _ _) fun _ => leads_throw fun u =>
        hdecided hf fun _ hagain => ?_
      rw [(Policy.triesAgain_error_iff.mp hagain).2] at hfatal
      cases hfatal
    refine leads_ite (fun hnone => ?_) fun hsome => ?_
    · exact leads_bind (leads_log _ _ _) fun _ => leads_throw fun u =>
        hdecided hf fun hsome => (hsome hnone).elim
    have hagain : ∀ i < n + 1, p.TriesAgain (t.result i) := by
      intro i hi
      rcases Nat.lt_succ_iff_lt_or_eq.mp hi with hi | rfl
      · exact hbefore i hi
      · rw [hf]
        exact Policy.triesAgain_error_iff.mpr ⟨by simpa using hfailure, by simpa using hretries⟩
    refine leads_bind ((leads_pause h hf).widen (fun _ _ h => h) fun g u hg => ?_)
      fun _ => leads_of_fact fun hpause => ?_
    · refine .stuck (fun k hk => Nat.lt_of_not_le fun hkn => ?_) hpauses hg
      rcases hk.1 with hk | hk
      · exact hk (hagain k (by omega))
      · omega
    · refine ih (Nat.pos_of_ne_zero hsome) (by omega) hagain fun i hi => ?_
      rcases Nat.lt_succ_iff_lt_or_eq.mp hi with hi | rfl
      · exact hpauses i hi
      · exact hpause

/-- **Runs end with their last call, or with a pause before it that cannot be made.** -/
theorem run_spec (name : String) (t : Trial) (hretries : 0 ≤ p.maxRetries)
    (h : withCallback = true → ∀ n f, t.answer n = some f → f.isFailure = true) :
    Ended p t withCallback ((run name p withCallback).outcome t)
      ((run name p withCallback).after t) := by
  have hleft : 0 < (p.maxRetries + 1).toNat := by omega
  have hcount : ((0 : Nat) : Int) + (p.maxRetries + 1).toNat = p.maxRetries + 1 := by omega
  obtain ⟨hok, herror⟩ : _ ∧ ∀ f, (run name p withCallback).outcome t = .error f → _ :=
    leads_attempts h hleft hcount nofun nofun t (.start p t withCallback)
  cases hrun : (run name p withCallback).outcome t with
  | ok a => exact hok a hrun
  | error f => exact herror f hrun

/-- The run calls the function up to its call `k` and ends as that one does. Between two calls it
pauses, and apart from the random numbers for the delays nothing else is done. -/
structure Completes (p : Policy) (t : Trial) (withCallback : Bool) (k : Nat)
    (r : Except Fault Json) (u : Trial) : Prop where
  result : r = t.result k
  reached : At p t k (k + 1) (callbacksIn withCallback k)
    (t.eventsBefore p withCallback k ++ [.call]) u

section Ended

variable {r : Except Fault Json} {k : Nat}

/-- All calls are made if all pauses can be made. -/
theorem Ended.completes_iff (h : Ended p t withCallback r u) (hk : t.LastCall p k) :
    t.Completes p withCallback k r u ↔ ∀ i < k, t.CanPause p i := by
  cases h with
  | decided hk' hpauses hu =>
    cases IsLeast.unique hk hk'
    exact iff_of_true ⟨rfl, hu⟩ hpauses
  | stuck hi _ hstops =>
    refine iff_of_false (fun hcompletes => ?_) fun hpauses =>
      hstops.not_canPause (hpauses _ (hi k hk))
    have hcalls := hcompletes.reached.calls.symm.trans hstops.calls
    have hlt := hi k hk
    omega

/-- The first pause that cannot be made ends the run. -/
theorem Ended.stuck_first (h : Ended p t withCallback r u) (hk : t.LastCall p k) {i : Nat}
    (hi : i < k) (hbefore : ∀ j < i, t.CanPause p j) (hno : ¬ t.CanPause p i) :
    ∃ f, r = .error f ∧ t.Stops p withCallback i f u := by
  cases h with
  | decided hk' hpauses hu =>
    cases IsLeast.unique hk hk'
    exact (hno (hpauses i hi)).elim
  | @stuck j g u hj hpauses hstops =>
    rcases Nat.lt_trichotomy i j with hij | rfl | hij
    · exact (hno (hpauses i hij)).elim
    · exact ⟨g, rfl, hstops⟩
    · exact (hstops.not_canPause (hbefore j hij)).elim

/-- A number of attempts that cannot be written ends the run at its first pause. -/
theorem Ended.total_first (h : Ended p t withCallback r u) (hk : t.LastCall p k) (hpos : 0 < k)
    (hwait : ∃ d, p.wait t.toSite 0 = .ok d) (hcounts : ¬ p.Counts) :
    r = .error .tooManyDigits ∧ At p t 1 1 0 [.call] u := by
  obtain ⟨d, hd⟩ := hwait
  obtain ⟨f, hr, hstops⟩ := h.stuck_first hk hpos nofun fun hpause => hcounts hpause.2.1
  cases hstops with
  | delay hf => cases hd.symm.trans hf
  | total _ hu =>
    rw [callbacksIn, ite_self] at hu
    exact ⟨hr, hu⟩
  | wait _ _ _ hcounts' => exact (hcounts hcounts').elim

/-- The first delay for which the platform cannot wait ends the run, after the callback has been
told. -/
theorem Ended.wait_first (h : Ended p t withCallback r u) (hk : t.LastCall p k) {i : Nat}
    (hi : i < k) (hbefore : ∀ j < i, t.CanPause p j) (hcounts : p.Counts) {d : Float}
    (hd : p.wait t.toSite i = .ok d) (hpos : 0.0 < d) (hrefused : t.script.refusesWait d = true) :
    r = .error .waitTooLong ∧ At p t (i + 1) (i + 1) (callbacksIn withCallback (i + 1))
      (t.eventsBefore p withCallback i ++ [.call] ++ t.toldEvents p withCallback i) u := by
  have hno : ¬ t.CanPause p i := fun hpause => by
    cases (hpause.2.2 d hd hpos).symm.trans hrefused
  obtain ⟨f, hr, hstops⟩ := h.stuck_first hk hi hbefore hno
  cases hstops with
  | delay hf => cases hd.symm.trans hf
  | total hno => exact (hno hcounts).elim
  | wait _ _ _ _ hu => exact ⟨hr, hu⟩

/-- The first delay that there is not ends the run. -/
theorem Ended.delay_first (h : Ended p t withCallback r u) (hk : t.LastCall p k) {i : Nat}
    (hi : i < k) (hbefore : ∀ j < i, t.CanPause p j) (hcounts : p.Counts) {f : Fault}
    (hf : p.wait t.toSite i = .error f) :
    r = .error f ∧ At p t (i + 1) (i + 1) (callbacksIn withCallback i)
      (t.eventsBefore p withCallback i ++ [.call]) u := by
  have hno : ¬ t.CanPause p i := fun ⟨⟨d, hd⟩, _⟩ => by cases hd.symm.trans hf
  obtain ⟨g, hr, hstops⟩ := h.stuck_first hk hi hbefore hno
  cases hstops with
  | delay hg hu =>
    cases hf.symm.trans hg
    exact ⟨hr, hu⟩
  | total hno => exact (hno hcounts).elim
  | wait hd => cases hf.symm.trans hd

end Ended

/-! ## Callbacks -/

theorem maxDigits_lt : Text.maxDigits < 10 ^ Text.maxDigits := Nat.lt_pow_self (by decide)

/-- A function that fails twice before it returns, and a callback that always fails. -/
def stumbling : Trial where
  outcome n := if n < 2 then .error (.raised .connection (some "refused")) else .ok (.int 5)
  answer _ := some .callbackFailed

theorem canWait_of_all
    (h : (p.wait t.toSite n).toOption.all (fun d => !t.script.refusesWait d) = true) :
    t.CanWait p n := by
  intro d hd _
  rw [hd] at h
  have h : (!t.script.refusesWait d) = true := h
  simpa using h

theorem lastCall_stumbling (h : 2 ≤ p.maxRetries) (hkinds : p.kinds = []) :
    stumbling.LastCall p 2 := by
  have hretries (f : Fault) : p.retries f = true := by
    rw [Policy.retries, hkinds]
    rfl
  exact lastCall_of_decides
    (fun
      | 0, _ => ⟨_, rfl, rfl, hretries _⟩
      | 1, _ => ⟨_, rfl, rfl, hretries _⟩)
    h fun _ => Policy.not_triesAgain_ok _ _

end Trial

end Retry

end TableDiscovery
