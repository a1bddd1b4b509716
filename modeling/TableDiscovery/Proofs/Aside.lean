import TableDiscovery.Proofs.Act
import TableDiscovery.Retry
import TableDiscovery.Tracing.Basic

/-!
# Actions on the side

Logging, tracing, reading the clock and drawing random numbers happen beside what the connector is
about. They touch neither the database nor the host. A retry only does such things between its
attempts.

* `Event.isAside`: the events of logging, tracing and pausing;
* `Site.Aside`: between two sites there are only such events;
* `meets_of_aside`: what holds of a site still holds after an action on the side;
* `sleep_views`, `block_views`: waits, which may be refused;
* `aside_log`, `aside_enter`, `aside_closeSpan` and the like: these actions;
* `Tracing.untold?`, `enter_views`: why a span cannot have attributes, and how it is entered;
* `Retry.Policy.hindrance?`, `Retry.Policy.Stuck`: why a pause between two attempts cannot be made;
* `leads_pause_aside`, `aside_pause`: the pause;
* **`leads_attempts`**: a retry leads where its attempts lead.
-/

namespace TableDiscovery

open Act

/-- The events of logging, tracing and pausing. -/
def Event.isAside : Event → Bool
  | .log .. | .sleep _ | .getTracer _ | .exported .. => true
  | _ => false

/-- Between the sites there are only events on the side; clock and random numbers may have been
asked. -/
structure Site.Aside (s t : Site) : Prop where
  script : t.script = s.script
  opened : t.opened = s.opened
  closed : t.closed = s.closed
  counts : t.counts = { s.counts with clock := t.counts.clock, random := t.counts.random }
  trace : ∃ es, t.trace = s.trace ++ es ∧ ∀ e ∈ es, e.isAside = true

namespace Site.Aside

variable {s t u : Site}

theorem refl (s : Site) : s.Aside s := ⟨rfl, rfl, rfl, rfl, [], by simp, nofun⟩

theorem trans (h : s.Aside t) (h' : t.Aside u) : s.Aside u where
  script := h'.script.trans h.script
  opened := h'.opened.trans h.opened
  closed := h'.closed.trans h.closed
  counts := by rw [h'.counts, h.counts]
  trace := by
    obtain ⟨es, hes, haside⟩ := h.trace
    obtain ⟨fs, hfs, haside'⟩ := h'.trace
    refine ⟨es ++ fs, by rw [hfs, hes, List.append_assoc], fun e he => ?_⟩
    exact (List.mem_append.mp he).elim (haside e) (haside' e)

end Site.Aside

variable {α : Type} {s₀ : Site} {E : Fault → Prop}

/-- What holds of a site still holds after an action on the side. -/
theorem meets_of_aside {I : Site → Prop} {x : Act Site α}
    (hI : ∀ s t : Site, I s → s.Aside t → I t) (hx : ∀ s : Site, Meets s.Aside E x) :
    Meets I E x := by
  intro s hs
  obtain ⟨h₁, h₂⟩ := hx s s (.refl s)
  exact ⟨hI s _ hs h₁, h₂⟩

theorem aside_record {e : Event} (he : e.isAside = true) :
    Meets s₀.Aside E (Site.record e) :=
  meets_modify fun _ hs => hs.trans ⟨rfl, rfl, rfl, rfl, [e], rfl, by simpa using he⟩

theorem aside_log {level : Level} {logger message : String} :
    Meets s₀.Aside E (Site.log level logger message) :=
  meets_get_bind fun _ _ => meets_ite (fun _ => aside_record rfl) fun _ => meets_pure _

theorem aside_after_log (level : Level) (logger message : String) (s : Site) :
    s.Aside ((Site.log level logger message).after s) :=
  (aside_log (E := fun _ => True) s (.refl s)).1

theorem aside_now : Meets s₀.Aside E Site.now :=
  meets_get_bind fun _ hs =>
    meets_bind (meets_set (hs.trans ⟨rfl, rfl, rfl, rfl, [], by simp, nofun⟩)) fun _ => meets_pure _

theorem aside_random : Meets s₀.Aside E Site.random :=
  meets_get_bind fun _ hs =>
    meets_bind (meets_set (hs.trans ⟨rfl, rfl, rfl, rfl, [], by simp, nofun⟩)) fun _ => meets_pure _

/-! ## Waits -/

/-- A wait that is refused changes nothing. -/
theorem checkWait_views (seconds : Float) (s : Site) :
    (Site.checkWait seconds).outcome s =
        (if s.script.refusesWait seconds then .error .waitTooLong else .ok ()) ∧
      (Site.checkWait seconds).after s = s := by
  rw [Site.checkWait, outcome_bind, after_bind]
  simp only [outcome_get, after_get]
  split <;> exact ⟨rfl, rfl⟩

theorem sleep_views (seconds : Float) (s : Site) :
    (Site.sleep seconds).outcome s =
        (if s.script.refusesWait seconds then .error .waitTooLong else .ok ()) ∧
      (Site.sleep seconds).after s =
        if s.script.refusesWait seconds then s
        else { s with trace := s.trace ++ [.sleep seconds] } := by
  obtain ⟨hout, hafter⟩ := checkWait_views seconds s
  rw [Site.sleep, outcome_bind, after_bind, hout, hafter]
  cases s.script.refusesWait seconds <;> exact ⟨rfl, rfl⟩

theorem block_views (ready : Bool) (seconds : Float) (s : Site) :
    (Site.block ready seconds).outcome s =
        (if !ready && s.script.refusesWait seconds then .error .waitTooLong else .ok ()) ∧
      (Site.block ready seconds).after s =
        if !ready && s.script.refusesWait seconds then s
        else { s with trace := s.trace ++ [.wait seconds] } := by
  cases ready with
  | true => exact ⟨rfl, rfl⟩
  | false =>
    obtain ⟨hout, hafter⟩ := checkWait_views seconds s
    rw [Site.block]
    simp only [Bool.not_false, if_true, Bool.true_and]
    rw [outcome_bind, after_bind, hout, hafter]
    cases s.script.refusesWait seconds <;> exact ⟨rfl, rfl⟩

/-! ## Tracing -/

theorem aside_change {g : Tracing → Tracing} : Meets s₀.Aside E (Tracing.change g) :=
  meets_modify fun _ hs => hs.trans ⟨rfl, rfl, rfl, rfl, [], by simp, nofun⟩

theorem aside_getTracer : Meets s₀.Aside E Tracing.getTracer :=
  meets_get_bind fun _ _ => meets_ite (fun _ => meets_get_bind fun _ _ =>
    meets_ite (fun _ => aside_record rfl) fun _ => meets_pure _) fun _ => meets_pure _

theorem aside_changeCurrent {g : Span → Span} : Meets s₀.Aside E (Tracing.changeCurrent g) := by
  unfold Tracing.changeCurrent
  exact aside_change

theorem aside_openSpan {name : String} {kind : Span.Kind} :
    Meets s₀.Aside E (Tracing.openSpan name kind) :=
  meets_bind aside_getTracer fun _ => aside_change

theorem aside_closeSpan {leave : Span → Span} :
    Meets s₀.Aside E (Tracing.closeSpan leave) := by
  refine meets_get_bind fun s _ => ?_
  dsimp only
  split
  · exact meets_pure _
  · refine meets_ite (fun _ => meets_bind aside_change fun _ => ?_) fun _ => aside_change
    exact meets_forM fun _ => aside_record rfl

/-- Why a span cannot have attributes: their names are not allowed, or a value has no text. -/
def Tracing.untold? (room : Nat) (attributes : List (String × Json)) : Option Fault :=
  match Tracing.checkNames attributes with
  | .ok _ => (Tracing.texts room attributes).2
  | .error f => some f

/-- Entering a span fails exactly if it cannot have these attributes. -/
theorem leads_enter (name : String) (kind : Span.Kind) (attributes : List (String × Json))
    (s : Site) :
    Leads (· = s)
      (fun _ t => Tracing.untold? s.script.room attributes = none ∧ s.Aside t)
      (fun f t => Tracing.untold? s.script.room attributes = some f ∧ s.Aside t)
      (Tracing.enter name kind attributes) := by
  unfold Tracing.enter Tracing.untold?
  cases Tracing.checkNames attributes with
  | error f =>
    exact leads_bind (Q := fun _ _ => False) (leads_throw fun t ht => ⟨rfl, ht ▸ .refl s⟩)
      fun _ _ h => h.elim
  | ok _ =>
    refine leads_bind (leads_pure (Q := fun _ => s.Aside) fun t ht => ht ▸ .refl s) fun _ => ?_
    refine leads_bind (leads_of_returns aside_openSpan) fun _ => leads_get_bind fun t ht => ?_
    refine (leads_bind (leads_of_returns aside_changeCurrent) fun _ => ?_).here ht
    rw [ht.script]
    cases htexts : (Tracing.texts s.script.room attributes).2 with
    | none => exact leads_pure fun u hu => ⟨rfl, hu⟩
    | some f =>
      exact leads_bind (leads_of_returns aside_closeSpan) fun _ => leads_throw fun u hu => ⟨rfl, hu⟩

theorem enter_views (name : String) (kind : Span.Kind) (attributes : List (String × Json))
    (s : Site) :
    (Tracing.enter name kind attributes).outcome s =
        (Tracing.untold? s.script.room attributes).elim (.ok ()) .error ∧
      s.Aside ((Tracing.enter name kind attributes).after s) := by
  obtain ⟨hok, herror⟩ := leads_enter name kind attributes s s rfl
  cases hout : (Tracing.enter name kind attributes).outcome s with
  | ok a => exact ⟨by rw [(hok a hout).1]; rfl, (hok a hout).2⟩
  | error f => exact ⟨by rw [(herror f hout).1]; rfl, (herror f hout).2⟩

theorem aside_enter {name : String} {kind : Span.Kind} {attributes : List (String × Json)} :
    Meets s₀.Aside (fun f => Tracing.untold? s₀.script.room attributes = some f)
      (Tracing.enter name kind attributes) := by
  intro s hs
  obtain ⟨hok, herror⟩ := leads_enter name kind attributes s s rfl
  rw [hs.script] at herror
  exact ⟨hs.trans (enter_views name kind attributes s).2, fun f hf => (herror f hf).1⟩

theorem aside_setAttribute {key : String} {value : Json} :
    Meets s₀.Aside E (Tracing.setAttribute key value) := aside_changeCurrent

theorem aside_addAttributes {attributes : List (String × Json)} :
    Meets s₀.Aside (fun f => (Tracing.texts s₀.script.room attributes).2 = some f)
      (Tracing.addAttributes attributes) := by
  refine meets_get_bind fun s hs => meets_ite (fun _ => ?_) fun _ => meets_pure _
  exact meets_bind aside_changeCurrent fun _ => meets_failWith fun f hf => hs.script ▸ hf

/-! ## Retrying -/

section Retry

variable {name : String} {p : Retry.Policy}

/-- Why a pause cannot be made: there is no delay, the number of all attempts cannot be written, or
the platform cannot wait for so long. -/
def Retry.Policy.hindrance? (p : Retry.Policy) (c : Script) : Except Fault Float → Option Fault
  | .error f => some f
  | .ok d =>
    if (Text.writeInt? (p.maxRetries + 1)).isNone then some .tooManyDigits
    else if 0.0 < d ∧ c.refusesWait d = true then some .waitTooLong
    else none

/-- The pause after an attempt, counted from zero, can be made with some random numbers. -/
def Retry.Policy.Pauses (p : Retry.Policy) (c : Script) (attempt : Nat) : Prop :=
  ∃ s : Site, s.script = c ∧ p.hindrance? c ((Retry.delay p attempt).outcome s) = none

/-- The pause after an attempt, counted from zero, cannot be made with some random numbers. -/
def Retry.Policy.Stuck (p : Retry.Policy) (c : Script) (attempt : Nat) (f : Fault) : Prop :=
  ∃ s : Site, s.script = c ∧ p.hindrance? c ((Retry.delay p attempt).outcome s) = some f

section Hindrance

variable {c : Script} {d : Float} (hcounts : (Text.writeInt? (p.maxRetries + 1)).isNone = false)

theorem Retry.Policy.hindrance_of_uncounted (h : (Text.writeInt? (p.maxRetries + 1)).isNone = true)
    (c : Script) (d : Float) : p.hindrance? c (.ok d) = some .tooManyDigits := by
  rw [hindrance?, if_pos h]

include hcounts

theorem Retry.Policy.hindrance_of_refused (hpos : 0.0 < d) (h : c.refusesWait d = true) :
    p.hindrance? c (.ok d) = some .waitTooLong := by
  rw [hindrance?, hcounts, if_neg Bool.false_ne_true, if_pos ⟨hpos, h⟩]

theorem Retry.Policy.hindrance_of_accepted (h : 0.0 < d → c.refusesWait d = false) :
    p.hindrance? c (.ok d) = none := by
  rw [hindrance?, hcounts, if_neg Bool.false_ne_true, if_neg]
  rintro ⟨hpos, hrefused⟩
  cases (h hpos).symm.trans hrefused

end Hindrance

theorem Retry.power_of_bareDelay {attempt : Int} {f : Fault}
    (h : Retry.bareDelay p attempt = .error f) :
    ∃ cause, Number.power p.growth attempt = .error cause ∧ f = .power cause := by
  unfold Retry.bareDelay at h
  split at h
  · cases h
  · rename_i cause hcause
    cases h
    exact ⟨cause, hcause, rfl⟩

theorem aside_delay {attempt : Int} (hE : ∀ f, Retry.bareDelay p attempt = .error f → E f) :
    Meets s₀.Aside E (Retry.delay p attempt) :=
  meets_bind (meets_ofExcept hE) fun _ => meets_ite
    (fun _ => meets_bind aside_random fun _ => meets_pure _) fun _ => meets_pure _

/-- Without a random part a delay is the bare one, if that is not negative. -/
theorem Retry.outcome_delay (h : p.jitter = false) (attempt : Int) (s : Site) :
    (Retry.delay p attempt).outcome s = (Retry.bareDelay p attempt).map (Retry.greatest 0.0) := by
  rw [Retry.delay, outcome_bind, outcome_ofExcept]
  cases Retry.bareDelay p attempt with
  | error f => rfl
  | ok bare =>
    dsimp only
    rw [h, Bool.false_and, if_neg Bool.false_ne_true]
    rfl

/-- A delay fails only if its power has no value. -/
theorem Retry.power_of_delay {attempt : Int} {s : Site} {f : Fault}
    (h : (Retry.delay p attempt).outcome s = .error f) : ∃ cause, f = .power cause := by
  have hdelay : Meets s.Aside (fun f => ∃ cause, f = .power cause) (Retry.delay p attempt) :=
    aside_delay fun f hf => by
      obtain ⟨cause, -, rfl⟩ := Retry.power_of_bareDelay hf
      exact ⟨cause, rfl⟩
  exact (hdelay s (.refl s)).2 f h

/-- The platform sleeps unless it refuses to. -/
theorem leads_sleep_aside (d : Float) :
    Leads s₀.Aside (fun _ t => s₀.script.refusesWait d = false ∧ s₀.Aside t)
      (fun f t => (s₀.script.refusesWait d = true ∧ f = .waitTooLong) ∧ s₀.Aside t)
      (Site.sleep d) := by
  intro s hs
  obtain ⟨hout, hafter⟩ := sleep_views d s
  rw [hout, hafter, ← hs.script]
  cases s.script.refusesWait d with
  | true => exact ⟨nofun, fun f hf => ⟨⟨rfl, by cases hf; rfl⟩, hs⟩⟩
  | false =>
    have haside : s.Aside { s with trace := s.trace ++ [.sleep d] } :=
      ⟨rfl, rfl, rfl, rfl, [.sleep d], rfl, fun e he => List.mem_singleton.mp he ▸ rfl⟩
    exact ⟨fun _ _ => ⟨rfl, hs.trans haside⟩, nofun⟩

/-- Without a callback, a pause only logs, waits and asks for random numbers. It is made unless
something is in its way. -/
theorem leads_pause_aside (name : String) (attempt : Nat) (f : Fault) (s : Site) :
    Leads (· = s)
      (fun _ t => p.hindrance? s.script ((Retry.delay p attempt).outcome s) = none ∧ s.Aside t)
      (fun g t => p.hindrance? s.script ((Retry.delay p attempt).outcome s) = some g ∧ s.Aside t)
      (Retry.pause name p none attempt f) := by
  refine leads_bind (Q := fun d t => (Retry.delay p attempt).outcome s = .ok d ∧ s.Aside t) ?_
    fun d => leads_of_fact fun hd => ?_
  · rintro t rfl
    have haside : t.Aside ((Retry.delay p attempt).after t) :=
      (aside_delay (E := fun _ => True) (fun _ _ => trivial) t (.refl t)).1
    refine ⟨fun d hd => ⟨hd, haside⟩, fun g hg => ⟨?_, haside⟩⟩
    have hg : (Retry.delay p attempt).outcome t = .error g := hg
    rw [hg]
    rfl
  rw [hd]
  refine leads_bind (Q := fun _ t => (Text.writeInt? (p.maxRetries + 1)).isNone = false ∧ s.Aside t)
    ?_ fun text => leads_of_fact fun hcounts => ?_
  · unfold Retry.totalText
    split
    · rename_i text htext
      exact leads_pure fun t ht => ⟨by rw [htext]; rfl, ht⟩
    · rename_i htext
      exact leads_throw fun t ht =>
        ⟨p.hindrance_of_uncounted (Option.isNone_iff_eq_none.mpr htext) _ _, ht⟩
  refine leads_bind (leads_of_returns aside_log) fun _ => ?_
  -- what is left is the wait, which is not made for a delay that is not positive
  refine leads_ite (fun hpos => ?_) fun hno => leads_pure fun t ht => ⟨?_, ht⟩
  · refine (leads_sleep_aside d).widen (fun _ t ht => ⟨?_, ht.2⟩) fun g t ht => ⟨?_, ht.2⟩
    · exact Retry.Policy.hindrance_of_accepted hcounts fun _ => ht.1
    · rw [ht.1.2]
      exact Retry.Policy.hindrance_of_refused hcounts hpos ht.1.1
  · exact Retry.Policy.hindrance_of_accepted hcounts fun hpos => (hno hpos).elim

theorem aside_pause {attempt : Nat} {f : Fault} :
    Meets s₀.Aside (p.Stuck s₀.script attempt) (Retry.pause name p none attempt f) := by
  intro s hs
  obtain ⟨hok, herror⟩ := leads_pause_aside (p := p) name attempt f s s rfl
  cases h : (Retry.pause name p none attempt f).outcome s with
  | ok a => exact ⟨hs.trans (hok a h).2, nofun⟩
  | error g =>
    refine ⟨hs.trans (herror g h).2, ?_⟩
    rintro g ⟨⟩
    exact ⟨s, hs.script, hs.script ▸ (herror g h).1⟩

/-- **A retry leads where its attempts lead.** A failed attempt leaves a state from which the next
one can be made. -/
theorem leads_attempts {P : Site → Prop} {Q : α → Site → Prop} {x : Act Site α} {left : Nat}
    (hP : ∀ s t : Site, P s → s.Aside t → P t) (hx : Leads P Q (fun f s => P s ∧ E f) x)
    (hstuck : ∀ c n f, p.Stuck c n f → E f) (hexhausted : left = 0 → E (.attemptsExhausted name))
    (attempt : Nat) :
    Leads P Q (fun f s => P s ∧ E f) (Retry.attempts name p none x left attempt) := by
  have hside {β : Type} {y : Act Site β} (hy : ∀ s : Site, Meets s.Aside E y) :
      Leads P (fun _ => P) (fun f s => P s ∧ E f) y := meets_iff_leads.mp (meets_of_aside hP hy)
  induction left generalizing attempt with
  | zero => exact leads_throw fun s hs => ⟨hs, hexhausted rfl⟩
  | succ left ih =>
    have hfail (f : Fault) (hf : E f) : Leads P Q (fun f s => P s ∧ E f) (throw f) :=
      leads_throw fun s hs => ⟨hs, hf⟩
    refine leads_attempt_bind hx (fun a => leads_pure fun _ h => h) fun f s hs => ?_
    refine leads_ite (fun _ => hfail f hs.2) (fun _ => ?_) s hs.1
    refine leads_ite (fun _ => leads_bind (hside fun _ => aside_log) fun _ => hfail f hs.2)
      fun _ => ?_
    refine leads_ite (fun _ => leads_bind (hside fun _ => aside_log) fun _ => hfail f hs.2)
      fun hleft => ?_
    exact leads_bind (hside fun s => aside_pause.mono (hstuck s.script attempt)) fun _ =>
      ih (fun hzero => (hleft hzero).elim) (attempt + 1)

end Retry

end TableDiscovery
