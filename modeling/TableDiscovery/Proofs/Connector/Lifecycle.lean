import Mathlib.Data.List.Induction
import TableDiscovery.Proofs.Connector.Connections
import TableDiscovery.Proofs.Connector.Start
import TableDiscovery.Proofs.Connector.Stop

/-!
# The lifecycle of a connector

A start can fail in several places and leave a part of what it takes hold of, and a stop has to let
go of all of it. Three checks look at different parts: a start at the dialect, the tasks at the
monitor, and a stop at each part for itself. They agree in all states that a connector reaches.

* `Connector.Nested`: what is held depends on what was taken hold of before;
* `Connector.Same`: the steps that take hold of nothing and let go of nothing;
* `nested_start`: what a start does to it;
* `Connector.StartedSince`: a start has returned since the last stop;
* **`nested_afterAll`**: what is held after any uses, and when there is a monitor;
* **`lifecycle`**: the three checks.
-/

namespace TableDiscovery

open Act

/-- A fault that a driver raises and that is no interrupt. -/
def Fault.IsRaised (f : Fault) : Prop := ∃ k text, f = .raised k text ∧ f.isFailure = true

theorem Script.Gives.closesQuietly {c : Script} (h : c.Gives Fault.IsRaised) :
    c.ClosesQuietly := by
  intro n f hf
  obtain ⟨k, text, -, hfailure⟩ := h.close n f hf
  exact hfailure

theorem Monitor.keeps_script (m : Monitor) (sc : Script) :
    m.Keeps (fun w => w.script = sc) (fun _ => True) := by
  refine keeps_of_poll (fun w v hw h => h.script.trans hw) fun w hw => ⟨?_, fun _ _ => trivial⟩
  obtain ⟨cs, -, hmade⟩ := poll_made m w
  exact hmade.script.trans hw

namespace Connector

variable {α : Type} {E : Fault → Prop} {c c₀ e : Connector} {p : Props} {us : List Use} {u : Use}

/-! ## What is held -/

/-- A monitor is held only with a provider, a provider only with a dialect, and a dialect only with
settings. -/
structure Nested (c : Connector) : Prop where
  provider : c.monitor ≠ none → c.provider ≠ none
  dialect : c.provider ≠ none → c.dialect ≠ none
  settings : c.dialect ≠ none → c.settings ≠ none

theorem Released.nested (h : c.Released) : c.Nested :=
  ⟨fun hm => (hm h.monitor).elim, fun hp => (hp h.provider).elim, fun hd => (hd h.dialect).elim⟩

/-- Without a dialect nothing is held. -/
theorem Nested.released (h : c.Nested) (hd : c.dialect = none) : c.Released := by
  have hp : c.provider = none := by
    by_contra hp
    exact h.dialect hp hd
  have hm : c.monitor = none := by
    by_contra hm
    exact h.provider hm hp
  exact ⟨hm, hp, hd⟩

/-! ## Steps that change nothing of it -/

/-- Later the connector holds the same. -/
structure Same (c e : Connector) : Prop extends alike : c.Alike e where
  settings : e.settings = c.settings
  dialect : e.dialect = c.dialect
  provider : e.provider = c.provider
  monitor : e.monitor = c.monitor

theorem Same.refl (c : Connector) : c.Same c := ⟨.refl c, rfl, rfl, rfl, rfl⟩

theorem Same.nested (h : c.Same e) (hc : c.Nested) : e.Nested where
  provider := by
    rw [h.monitor, h.provider]
    exact hc.provider
  dialect := by
    rw [h.provider, h.dialect]
    exact hc.dialect
  settings := by
    rw [h.dialect, h.settings]
    exact hc.settings

theorem same_stays {x : Act Connector α} (hx : ∀ c : Connector, Meets c.Stays E x) :
    Meets c₀.Same E x := by
  refine meets_of_stays ?_ hx
  rintro c - hc ⟨w, hw, rfl⟩
  exact ⟨⟨hw.script.trans hc.script, hc.closeFault⟩, hc.settings, hc.dialect, hc.provider,
    hc.monitor⟩

theorem same_liftWatch {x : Act Watch α} (hx : ∀ sc, Meets (fun w => w.script = sc) E x) :
    Meets c₀.Same E (liftM x : Act Connector α) := by
  intro c hc
  obtain ⟨hscript, hfault⟩ := hx c.script c.toWatch rfl
  rw [after_liftWatch, outcome_liftWatch]
  exact ⟨⟨⟨hscript.trans hc.script, hc.closeFault⟩, hc.settings, hc.dialect, hc.provider,
    hc.monitor⟩, hfault⟩

theorem same_tick : Meets c₀.Same (fun _ => True) tick := by
  refine meets_get_bind fun c _ => ?_
  split
  · exact meets_pure _
  · rename_i m _
    refine meets_bind (same_liftWatch fun sc => ?_) fun _ => same_stays fun _ => stays_settle
    exact (kept_tick (m.keeps_script sc)).mono fun _ => False.elim

theorem same_poll : Meets c₀.Same (fun _ => True) poll := by
  refine meets_get_bind fun c _ => ?_
  split
  · exact meets_pure _
  · rename_i m _
    refine meets_bind (same_liftWatch fun sc w hw => ?_) fun _ => meets_pure _
    obtain ⟨cs, -, hmade⟩ := Monitor.poll_made m w
    exact ⟨hmade.script.trans hw, fun _ _ => trivial⟩

theorem same_drop : Meets c₀.Same (fun _ => True) (liftM Site.drop : Act Connector Unit) := by
  have hdrop : Meets (fun s : Site => s.script = c₀.script) (fun _ => True) Site.drop :=
    meets_get_bind fun s hs => meets_when (meets_throw trivial) fun _ => meets_set hs
  intro c hc
  have hscript := (hdrop c.toSite hc.script).1
  rw [after_liftSite]
  exact ⟨⟨⟨hscript, hc.closeFault⟩, hc.settings, hc.dialect, hc.provider, hc.monitor⟩,
    fun _ _ => trivial⟩

theorem same_releaseThreads : Meets c₀.Same (fun _ => True) releaseThreads := by
  refine meets_get_bind fun _ _ => meets_bind (meets_forM fun _ => ?_) fun _ => ?_
  · exact same_stays fun _ => stays_log
  · exact meets_modify fun _ h => { h with }

/-- **Only starts and stops change what is held.** -/
theorem same_use (hstart : ∀ p, u ≠ .start p) (hstop : u ≠ .stop) :
    Meets c₀.Same (fun _ => True) (use u) := by
  cases u with
  | start p => exact (hstart p rfl).elim
  | stop => exact (hstop rfl).elim
  | tick => exact same_tick
  | poll => exact same_poll
  | taskSettings maxTasks =>
    exact meets_bind (same_stays fun _ => stays_taskSettings maxTasks) fun _ => meets_pure _
  | releaseThreads => exact same_releaseThreads
  | drop => exact same_drop

/-! ## Starts -/

theorem alike_start (p : Props) (c : Connector) : c.Alike ((start p).after c) := by
  by_cases hd : c.dialect = none
  · obtain ⟨site, hsite, hstarts⟩ := start_spec hd p
    have hget (q : Provider) : (q.get.after { toSite := site }).script = c.script := by
      have hmade := (get_made q { toSite := site }).1
      exact hmade.script.trans hsite.script
    generalize (start p).outcome c = r at hstarts
    generalize (start p).after c = e at hstarts
    cases hstarts with
    | refused | conflicting | unknown => exact ⟨hsite.script, rfl⟩
    | unconnected => exact ⟨hget _, rfl⟩
    | @started s t d n v _ _ _ _ hv =>
      have hstart := (kept_start ((s.monitor d t c.timeout).keeps_script c.script)
        (c.toWatch.onPool ((s.provider d).get.after { toSite := site })).begun (hget _)).1
      exact ⟨hv.script.trans hstart, rfl⟩
  · obtain ⟨-, hafter⟩ := start_of_held hd p
    rw [hafter]
    exact .refl c

/-- **A start takes hold of one part after the other**, of the monitor just if it returns. -/
theorem nested_start (hc : c.Nested) (p : Props) :
    ((start p).after c).Nested ∧ (((start p).after c).monitor ≠ none ↔
      (start p).outcome c = .ok () ∨ c.monitor ≠ none) := by
  by_cases hd : c.dialect = none
  · have hreleased := hc.released hd
    obtain ⟨site, -, hstarts⟩ := start_spec hd p
    generalize (start p).outcome c = r at hstarts
    generalize (start p).after c = e at hstarts
    cases hstarts with
    | refused =>
      exact ⟨⟨hc.provider, hc.dialect, hc.settings⟩, by simp [onSite, onWatch]⟩
    | conflicting | unknown =>
      exact ⟨⟨hc.provider, hc.dialect, fun _ => nofun⟩, by simp [onSite, onWatch]⟩
    | unconnected =>
      exact ⟨⟨fun _ => nofun, fun _ => nofun, fun _ => nofun⟩, by simp [holding, onWatch]⟩
    | started =>
      exact ⟨⟨fun _ => nofun, fun _ => nofun, fun _ => nofun⟩, by simp⟩
  · obtain ⟨hout, hafter⟩ := start_of_held hd p
    rw [hout, hafter]
    exact ⟨hc, by simp⟩

/-! ## Uses one by one -/

/-- A start has returned since the last stop, or since the beginning. -/
def StartedSince (c : Connector) (us : List Use) : Prop :=
  ∃ before p after, us = before ++ .start p :: after ∧ .stop ∉ after ∧
    (start p).outcome (afterAll use before c) = .ok ()

theorem not_startedSince_nil : ¬ StartedSince c [] := by
  rintro ⟨before, p, after, h, -⟩
  simp at h

theorem startedSince_concat : StartedSince c (us ++ [u]) ↔
    (∃ p, u = .start p ∧ (start p).outcome (afterAll use us c) = .ok ()) ∨
      (u ≠ .stop ∧ StartedSince c us) := by
  constructor
  · rintro ⟨before, p, after, h, hstop, hout⟩
    rcases List.eq_nil_or_concat after with rfl | ⟨after, last, rfl⟩
    · obtain ⟨rfl, hu⟩ := List.append_inj' h rfl
      exact .inl ⟨p, (List.cons.inj hu).1, hout⟩
    · rw [List.concat_eq_append, ← List.cons_append, ← List.append_assoc] at h
      obtain ⟨rfl, hu⟩ := List.append_inj' h rfl
      obtain rfl := (List.cons.inj hu).1
      rw [List.concat_eq_append, List.mem_append, not_or] at hstop
      refine .inr ⟨fun hlast => hstop.2 (hlast ▸ List.mem_singleton_self _), ?_⟩
      exact ⟨before, p, after, rfl, hstop.1, hout⟩
  · rintro (⟨p, rfl, hout⟩ | ⟨hne, before, p, after, rfl, hstop, hout⟩)
    · exact ⟨us, p, [], rfl, List.not_mem_nil, hout⟩
    · refine ⟨before, p, after ++ [u], by simp, fun hmem => ?_, hout⟩
      rcases List.mem_append.mp hmem with hmem | hmem
      · exact hstop hmem
      · exact hne (List.mem_singleton.mp hmem).symm

/-- **What is held after any uses.** There is a monitor just if a start has returned since the last
stop. -/
theorem nested_afterAll (hc : c₀.Released) (ho : c₀.Ordinary) (us : List Use) :
    c₀.Alike (afterAll use us c₀) ∧ (afterAll use us c₀).Nested ∧
      ((afterAll use us c₀).monitor ≠ none ↔ StartedSince c₀ us) := by
  induction us using List.reverseRecOn with
  | nil => exact ⟨.refl c₀, hc.nested, iff_of_false (fun h => h hc.monitor) not_startedSince_nil⟩
  | append_singleton us u ih =>
    obtain ⟨halike, hnested, hmonitor⟩ := ih
    rw [afterAll_concat, startedSince_concat, ← hmonitor]
    generalize afterAll use us c₀ = c at halike hnested hmonitor
    have hother (hstart : ∀ p, u ≠ .start p) (hstop : u ≠ .stop) :
        c₀.Alike ((use u).after c) ∧ ((use u).after c).Nested ∧
          (((use u).after c).monitor ≠ none ↔
            (∃ p, u = .start p ∧ (start p).outcome c = .ok ()) ∨
              (u ≠ .stop ∧ c.monitor ≠ none)) := by
      have hsame := (same_use hstart hstop c (.refl c)).1
      refine ⟨halike.trans hsame.alike, hsame.nested hnested, ?_⟩
      rw [hsame.monitor, or_iff_right (fun ⟨p, hp, _⟩ => hstart p hp), and_iff_right hstop]
    cases u with
    | start p =>
      obtain ⟨hafter, hheld⟩ := nested_start hnested p
      refine ⟨halike.trans (alike_start p c), hafter, hheld.trans ?_⟩
      simp
    | stop =>
      obtain ⟨-, hstopped, hreleased⟩ := stop_spec (halike.ordinary ho)
      refine ⟨halike.trans hstopped, hreleased.nested, ?_⟩
      exact iff_of_false (fun h => h hreleased.monitor) (by simp)
    | tick | poll | taskSettings | releaseThreads | drop => exact hother nofun nofun

/-! ## The checks -/

/-- Without a dialect a start fails for other reasons than that the connector has been started. -/
theorem start_ne_alreadyStarted (hd : c.dialect = none) (hc : c.script.Gives Fault.IsRaised)
    (p : Props) : (start p).outcome c ≠ .error .alreadyStarted := by
  obtain ⟨site, hsite, hstarts⟩ := start_spec hd p
  generalize hout : (start p).outcome c = r at hstarts
  clear hout
  generalize (start p).after c = e at hstarts
  cases hstarts with
  | refused | started => nofun
  | conflicting _ ht =>
    rintro ⟨⟩
    cases Settings.kind_of_filter ht
  | unknown _ _ hdialect =>
    rintro ⟨⟩
    cases Settings.kind_of_dialect hdialect with
    | inl h | inr h => cases h
  | @unconnected s t d f _ _ _ hget =>
    rintro ⟨⟩
    have harises := (get_made (s.provider d) { toSite := site }).2 _ hget
    rw [show site.script = c.script from hsite.script] at harises
    obtain ⟨k, text, h, -⟩ := hc.of_arises (fun h => by cases h) harises
    cases h

/-- **The tasks are refused for want of a start just if there is no monitor.** -/
theorem taskSettings_eq_notStarted_iff (hc : c.Nested) (maxTasks : Int) :
    (taskSettings maxTasks).outcome c = .error .notStarted ↔ c.monitor = none := by
  constructor
  · intro h
    by_contra hm
    obtain ⟨m, hm⟩ := Option.ne_none_iff_exists'.mp hm
    obtain ⟨d, hd⟩ := Option.ne_none_iff_exists'.mp
      (hc.dialect (hc.provider (Option.ne_none_iff_exists'.mpr ⟨m, hm⟩)))
    obtain ⟨s, hs⟩ := Option.ne_none_iff_exists'.mp
      (hc.settings (Option.ne_none_iff_exists'.mpr ⟨d, hd⟩))
    cases hq : s.queryMode with
    | true => cases h.symm.trans (outcome_taskSettings_query hs hm hd hq)
    | false =>
      by_cases hshort : maxTasks.natAbs < Nat.pow 10 Text.maxDigits
      swap
      · cases h.symm.trans (outcome_taskSettings_long hs hm hd hq hshort)
      rw [outcome_taskSettings_tables hs hm hd hq hshort] at h
      obtain htables | ⟨ts, -, hassign⟩ := error_of_bind (error_of_map h)
      · rcases Monitor.fault_of_tables htables with (h | h) | ⟨groups, h⟩ <;> cases h
      · cases Assignment.kind_of_assign hassign
  · intro hm
    rw [taskSettings, outcome_bind]
    simp only [outcome_get, after_get, hm]
    cases c.settings <;> rfl

/-- **The three checks agree.** Let a connector that holds nothing be used in any way, while drivers
raise ordinary exceptions. Then it holds a monitor only with a provider, a provider only with a
dialect, and a dialect only with settings. A start is refused as one too many just if a dialect is
held, and changes nothing then. The tasks are refused for want of a start just if no start has
returned since the last stop. A stop releases everything, so that the next start is not one too
many, and the next stop finds nothing to close. -/
theorem lifecycle (hc : c₀.Released) (hscript : c₀.script.Gives Fault.IsRaised)
    (hdialect : ∀ f, c₀.dialectCloseFault = some f → f.isFailure = true) (us : List Use) :
    let c := afterAll use us c₀
    c.Nested ∧
    (∀ p, ((start p).outcome c = .error .alreadyStarted ↔ c.dialect ≠ none) ∧
      (c.dialect ≠ none → (start p).after c = c)) ∧
    (∀ maxTasks, (taskSettings maxTasks).outcome c = .error .notStarted ↔ ¬ StartedSince c₀ us) ∧
    stop.outcome c = .ok () ∧ (stop.after c).Released ∧
    (∀ p, (start p).outcome (stop.after c) ≠ .error .alreadyStarted) ∧
    (stop.after c).toSite.Aside (stop.after (stop.after c)).toSite := by
  have hordinary : c₀.Ordinary := ⟨hscript.closesQuietly, hdialect⟩
  obtain ⟨halike, hnested, hmonitor⟩ := nested_afterAll hc hordinary us
  intro c
  obtain ⟨hout, hstopped, hreleased⟩ := stop_spec (halike.ordinary hordinary)
  have hgives : c.script.Gives Fault.IsRaised := halike.script.symm ▸ hscript
  refine ⟨hnested, fun p => ⟨?_, ?_⟩, fun maxTasks => ?_, hout, hreleased, fun p => ?_, ?_⟩
  · constructor
    · intro h hd
      exact start_ne_alreadyStarted hd hgives p h
    · exact fun hd => (start_of_held hd p).1
  · exact fun hd => (start_of_held hd p).2
  · rw [taskSettings_eq_notStarted_iff hnested, ← hmonitor, not_not]
  · exact start_ne_alreadyStarted hreleased.dialect (hstopped.script.symm ▸ hgives) p
  · obtain ⟨-, site, hsite, hafter⟩ := stop_of_released hreleased
    rw [hafter]
    exact hsite

/-- A connector for a shop whose first connection is refused, and whose connections cannot be
closed. -/
def refusingShop : Connector :=
  { script :=
      { connect := fun n => if n = 0 then some (.raised (.driver .postgres .operational) none)
          else none
        close := fun _ => some (.raised (.driver .postgres .error) none)
        listing := fun _ => Monitor.shopListing ["items"] }
    dialectCloseFault := some (.raised .runtime none) }

theorem gives_refusingShop : refusingShop.script.Gives Fault.IsRaised where
  connect n f h := by
    simp only [refusingShop] at h
    split at h
    · cases h
      exact ⟨_, _, rfl, rfl⟩
    · cases h
  session := nofun
  ping := nofun
  close n f h := by
    cases h
    exact ⟨_, _, rfl, rfl⟩

/-- A start that fails, one that is one too many, a stop, and a start that returns. -/
theorem lifecycle_refusingShop :
    let us := [Use.start shopProps, .start shopProps, .stop, .start shopProps]
    let c := afterAll use us refusingShop
    (refusingShop.Released ∧ refusingShop.script.Gives Fault.IsRaised ∧
      ∀ f, refusingShop.dialectCloseFault = some f → f.isFailure = true) ∧
    c.Nested ∧ c.monitor.isSome = true ∧
    (start shopProps).outcome c = .error .alreadyStarted ∧ (start shopProps).after c = c ∧
    (taskSettings 1).outcome c ≠ .error .notStarted ∧ StartedSince refusingShop us ∧
    stop.outcome c = .ok () ∧ (stop.after c).Released := by
  intro us c
  have hclose : ∀ f, refusingShop.dialectCloseFault = some f → f.isFailure = true := by
    rintro f ⟨⟩
    rfl
  obtain ⟨hnested, hstart, htasks, hout, hreleased, -, -⟩ :=
    lifecycle ⟨rfl, rfl, rfl⟩ gives_refusingShop hclose us
  have hmonitor : c.monitor.isSome = true := by decide +kernel
  have hd : c.dialect ≠ none :=
    hnested.dialect (hnested.provider (Option.isSome_iff_ne_none.mp hmonitor))
  have hsettings : (taskSettings 1).outcome c ≠ .error .notStarted := by
    rw [Ne, taskSettings_eq_notStarted_iff hnested]
    exact Option.isSome_iff_ne_none.mp hmonitor
  have hsince : StartedSince refusingShop us := by
    by_contra hnot
    exact hsettings ((htasks 1).mpr hnot)
  exact ⟨⟨⟨rfl, rfl, rfl⟩, gives_refusingShop, hclose⟩, hnested, hmonitor,
    (hstart shopProps).1.mpr hd, (hstart shopProps).2 hd, hsettings, hsince, hout, hreleased⟩

end Connector

end TableDiscovery
