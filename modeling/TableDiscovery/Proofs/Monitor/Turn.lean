import TableDiscovery.Monitor.Run
import TableDiscovery.Proofs.Monitor.Poll
import TableDiscovery.Proofs.Number.Limit
import TableDiscovery.Proofs.Text.Integer

/-!
# Turns of the loop

The loop of the monitor goes in turns. A turn is a poll with what follows it: a request if the poll
replaced a published snapshot and the monitor was not told to stop meanwhile, then a report of a
fault, which ends the loop, or a wait. A wait that the platform refuses ends the loop too.

* `callHost_spec`, `requestReconfiguration_spec`, `reportError_spec`: requests and reports;
* `awaitPoll_spec`: waits;
* `Monitor.Replaces`, `Monitor.Requests`, `Monitor.turnFault`: what a poll leads to;
* `Monitor.Ending`, `Monitor.turnCalls`: how a turn ends, and its calls;
* **`round_spec`**: a round of the loop is a turn, unless the monitor is to stop.
-/

namespace TableDiscovery

open Act

theorem told_request (w : Watch) :
    w.Told [.request] ↔ w.stopping = true ∨ w.reaction w.host.requests = .shutDown := by
  simp [Watch.Told, Event.isQuery, Event.isRequest]

theorem told_of_neither {w : Watch} {e : Event} (hq : e.isQuery = false)
    (hr : e.isRequest = false) : w.Told [e] ↔ w.stopping = true := by
  simp [Watch.Told, hq, hr]

/-- The calls of the loop are announced, and no fault of the site or the host is an interrupt. -/
structure Watch.Regular (w : Watch) : Prop where
  announced : w.announcesCalls = true
  ordinary : w.script.Ordinary
  reactions : ∀ k f, w.reaction k = .fail f → f.isFailure = true

theorem Watch.Regular.of_made {w v : Watch} {cs : List Event} (hw : w.Regular)
    (h : w.Made cs v) : v.Regular where
  announced := h.announces.trans hw.announced
  ordinary := h.script.symm ▸ hw.ordinary
  reactions := h.reaction.symm ▸ hw.reactions

namespace Monitor

variable {m : Monitor} {w v : Watch}

/-! ## Requests and reports -/

theorem made_request (h : Host) (s : Site) :
    s.Made [] (h.request.after s) ∧ h.request.outcome s = .ok h.noteRequest := by
  simp only [Host.request, after_bind, outcome_bind, outcome_log]
  exact ⟨made_log .., rfl⟩

theorem made_raiseError (h : Host) (f : Fault) (s : Site) :
    s.Made [] ((h.raiseError f).after s) ∧ (h.raiseError f).outcome s = .ok (h.noteError f) := by
  simp only [Host.raiseError, after_bind, outcome_bind, outcome_log]
  exact ⟨made_log .., rfl⟩

/-- An event of the loop is one of its calls. -/
theorem made_record {e : Event} (he : e.isLoopCall = true) (hq : e.isQuery = false) (s : Site) :
    s.Made [e] ((Site.record e).after s) :=
  ⟨rfl, by simp [Site.record, loopCalls, he], by simp [Site.record, hq]⟩

/-- **A request is announced, and its host may tell the monitor to stop or fail.** -/
theorem callHost_spec (announced : w.announcesCalls = true) :
    w.Made [.request] (callHost.after w) ∧
      callHost.outcome w = match w.reaction w.host.requests with
        | .fail f => .error f
        | _ => .ok () := by
  have h₁ := made_record (e := .request) rfl rfl w.toSite
  obtain ⟨h₂, h₃⟩ := made_request w.host ((Site.record .request).after w.toSite)
  have site := h₁.trans h₂
  rw [List.append_nil] at site
  simp only [callHost, after_bind, outcome_bind, outcome_get, after_get, if_pos announced,
    outcome_liftSite, after_liftSite, outcome_modify, after_modify, Watch.onSite]
  have hrecord : (Site.record .request).outcome w.toSite = .ok () := rfl
  simp only [hrecord, h₃]
  generalize w.host.request.after ((Site.record .request).after w.toSite) = s at site
  have made (t : Site) (ht : s.Made [] t) (b : Bool)
      (hb : b = true ↔ w.stopping = true ∨ w.reaction w.host.requests = .shutDown) :
      w.Made [.request] { w with toSite := t, host := w.host.noteRequest, stopping := b } := by
    have site := site.trans ht
    rw [List.append_nil] at site
    exact { site := site, reaction := rfl, announces := rfl, requests := rfl,
            stopping := hb.trans (told_request w).symm }
  cases hreaction : w.reaction w.host.requests with
  | accept => exact ⟨made s (.refl s) w.stopping (by simp [hreaction]), rfl⟩
  | fail f => exact ⟨made s (.refl s) w.stopping (by simp [hreaction]), rfl⟩
  | shutDown =>
    obtain ⟨t, h₄, h₅, h₆⟩ :=
      shutDown_spec { w with toSite := s, host := w.host.noteRequest }
    refine ⟨?_, h₆⟩
    dsimp only
    rw [h₅]
    exact made t h₄ true (by simp [hreaction])

theorem requestReconfiguration_spec (announced : w.announcesCalls = true) :
    w.Made (if w.stopping then [] else [.request]) (m.requestReconfiguration.after w) ∧
      m.requestReconfiguration.outcome w =
        if w.stopping then .ok () else match w.reaction w.host.requests with
          | .fail f => .error f
          | _ => .ok () := by
  rw [requestReconfiguration, after_bind, outcome_bind]
  simp only [outcome_get, after_get]
  split
  · obtain ⟨h₁, h₂⟩ := idle_log .debug logger
      "Table set changed during shutdown, not requesting reconfiguration" w
    exact ⟨h₁.made, h₂⟩
  · rename_i hgo
    obtain ⟨hlog, hout⟩ :=
      idle_log .info logger "Table set changed, requesting task reconfiguration" w
    rw [after_bind, outcome_bind, hout]
    generalize (liftM (Site.log .info logger
      "Table set changed, requesting task reconfiguration") : Act Watch Unit).after w = v at hlog
    obtain ⟨h₁, h₂⟩ := callHost_spec (hlog.announces.trans announced)
    have hrequests : v.host.requests = w.host.requests := hlog.requests
    rw [hlog.reaction, hrequests] at h₂
    have hmade := hlog.made_of h₁
    simp only [after_bind, outcome_bind, h₂]
    cases w.reaction w.host.requests with
    | fail f => exact ⟨hmade, rfl⟩
    | accept | shutDown => exact ⟨{ hmade with }, rfl⟩

theorem reportError_spec (announced : w.announcesCalls = true) (f : Fault) :
    w.Made [.raiseError f] ((reportError f).after w) ∧ (reportError f).outcome w = .ok () := by
  have h₁ := made_record (e := .raiseError f) rfl rfl w.toSite
  obtain ⟨h₂, h₃⟩ := made_raiseError w.host f ((Site.record (.raiseError f)).after w.toSite)
  have site := h₁.trans h₂
  rw [List.append_nil] at site
  have hrecord : (Site.record (.raiseError f)).outcome w.toSite = .ok () := rfl
  simp only [reportError, after_bind, outcome_bind, outcome_get, after_get, if_pos announced,
    outcome_liftSite, after_liftSite, outcome_modify, after_modify, Watch.onSite, hrecord, h₃]
  refine ⟨?_, trivial⟩
  exact { site := site, reaction := rfl, announces := rfl, requests := rfl,
          stopping := (told_of_neither (w := w) (e := .raiseError f) rfl rfl).symm }

/-! ## Waits -/

/-- An interval can be announced if it can be converted. -/
theorem writeInt_interval {x : Float} (hpos : 0 < m.interval) (hx : m.seconds = .ok x) :
    ∃ text, Text.writeInt? m.interval = some text := by
  unfold seconds secondsOfMilliseconds at hx
  split at hx
  · rename_i y hy
    have hlt : m.interval < Number.limit := (Number.exists_ofInt_iff hpos.le).mp ⟨y, hy⟩
    have hdigits : 1024 ≤ Text.maxDigits := by decide
    have hnat : m.interval.natAbs < Number.limit := by omega
    exact ⟨_, Text.writeInt_of_lt (Nat.lt_of_lt_of_le hnat (Number.limit_le_ten hdigits))⟩
  · cases hx

/-- **A wait is a call, unless it is refused.** It is not if the monitor is to stop already. -/
theorem awaitPoll_spec {x : Float} (hpos : 0 < m.interval) (hx : m.seconds = .ok x) (v : Watch) :
    if !v.stopping && v.script.refusesWait x then
      v.Still (m.awaitPoll.after v) ∧ m.awaitPoll.outcome v = .error .waitTooLong
    else v.Made [.wait x] (m.awaitPoll.after v) ∧ m.awaitPoll.outcome v = .ok () := by
  obtain ⟨text, htext⟩ := writeInt_interval hpos hx
  obtain ⟨hlog, hout⟩ :=
    idle_log .debug logger ("Waiting " ++ text ++ " ms to check for changed tables.") v
  unfold awaitPoll
  generalize Text.writeInt? m.interval = announced at htext ⊢
  subst htext
  dsimp only
  rw [after_bind, outcome_bind, hout]
  generalize (liftM (Site.log .debug logger _) : Act Watch Unit).after v = u at hlog
  obtain ⟨hblock, hafter⟩ := block_views u.stopping x u.toSite
  dsimp only
  rw [after_bind, outcome_bind, outcome_ofExcept, after_ofExcept, hx]
  dsimp only
  rw [after_bind, outcome_bind]
  simp only [outcome_get, after_get]
  have hstop : u.stopping = v.stopping :=
    Bool.eq_iff_iff.mpr (hlog.made.stopping.trans (by simp [Watch.Told]))
  rw [after_liftSite, outcome_liftSite, hblock, hafter, ← hstop, ← hlog.script]
  split
  · exact ⟨hlog, rfl⟩
  · refine ⟨hlog.made_of ?_, rfl⟩
    exact { site := made_record rfl rfl u.toSite, reaction := rfl, announces := rfl,
            requests := rfl, stopping := (told_of_neither (w := u) (e := .wait x) rfl rfl).symm }

/-! ## Turns -/

section Turn

variable (m) (v)

/-- The calls of a poll. -/
def pollCalls : List Event := (loopCalls (m.poll.after v).trace).drop (loopCalls v.trace).length

/-- A poll publishes a snapshot in the place of another one. -/
def Replaces : Prop := v.snapshot.isSome ∧ (m.poll.after v).published ≠ v.published

/-- A poll calls for a request: it replaces a snapshot, and the monitor is not to stop when it
ends. -/
def Requests : Prop := m.Replaces v ∧ (m.poll.after v).stopping = false

instance : Decidable (m.Replaces v) := inferInstanceAs (Decidable (_ ∧ _))

instance : Decidable (m.Requests v) := inferInstanceAs (Decidable (_ ∧ _))

/-- The fault that ends the loop in a turn: one of the poll or of the host in the request. -/
def turnFault : Option Fault :=
  match m.poll.outcome v with
  | .error f => some f
  | .ok _ =>
    if m.Requests v then
      match v.reaction v.host.requests with
      | .fail f => some f
      | _ => none
    else none

end Turn

/-- How a turn ends: with a report, where the wait is refused, or with the wait. -/
inductive Ending
  | reported (f : Fault)
  | refused
  | waited

/-- The calls at the end of a turn, where waits last `x` seconds. -/
def Ending.calls (x : Float) : Ending → List Event
  | reported f => [.raiseError f]
  | refused => []
  | waited => [.wait x]

/-- The wait of the turn is refused. -/
def Ending.isRefused : Ending → Bool
  | refused => true
  | _ => false

/-- What a round comes to; a wait that is refused is not told to the host. -/
def Ending.outcome : Ending → Except Fault Bool
  | reported _ => .ok false
  | refused => .error .waitTooLong
  | waited => .ok true

/-- No turn ends with a query or a request. -/
theorem Ending.calls_neither {x : Float} {end_ : Ending} {e : Event} (h : e ∈ end_.calls x) :
    e.isQuery = false ∧ e.isRequest = false := by
  cases end_ with
  | refused => cases h
  | reported f | waited =>
    rw [List.mem_singleton.mp h]
    exact ⟨rfl, rfl⟩

/-- How a turn ends, where waits last `x` seconds. No wait is refused if the monitor is to stop. -/
def ending (m : Monitor) (x : Float) (v : Watch) : Ending :=
  match m.turnFault v with
  | some f => .reported f
  | none =>
    if !(m.pollAndRequest.after v).stopping && v.script.refusesWait x then .refused else .waited

theorem ending_of_fault {x : Float} {f : Fault} (h : m.turnFault v = some f) :
    m.ending x v = .reported f := by
  rw [ending, h]

theorem ending_of_none {x : Float} (h : m.turnFault v = none) : m.ending x v =
    if !(m.pollAndRequest.after v).stopping && v.script.refusesWait x then .refused
    else .waited := by
  rw [ending, h]

theorem ending_eq_reported_iff {x : Float} {f : Fault} :
    m.ending x v = .reported f ↔ m.turnFault v = some f := by
  cases h : m.turnFault v with
  | some g => simp [ending_of_fault h]
  | none =>
    rw [ending_of_none h]
    split <;> simp

/-- A wait is refused if the monitor goes on and the platform cannot wait for so long. -/
theorem ending_eq_refused_iff {x : Float} : m.ending x v = .refused ↔ m.turnFault v = none ∧
    (m.pollAndRequest.after v).stopping = false ∧ v.script.refusesWait x = true := by
  cases h : m.turnFault v with
  | some g => simp [ending_of_fault h]
  | none =>
    rw [ending_of_none h]
    split <;> simp_all

/-- The calls of a turn, where waits last `x` seconds. -/
def turnCalls (m : Monitor) (x : Float) (v : Watch) : List Event :=
  m.pollCalls v ++ (if m.Requests v then [.request] else []) ++ (m.ending x v).calls x

theorem pollCalls_spec (m : Monitor) (v : Watch) :
    (m.pollCalls v = [] ∨ ∃ connection text parameters,
      m.pollCalls v = [.query connection text parameters]) ∧
      v.Made (m.pollCalls v) (m.poll.after v) := by
  obtain ⟨cs, hcs, hmade⟩ := poll_made m v
  have : m.pollCalls v = cs := by
    rw [pollCalls, hmade.calls, List.drop_left]
  rw [this]
  exact ⟨hcs, hmade⟩

/-- A poll tells whether it replaced a snapshot. -/
theorem outcome_eq_true_iff (m : Monitor) (v : Watch) :
    m.poll.outcome v = .ok true ↔ m.Replaces v := by
  rw [Replaces]
  cases hl : m.listing v with
  | error f =>
    obtain ⟨-, h₁, h₂⟩ := poll_of_error hl
    simp [h₁, h₂]
  | ok ts =>
    obtain ⟨-, -, h₁, h₂⟩ | ⟨-, -, h₁, h₂⟩ := poll_of_ok hl <;> simp [h₁, h₂]

theorem pollAndRequest_spec (reg : v.Regular) :
    v.Made (m.pollCalls v ++ if m.Requests v then [.request] else []) (m.pollAndRequest.after v) ∧
      m.pollAndRequest.outcome v = match m.turnFault v with
        | some f => .error f
        | none => .ok () := by
  obtain ⟨-, hmade⟩ := pollCalls_spec m v
  have hreplaces := outcome_eq_true_iff m v
  rw [pollAndRequest, after_bind, outcome_bind, turnFault]
  cases hpoll : m.poll.outcome v with
  | error f =>
    have hno : ¬ m.Requests v := fun h => by cases hpoll.symm.trans (hreplaces.mpr h.1)
    rw [if_neg hno, List.append_nil]
    exact ⟨hmade, rfl⟩
  | ok b =>
    cases b with
    | false =>
      have hno : ¬ m.Requests v := fun h => by cases hpoll.symm.trans (hreplaces.mpr h.1)
      simp only [if_neg hno, List.append_nil]
      exact ⟨hmade, rfl⟩
    | true =>
      obtain ⟨h₁, h₂⟩ := requestReconfiguration_spec (m := m) (reg.of_made hmade).announced
      rw [hmade.reaction, poll_host] at h₂
      have h₃ := hmade.trans h₁
      dsimp only
      cases hstop : (m.poll.after v).stopping with
      | true =>
        have hno : ¬ m.Requests v := fun h => by cases hstop.symm.trans h.2
        rw [hstop] at h₂ h₃
        rw [if_neg hno, if_neg hno]
        exact ⟨h₃, h₂⟩
      | false =>
        have hyes : m.Requests v := ⟨hreplaces.mp hpoll, hstop⟩
        rw [hstop] at h₂ h₃
        rw [if_pos hyes, if_pos hyes]
        refine ⟨h₃, h₂.trans ?_⟩
        cases v.reaction v.host.requests <;> rfl

/-- The fault that ends the loop is no interrupt. -/
theorem isFailure_of_turnFault (reg : v.Regular) {f : Fault} (h : m.turnFault v = some f) :
    f.isFailure = true := by
  rw [turnFault] at h
  split at h
  · rename_i g hpoll
    cases h
    exact poll_mayFail hpoll reg.ordinary
  · split at h
    · split at h
      · rename_i g hreaction
        cases h
        exact reg.reactions _ _ hreaction
      · cases h
    · cases h

/-- **A round is a turn, unless the monitor is to stop.** -/
theorem round_spec {x : Float} (hpos : 0 < m.interval) (hx : m.seconds = .ok x) (reg : v.Regular)
    (running : v.stopping = false) :
    v.Made (m.turnCalls x v) (m.round.after v) ∧ m.round.outcome v = (m.ending x v).outcome := by
  obtain ⟨hmade, hout⟩ := pollAndRequest_spec (m := m) reg
  rw [turnCalls, ending, round, after_bind, outcome_bind]
  simp only [outcome_get, after_get, running, Bool.false_eq_true, if_false]
  rw [after_bind, outcome_bind, outcome_attempt, after_attempt, hout]
  cases hfault : m.turnFault v with
  | some f =>
    simp only [isFailure_of_turnFault reg hfault, if_true]
    refine (idle_log _ _ _).bind (Q := fun u r => v.Made _ u ∧ r = .ok false) fun u hu => ?_
    obtain ⟨h₁, h₂⟩ := reportError_spec ((reg.of_made (hmade.still hu)).announced) f
    rw [after_bind, outcome_bind, h₂]
    exact ⟨(hmade.still hu).trans h₁, rfl⟩
  | none =>
    have hwait := awaitPoll_spec hpos hx (m.pollAndRequest.after v)
    dsimp only
    rw [after_bind, outcome_bind, ← hmade.script]
    generalize m.awaitPoll.outcome (m.pollAndRequest.after v) = r at hwait ⊢
    split at hwait
    · rename_i hrefused
      obtain ⟨h, rfl⟩ := hwait
      rw [if_pos hrefused]
      exact ⟨hmade.trans h.made, rfl⟩
    · rename_i hmay
      obtain ⟨h, rfl⟩ := hwait
      rw [if_neg hmay]
      dsimp only
      rw [after_pure, outcome_pure]
      exact ⟨hmade.trans h, rfl⟩

end Monitor

end TableDiscovery
