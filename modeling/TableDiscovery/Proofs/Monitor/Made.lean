import TableDiscovery.Monitor.Basic
import TableDiscovery.Proofs.Quiet

/-!
# What the monitor has done since a state

A state of monitoring is compared with an earlier one by the calls of the loop that lie between
them. The script and the reactions of the host decide, call by call, when the monitor is told to
stop; its flag says so from then on.

* `Watch.Told`: whether the monitor has been told to stop by the time that some calls were made;
* `Watch.Made`: the calls that lie between two states, with what follows from them;
* **`Watch.Made.trans`**: calls are made one after the other;
* `Watch.Still`, `Idle`: steps without calls that leave what is published.
-/

namespace TableDiscovery

open Act

variable {α : Type}

/-! ## Actions on a site and on a pool -/

section Lift

variable (w : Watch)

/-- The state with another pool. -/
def Watch.onPool (p : Pool) : Watch := { w with toPool := p }

/-- The state with another site. -/
def Watch.onSite (s : Site) : Watch := { w with toSite := s }

@[simp] theorem outcome_liftPool (x : Act Pool α) :
    (liftM x : Act Watch α).outcome w = x.outcome w.toPool := outcome_zoom ..

@[simp] theorem after_liftPool (x : Act Pool α) :
    (liftM x : Act Watch α).after w = w.onPool (x.after w.toPool) := after_zoom ..

@[simp] theorem outcome_liftSite (x : Act Site α) :
    (liftM x : Act Watch α).outcome w = x.outcome w.toSite :=
  (outcome_zoom ..).trans (outcome_zoom ..)

@[simp] theorem after_liftSite (x : Act Site α) :
    (liftM x : Act Watch α).after w = w.onSite (x.after w.toSite) := by
  refine (after_zoom ..).trans ?_
  exact congrArg w.onPool (after_zoom ..)

end Lift

/-! ## Calls between two states -/

/-- Fetching the listing tells the monitor to stop. It is fetched unless its query fails. -/
def Listing.tells (l : Listing) : Bool :=
  match l.failure with
  | some (_, .execute) => false
  | _ => l.stopsMonitor

/-- The monitor has been told to stop when the calls `cs` have been made since a state: before it,
while one of the listings was fetched, or by the host in one of the requests. -/
def Watch.Told (w : Watch) (cs : List Event) : Prop :=
  w.stopping = true ∨
    (∃ k < cs.countP Event.isQuery, (w.script.listing (w.counts.listing + k)).tells = true) ∨
      ∃ k < cs.countP Event.isRequest, w.reaction (w.host.requests + k) = .shutDown

/-- Between the states lie the calls `cs` of the loop. The host was asked as often as they say,
and the flag of the monitor says whether it has been told to stop. -/
structure Watch.Made (w₀ : Watch) (cs : List Event) (w : Watch) : Prop
    extends site : Site.Made w₀.toSite cs w.toSite where
  reaction : w.reaction = w₀.reaction
  announces : w.announcesCalls = w₀.announcesCalls
  requests : w.host.requests = w₀.host.requests + cs.countP Event.isRequest
  stopping : w.stopping = true ↔ w₀.Told cs

theorem exists_lt_add {a b : Nat} {P : Nat → Prop} :
    (∃ k < a + b, P k) ↔ (∃ k < a, P k) ∨ ∃ k < b, P (a + k) := by
  constructor
  · rintro ⟨k, hk, h⟩
    by_cases hka : k < a
    · exact .inl ⟨k, hka, h⟩
    · exact .inr ⟨k - a, by omega, by rwa [Nat.add_sub_cancel' (by omega)]⟩
  · rintro (⟨k, hk, h⟩ | ⟨k, hk, h⟩)
    · exact ⟨k, by omega, h⟩
    · exact ⟨a + k, by omega, h⟩

namespace Watch.Made

variable {w₀ w v : Watch} {cs ds : List Event}

theorem refl (w : Watch) : Made w [] w :=
  { site := .refl _, reaction := rfl, announces := rfl, requests := rfl,
    stopping := by simp [Told] }

/-- **What has told the monitor to stop came before the last calls or with them.** -/
theorem told_append (h : Made w₀ cs w) : w₀.Told (cs ++ ds) ↔ w.Told ds := by
  have hs : w.script = w₀.script := h.script
  have hl : w.counts.listing = w₀.counts.listing + cs.countP Event.isQuery := h.listings
  simp only [Told, List.countP_append, exists_lt_add, h.stopping, hs, hl, h.reaction, h.requests,
    Nat.add_assoc]
  exact iff_of_eq (by ac_rfl)

theorem trans (h : Made w₀ cs w) (h' : Made w ds v) : Made w₀ (cs ++ ds) v where
  site := h.site.trans h'.site
  reaction := h'.reaction.trans h.reaction
  announces := h'.announces.trans h.announces
  requests := by rw [h'.requests, h.requests, List.countP_append, Nat.add_assoc]
  stopping := h'.stopping.trans h.told_append.symm

/-- A monitor that is to stop stays so. -/
theorem stopping_of (h : Made w₀ cs w) (hs : w₀.stopping = true) : w.stopping = true :=
  h.stopping.mpr (.inl hs)

end Watch.Made

/-! ## Steps without calls -/

/-- No call of the loop lies between the states, the same is published, and the host was told
nothing. -/
structure Watch.Still (w₀ w : Watch) : Prop extends made : Watch.Made w₀ [] w where
  snapshot : w.snapshot = w₀.snapshot
  published : w.published = w₀.published
  host : w.host = w₀.host

namespace Watch.Still

variable {w₀ w v : Watch} {cs : List Event}

theorem refl (w : Watch) : Still w w :=
  { made := .refl w, snapshot := rfl, published := rfl, host := rfl }

theorem trans (h : Still w₀ w) (h' : Still w v) : Still w₀ v where
  made := h.made.trans h'.made
  snapshot := h'.snapshot.trans h.snapshot
  published := h'.published.trans h.published
  host := h'.host.trans h.host

end Watch.Still

theorem Watch.Made.still {w₀ w v : Watch} {cs : List Event} (h : w₀.Made cs w) (h' : w.Still v) :
    w₀.Made cs v := by
  have := h.trans h'.made
  rwa [List.append_nil] at this

theorem Watch.Still.made_of {w₀ w v : Watch} {cs : List Event} (h : w₀.Still w)
    (h' : w.Made cs v) : w₀.Made cs v := h.made.trans h'

section Still

variable {w₀ : Watch} {E : Fault → Prop}

theorem still_liftPool {x : Act Pool α}
    (hx : Meets (fun p : Pool => w₀.toSite.Made [] p.toSite) E x) :
    Meets w₀.Still E (liftM x : Act Watch α) := by
  intro w hw
  rw [after_liftPool, outcome_liftPool]
  obtain ⟨h₁, h₂⟩ := hx w.toPool hw.site
  exact ⟨{ hw with site := h₁ }, h₂⟩

theorem still_liftSite {x : Act Site α} (hx : Meets (w₀.toSite.Made []) E x) :
    Meets w₀.Still E (liftM x : Act Watch α) := still_liftPool (meets_liftPool hx)

theorem still_recordPoll (m : Monitor) (status : String) (started : Float) :
    Meets w₀.Still E (m.recordPoll status started) := by
  refine meets_get_bind fun w _ => meets_ite (fun _ => ?_) fun _ => meets_pure _
  refine meets_bind (still_liftSite quiet_now) fun now => meets_modify fun v hv => ?_
  exact { hv with }

theorem still_recordTables (m : Monitor) (s : Snapshot) :
    Meets w₀.Still E (m.recordTables s) := by
  refine meets_get_bind fun w _ => meets_ite (fun _ => ?_) fun _ => meets_pure _
  refine meets_bind (meets_modify fun v hv => { hv with }) fun _ => still_liftSite ?_
  exact meets_ite (fun _ => quiet_log) fun _ => meets_pure _

/-- The action returns `a` and makes no call of the loop. -/
def Idle (x : Act Watch α) (a : α) : Prop := ∀ w, w.Still (x.after w) ∧ x.outcome w = .ok a

/-- After an idle step it is left to look at the rest. -/
theorem Idle.bind {β : Type} {x : Act Watch α} {a : α} {k : α → Act Watch β} {w : Watch}
    {Q : Watch → Except Fault β → Prop} (hx : Idle x a)
    (hk : ∀ v, w.Still v → Q ((k a).after v) ((k a).outcome v)) :
    Q ((x >>= k).after w) ((x >>= k).outcome w) := by
  obtain ⟨h₁, h₂⟩ := hx w
  rw [after_bind, outcome_bind, h₂]
  exact hk _ h₁

theorem idle_of_meets {x : Act Watch Unit} (hx : ∀ w : Watch, Meets w.Still (fun _ => False) x) :
    Idle x () := by
  intro w
  obtain ⟨h₁, h₂⟩ := hx w w (.refl w)
  refine ⟨h₁, ?_⟩
  cases h : x.outcome w with
  | ok _ => rfl
  | error f => exact (h₂ f h).elim

theorem idle_log (level : Level) (logger message : String) :
    Idle (liftM (Site.log level logger message)) () :=
  idle_of_meets fun _ => still_liftSite quiet_log

theorem idle_recordPoll (m : Monitor) (status : String) (started : Float) :
    Idle (m.recordPoll status started) () :=
  idle_of_meets fun _ => still_recordPoll m status started

theorem idle_recordTables (m : Monitor) (s : Snapshot) : Idle (m.recordTables s) () :=
  idle_of_meets fun _ => still_recordTables m s

end Still

end TableDiscovery
