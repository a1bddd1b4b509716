import TableDiscovery.Proofs.Monitor.Turn

/-!
# The calls of the loop

A run of the loop is followed by its calls: listing queries, requests and reports to the host, and
waits. They come turn by turn.

* `Monitor.turns`, `Monitor.calls`: the turns of a loop and their calls;
* `Watch.StoppedBy`: whether the monitor is to stop by the time that some calls were made;
* `rounds_spec`: the loop makes these calls;
* `calls_start`, `calls_report`, `calls_end`: nothing starts after a shutdown, a report is the last
  call, and the only other end is a wait that is refused;
* **`run_in_turns`**: all this of a run.
-/

namespace TableDiscovery

open Act

/-- The monitor is to stop when the calls `cs` have been made since a state: it has been told to, or
the wait is among them in which it is stopped, the `n`-th one. -/
def Watch.StoppedBy (w : Watch) (n : Nat) (cs : List Event) : Prop :=
  w.Told cs ∨ n ≤ cs.countP Event.isWait

namespace Monitor

variable {m : Monitor} {v : Watch} {x : Float} {more : Nat}

/-- The states in which the polls of a loop begin; after `more` waits that time out, one ends by a
shutdown. -/
def turns (m : Monitor) (x : Float) : (more : Nat) → Watch → List Watch
  | 0, v => if v.stopping then [] else [v]
  | more + 1, v =>
    if v.stopping then []
    else v :: match m.ending x v with
      | .waited => turns m x more (m.round.after v)
      | _ => []

/-- The calls of a loop, turn by turn. -/
def calls (m : Monitor) (x : Float) (more : Nat) (v : Watch) : List Event :=
  (m.turns x more v).flatMap (m.turnCalls x)

theorem turns_stopping (h : v.stopping = true) : m.turns x more v = [] := by
  cases more <;> simp [turns, h]

theorem turns_last (h : v.stopping = false) (hend : more = 0 ∨ m.ending x v ≠ .waited) :
    m.turns x more v = [v] := by
  cases more with
  | zero => simp [turns, h]
  | succ more =>
    have hend := hend.resolve_left (Nat.succ_ne_zero more)
    cases he : m.ending x v with
    | waited => exact (hend he).elim
    | refused | reported f => simp [turns, h, he]

theorem turns_next (h : v.stopping = false) (hend : m.ending x v = .waited) :
    m.turns x (more + 1) v = v :: m.turns x more (m.round.after v) := by
  simp [turns, h, hend]

theorem calls_stopping (h : v.stopping = true) : m.calls x more v = [] := by
  rw [calls, turns_stopping h, List.flatMap_nil]

theorem calls_last (h : v.stopping = false) (hend : more = 0 ∨ m.ending x v ≠ .waited) :
    m.calls x more v = m.turnCalls x v := by
  rw [calls, turns_last h hend, List.flatMap_singleton]

theorem calls_next (h : v.stopping = false) (hend : m.ending x v = .waited) :
    m.calls x (more + 1) v = m.turnCalls x v ++ m.calls x more (m.round.after v) := by
  rw [calls, turns_next h hend, List.flatMap_cons, calls]

/-! ## What the loop does -/

theorem countP_wait_turnCalls (m : Monitor) (x : Float) (v : Watch) :
    (m.turnCalls x v).countP Event.isWait = ((m.ending x v).calls x).countP Event.isWait := by
  obtain ⟨hpoll, -⟩ := pollCalls_spec m v
  have hp : (m.pollCalls v).countP Event.isWait = 0 := by
    obtain h | ⟨_, _, _, h⟩ := hpoll <;> rw [h] <;> rfl
  have hr : (if m.Requests v then [Event.request] else []).countP Event.isWait = 0 := by
    split <;> rfl
  rw [turnCalls, List.countP_append, List.countP_append, hp, hr, Nat.zero_add]

theorem waits_of_ne (hend : m.ending x v ≠ .waited) :
    (m.turnCalls x v).countP Event.isWait = 0 := by
  rw [countP_wait_turnCalls]
  cases he : m.ending x v with
  | waited => exact (hend he).elim
  | refused | reported f => rfl

theorem waits_of_waited (hend : m.ending x v = .waited) :
    (m.turnCalls x v).countP Event.isWait = 1 := by
  rw [countP_wait_turnCalls, hend]
  rfl

theorem overtaken_spec (v : Watch) : v.overtaken.stopping = true ∧ v.overtaken.trace = v.trace := by
  rw [Watch.overtaken]
  split
  · exact ⟨‹_›, rfl⟩
  · exact ⟨rfl, rfl⟩

theorem idle_enter : Idle enter () := idle_log .info logger "Starting thread to monitor tables."

theorem idle_finish : Idle finish () := idle_log .info logger "Table monitor stopped"

theorem round_stopping (m : Monitor) (h : v.stopping = true) :
    v.Still (m.round.after v) ∧ m.round.outcome v = .ok false := by
  rw [round, after_bind, outcome_bind]
  simp only [outcome_get, after_get, h, if_true]
  refine idle_finish.bind (Q := fun u r => v.Still u ∧ r = .ok false) fun u hu => ?_
  exact ⟨hu, rfl⟩

end Monitor

/-- A loop that may go on for `n` waits has ended after the calls `cs`, and the flag of the monitor
says whether it has been stopped. -/
structure Watch.Done (v : Watch) (n : Nat) (cs : List Event) (u : Watch) : Prop where
  calls : loopCalls u.trace = loopCalls v.trace ++ cs
  stopping : u.stopping = true ↔ v.StoppedBy n cs

namespace Watch.Done

variable {v u t : Watch} {n : Nat} {cs ds : List Event}

theorem of_made (h : v.Made cs u) (hn : cs.countP Event.isWait < n) : v.Done n cs u where
  calls := h.calls
  stopping := by
    rw [h.stopping, StoppedBy]
    exact ⟨.inl, fun h => h.resolve_right (by omega)⟩

theorem after_made (h : v.Made cs u) (hcs : cs.countP Event.isWait = 1) (h' : u.Done n ds t) :
    v.Done (n + 1) (cs ++ ds) t where
  calls := by rw [h'.calls, h.calls, List.append_assoc]
  stopping := by
    rw [h'.stopping, StoppedBy, StoppedBy, h.told_append, List.countP_append, hcs,
      Nat.add_comm 1, Nat.add_le_add_iff_right]

end Watch.Done

namespace Monitor

variable {m : Monitor} {v : Watch} {x : Float} {more : Nat}

theorem rounds_of_false (more : Nat) (h : m.round.outcome v = .ok false) :
    (m.rounds more).outcome v = .ok () ∧ (m.rounds more).after v = m.round.after v := by
  cases more <;> simp [rounds, after_bind, outcome_bind, h]

theorem rounds_of_error {f : Fault} (more : Nat) (h : m.round.outcome v = .error f) :
    (m.rounds more).outcome v = .error f ∧ (m.rounds more).after v = m.round.after v := by
  cases more <;> simp [rounds, after_bind, outcome_bind, h]

/-- What a loop comes to: it fails if the wait of one of its turns is refused. -/
def loopOutcome (m : Monitor) (x : Float) (us : List Watch) : Except Fault Unit :=
  if us.any fun u => (m.ending x u).isRefused then .error .waitTooLong else .ok ()

theorem loopOutcome_last (hend : m.ending x v ≠ .waited) :
    m.loopOutcome x [v] = (m.ending x v).outcome.map fun _ => () := by
  rw [loopOutcome, List.any_cons, List.any_nil, Bool.or_false]
  cases he : m.ending x v with
  | waited => exact (hend he).elim
  | refused | reported f => rfl

theorem loopOutcome_next (hend : m.ending x v = .waited) (us : List Watch) :
    m.loopOutcome x (v :: us) = m.loopOutcome x us := by
  rw [loopOutcome, List.any_cons, hend]
  rfl

/-- The loop ends where it begins if the monitor is to stop, and in a turn without a wait. -/
theorem rounds_last (hpos : 0 < m.interval) (hx : m.seconds = .ok x) (reg : v.Regular)
    (h : v.stopping = true ∨ m.ending x v ≠ .waited) :
    (m.rounds more).outcome v = m.loopOutcome x (m.turns x more v) ∧
      v.Done (more + 1) (m.calls x more v) ((m.rounds more).after v) := by
  cases hs : v.stopping with
  | true =>
    obtain ⟨h₁, h₂⟩ := round_stopping m hs
    obtain ⟨h₃, h₄⟩ := rounds_of_false more h₂
    rw [h₄, calls_stopping hs, turns_stopping hs]
    exact ⟨h₃, .of_made h₁.made (by simp)⟩
  | false =>
    have hend : m.ending x v ≠ .waited := h.resolve_left (by simp [hs])
    obtain ⟨h₁, h₂⟩ := round_spec hpos hx reg hs
    have hlast : (m.rounds more).outcome v = (m.ending x v).outcome.map (fun _ => ()) ∧
        (m.rounds more).after v = m.round.after v := by
      cases he : m.ending x v with
      | waited => exact (hend he).elim
      | refused =>
        rw [he] at h₂
        exact rounds_of_error more h₂
      | reported f =>
        rw [he] at h₂
        exact rounds_of_false more h₂
    rw [hlast.1, hlast.2, calls_last hs (.inr hend), turns_last hs (.inr hend),
      loopOutcome_last hend]
    exact ⟨rfl, .of_made h₁ (by simp [waits_of_ne hend])⟩

/-- The loop goes on after a turn with a wait. -/
theorem rounds_next (hpos : 0 < m.interval) (hx : m.seconds = .ok x) (reg : v.Regular)
    (h : ¬ (v.stopping = true ∨ m.ending x v ≠ .waited)) :
    v.stopping = false ∧ m.ending x v = .waited ∧ v.Made (m.turnCalls x v) (m.round.after v) ∧
      m.round.outcome v = .ok true := by
  obtain ⟨hs, hend⟩ : v.stopping = false ∧ m.ending x v = .waited := by simpa using h
  obtain ⟨h₁, h₂⟩ := round_spec hpos hx reg hs
  rw [hend] at h₂
  exact ⟨hs, hend, h₁, h₂⟩

/-- **The loop makes the calls of its turns**, and the flag of the monitor says in the end whether
it has been stopped. -/
theorem rounds_spec (hpos : 0 < m.interval) (hx : m.seconds = .ok x) (more : Nat)
    (reg : v.Regular) :
    (m.rounds more).outcome v = m.loopOutcome x (m.turns x more v) ∧
      v.Done (more + 1) (m.calls x more v) ((m.rounds more).after v) := by
  induction more generalizing v with
  | zero =>
    by_cases hlast : v.stopping = true ∨ m.ending x v ≠ .waited
    · exact rounds_last hpos hx reg hlast
    · obtain ⟨hs, hend, h₁, h₂⟩ := rounds_next hpos hx reg hlast
      rw [rounds, after_bind, outcome_bind, h₂, calls_last hs (.inl rfl), turns_last hs (.inl rfl),
        loopOutcome_next hend]
      dsimp only
      rw [if_pos rfl, after_bind, outcome_bind]
      simp only [outcome_modify, after_modify]
      obtain ⟨hstop, htrace⟩ := overtaken_spec (m.round.after v)
      obtain ⟨h₃, h₄⟩ := idle_finish (m.round.after v).overtaken
      refine ⟨h₄, ?_, ?_⟩
      · rw [h₃.calls, List.append_nil, htrace, h₁.calls]
      · exact ⟨fun _ => .inr (by simp [waits_of_waited hend]), fun _ => h₃.made.stopping_of hstop⟩
  | succ more ih =>
    by_cases hlast : v.stopping = true ∨ m.ending x v ≠ .waited
    · exact rounds_last hpos hx reg hlast
    · obtain ⟨hs, hend, h₁, h₂⟩ := rounds_next hpos hx reg hlast
      rw [rounds, after_bind, outcome_bind, h₂, calls_next hs hend, turns_next hs hend,
        loopOutcome_next hend]
      dsimp only
      rw [if_pos rfl, after_bind, outcome_bind]
      simp only [outcome_get, after_get]
      split
      · rename_i hstop
        obtain ⟨h₃, h₄⟩ := idle_finish (m.round.after v)
        rw [calls_stopping hstop, turns_stopping hstop]
        exact ⟨h₄, .after_made h₁ (waits_of_waited hend) (.of_made h₃.made (by simp))⟩
      · obtain ⟨h₃, h₄⟩ := ih (reg.of_made h₁)
        exact ⟨h₃, .after_made h₁ (waits_of_waited hend) h₄⟩

/-! ## The order of the calls -/

theorem split_append {α : Type} {cs ds before after : List α} {e : α}
    (h : cs ++ ds = before ++ e :: after) :
    (∃ rest, cs = before ++ e :: rest ∧ after = rest ++ ds) ∨
      ∃ rest, before = cs ++ rest ∧ ds = rest ++ e :: after := by
  obtain ⟨rest, h₁, h₂⟩ | ⟨rest, h₁, h₂⟩ := List.append_eq_append_iff.mp h
  · exact .inr ⟨rest, h₁, h₂⟩
  · cases rest with
    | nil => exact .inr ⟨[], by simpa using h₁.symm, h₂.symm⟩
    | cons a rest =>
      obtain ⟨rfl, rfl⟩ := List.cons.inj h₂
      exact .inl ⟨rest, h₁, rfl⟩

theorem split_singleton {α : Type} {before after : List α} {a e : α}
    (h : [a] = before ++ e :: after) : before = [] ∧ e = a ∧ after = [] := by
  obtain ⟨rfl, h⟩ | ⟨-, h⟩ := List.append_eq_singleton_iff.mp h.symm
  · obtain ⟨rfl, rfl⟩ := List.cons.inj h
    exact ⟨rfl, rfl, rfl⟩
  · cases h

/-- In a turn, queries and requests start before anything told the monitor to stop. -/
theorem turn_start (hs : v.stopping = false) {before after : List Event} {e : Event}
    (h : m.turnCalls x v = before ++ e :: after) (he : e.isQuery = true ∨ e.isRequest = true) :
    ¬ v.Told before ∧ before.countP Event.isWait = 0 := by
  obtain ⟨hpoll, hmade⟩ := pollCalls_spec m v
  obtain ⟨_, hstart, -⟩ | ⟨_, -, hlast⟩ := split_append h
  · obtain ⟨_, hquery, -⟩ | ⟨_, rfl, hrequest⟩ := split_append hstart
    · obtain hp | ⟨_, _, _, hp⟩ := hpoll <;> rw [hp] at hquery
      · simp at hquery
      · obtain ⟨rfl, -, -⟩ := split_singleton hquery
        simp [Watch.Told, hs]
    · split at hrequest
      · rename_i hyes
        obtain ⟨rfl, -, -⟩ := split_singleton hrequest
        rw [List.append_nil, ← hmade.stopping, hyes.2]
        refine ⟨Bool.false_ne_true, ?_⟩
        obtain hp | ⟨_, _, _, hp⟩ := hpoll <;> rw [hp] <;> rfl
      · simp at hrequest
  · have hmem : e ∈ (m.ending x v).calls x := by
      rw [hlast]
      simp
    obtain ⟨hquery, hrequest⟩ := Ending.calls_neither hmem
    simp [hquery, hrequest] at he

/-- A report is the last call of its turn. -/
theorem turn_report {before after : List Event} {f : Fault}
    (h : m.turnCalls x v = before ++ .raiseError f :: after) :
    m.turnFault v = some f ∧ after = [] := by
  obtain ⟨hpoll, -⟩ := pollCalls_spec m v
  obtain ⟨rest, h, -⟩ | ⟨rest, -, h⟩ := split_append h
  · have hmem : Event.raiseError f ∈ m.pollCalls v ++ if m.Requests v then [.request] else [] := by
      rw [h]
      simp
    obtain hp | ⟨_, _, _, hp⟩ := hpoll <;> rw [hp] at hmem <;> split at hmem <;> simp at hmem
  · have hreported : m.ending x v = .reported f ∧ after = [] := by
      cases hend : m.ending x v with
      | refused => simp [hend, Ending.calls] at h
      | waited =>
        rw [hend] at h
        obtain ⟨-, hlast, -⟩ := split_singleton h
        cases hlast
      | reported g =>
        rw [hend] at h
        obtain ⟨-, hlast, rfl⟩ := split_singleton h
        cases hlast
        exact ⟨rfl, rfl⟩
    exact ⟨ending_eq_reported_iff.mp hreported.1, hreported.2⟩

/-- What holds of the calls of a loop is shown turn by turn: without a turn, for the last turn, and
for one after which the loop goes on. -/
theorem calls_induction {P : Nat → Watch → List Event → Prop} (hpos : 0 < m.interval)
    (hx : m.seconds = .ok x) (stopped : ∀ more v, v.stopping = true → P more v [])
    (last : ∀ more v, v.Regular → v.stopping = false →
      (more = 0 ∨ m.ending x v ≠ .waited) → P more v (m.turnCalls x v))
    (next : ∀ more v, v.stopping = false → m.ending x v = .waited →
      v.Made (m.turnCalls x v) (m.round.after v) →
      P more (m.round.after v) (m.calls x more (m.round.after v)) →
      P (more + 1) v (m.turnCalls x v ++ m.calls x more (m.round.after v)))
    (more : Nat) (reg : v.Regular) : P more v (m.calls x more v) := by
  induction more generalizing v with
  | zero =>
    cases hs : v.stopping with
    | true => exact calls_stopping hs ▸ stopped 0 v hs
    | false => exact calls_last hs (.inl rfl) ▸ last 0 v reg hs (.inl rfl)
  | succ more ih =>
    cases hs : v.stopping with
    | true => exact calls_stopping hs ▸ stopped (more + 1) v hs
    | false =>
      by_cases hend : m.ending x v = .waited
      · obtain ⟨hmade, -⟩ := round_spec hpos hx reg hs
        exact calls_next hs hend ▸ next more v hs hend hmade (ih (reg.of_made hmade))
      · exact calls_last hs (.inr hend) ▸ last (more + 1) v reg hs (.inr hend)

/-- **Nothing starts once the monitor is to stop.** -/
theorem calls_start (hpos : 0 < m.interval) (hx : m.seconds = .ok x) (reg : v.Regular)
    (before after : List Event) (e : Event) (h : m.calls x more v = before ++ e :: after)
    (he : e.isQuery = true ∨ e.isRequest = true) : ¬ v.StoppedBy (more + 1) before := by
  revert before
  refine calls_induction (P := fun more v cs => ∀ before, cs = before ++ e :: after →
    ¬ v.StoppedBy (more + 1) before) hpos hx ?_ ?_ ?_ more reg
  · intro more v _ before h
    simp at h
  · intro more v _ hs _ before h
    obtain ⟨htold, hwaits⟩ := turn_start hs h he
    rintro (ht | hw)
    · exact htold ht
    · omega
  · intro more v hs hend hmade ih before h hstop
    obtain ⟨_, hturn, -⟩ | ⟨rest, rfl, hrest⟩ := split_append h
    · obtain ⟨htold, hwaits⟩ := turn_start hs hturn he
      obtain ht | hw := hstop
      · exact htold ht
      · omega
    · refine ih rest hrest ?_
      obtain ht | hw := hstop
      · exact .inl (hmade.told_append.mp ht)
      · rw [List.countP_append, waits_of_waited hend] at hw
        exact .inr (by omega)

/-- **A report is the last call of a loop.** -/
theorem calls_report (hpos : 0 < m.interval) (hx : m.seconds = .ok x) (reg : v.Regular)
    (before after : List Event) (f : Fault)
    (h : m.calls x more v = before ++ .raiseError f :: after) : after = [] := by
  revert before
  refine calls_induction (P := fun more v cs => ∀ before, cs = before ++ .raiseError f :: after →
    after = []) hpos hx ?_ ?_ ?_ more reg
  · intro more v _ before h
    simp at h
  · intro more v _ _ _ before h
    exact (turn_report h).2
  · intro more v _ hend _ ih before h
    obtain ⟨_, hturn, -⟩ | ⟨rest, -, hrest⟩ := split_append h
    · cases hend.symm.trans (ending_eq_reported_iff.mpr (turn_report hturn).1)
    · exact ih rest hrest

/-- A turn whose wait is refused ends without a report, and the monitor is not to stop. -/
theorem not_ended_of_refused (reg : v.Regular) (hend : m.ending x v = .refused) :
    ¬ (v.StoppedBy (more + 1) (m.turnCalls x v) ∨
      ∃ f, (m.turnCalls x v).getLast? = some (.raiseError f)) := by
  obtain ⟨hnone, hstop, -⟩ := ending_eq_refused_iff.mp hend
  rintro ((htold | hwaits) | ⟨f, hlast⟩)
  · obtain ⟨hmade, -⟩ := pollAndRequest_spec (m := m) reg
    rw [turnCalls, hend, Ending.calls, List.append_nil, ← hmade.stopping, hstop] at htold
    cases htold
  · rw [waits_of_ne (by simp [hend])] at hwaits
    exact Nat.not_succ_le_zero more hwaits
  · obtain ⟨_, _, h⟩ := List.append_of_mem (List.mem_of_getLast? hlast)
    cases hnone.symm.trans (turn_report h).1

/-- **A loop ends by a shutdown or with a report, unless it fails.** -/
theorem calls_end (hpos : 0 < m.interval) (hx : m.seconds = .ok x) (reg : v.Regular) :
    m.loopOutcome x (m.turns x more v) = .ok () ↔
      v.StoppedBy (more + 1) (m.calls x more v) ∨
        ∃ f, (m.calls x more v).getLast? = some (.raiseError f) := by
  refine calls_induction (P := fun more v cs => m.loopOutcome x (m.turns x more v) = .ok () ↔
    v.StoppedBy (more + 1) cs ∨ ∃ f, cs.getLast? = some (.raiseError f)) hpos hx ?_ ?_ ?_ more reg
  · intro more v hs
    rw [turns_stopping hs]
    exact iff_of_true rfl (.inl (.inl (.inl hs)))
  · intro more v reg hs hlast
    rw [turns_last hs hlast]
    cases hend : m.ending x v with
    | waited =>
      obtain rfl : more = 0 := by simpa [hend] using hlast
      rw [loopOutcome_next hend]
      exact iff_of_true rfl (.inl (.inr (by simp [waits_of_waited hend])))
    | refused =>
      rw [loopOutcome_last (by simp [hend]), hend]
      exact iff_of_false (by simp [Ending.outcome, Except.map]) (not_ended_of_refused reg hend)
    | reported f =>
      rw [loopOutcome_last (by simp [hend]), hend]
      exact iff_of_true rfl (.inr ⟨f, by simp [turnCalls, hend, Ending.calls]⟩)
  · intro more v hs hend hmade ih
    rw [turns_next hs hend, loopOutcome_next hend, ih]
    refine or_congr ?_ (exists_congr fun f => ?_)
    · rw [Watch.StoppedBy, Watch.StoppedBy, hmade.told_append, List.countP_append,
        waits_of_waited hend, Nat.add_comm 1, Nat.add_le_add_iff_right]
    · cases hrest : m.calls x more (m.round.after v) with
      | nil =>
        refine iff_of_false (by simp) fun hlast => ?_
        rw [List.append_nil] at hlast
        obtain ⟨_, _, h⟩ := List.append_of_mem (List.mem_of_getLast? hlast)
        cases hend.symm.trans (ending_eq_reported_iff.mpr (turn_report h).1)
      | cons c cs => rw [List.getLast?_append_of_ne_nil _ (List.cons_ne_nil c cs)]

/-- A fault is reported if it ended a turn. -/
theorem mem_calls_report (m : Monitor) (x : Float) (more : Nat) (v : Watch) (f : Fault) :
    .raiseError f ∈ m.calls x more v ↔ ∃ u ∈ m.turns x more v, m.turnFault u = some f := by
  rw [calls, List.mem_flatMap]
  refine exists_congr fun u => and_congr_right fun _ => ?_
  constructor
  · intro h
    obtain ⟨before, after, h⟩ := List.append_of_mem h
    exact (turn_report h).1
  · intro h
    simp [turnCalls, ending_eq_reported_iff.mpr h, Ending.calls]

/-- Every turn begins while the monitor is not to stop. -/
theorem turns_running {u : Watch} (h : u ∈ m.turns x more v) : u.stopping = false := by
  induction more generalizing v with
  | zero =>
    rw [turns] at h
    split at h
    · cases h
    · rw [List.mem_singleton] at h
      simpa [h] using ‹¬ v.stopping = true›
  | succ more ih =>
    rw [turns] at h
    split at h
    · cases h
    · obtain rfl | h := List.mem_cons.mp h
      · simpa using ‹¬ u.stopping = true›
      · split at h
        · exact ih h
        · cases h

/-- Every turn begins in a regular state of the same script. -/
theorem turns_regular (hpos : 0 < m.interval) (hx : m.seconds = .ok x) (reg : v.Regular)
    {u : Watch} (h : u ∈ m.turns x more v) : u.Regular ∧ u.script = v.script := by
  induction more generalizing v with
  | zero =>
    rw [turns] at h
    split at h
    · cases h
    · rw [List.mem_singleton.mp h]
      exact ⟨reg, rfl⟩
  | succ more ih =>
    cases hs : v.stopping with
    | true =>
      rw [turns_stopping hs] at h
      cases h
    | false =>
      by_cases hend : m.ending x v = .waited
      · rw [turns_next hs hend] at h
        obtain rfl | h := List.mem_cons.mp h
        · exact ⟨reg, rfl⟩
        · obtain ⟨hmade, -⟩ := round_spec hpos hx reg hs
          obtain ⟨hreg, hscript⟩ := ih (reg.of_made hmade) h
          exact ⟨hreg, hscript.trans hmade.script⟩
      · rw [turns_last hs (.inr hend)] at h
        rw [List.mem_singleton.mp h]
        exact ⟨reg, rfl⟩

theorem turnFault_eq_some_iff {f : Fault} :
    m.turnFault v = some f ↔ m.poll.outcome v = .error f ∨
      (m.Requests v ∧ v.reaction v.host.requests = .fail f) := by
  have hpoll (h : m.Requests v) : m.poll.outcome v = .ok true := (outcome_eq_true_iff m v).mpr h.1
  rw [turnFault]
  cases ho : m.poll.outcome v with
  | error g =>
    have hno : ¬ m.Requests v := fun h => by cases ho.symm.trans (hpoll h)
    simp [hno]
  | ok b =>
    by_cases hr : m.Requests v
    · cases hreaction : v.reaction v.host.requests <;> simp [hr]
    · simp [hr]

/-! ## Runs -/

/-- The states in which the polls of a run begin that is stopped in its `n`-th wait, the first one
at least. -/
def runTurns (m : Monitor) (x : Float) (n : Nat) (w : Watch) : List Watch :=
  m.turns x (n - 1) (enter.after w)

/-- The calls of a run, turn by turn. -/
def runCalls (m : Monitor) (x : Float) (n : Nat) (w : Watch) : List Event :=
  (m.runTurns x n w).flatMap (m.turnCalls x)

/-- What a run does that is stopped in its `n`-th wait, the first one at least. -/
structure RunsInTurns (m : Monitor) (x : Float) (n : Nat) (w : Watch) : Prop where
  /-- The run returns, unless the wait of a turn is refused. -/
  returns : (m.run n).outcome w = .ok () ∨ (m.run n).outcome w = .error .waitTooLong
  /-- A wait is refused where no fault ends the turn, the monitor is not to stop, and the platform
  cannot wait for so long. -/
  refuses : (m.run n).outcome w = .error .waitTooLong ↔ ∃ u ∈ m.runTurns x n w,
    m.turnFault u = none ∧ (m.pollAndRequest.after u).stopping = false ∧
      w.script.refusesWait x = true
  /-- Its calls are those of its turns: those of a poll, one request if the poll replaced a snapshot
  and the monitor is not to stop when it ends, and a report or a wait. -/
  calls : loopCalls ((m.run n).after w).trace = loopCalls w.trace ++ m.runCalls x n w
  /-- A poll begins only if the monitor is not to stop, makes one query at most, and tells whether
  it replaced a snapshot. -/
  polls : ∀ u ∈ m.runTurns x n w, u.stopping = false ∧
    (m.pollCalls u = [] ∨ ∃ connection text parameters,
      m.pollCalls u = [.query connection text parameters]) ∧
    (m.poll.outcome u = .ok true ↔ m.Replaces u)
  /-- No query and no request is started once the monitor is to stop. -/
  starts : ∀ before e after, m.runCalls x n w = before ++ e :: after →
    e.isQuery = true ∨ e.isRequest = true → ¬ w.StoppedBy (max n 1) before
  /-- The flag of the monitor says in the end whether it is to stop. -/
  stopping : ((m.run n).after w).stopping = true ↔ w.StoppedBy (max n 1) (m.runCalls x n w)
  /-- Those faults are reported that leave a poll or a request. -/
  reports : ∀ f, .raiseError f ∈ m.runCalls x n w ↔ ∃ u ∈ m.runTurns x n w,
    m.poll.outcome u = .error f ∨ (m.Requests u ∧ u.reaction u.host.requests = .fail f)
  /-- Nothing follows a report. -/
  reportsLast : ∀ before f after, m.runCalls x n w = before ++ .raiseError f :: after → after = []
  /-- The run ends by a shutdown or after a report if it returns, and in neither way otherwise. -/
  ends : (m.run n).outcome w = .ok () ↔ ((m.run n).after w).stopping = true ∨
    ∃ f, (m.runCalls x n w).getLast? = some (.raiseError f)

theorem run_views (m : Monitor) (n : Nat) (w : Watch) :
    (m.run n).outcome w = (m.rounds (n - 1)).outcome (enter.after w) ∧
      (m.run n).after w = (m.rounds (n - 1)).after (enter.after w) := by
  obtain ⟨-, hout⟩ := idle_enter w
  rw [run, outcome_bind, after_bind, hout]
  exact ⟨rfl, rfl⟩

/-- The wait of some turn of a loop is refused. -/
theorem loopOutcome_views (us : List Watch) :
    (m.loopOutcome x us = .ok () ∨ m.loopOutcome x us = .error .waitTooLong) ∧
      (m.loopOutcome x us = .error .waitTooLong ↔ ∃ u ∈ us, m.ending x u = .refused) := by
  have hany : us.any (fun u => (m.ending x u).isRefused) = true ↔
      ∃ u ∈ us, m.ending x u = .refused := by
    rw [List.any_eq_true]
    refine exists_congr fun u => and_congr_right fun _ => ?_
    cases m.ending x u <;> simp [Ending.isRefused]
  rw [loopOutcome, ← hany]
  split <;> simp_all

/-- **A run of the loop.** Requests follow the polls that replace a snapshot, nothing starts after a
shutdown, a fault is reported once and last, and the run ends in no other way, but for a wait that
the platform refuses. -/
theorem run_in_turns (m : Monitor) (hpos : 0 < m.interval) (x : Float) (hx : m.seconds = .ok x)
    (n : Nat) (w : Watch) (reg : w.Regular) : m.RunsInTurns x n w := by
  obtain ⟨hlog, -⟩ := idle_enter w
  have hn : max n 1 = n - 1 + 1 := by omega
  obtain ⟨hrun₁, hrun₂⟩ := run_views m n w
  have hcalls : m.runCalls x n w = m.calls x (n - 1) (enter.after w) := rfl
  have hturns : m.runTurns x n w = m.turns x (n - 1) (enter.after w) := rfl
  have hscript : (enter.after w).script = w.script := hlog.script
  generalize enter.after w = v at *
  have regv : v.Regular := reg.of_made hlog.made
  have hstop (cs : List Event) : w.StoppedBy (max n 1) cs ↔ v.StoppedBy (n - 1 + 1) cs := by
    rw [Watch.StoppedBy, Watch.StoppedBy, hn, ← hlog.made.told_append, List.nil_append]
  obtain ⟨hout, hdone⟩ := rounds_spec hpos hx (n - 1) regv
  rw [← hrun₁, ← hturns] at hout
  rw [← hrun₂, ← hcalls] at hdone
  obtain ⟨hreturns, hrefused⟩ := loopOutcome_views (m := m) (x := x) (m.runTurns x n w)
  rw [← hout] at hreturns hrefused
  refine ⟨hreturns, ?_, ?_, ?_, ?_, ?_, ?_, ?_, ?_⟩
  · rw [hrefused]
    refine exists_congr fun u => and_congr_right fun hu => ?_
    rw [ending_eq_refused_iff, (turns_regular hpos hx regv (hturns ▸ hu)).2, hscript]
  · rw [hdone.calls, hlog.calls, List.append_nil]
  · intro u hu
    exact ⟨turns_running (hturns ▸ hu), (pollCalls_spec m u).1, outcome_eq_true_iff m u⟩
  · intro before e after h he
    rw [hstop]
    exact calls_start hpos hx regv before after e (hcalls ▸ h) he
  · rw [hstop]
    exact hdone.stopping
  · intro f
    rw [hcalls, hturns, mem_calls_report]
    simp only [turnFault_eq_some_iff]
  · intro before f after h
    exact calls_report hpos hx regv before after f (hcalls ▸ h)
  · rw [hdone.stopping, hout, hturns, hcalls]
    exact calls_end hpos hx regv

/-- The seconds between the polls of the shop. -/
def shopSeconds : Float := Float.ofInt 1000 / 1000.0

theorem shop_seconds : shop.seconds = .ok shopSeconds := by
  have finite : (Float.ofInt 1000).isInf = false := by decide
  simp [seconds, secondsOfMilliseconds, Number.ofInt?, shop, finite, shopSeconds]

/-- A shop is regular if its listings end in failures at most, and its host too. -/
theorem regular_shopWatch {ls : List Listing} {reaction : Nat → Host.Reaction}
    (hls : ∀ l ∈ ls, ∀ f stage, l.failure = some (f, stage) → f.isFailure = true)
    (hreaction : ∀ k f, reaction k = .fail f → f.isFailure = true) :
    Watch.Regular { shopWatch ls with reaction := reaction } where
  announced := rfl
  ordinary :=
    { connect := by simp [shopWatch]
      session := by simp [shopWatch]
      ping := by simp [shopWatch]
      close := by simp [shopWatch]
      listing := fun n f stage h => by
        simp only [shopWatch, List.getD_eq_getElem?_getD] at h
        cases hl : ls[n]? with
        | none => simp [hl] at h
        | some l =>
          rw [hl] at h
          exact hls l (List.mem_of_getElem? hl) f stage h }
  reactions := hreaction

/-- A host that stops the monitor in the first request: items appear one poll after the connection
broke, and no poll follows. -/
theorem run_in_turns_shop :
    let w : Watch :=
      { shopWatch [shopListing ["orders"], brokenListing, shopListing ["items", "orders"]] with
        reaction := fun _ => .shutDown }
    0 < shop.interval ∧ shop.seconds = .ok shopSeconds ∧ w.Regular ∧
      shop.RunsInTurns shopSeconds 5 w ∧ (shop.run 5).outcome w = .ok () ∧
      ((shop.run 5).after w).stopping = true ∧
      (shop.runCalls shopSeconds 5 w).map Event.isQuery =
        [true, false, true, false, true, false, false] ∧
      (shop.runCalls shopSeconds 5 w).map Event.isRequest =
        [false, false, false, false, false, true, false] := by
  intro w
  have reg : w.Regular := by
    refine regular_shopWatch (fun l hl f stage h => ?_) (by simp)
    simp only [List.mem_cons, List.not_mem_nil, or_false] at hl
    obtain rfl | rfl | rfl := hl <;> cases h
    rfl
  have h := run_in_turns shop (by decide) shopSeconds shop_seconds 5 w reg
  have hstop : ((shop.run 5).after w).stopping = true := by
    refine h.stopping.mpr (.inl (.inr (.inr ⟨0, ?_, rfl⟩)))
    decide +kernel
  refine ⟨by decide, shop_seconds, reg, h, h.ends.mpr (.inl hstop), hstop, ?_, ?_⟩ <;>
    decide +kernel

/-- A shop that is polled every ten thousand million seconds. -/
def patientShop : Monitor := { shop with interval := 10000000000000 }

/-- The seconds between the polls of the patient shop. -/
def patientSeconds : Float := Float.ofInt 10000000000000 / 1000.0

/-- The platform cannot wait for so long. The run ends after its first poll, while the monitor is
not to stop, and the host is not told. -/
theorem run_ends_untold :
    let w := shopWatch [shopListing ["orders"]]
    patientShop.seconds = .ok patientSeconds ∧ w.Regular ∧
      (patientShop.run 1).outcome w = .error .waitTooLong ∧
      ((patientShop.run 1).after w).stopping = false ∧
      (loopCalls ((patientShop.run 1).after w).trace).map Event.isQuery = [true] := by
  intro w
  have finite : (Float.ofInt 10000000000000).isInf = false := by decide +kernel
  have hx : patientShop.seconds = .ok patientSeconds := by
    simp [seconds, secondsOfMilliseconds, Number.ofInt?, patientShop, finite, patientSeconds]
  have reg : w.Regular := regular_shopWatch (by simp [shopListing]) (by simp)
  obtain ⟨hrun, -⟩ := run_views patientShop 1 w
  have regv : (enter.after w).Regular := reg.of_made (idle_enter w).1.made
  obtain ⟨hout, -⟩ := rounds_spec (m := patientShop) (by decide) hx 0 regv
  have hrefused : (patientShop.turns patientSeconds 0 (enter.after w)).any
      (fun u => (patientShop.ending patientSeconds u).isRefused) = true := by decide +kernel
  refine ⟨hx, reg, ?_, by decide +kernel, by decide +kernel⟩
  rw [hrun, hout, loopOutcome, if_pos hrefused]

end Monitor

end TableDiscovery
