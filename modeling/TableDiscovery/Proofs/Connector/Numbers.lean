import TableDiscovery.Proofs.Assignment
import TableDiscovery.Proofs.Connector.Faults
import TableDiscovery.Proofs.Monitor.Turn
import TableDiscovery.Proofs.Number.Limit

/-!
# Numbers that are accepted

Counts and intervals are checked when settings are read, and are relied on by the provider, the
monitor and the assignment. Two of them are times that are converted to seconds and then waited for,
which takes that they are not too large for a double and for the platform.

* `Settings.Checked`, `Settings.Read.checked`: the checks that settings pass once they are read;
* `exists_seconds_iff`: which times are converted;
* `Monitor.Unwaited`, `Monitor.advance_of_unwaited`: what keeps the loop from its wait, and how it
  ends then;
* `Connector.fault_of_accepted`: how a start fails with accepted numbers;
* **`Connector.accepted_numbers`**: what becomes of accepted numbers.
-/

namespace TableDiscovery

open Act

/-! ## Checks and conversions -/

/-- The provider, the monitor and the assignment take the numbers of the settings. -/
structure Settings.Checked (s : Settings) : Prop where
  provider : ∀ d, Provider.check (s.provider d) = .ok (s.provider d)
  monitor : ∀ d t timeout, Monitor.check (s.monitor d t timeout) = .ok (s.monitor d t timeout)
  tasks : ∀ tables queryMode, ∃ groups,
    Assignment.assign tables s.tasksMax queryMode = .ok groups

theorem Settings.Read.checked {p : Props} {s : Settings} (h : s.Read p) : s.Checked where
  provider := h.check_provider
  monitor := h.check_monitor
  tasks tables queryMode := by
    cases queryMode with
    | true => exact ⟨_, Assignment.assign_query h.one_le_tasksMax tables⟩
    | false =>
      obtain ⟨groups, hgroups, -⟩ := Assignment.assign_spec tables h.one_le_tasksMax
      exact ⟨groups, hgroups⟩

/-- **Times below the limit are converted.** -/
theorem exists_seconds_iff {n : Int} (h : 0 ≤ n) :
    (∃ x, secondsOfMilliseconds n = .ok x) ↔ n < Number.limit := by
  rw [← Number.exists_ofInt_iff h, secondsOfMilliseconds]
  cases Number.ofInt? n with
  | some x => exact iff_of_true ⟨_, rfl⟩ ⟨x, rfl⟩
  | none =>
    constructor <;> rintro ⟨x, hx⟩ <;> cases hx

theorem seconds_of_limit_le {n : Int} (h : 0 ≤ n) (hlarge : Number.limit ≤ n) :
    secondsOfMilliseconds n = .error .integerTooLarge := by
  cases hseconds : secondsOfMilliseconds n with
  | error f => rw [seconds_eq_error hseconds]
  | ok x =>
    have hsmall := (exists_seconds_iff h).mp ⟨x, hseconds⟩
    omega

namespace Monitor

variable {m : Monitor} {v w : Watch} {f : Fault}

/-- What keeps the loop from its wait: there are no seconds to wait for, or the platform does not
wait for so many, which it is asked unless the monitor is to stop. -/
inductive Unwaited (m : Monitor) (v : Watch) : Fault → Prop
  | large {f : Fault} : m.seconds = .error f → Unwaited m v f
  | long {x : Float} : m.seconds = .ok x → v.stopping = false → v.script.refusesWait x = true →
    Unwaited m v .waitTooLong

/-- A wait that cannot begin leaves no trace but logs, and comes out of the loop. -/
theorem awaitPoll_of_unwaited (hpos : 0 < m.interval)
    (hshort : m.interval.natAbs < Nat.pow 10 Text.maxDigits) (h : m.Unwaited v f) :
    v.Still (m.awaitPoll.after v) ∧ m.awaitPoll.outcome v = .error f := by
  cases h with
  | large hseconds =>
    have htext := Text.writeInt_of_lt hshort
    unfold awaitPoll
    generalize Text.writeInt? m.interval = announced at htext ⊢
    subst htext
    refine (idle_log _ _ _).bind (Q := fun u r => v.Still u ∧ r = .error f) fun u hu => ?_
    rw [after_bind, outcome_bind, outcome_ofExcept, after_ofExcept, hseconds]
    exact ⟨hu, rfl⟩
  | long hseconds running hrefuses =>
    have hwait := awaitPoll_spec hpos hseconds v
    rwa [running, hrefuses, if_pos (show (!false && true) = true from rfl)] at hwait

/-- If nothing keeps the loop from its wait, it waits. -/
theorem awaitPoll_of_waited (hpos : 0 < m.interval) (h : ∀ f, ¬ m.Unwaited v f) :
    m.awaitPoll.outcome v = .ok () := by
  cases hseconds : m.seconds with
  | error f => exact (h f (.large hseconds)).elim
  | ok x =>
    have hwait := awaitPoll_spec hpos hseconds v
    split at hwait
    · rename_i hrefused
      obtain ⟨running, hrefuses⟩ := Bool.and_eq_true_iff.mp hrefused
      exact (h _ (.long hseconds (by simpa using running) hrefuses)).elim
    · exact hwait.2

/-- After a good poll, a round goes as its wait does. -/
theorem round_of_poll (running : w.stopping = false) (hpoll : m.pollAndRequest.outcome w = .ok ()) :
    m.round.after w = m.awaitPoll.after (m.pollAndRequest.after w) ∧
      m.round.outcome w = (m.awaitPoll.outcome (m.pollAndRequest.after w)).map fun _ => true := by
  rw [round, after_bind, outcome_bind]
  simp only [outcome_get, after_get, running, Bool.false_eq_true, if_false]
  rw [after_bind, outcome_bind, outcome_attempt, after_attempt, hpoll]
  dsimp only
  rw [after_bind, outcome_bind]
  generalize m.awaitPoll.outcome (m.pollAndRequest.after w) = r
  generalize m.awaitPoll.after (m.pollAndRequest.after w) = u
  cases r with
  | ok => exact ⟨rfl, rfl⟩
  | error f => exact ⟨rfl, rfl⟩

/-- The thread ends where a wait cannot begin, and the host is told nothing of it. -/
theorem advance_of_unwaited (hpos : 0 < m.interval)
    (hshort : m.interval.natAbs < Nat.pow 10 Text.maxDigits) (running : w.stopping = false)
    (hpoll : m.pollAndRequest.outcome w = .ok ()) (h : m.Unwaited (m.pollAndRequest.after w) f) :
    ∃ v, (m.pollAndRequest.after w).Still v ∧ m.advance.after w = { v with thread := .ended } := by
  obtain ⟨hafter, hout⟩ := round_of_poll running hpoll
  obtain ⟨hstill, hwait⟩ := awaitPoll_of_unwaited hpos hshort h
  refine ⟨_, hstill, ?_⟩
  rw [advance, after_bind, outcome_attempt, after_attempt, hout, hafter, hwait]
  rfl

/-- Otherwise the thread waits. -/
theorem advance_of_waited (hpos : 0 < m.interval) (running : w.stopping = false)
    (hpoll : m.pollAndRequest.outcome w = .ok ())
    (h : ∀ f, ¬ m.Unwaited (m.pollAndRequest.after w) f) :
    (m.advance.after w).thread = .waiting := by
  obtain ⟨hafter, hout⟩ := round_of_poll running hpoll
  rw [advance, after_bind, outcome_attempt, after_attempt, hout, hafter,
    awaitPoll_of_waited hpos h]
  rfl

end Monitor

/-! ## Accepted numbers -/

namespace Connector

variable {p : Props} {s : Settings}

/-- What a start with accepted numbers may fail of: what is documented, a URL, a time between
attempts that is too large for a double, or a pause that cannot be made. -/
theorem fault_of_accepted {c : Connector} {f : Fault} (h : Settings.ofProps p = .ok s)
    (hscript : ∀ d, s.dialect = .ok d → c.script.FailsTransiently d)
    (hout : (start p).outcome c = .error f) :
    Documented f ∨ (∃ cause, f = .url cause) ∨ (Number.limit ≤ s.backoff ∧ f = .integerTooLarge) ∨
      Stalled p c.script f := by
  have hs := Settings.read_of_ofProps h
  have hbackoff : 0 ≤ s.backoff := (Props.integer_eq_ok_iff.mp hs.backoff).2
  have htransient : ∀ s d, Settings.ofProps p = .ok s → s.dialect = .ok d →
      c.script.FailsTransiently d := by
    intro s' d hread
    cases h.symm.trans hread
    exact hscript d
  obtain hdocumented | hescapes | hstalled := fault_of_start htransient hout
  · exact .inl hdocumented
  · cases hescapes with
    | scheme => exact .inr (.inl ⟨_, rfl⟩)
    | connection hread _ _ hfault =>
      cases h.symm.trans hread
      cases hfault with
      | backoff hseconds =>
        have hlarge : ¬ s.backoff < Number.limit := by
          intro hsmall
          obtain ⟨x, hx⟩ := (exists_seconds_iff hbackoff).mpr hsmall
          cases hx.symm.trans hseconds
        exact .inr (.inr (.inl ⟨Int.not_lt.mp hlarge, rfl⟩))
      | target => exact .inr (.inl ⟨_, rfl⟩)
  · exact .inr (.inr (.inr hstalled))

/-- **What becomes of accepted numbers.** All checks that they meet later are passed, and times are
converted if they are below the limit. A start fails of its numbers if the time between attempts is
not converted, or if a pause between attempts cannot be made. The loop waits after a good poll
unless its interval is not converted or refused by the platform: then it ends, and the host is told
nothing. -/
theorem accepted_numbers (h : Settings.ofProps p = .ok s) :
    s.Checked ∧
    ((∃ x, secondsOfMilliseconds s.backoff = .ok x) ↔ s.backoff < Number.limit) ∧
    ((∃ x, secondsOfMilliseconds s.pollInterval = .ok x) ↔ s.pollInterval < Number.limit) ∧
    (∀ c f, (∀ d, s.dialect = .ok d → c.script.FailsTransiently d) →
      (start p).outcome c = .error f →
      Documented f ∨ (∃ cause, f = .url cause) ∨
        (Number.limit ≤ s.backoff ∧ f = .integerTooLarge) ∨ Stalled p c.script f) ∧
    (∀ c t d, c.dialect = none → s.filter = .ok t → s.dialect = .ok d →
      (Number.limit ≤ s.backoff → (start p).outcome c = .error .integerTooLarge) ∧
      (d.ReachesDriver → c.script.FailsTransiently d →
        (c.script.connect c.counts.connect).isSome = true → Stalled p c.script .waitTooLong →
        (start p).outcome c = .error .waitTooLong)) ∧
    (∀ d t timeout (w : Watch), w.stopping = false →
      (s.monitor d t timeout).pollAndRequest.outcome w = .ok () →
      (∀ f, (s.monitor d t timeout).Unwaited ((s.monitor d t timeout).pollAndRequest.after w) f →
        ∃ v, ((s.monitor d t timeout).pollAndRequest.after w).Still v ∧
          (s.monitor d t timeout).advance.after w = { v with thread := .ended }) ∧
      ((∀ f, ¬ (s.monitor d t timeout).Unwaited
          ((s.monitor d t timeout).pollAndRequest.after w) f) →
        ((s.monitor d t timeout).advance.after w).thread = .waiting)) := by
  have hs := Settings.read_of_ofProps h
  have hbackoff : 0 ≤ s.backoff := (Props.integer_eq_ok_iff.mp hs.backoff).2
  have hpos : 0 < s.pollInterval := hs.one_le_pollInterval
  refine ⟨hs.checked, exists_seconds_iff hbackoff, exists_seconds_iff hpos.le,
    fun c f => fault_of_accepted h, fun c t d hd ht hdialect => ⟨fun hlarge => ?_, ?_⟩,
    fun d t timeout w running hpoll => ⟨fun f hf => ?_, fun hnone => ?_⟩⟩
  · exact start_of_escapes hd
      (.connection h ht hdialect (.backoff (seconds_of_limit_le hbackoff hlarge)))
  · exact fun hreach hscript hfails => start_of_long hd h ht hdialect hreach hscript hfails
  · exact Monitor.advance_of_unwaited hpos hs.pollInterval_lt running hpoll hf
  · exact Monitor.advance_of_waited hpos running hpoll hnone

theorem accepted_numbers_shop :
    Settings.ofProps shopProps = .ok shopSettings ∧ shopSettings.Checked ∧
      (∃ x, secondsOfMilliseconds shopSettings.backoff = .ok x) ∧
      ∃ x, secondsOfMilliseconds shopSettings.pollInterval = .ok x := by
  have hsmall {n : Nat} (h : n < 2 ^ 53) : n < Number.limit :=
    Nat.lt_of_lt_of_le h ((Number.le_bound (by decide)).trans Number.bound_le_limit)
  obtain ⟨hchecked, hbackoff, hinterval, -⟩ := accepted_numbers good_shopProps.read
  exact ⟨good_shopProps.read, hchecked,
    hbackoff.mpr (Int.ofNat_lt.mpr (hsmall (n := 0) (by decide))),
    hinterval.mpr (Int.ofNat_lt.mpr (hsmall (n := 60000) (by decide)))⟩

/-- A power of ten that is too large for a double. -/
def hugeText : String := .ofList ('1' :: List.replicate 309 '0')

/-- Settings with times that are accepted but too large. -/
def hugeProps : Props :=
  [("connection.url", some "postgresql://localhost/shop"),
    ("connection.backoff.ms", some hugeText), ("table.poll.interval.ms", some hugeText)]

def hugeSettings : Settings :=
  { plainSettings "postgresql://localhost/shop" with
    props := hugeProps, backoff := 10 ^ 309, pollInterval := 10 ^ 309 }

theorem toList_hugeText : hugeText.toList = '1' :: List.replicate 309 '0' := String.toList_ofList

theorem text_hugeProps {key : String} (h : Assoc.get? hugeProps key = some (some hugeText)) :
    hugeProps.text key = hugeText := by
  have hne : hugeText ≠ "" := by
    intro hempty
    cases toList_hugeText.symm.trans (congrArg String.toList hempty)
  have htrim : Text.trim ('1' :: List.replicate 309 '0') = '1' :: List.replicate 309 '0' := by
    decide +kernel
  have hstrip : Text.strip hugeText = hugeText := by
    rw [Text.strip, toList_hugeText, htrim]
    rfl
  rw [Props.text, Props.value?, h]
  simp [Option.filter, hne, hstrip]

theorem integer_hugeProps {key : String} {least : Int}
    (h : Assoc.get? hugeProps key = some (some hugeText)) (hleast : least ≤ 10 ^ 309) :
    hugeProps.integer key least = .ok (10 ^ 309) := by
  refine Props.integer_eq_ok_iff.mpr ⟨?_, hleast⟩
  rw [text_hugeProps h, Text.parseInt?, toList_hugeText]
  decide +kernel

theorem ofProps_hugeProps : Settings.ofProps hugeProps = .ok hugeSettings := by
  have hurl : hugeProps.text "connection.url" = "postgresql://localhost/shop" := by decide +kernel
  have hattempts : hugeProps.integer "connection.attempts" 1 = .ok 3 :=
    eq_ok_of_toOption (by decide +kernel)
  have hbackoff : hugeProps.integer "connection.backoff.ms" 0 = .ok (10 ^ 309) :=
    integer_hugeProps rfl (by decide +kernel)
  have hinterval : hugeProps.integer "table.poll.interval.ms" 1 = .ok (10 ^ 309) :=
    integer_hugeProps rfl (by decide +kernel)
  have htasks : hugeProps.integer "tasks.max" 1 = .ok 1 := eq_ok_of_toOption (by decide +kernel)
  rw [Settings.ofProps]
  simp only [hurl, hattempts, hbackoff, hinterval, htasks]
  rw [if_neg (by decide)]
  exact congrArg Except.ok (by decide +kernel)

/-- Both times are accepted, and neither is converted. -/
theorem accepted_overflow :
    Settings.ofProps hugeProps = .ok hugeSettings ∧
      secondsOfMilliseconds hugeSettings.backoff = .error .integerTooLarge ∧
      secondsOfMilliseconds hugeSettings.pollInterval = .error .integerTooLarge ∧
      (start hugeProps).outcome { } = .error .integerTooLarge := by
  have ht : hugeSettings.filter = .ok { } := eq_ok_of_toOption (by decide +kernel)
  have hdialect : hugeSettings.dialect = .ok (.make .postgres hugeSettings.url { }) :=
    eq_ok_of_toOption (by decide +kernel)
  have hlarge : (Number.limit : Int) ≤ hugeSettings.backoff := by
    have hpow : Number.limit ≤ 10 ^ 309 :=
      (Number.limit_le (Nat.le_refl 1024)).trans (by decide +kernel)
    have hcast : hugeSettings.backoff = ((10 ^ 309 : Nat) : Int) := by decide +kernel
    rw [hcast]
    exact Int.ofNat_le.mpr hpow
  have hseconds : secondsOfMilliseconds hugeSettings.backoff = .error .integerTooLarge :=
    seconds_of_limit_le (by decide +kernel) hlarge
  exact ⟨ofProps_hugeProps, hseconds, hseconds,
    start_of_escapes rfl (.connection ofProps_hugeProps ht hdialect (.backoff hseconds))⟩

end Connector

end TableDiscovery
