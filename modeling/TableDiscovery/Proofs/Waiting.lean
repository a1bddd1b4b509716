import TableDiscovery.Host

/-!
# Waiting beside notifications

A wait reads the wake-up flag and then clears it. The host may be told something between the two
steps. If the flag was read too early for that, it is cleared together with the notification, and
neither this wait nor the next one returns it.

* `Waiting`, `Waiting.Move`: a host with a caller that waits again and again, and the moves of both;
* `run_wait_wait`: a wait whose steps are not separated;
* `getElem?_run_reading`, `getElem?_run_idle`: what the wait in progress returns, and the next one;
* **`noticed_iff`**: when a notification is noticed;
* `request_lost`, **`returned_run_waits`**: one that is not, and that it stays lost.
-/

namespace TableDiscovery

/-- A host with a caller that waits again and again: what its wait in progress has read, if there is
one, and what its waits have returned. -/
structure Waiting where
  host : Host := { }
  reading : Option Bool := none
  returned : List Bool := []

namespace Waiting

/-- A notification, or the next step of the caller. -/
inductive Move
  | request
  | error (fault : Fault)
  | wait

/-- Whether a move is a step of the caller. -/
def Move.isWait : Move → Bool
  | wait => true
  | _ => false

/-- The caller reads the flag, or it clears it and returns what it has read. -/
def stepWait (w : Waiting) : Waiting :=
  match w.reading with
  | none => { w with reading := some w.host.woken }
  | some woken => ⟨w.host.clear, none, w.returned ++ [woken]⟩

/-- The state after a move. -/
def move (w : Waiting) : Move → Waiting
  | .request => { w with host := w.host.noteRequest }
  | .error f => { w with host := w.host.noteError f }
  | .wait => w.stepWait

/-- The state after moves. -/
def run (w : Waiting) (ms : List Move) : Waiting := ms.foldl move w

variable {w : Waiting} {m : Move} {ms : List Move} {b : Bool}

@[simp] theorem run_nil (w : Waiting) : w.run [] = w := rfl

@[simp] theorem run_cons (w : Waiting) (m : Move) (ms : List Move) :
    w.run (m :: ms) = (w.move m).run ms := rfl

/-- A wait whose steps are not separated is one that does not last. -/
theorem run_wait_wait (h : w.reading = none) :
    w.run [.wait, .wait] = ⟨w.host.await.2, none, w.returned ++ [w.host.await.1]⟩ := by
  simp [move, stepWait, h, Host.await]

/-- A notification raises the flag and leaves the caller where it is. -/
theorem move_notification (h : m.isWait = false) :
    (w.move m).host.woken = true ∧ (w.move m).reading = w.reading ∧
      (w.move m).returned = w.returned := by
  cases m with
  | request | error => exact ⟨rfl, rfl, rfl⟩
  | wait => cases h

/-- A wait in progress ends. -/
theorem move_wait (h : w.reading = some b) :
    w.move .wait = ⟨w.host.clear, none, w.returned ++ [b]⟩ := by
  simp [move, stepWait, h]

/-- What has been returned stays returned. -/
theorem returned_prefix_run (w : Waiting) (ms : List Move) :
    w.returned <+: (w.run ms).returned := by
  induction ms generalizing w with
  | nil => exact List.prefix_rfl
  | cons m ms ih =>
    refine List.IsPrefix.trans ?_ (ih (w.move m))
    cases m with
    | request | error => exact List.prefix_rfl
    | wait =>
      simp only [move, stepWait]
      split
      · exact List.prefix_rfl
      · exact List.prefix_append _ _

/-- The notifications before the next step of the caller. -/
def pending (ms : List Move) : List Move := ms.takeWhile (!·.isWait)

/-- The notifications between the next step of the caller and the one after it. -/
def gap (ms : List Move) : List Move := pending (ms.dropWhile (!·.isWait)).tail

/-- The wait in progress returns what it has read. -/
theorem getElem?_run_reading (h : w.reading = some b)
    (hlen : w.returned.length < (w.run ms).returned.length) :
    (w.run ms).returned[w.returned.length]? = some b := by
  induction ms generalizing w with
  | nil => exact absurd hlen (Nat.lt_irrefl _)
  | cons m ms ih =>
    cases hm : m.isWait with
    | false =>
      obtain ⟨-, hreading, hreturned⟩ := move_notification (w := w) hm
      rw [run_cons, ← hreturned] at hlen ⊢
      exact ih (hreading.trans h) hlen
    | true =>
      cases m with
      | request | error => cases hm
      | wait =>
        obtain ⟨rest, hrest⟩ := returned_prefix_run (w.move .wait) ms
        rw [run_cons, ← hrest, move_wait h]
        simp

/-- The next wait returns whether the flag is raised before it begins. -/
theorem getElem?_run_idle (h : w.reading = none)
    (hlen : w.returned.length < (w.run ms).returned.length) :
    (w.run ms).returned[w.returned.length]? = some (w.host.woken || !(pending ms).isEmpty) := by
  induction ms generalizing w with
  | nil => exact absurd hlen (Nat.lt_irrefl _)
  | cons m ms ih =>
    cases hm : m.isWait with
    | false =>
      obtain ⟨hwoken, hreading, hreturned⟩ := move_notification (w := w) hm
      rw [run_cons, ← hreturned] at hlen ⊢
      rw [ih (hreading.trans h) hlen, hwoken]
      simp [pending, hm]
    | true =>
      cases m with
      | request | error => cases hm
      | wait =>
        have hmove : w.move .wait = { w with reading := some w.host.woken } := by
          simp [move, stepWait, h]
        rw [run_cons, hmove] at hlen ⊢
        rw [getElem?_run_reading rfl hlen]
        simp [pending, Move.isWait]

/-- After the wait in progress, the next one returns whether the flag is raised between the two. -/
theorem getElem?_run_next (h : w.reading = some b)
    (hlen : w.returned.length + 1 < (w.run ms).returned.length) :
    (w.run ms).returned[w.returned.length + 1]? = some (!(gap ms).isEmpty) := by
  induction ms generalizing w with
  | nil => exact absurd (show w.returned.length + 1 < w.returned.length from hlen) (by omega)
  | cons m ms ih =>
    cases hm : m.isWait with
    | false =>
      obtain ⟨-, hreading, hreturned⟩ := move_notification (w := w) hm
      rw [run_cons, ← hreturned] at hlen ⊢
      rw [ih (hreading.trans h) hlen, gap, gap, List.dropWhile_cons_of_pos (by simp [hm])]
    | true =>
      cases m with
      | request | error => cases hm
      | wait =>
        have hlength : (w.returned ++ [b]).length = w.returned.length + 1 := by simp
        rw [run_cons, move_wait h, ← hlength] at hlen ⊢
        rw [getElem?_run_idle rfl hlen]
        simp [gap, Host.clear, Move.isWait]

/-! ## Notifications -/

/-- How many waits may notice a notification: the one in progress, if there is one, and the next. -/
def chances (w : Waiting) : Nat := if w.reading.isSome then 2 else 1

/-- **When a notification is noticed.** Let the moves `ms` follow a notification `m`, enough of them
for the wait in progress and the next one to end. Then one of the two returns that the flag was
raised, unless the wait in progress had read before that it was not and there are no more
notifications between the two. -/
theorem noticed_iff (hm : m.isWait = false)
    (hlen : w.returned.length + w.chances ≤ ((w.move m).run ms).returned.length) :
    (∃ i < w.chances, ((w.move m).run ms).returned[w.returned.length + i]? = some true) ↔
      w.reading ≠ some false ∨ gap ms ≠ [] := by
  obtain ⟨hwoken, hreading, hreturned⟩ := move_notification (w := w) hm
  rw [← hreturned] at hlen ⊢
  cases h : w.reading with
  | none =>
    rw [chances, h] at hlen ⊢
    have hnext := getElem?_run_idle (hreading.trans h) hlen
    rw [hwoken, Bool.true_or] at hnext
    exact iff_of_true ⟨0, Nat.one_pos, hnext⟩ (.inl nofun)
  | some b =>
    rw [chances, h] at hlen ⊢
    replace hlen : (w.move m).returned.length + 2 ≤ ((w.move m).run ms).returned.length := hlen
    have hends : (w.move m).returned.length < ((w.move m).run ms).returned.length := by omega
    have hthis := getElem?_run_reading (hreading.trans h) hends
    have hnext := getElem?_run_next (hreading.trans h) hlen
    cases b with
    | true => exact iff_of_true ⟨0, Nat.two_pos, hthis⟩ (.inl nofun)
    | false =>
      constructor
      · rintro ⟨i, hi, htrue⟩
        obtain rfl | rfl : i = 0 ∨ i = 1 := by
          have : i < 2 := hi
          omega
        · exact absurd (hthis.symm.trans htrue) nofun
        · have hgap := Option.some.inj (hnext.symm.trans htrue)
          exact .inr (by simpa using hgap)
      · rintro (hfalse | hgap)
        · exact absurd rfl hfalse
        · exact ⟨1, Nat.one_lt_two, by simp [hnext, hgap]⟩

/-- A change after the caller has read the flag, and one more before it waits again. -/
theorem noticed_iff_twice :
    let w : Waiting := Waiting.run { } [.wait]
    let ms : List Move := [.wait, .error (.raised .runtime none), .wait, .wait]
    (Move.request.isWait = false ∧
      w.returned.length + w.chances ≤ ((w.move .request).run ms).returned.length) ∧
      (∃ i < w.chances, ((w.move .request).run ms).returned[w.returned.length + i]? = some true) ∧
        gap ms = [.error (.raised .runtime none)] := by
  intro w ms
  have hlen : w.returned.length + w.chances ≤ ((w.move .request).run ms).returned.length := by
    decide
  exact ⟨⟨rfl, hlen⟩, (noticed_iff rfl hlen).mpr (.inr nofun), rfl⟩

/-- **A notification is lost.** The caller reads the flag, the host is asked for reconfiguration,
and the caller clears the flag: it returns that there was nothing, and so does its next wait. -/
theorem request_lost :
    let w : Waiting := (Waiting.run { } [.wait]).move .request
    w.host.requests = 1 ∧ (w.run [.wait, .wait, .wait]).returned = [false, false] :=
  ⟨rfl, rfl⟩

/-- The caller has read that the flag was not raised, or will read so when it begins to wait. -/
def Unaware (w : Waiting) : Prop :=
  w.reading = some false ∨ (w.reading = none ∧ w.host.woken = false)

/-- One more step of the caller, which has been told nothing. -/
theorem unaware_stepWait (h : w.Unaware) :
    w.stepWait.Unaware ∧ ∃ k, w.stepWait.returned = w.returned ++ List.replicate k false := by
  obtain h | ⟨h, hwoken⟩ := h
  · simp only [stepWait, h]
    exact ⟨.inr ⟨rfl, rfl⟩, 1, rfl⟩
  · simp only [stepWait, h, hwoken]
    exact ⟨.inl rfl, 0, (List.append_nil _).symm⟩

/-- **What is lost stays lost.** A notification `m` after the caller has read that the flag was not
raised changes nothing for it: as long as there is no other one, all its waits return that there was
nothing, however many there are. -/
theorem returned_run_waits (hm : m.isWait = false) (h : w.reading = some false) (n : Nat) :
    ∃ k, ((w.move m).run (List.replicate n .wait)).returned =
      w.returned ++ List.replicate k false := by
  obtain ⟨-, hreading, hreturned⟩ := move_notification (w := w) hm
  have hunaware : (w.move m).Unaware := .inl (hreading.trans h)
  rw [← hreturned]
  generalize w.move m = v at hunaware
  induction n generalizing v with
  | zero => exact ⟨0, (List.append_nil _).symm⟩
  | succ n ih =>
    obtain ⟨hnext, k, hk⟩ := unaware_stepWait hunaware
    obtain ⟨j, hj⟩ := ih v.stepWait hnext
    refine ⟨k + j, ?_⟩
    rw [List.replicate_succ, run_cons]
    show (v.stepWait.run _).returned = _
    rw [hj, hk, List.append_assoc, List.replicate_append_replicate]

end Waiting

end TableDiscovery
