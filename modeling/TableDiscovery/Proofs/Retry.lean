import TableDiscovery.Proofs.Quiet

/-!
# What a retry makes of its attempts

An action that does the same whatever has been logged, traced and waited for is called again and
again, until a call returns or fails for good, or no attempt is left. So a retry of it makes as many
calls as its script says, with nothing but events on the side between them, and ends as the last of
them.

* `Site.Alike`, `Site.Blind`: sites that differ on the side only, and actions that do not see it;
* `Act.afterCalls`: the state after some calls of an action;
* `Retry.Policy.TriesAgain`, `Retry.Attempted`: the attempts of a retry, as the calls decide;
* **`Retry.attempts_spec`**: these are the attempts that are made.
-/

namespace TableDiscovery

open Act

/-! ## Actions that do not see what is done on the side -/

/-- The sites differ only in what has been done on the side. -/
structure Site.Alike (s t : Site) : Prop where
  script : t.script = s.script
  opened : t.opened = s.opened
  closed : t.closed = s.closed
  counts : t.counts = { s.counts with clock := t.counts.clock, random := t.counts.random }
  calls : t.trace.filter (!·.isAside) = s.trace.filter (!·.isAside)

namespace Site

theorem Alike.refl (s : Site) : s.Alike s := ⟨rfl, rfl, rfl, rfl, rfl⟩

theorem Alike.trans {s t u : Site} (h : s.Alike t) (h' : t.Alike u) : s.Alike u where
  script := h'.script.trans h.script
  opened := h'.opened.trans h.opened
  closed := h'.closed.trans h.closed
  counts := by rw [h'.counts, h.counts]
  calls := h'.calls.trans h.calls

theorem Aside.alike {s t : Site} (h : s.Aside t) : s.Alike t where
  script := h.script
  opened := h.opened
  closed := h.closed
  counts := h.counts
  calls := by
    obtain ⟨es, hes, haside⟩ := h.trace
    have hnone : es.filter (!·.isAside) = [] :=
      List.filter_eq_nil_iff.mpr fun e he => by simp [haside e he]
    rw [hes, List.filter_append, hnone, List.append_nil]

/-- The action does the same whatever has been done on the side. -/
def Blind {α : Type} (x : Act Site α) : Prop :=
  ∀ s t : Site, s.Alike t → x.outcome t = x.outcome s ∧ (x.after s).Alike (x.after t)

end Site

section Blind

variable {α β : Type}

theorem blind_pure (a : α) : Site.Blind (pure a) := fun _ _ h => ⟨rfl, h⟩

theorem blind_throw (f : Fault) : Site.Blind (throw f : Act Site α) := fun _ _ h => ⟨rfl, h⟩

theorem blind_bind {x : Act Site α} {k : α → Act Site β} (hx : Site.Blind x)
    (hk : ∀ a, Site.Blind (k a)) : Site.Blind (x >>= k) := by
  intro s t h
  obtain ⟨hout, hafter⟩ := hx s t h
  simp only [outcome_bind, after_bind, hout]
  cases x.outcome s with
  | ok a => exact hk a _ _ hafter
  | error f => exact ⟨rfl, hafter⟩

end Blind

/-- The state after calls of an action, one after the other. -/
def Act.afterCalls {σ α : Type} (x : Act σ α) : Nat → σ → σ
  | 0, s => s
  | n + 1, s => afterCalls x n (x.after s)

theorem Act.afterCalls_succ {σ α : Type} (x : Act σ α) (n : Nat) (s : σ) :
    x.afterCalls (n + 1) s = x.after (x.afterCalls n s) := by
  induction n generalizing s with
  | zero => rfl
  | succ n ih => exact ih (x.after s)

/-! ## Attempts -/

namespace Retry

variable {α : Type} {name : String} {p : Policy} {x : Act Site α} {left attempt n : Nat}
  {s t : Site} {r : Except Fault α} {c : Script}

/-- The call has failed in a way that is worth another attempt. -/
def Policy.TriesAgain (p : Policy) (r : Except Fault α) : Prop :=
  ∃ f, r = .error f ∧ f.isFailure = true ∧ p.retries f = true

/-- How many calls are made from a site on, on a platform, and how the retry ends: with the first
call that is not tried again, or the last one that may be made; or with the pause after a call, if
it cannot be made. -/
inductive Attempted (p : Policy) (c : Script) (x : Act Site α) (left attempt : Nat) (s : Site) :
    Nat → Except Fault α → Prop
  | decided {k : Nat} : k < left →
    (∀ i < k, p.TriesAgain (x.outcome (x.afterCalls i s)) ∧ p.Pauses c (attempt + i)) →
    (k + 1 < left → ¬ p.TriesAgain (x.outcome (x.afterCalls k s))) →
    Attempted p c x left attempt s (k + 1) (x.outcome (x.afterCalls k s))
  | stuck {k : Nat} {f : Fault} : k + 1 < left →
    (∀ i < k, p.TriesAgain (x.outcome (x.afterCalls i s)) ∧ p.Pauses c (attempt + i)) →
    p.TriesAgain (x.outcome (x.afterCalls k s)) → p.Stuck c (attempt + k) f →
    Attempted p c x left attempt s (k + 1) (.error f)

theorem Attempted.first (hr : x.outcome s = r) (hlast : 0 < left → ¬ p.TriesAgain r) :
    Attempted p c x (left + 1) attempt s 1 r := by
  subst hr
  exact .decided (k := 0) (Nat.succ_pos _) nofun fun h => hlast (Nat.lt_of_succ_lt_succ h)

/-- Attempts with a failed one before them. -/
theorem Attempted.later (h : p.TriesAgain (x.outcome s)) (hpause : p.Pauses c attempt)
    (ha : Attempted p c x left (attempt + 1) (x.after s) n r) :
    Attempted p c x (left + 1) attempt s (n + 1) r := by
  have hnext (k : Nat) : attempt + 1 + k = attempt + (k + 1) := by omega
  have hbefore {k : Nat} (hk : ∀ i < k, p.TriesAgain (x.outcome (x.afterCalls i (x.after s))) ∧
      p.Pauses c (attempt + 1 + i)) (i : Nat) (hi : i < k + 1) :
      p.TriesAgain (x.outcome (x.afterCalls i s)) ∧ p.Pauses c (attempt + i) := by
    cases i with
    | zero => exact ⟨h, hpause⟩
    | succ i => exact hnext i ▸ hk i (Nat.lt_of_succ_lt_succ hi)
  cases ha with
  | @decided k hk hagain hlast =>
    exact .decided (k := k + 1) (Nat.succ_lt_succ hk) (hbefore hagain) fun hlt =>
      hlast (Nat.lt_of_succ_lt_succ hlt)
  | @stuck k f hk hagain hlast hstuck =>
    exact .stuck (k := k + 1) (Nat.succ_lt_succ hk) (hbefore hagain) hlast (hnext k ▸ hstuck)

theorem pause_spec (name : String) (p : Policy) (attempt : Nat) (f : Fault) (s : Site) :
    let pause : Act Site Unit := pause name p none attempt f
    s.Aside (pause.after s) ∧
      (pause.outcome s = .ok () ∧ p.Pauses s.script attempt ∨
        ∃ g, p.Stuck s.script attempt g ∧ pause.outcome s = .error g) := by
  intro pause
  obtain ⟨hok, herror⟩ : (∀ u, pause.outcome s = .ok u → _) ∧ _ :=
    leads_pause_aside name attempt f s s rfl
  cases h : pause.outcome s with
  | ok u => exact ⟨(hok u h).2, .inl ⟨rfl, s, rfl, (hok u h).1⟩⟩
  | error g => exact ⟨(herror g h).2, .inr ⟨g, ⟨s, rfl, (herror g h).1⟩, rfl⟩⟩

theorem log_throw_views (level : Level) (logger message : String) (f : Fault) (s : Site) :
    (Site.log level logger message >>= fun _ => throw f : Act Site α).outcome s = .error f ∧
      s.Aside ((Site.log level logger message >>= fun _ => throw f : Act Site α).after s) := by
  rw [outcome_bind, after_bind, outcome_log]
  exact ⟨rfl, (aside_log (E := fun _ => True) s (.refl s)).1⟩

/-- **Attempts are made until a call decides.** The retry may begin beside the site that the calls
are counted from, since the pauses before it have left their events. -/
theorem attempts_spec (name : String) (p : Policy) (left attempt : Nat) (hx : Site.Blind x)
    (hkeeps : ∀ s, (x.after s).script = s.script) (h : s.Alike t) (hleft : 0 < left) :
    ∃ n, Attempted p s.script x left attempt s n
        ((attempts name p none x left attempt).outcome t) ∧
      (x.afterCalls n s).Alike ((attempts name p none x left attempt).after t) := by
  induction left generalizing attempt s t with
  | zero => cases hleft
  | succ left ih =>
    obtain ⟨hout, hafter⟩ := hx s t h
    rw [attempts, outcome_bind, after_bind, outcome_attempt, after_attempt, hout]
    dsimp only
    cases hr : x.outcome s with
    | ok a => exact ⟨1, .first hr (fun _ ⟨_, hf, _⟩ => nomatch hf), hafter⟩
    | error f =>
      dsimp only
      -- the failures after which there is no other attempt
      have hdone {y : Act Site α} (hy : y.outcome (x.after t) = .error f ∧
          (x.after t).Aside (y.after (x.after t)))
          (hlast : 0 < left → ¬ p.TriesAgain (.error f : Except Fault α)) :
          ∃ n, Attempted p s.script x (left + 1) attempt s n (y.outcome (x.after t)) ∧
            (x.afterCalls n s).Alike (y.after (x.after t)) :=
        ⟨1, hy.1 ▸ .first hr hlast, hafter.trans hy.2.alike⟩
      split
      · rename_i hinterrupt
        refine hdone ⟨rfl, .refl _⟩ fun _ ⟨g, hg, hfailure, _⟩ => ?_
        cases hg
        rw [hfailure] at hinterrupt
        cases hinterrupt
      split
      · rename_i hfatal
        refine hdone (log_throw_views ..) fun _ ⟨g, hg, _, hretries⟩ => ?_
        cases hg
        rw [hretries] at hfatal
        cases hfatal
      split
      · rename_i hnone
        exact hdone (log_throw_views ..) fun hpos => (Nat.ne_of_gt hpos hnone).elim
      rename_i hfailure hretries hpos
      have hagain : p.TriesAgain (x.outcome s) :=
        ⟨f, hr, by simpa using hfailure, by simpa using hretries⟩
      have hscript : (x.after t).script = s.script := (hkeeps t).trans h.script
      rw [outcome_bind, after_bind]
      obtain ⟨haside, ⟨hpause, hmade⟩ | ⟨g, hg, hpause⟩⟩ := pause_spec name p attempt f (x.after t)
      · rw [hpause]
        obtain ⟨n, hn, halike⟩ := ih _ (hafter.trans haside.alike) (Nat.pos_of_ne_zero hpos)
        rw [hkeeps s] at hn
        exact ⟨n + 1, hn.later hagain (hscript ▸ hmade), halike⟩
      · rw [hpause]
        exact ⟨1, .stuck (k := 0) (by omega) nofun hagain (hscript ▸ hg),
          hafter.trans haside.alike⟩

end Retry

end TableDiscovery
