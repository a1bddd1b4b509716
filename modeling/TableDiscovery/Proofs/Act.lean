import TableDiscovery.Site

/-!
# How actions end

An action ends with a value or a fault and leaves a state either way. Runs are read through these
two views; what a long action keeps is put together from what its steps keep.

* `Act.outcome`, `Act.after`: how an action ends, and the state it leaves;
* `Act.fault?`: the fault of a result;
* `Act.ok_of_bind`, `Act.ok_of_map` and the like: results that are put together;
* `Act.outcome_bind`, `Act.after_bind` and the like: the views of the ways to build actions;
* `Act.views_of_ok`, `Act.views_of_error`: both views of two actions at once;
* `Act.Meets`: an action keeps a condition on states, and its faults meet one on faults;
* `Act.meets_bind`, `Act.meets_attempt_bind` and the like: what is put together from steps;
* `Act.Leads`: an action leads from one condition on states to others, one for each way to end;
* `Act.leads_bind`, `Act.leads_attempt_bind` and the like;
* `Act.afterAll`: the state after actions that are run one by one, whether they fail or not.
-/

namespace TableDiscovery.Act

variable {σ τ α β : Type}

/-- How an action ends. -/
def outcome (x : Act σ α) (s : σ) : Except Fault α :=
  match x s with
  | .ok a _ => .ok a
  | .error f _ => .error f

/-- The state that an action leaves. -/
def after (x : Act σ α) (s : σ) : σ :=
  match x s with
  | .ok _ t => t
  | .error _ t => t

/-- The fault of a result. -/
def fault? {ε : Type} : Except ε α → Option ε
  | .ok _ => none
  | .error f => some f

theorem eq_ok_of_toOption {ε : Type} {r : Except ε α} {a : α} (h : r.toOption = some a) :
    r = .ok a := by
  cases r with
  | error f => cases h
  | ok b => cases h; rfl

theorem exists_ok_of_isSome {ε : Type} {r : Except ε α} (h : r.toOption.isSome = true) :
    ∃ a, r = .ok a := by
  obtain ⟨a, ha⟩ := Option.isSome_iff_exists.mp h
  exact ⟨a, eq_ok_of_toOption ha⟩

/-- A result that is put together from two has both. -/
theorem ok_of_bind {ε : Type} {r : Except ε α} {k : α → Except ε β} {b : β}
    (h : r >>= k = .ok b) : ∃ a, r = .ok a ∧ k a = .ok b := by
  cases r with
  | error f => cases h
  | ok a => exact ⟨a, rfl, h⟩

theorem error_of_bind {r : Except Fault α} {k : α → Except Fault β} {f : Fault}
    (h : r >>= k = .error f) : r = .error f ∨ ∃ a, r = .ok a ∧ k a = .error f := by
  cases r with
  | error g =>
    cases h
    exact .inl rfl
  | ok a => exact .inr ⟨a, rfl, h⟩

theorem ok_of_map {r : Except Fault α} {g : α → β} {b : β} (h : r.map g = .ok b) :
    ∃ a, r = .ok a ∧ g a = b := by
  cases r with
  | error f => cases h
  | ok a => exact ⟨a, rfl, Except.ok.inj h⟩

theorem error_of_map {r : Except Fault α} {g : α → β} {f : Fault} (h : r.map g = .error f) :
    r = .error f := by
  cases r with
  | error f' => exact congrArg _ (Except.error.inj h)
  | ok a => cases h

section Views

variable (s : σ)

@[simp] theorem outcome_pure (a : α) : outcome (pure a : Act σ α) s = .ok a := rfl
@[simp] theorem after_pure (a : α) : after (pure a : Act σ α) s = s := rfl
@[simp] theorem outcome_throw (f : Fault) : outcome (throw f : Act σ α) s = .error f := rfl
@[simp] theorem after_throw (f : Fault) : after (throw f : Act σ α) s = s := rfl
@[simp] theorem outcome_get : outcome (get : Act σ σ) s = .ok s := rfl
@[simp] theorem after_get : after (get : Act σ σ) s = s := rfl
@[simp] theorem outcome_set (t : σ) : outcome (set t : Act σ PUnit) s = .ok ⟨⟩ := rfl
@[simp] theorem after_set (t : σ) : after (set t : Act σ PUnit) s = t := rfl
@[simp] theorem outcome_modify (g : σ → σ) : outcome (modify g : Act σ PUnit) s = .ok ⟨⟩ := rfl
@[simp] theorem after_modify (g : σ → σ) : after (modify g : Act σ PUnit) s = g s := rfl

theorem outcome_bind (x : Act σ α) (k : α → Act σ β) :
    outcome (x >>= k) s = match x.outcome s with
      | .ok a => (k a).outcome (x.after s)
      | .error f => .error f := by
  simp only [outcome, after, bind, EStateM.bind]
  cases x s <;> rfl

theorem after_bind (x : Act σ α) (k : α → Act σ β) :
    after (x >>= k) s = match x.outcome s with
      | .ok a => (k a).after (x.after s)
      | .error _ => x.after s := by
  simp only [outcome, after, bind, EStateM.bind]
  cases x s <;> rfl

@[simp] theorem outcome_attempt (x : Act σ α) : outcome x.attempt s = .ok (x.outcome s) := by
  simp only [outcome, attempt]
  cases x s <;> rfl

@[simp] theorem after_attempt (x : Act σ α) : after x.attempt s = x.after s := by
  simp only [after, attempt]
  cases x s <;> rfl

@[simp] theorem outcome_ofExcept (r : Except Fault α) :
    outcome (ofExcept r : Act σ α) s = r := by
  cases r <;> rfl

@[simp] theorem after_ofExcept (r : Except Fault α) : after (ofExcept r : Act σ α) s = s := by
  cases r <;> rfl

@[simp] theorem outcome_zoom (part : τ → σ) (put : τ → σ → τ) (x : Act σ α) (t : τ) :
    outcome (zoom part put x) t = x.outcome (part t) := by
  simp only [outcome, zoom]
  cases x (part t) <;> rfl

@[simp] theorem after_zoom (part : τ → σ) (put : τ → σ → τ) (x : Act σ α) (t : τ) :
    after (zoom part put x) t = put t (x.after (part t)) := by
  simp only [after, zoom]
  cases x (part t) <;> rfl

end Views

/-! ## Views of two actions -/

section Bind

variable {s t : σ} {x : Act σ α} {k : α → Act σ β} {Q : Except Fault β → σ → Prop}

/-- After an action that returns it is left to look at the next one. -/
theorem views_of_ok {a : α} (hout : x.outcome s = .ok a) (hafter : x.after s = t)
    (hk : Q ((k a).outcome t) ((k a).after t)) : Q ((x >>= k).outcome s) ((x >>= k).after s) := by
  rw [outcome_bind, after_bind, hout, hafter]
  exact hk

theorem outcome_bind_of_ok {a : α} (hout : x.outcome s = .ok a) (hafter : x.after s = t) :
    (x >>= k).outcome s = (k a).outcome t := by
  rw [outcome_bind, hout, hafter]

theorem outcome_ofExcept_bind {r : Except Fault α} :
    (ofExcept r >>= k).outcome s = (r >>= fun a => (k a).outcome s) := by
  cases r <;> rfl

/-- An action that fails ends the whole. -/
theorem views_of_error {f : Fault} (hout : x.outcome s = .error f) (hafter : x.after s = t)
    (h : Q (.error f) t) : Q ((x >>= k).outcome s) ((x >>= k).after s) := by
  rw [outcome_bind, after_bind, hout, hafter]
  exact h

/-- What is done at last changes nothing of how an action ended, if it returns. -/
theorem views_andFinally {y : Act σ Unit} (hy : y.outcome (x.after s) = .ok ()) :
    (andFinally x y).outcome s = x.outcome s ∧
      (andFinally x y).after s = y.after (x.after s) := by
  simp only [andFinally, outcome_bind, after_bind, outcome_attempt, after_attempt, hy,
    outcome_ofExcept, after_ofExcept, and_self]

end Bind

/-! ## What actions keep -/

/-- The action keeps `I`, and its faults meet `E`. -/
def Meets (I : σ → Prop) (E : Fault → Prop) (x : Act σ α) : Prop :=
  ∀ s, I s → I (x.after s) ∧ ∀ f, x.outcome s = .error f → E f

section Meets

variable {I : σ → Prop} {E : Fault → Prop}

theorem Meets.mono {E' : Fault → Prop} {x : Act σ α} (hx : Meets I E x) (hE : ∀ f, E f → E' f) :
    Meets I E' x := fun s hs => ⟨(hx s hs).1, fun f hf => hE f ((hx s hs).2 f hf)⟩

/-- An action without faults returns. -/
theorem Meets.returns {x : Act σ α} (hx : Meets I (fun _ => False) x) {s : σ} (hs : I s) :
    ∃ a, x.outcome s = .ok a := by
  cases h : x.outcome s with
  | ok a => exact ⟨a, rfl⟩
  | error f => exact ((hx s hs).2 f h).elim

/-- An action has no faults that is known to return. -/
theorem Meets.of_returns {x : Act σ α} (hx : Meets I E x)
    (hr : ∀ s, I s → ∃ a, x.outcome s = .ok a) : Meets I (fun _ => False) x := by
  refine fun s hs => ⟨(hx s hs).1, fun f hf => ?_⟩
  obtain ⟨a, ha⟩ := hr s hs
  cases ha.symm.trans hf

theorem meets_pure (a : α) : Meets I E (pure a : Act σ α) := fun _ hs => ⟨hs, nofun⟩

theorem meets_throw {f : Fault} (hf : E f) : Meets I E (throw f : Act σ α) :=
  fun _ hs => ⟨hs, fun _ h => by cases h; exact hf⟩

theorem meets_ofExcept {r : Except Fault α} (hr : ∀ f, r = .error f → E f) :
    Meets I E (ofExcept r : Act σ α) := by
  cases r with
  | ok a => exact meets_pure a
  | error f => exact meets_throw (hr f rfl)

theorem meets_failWith {o : Option Fault} (ho : ∀ f, o = some f → E f) :
    Meets I E (failWith o : Act σ Unit) := by
  cases o with
  | none => exact meets_pure ()
  | some f => exact meets_throw (ho f rfl)

theorem meets_set {t : σ} (ht : I t) : Meets I E (set t : Act σ PUnit) := fun _ _ => ⟨ht, nofun⟩

theorem meets_modify {g : σ → σ} (hg : ∀ s, I s → I (g s)) :
    Meets I E (modify g : Act σ PUnit) := fun s hs => ⟨hg s hs, nofun⟩

theorem meets_bind {x : Act σ α} {k : α → Act σ β} (hx : Meets I E x)
    (hk : ∀ a, Meets I E (k a)) : Meets I E (x >>= k) := by
  intro s hs
  obtain ⟨h₁, h₂⟩ := hx s hs
  rw [after_bind, outcome_bind]
  cases h : x.outcome s with
  | ok a => exact hk a _ h₁
  | error f => exact ⟨h₁, fun _ hg => by cases hg; exact h₂ f h⟩

/-- The state that is read satisfies what is kept. -/
theorem meets_get_bind {k : σ → Act σ β} (hk : ∀ s, I s → Meets I E (k s)) :
    Meets I E (get >>= k) := fun s hs => hk s hs s hs

/-- How an attempt ended is known to the steps that follow it. -/
theorem meets_attempt_bind {E' : Fault → Prop} {x : Act σ α} {k : Except Fault α → Act σ β}
    (hx : Meets I E' x) (hok : ∀ a, Meets I E (k (.ok a)))
    (herror : ∀ f, E' f → Meets I E (k (.error f))) : Meets I E (x.attempt >>= k) := by
  intro s hs
  obtain ⟨h₁, h₂⟩ := hx s hs
  simp only [after_bind, outcome_bind, outcome_attempt, after_attempt]
  cases h : x.outcome s with
  | ok a => exact hok a _ h₁
  | error f => exact herror f (h₂ f h) _ h₁

theorem meets_andFinally {x : Act σ α} {y : Act σ Unit} (hx : Meets I E x) (hy : Meets I E y) :
    Meets I E (andFinally x y) :=
  meets_attempt_bind hx (fun a => meets_bind hy fun _ => meets_pure a)
    fun _ hf => meets_bind hy fun _ => meets_throw hf

theorem meets_ite {c : Prop} [Decidable c] {x y : Act σ α} (hx : c → Meets I E x)
    (hy : ¬ c → Meets I E y) : Meets I E (if c then x else y) := by
  split
  · exact hx ‹_›
  · exact hy ‹_›

/-- A step that is made under a condition, and what follows it in any case. -/
theorem meets_when {c : Prop} [Decidable c] {x : Act σ PUnit} {k : PUnit → Act σ β}
    (hx : Meets I E x) (hk : ∀ u, Meets I E (k u)) :
    Meets I E (if c then x >>= k else k ⟨⟩) :=
  meets_ite (fun _ => meets_bind hx hk) fun _ => hk ⟨⟩

theorem meets_forM {l : List α} {k : α → Act σ PUnit} (hk : ∀ a, Meets I E (k a)) :
    Meets I E (l.forM k) := by
  induction l with
  | nil => exact meets_pure _
  | cons a l ih => exact meets_bind (hk a) fun _ => ih

/-- An action on a part keeps what holds of the whole with any part that the action keeps. -/
theorem meets_zoom {part : τ → σ} {put : τ → σ → τ} {J : τ → Prop} {x : Act σ α}
    (hx : ∀ t, J t → J (put t (x.after (part t))) ∧ ∀ f, x.outcome (part t) = .error f → E f) :
    Meets J E (zoom part put x) := by
  intro t ht
  rw [after_zoom, outcome_zoom]
  exact hx t ht

end Meets

/-! ## What actions lead to -/

/-- From states with `P` the action leads to states with `Q` of its value, or with `R` of its
fault. -/
def Leads (P : σ → Prop) (Q : α → σ → Prop) (R : Fault → σ → Prop) (x : Act σ α) : Prop :=
  ∀ s, P s → (∀ a, x.outcome s = .ok a → Q a (x.after s)) ∧
    ∀ f, x.outcome s = .error f → R f (x.after s)

section Leads

variable {P P' : σ → Prop} {Q Q' : α → σ → Prop} {R R' : Fault → σ → Prop} {T : β → σ → Prop}

theorem meets_iff_leads {I : σ → Prop} {E : Fault → Prop} {x : Act σ α} :
    Meets I E x ↔ Leads I (fun _ => I) (fun f s => I s ∧ E f) x := by
  constructor
  · intro hx s hs
    obtain ⟨h₁, h₂⟩ := hx s hs
    exact ⟨fun _ _ => h₁, fun f hf => ⟨h₁, h₂ f hf⟩⟩
  · intro hx s hs
    obtain ⟨h₁, h₂⟩ := hx s hs
    cases h : x.outcome s with
    | ok a => exact ⟨h₁ a h, nofun⟩
    | error f => exact ⟨(h₂ f h).1, fun g hg => by cases hg; exact (h₂ f h).2⟩

theorem Leads.mono {x : Act σ α} (hx : Leads P Q R x) (hP : ∀ s, P' s → P s)
    (hQ : ∀ a s, Q a s → Q' a s) (hR : ∀ f s, R f s → R' f s) : Leads P' Q' R' x := by
  intro s hs
  obtain ⟨h₁, h₂⟩ := hx s (hP s hs)
  exact ⟨fun a ha => hQ a _ (h₁ a ha), fun f hf => hR f _ (h₂ f hf)⟩

theorem Leads.narrow {x : Act σ α} (hx : Leads P Q R x) (hP : ∀ s, P' s → P s) :
    Leads P' Q R x := hx.mono hP (fun _ _ h => h) fun _ _ h => h

theorem Leads.widen {x : Act σ α} (hx : Leads P Q R x) (hQ : ∀ a s, Q a s → Q' a s)
    (hR : ∀ f s, R f s → R' f s) : Leads P Q' R' x := hx.mono (fun _ h => h) hQ hR

/-- A fact that is known beforehand, whatever the state. -/
theorem leads_of_fact {c : Prop} {x : Act σ α} (hx : c → Leads P Q R x) :
    Leads (fun s => c ∧ P s) Q R x := fun s hs => hx hs.1 s hs.2

/-- An action without faults returns and leads where it is to lead. -/
theorem Leads.returns {x : Act σ α} (hx : Leads P Q (fun _ _ => False) x) {s : σ} (hs : P s) :
    ∃ a, x.outcome s = .ok a ∧ Q a (x.after s) := by
  obtain ⟨h₁, h₂⟩ := hx s hs
  cases h : x.outcome s with
  | ok a => exact ⟨a, rfl, h₁ a h⟩
  | error f => exact (h₂ f h).elim

/-- An action that begins in one state. -/
theorem Leads.here {x : Act σ α} (hx : Leads P Q R x) {s : σ} (hs : P s) : Leads (· = s) Q R x :=
  hx.narrow fun _ h => h ▸ hs

/-- An action that leads to the same condition however it ends. -/
theorem leads_after {P' : σ → Prop} {x : Act σ α} {s : σ}
    (hx : Leads P (fun _ => P') (fun _ => P') x) (hs : P s) : P' (x.after s) := by
  obtain ⟨h₁, h₂⟩ := hx s hs
  cases h : x.outcome s with
  | ok a => exact h₁ a h
  | error f => exact h₂ f h

/-- An action that keeps a condition, however it ends. -/
theorem leads_of_meets {I : σ → Prop} {E : Fault → Prop} {x : Act σ α} (hx : Meets I E x) :
    Leads I (fun _ => I) (fun _ => I) x :=
  (meets_iff_leads.mp hx).widen (fun _ _ h => h) fun _ _ h => h.1

theorem meets_of_leads {I : σ → Prop} {x : Act σ α}
    (hx : Leads I (fun _ => I) (fun _ => I) x) : Meets I (fun _ => True) x :=
  meets_iff_leads.mpr (hx.widen (fun _ _ h => h) fun _ _ h => ⟨h, trivial⟩)

/-- An action that keeps a condition and always returns. -/
theorem leads_of_returns {I : σ → Prop} {x : Act σ α} (hx : Meets I (fun _ => False) x) :
    Leads I (fun _ => I) R x :=
  (meets_iff_leads.mp hx).widen (fun _ _ h => h) fun _ _ h => h.2.elim

theorem leads_pure {a : α} (h : ∀ s, P s → Q a s) : Leads P Q R (pure a : Act σ α) :=
  fun s hs => ⟨fun _ ha => by cases ha; exact h s hs, nofun⟩

theorem leads_throw {f : Fault} (h : ∀ s, P s → R f s) : Leads P Q R (throw f : Act σ α) :=
  fun s hs => ⟨nofun, fun _ hf => by cases hf; exact h s hs⟩

theorem leads_ofExcept {r : Except Fault α} (hok : ∀ a s, P s → Q a s)
    (herror : ∀ f s, P s → R f s) : Leads P Q R (ofExcept r : Act σ α) := by
  cases r with
  | ok a => exact leads_pure (hok a)
  | error f => exact leads_throw (herror f)

theorem leads_modify {U : PUnit → σ → Prop} {g : σ → σ} (hg : ∀ s, P s → U ⟨⟩ (g s)) :
    Leads P U R (modify g : Act σ PUnit) :=
  fun s hs => ⟨fun _ _ => hg s hs, nofun⟩

theorem leads_bind {x : Act σ α} {k : α → Act σ β} (hx : Leads P Q R x)
    (hk : ∀ a, Leads (Q a) T R (k a)) : Leads P T R (x >>= k) := by
  intro s hs
  obtain ⟨h₁, h₂⟩ := hx s hs
  rw [after_bind, outcome_bind]
  cases h : x.outcome s with
  | ok a => exact hk a _ (h₁ a h)
  | error f => exact ⟨nofun, fun _ hg => by cases hg; exact h₂ f h⟩

/-- The state that is read is the one that the rest begins in. -/
theorem leads_get_bind {k : σ → Act σ β} (hk : ∀ s, P s → Leads (· = s) T R (k s)) :
    Leads P T R (get >>= k) := fun s hs => hk s hs s rfl

theorem leads_attempt_bind {x : Act σ α} {k : Except Fault α → Act σ β} (hx : Leads P Q R x)
    (hok : ∀ a, Leads (Q a) T R' (k (.ok a))) (herror : ∀ f, Leads (R f) T R' (k (.error f))) :
    Leads P T R' (x.attempt >>= k) := by
  intro s hs
  obtain ⟨h₁, h₂⟩ := hx s hs
  simp only [after_bind, outcome_bind, outcome_attempt, after_attempt]
  cases h : x.outcome s with
  | ok a => exact hok a _ (h₁ a h)
  | error f => exact herror f _ (h₂ f h)

/-- What follows an action in any case begins where the action may have left the state. -/
theorem leads_andFinally {P' P'' : σ → Prop} {x : Act σ α} {y : Act σ Unit}
    (hx : Leads P (fun _ => P') (fun _ => P') x) (hy : Leads P' (fun _ => P'') (fun _ => P'') y) :
    Leads P (fun _ => P'') (fun _ => P'') (andFinally x y) :=
  leads_attempt_bind hx
    (fun _ => leads_bind hy fun _ => leads_ofExcept (fun _ _ h => h) fun _ _ h => h)
    fun _ => leads_bind hy fun _ => leads_ofExcept (fun _ _ h => h) fun _ _ h => h

/-- If both return, so does the whole. -/
theorem leads_andFinally_of_returns {P' P'' : σ → Prop} {x : Act σ α} {y : Act σ Unit}
    (hx : Leads P (fun _ => P') (fun _ _ => False) x)
    (hy : Leads P' (fun _ => P'') (fun _ _ => False) y) :
    Leads P (fun _ => P'') (fun _ _ => False) (andFinally x y) :=
  leads_attempt_bind hx (fun _ => leads_bind hy fun _ => leads_pure fun _ h => h)
    fun _ _ hs => hs.elim

theorem leads_ite {c : Prop} [Decidable c] {x y : Act σ α} (hx : c → Leads P Q R x)
    (hy : ¬ c → Leads P Q R y) : Leads P Q R (if c then x else y) := by
  split
  · exact hx ‹_›
  · exact hy ‹_›

end Leads

/-! ## One action after another -/

/-- The state after actions that are run one by one, whether they fail or not. -/
def afterAll {ι : Type} (act : ι → Act σ Unit) (is : List ι) (s : σ) : σ :=
  is.foldl (fun s i => (act i).after s) s

theorem afterAll_concat {ι : Type} (act : ι → Act σ Unit) (is : List ι) (i : ι) (s : σ) :
    afterAll act (is ++ [i]) s = (act i).after (afterAll act is s) := List.foldl_append ..

/-- What each of the actions keeps holds after all of them. -/
theorem afterAll_of_mem {ι : Type} {act : ι → Act σ Unit} {I : σ → Prop} {E : Fault → Prop}
    {is : List ι} (h : ∀ i ∈ is, Meets I E (act i)) {s : σ} (hs : I s) : I (afterAll act is s) := by
  induction is generalizing s with
  | nil => exact hs
  | cons i is ih =>
    exact ih (fun j hj => h j (List.mem_cons_of_mem i hj)) (h i List.mem_cons_self s hs).1

theorem afterAll_induction {ι : Type} {act : ι → Act σ Unit} {I : σ → Prop} {E : Fault → Prop}
    (h : ∀ i, Meets I E (act i)) (is : List ι) {s : σ} (hs : I s) : I (afterAll act is s) :=
  afterAll_of_mem (fun i _ => h i) hs

end TableDiscovery.Act
