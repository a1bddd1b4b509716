import TableDiscovery.Proofs.Assoc
import TableDiscovery.Tracing.Basic

/-!
# Marks on spans

A failure that leaves a span sets three of its attributes, after all others. A full span forgets the
oldest attributes first, so that the marks stay; and where no other attribute bears one of their
names, a span that no failure left has none of them.

* `Span.exists_attributes_set`: setting an attribute, the newest ones stay;
* `Span.markNames`, `Span.exists_attributes_mark`: the attributes of a failure;
* `Span.Marked`, **`Span.marked_mark`**, `Span.marked_of_notMem`: the marks of a span are those of a
  failure, or there are none;
* `Span.mem_attributes_setTexts`: attributes have the names that they are set under.
-/

namespace TableDiscovery

namespace Span

variable {s : Span} {key : String} {value : Json} {f : Fault}

@[simp] theorem recording_set : (s.set key value).recording = s.recording := by
  unfold set
  split <;> rfl

@[simp] theorem name_set : (s.set key value).name = s.name := by
  unfold set
  split <;> rfl

@[simp] theorem recording_note : (s.note f).recording = s.recording := by
  unfold note
  split <;> rfl

@[simp] theorem attributes_note : (s.note f).attributes = s.attributes := by
  unfold note
  split <;> rfl

@[simp] theorem recording_mark : (s.mark f).recording = s.recording := by
  unfold mark
  split
  · simp only [recording_note, recording_set]
  · rfl

theorem mem_attributes_set {p : String × Json} (hp : p ∈ (s.set key value).attributes) :
    p ∈ s.attributes ∨ p.1 = key := by
  unfold set at hp
  split at hp
  · obtain hp | hp := List.mem_append.mp hp
    · exact .inl (List.mem_filter.mp (List.mem_of_mem_drop hp)).1
    · exact .inr (congrArg Prod.fst (List.mem_singleton.mp hp))
  · exact .inl hp

/-- Setting an attribute, the newest ones stay as long as there is room for them and for it. -/
theorem exists_attributes_set {older newer : Assoc String Json} (key : String) (value : Json)
    (hrecording : s.recording = true) (hkey : key ≠ "") (hs : s.attributes = older ++ newer)
    (hnew : key ∉ newer.map (·.1)) (hroom : newer.length < capacity) :
    ∃ rest, (s.set key value).attributes = rest ++ (newer ++ [(key, named value)]) ∧
      ∀ p ∈ rest, p ∈ older ∧ p.1 ≠ key := by
  have hothers : Assoc.erase s.attributes key = Assoc.erase older key ++ newer := by
    have hnewer : Assoc.erase newer key = newer := by
      refine List.filter_eq_self.mpr fun p hp => decide_eq_true ?_
      rintro rfl
      exact hnew (List.mem_map.mpr ⟨p, hp, rfl⟩)
    rw [hs, Assoc.erase, List.filter_append, ← Assoc.erase, ← Assoc.erase, hnewer]
  -- What is forgotten to make room is at most what stands before the newest ones.
  have hforgotten : (Assoc.erase older key ++ newer).length + 1 - capacity ≤
      (Assoc.erase older key).length := by
    rw [List.length_append]
    omega
  refine ⟨(Assoc.erase older key).drop
    ((Assoc.erase older key ++ newer).length + 1 - capacity), ?_, fun p hp => ?_⟩
  · rw [set, if_pos (by simp [hrecording, hkey])]
    dsimp only
    rw [hothers, List.drop_append_of_le_length hforgotten, List.append_assoc]
  · obtain ⟨hp, hne⟩ := List.mem_filter.mp (List.mem_of_mem_drop hp)
    exact ⟨hp, of_decide_eq_true hne⟩

/-- The names of the attributes that a failure sets. -/
def markNames : List String := ["error", "error.type", "error.message"]

theorem get?_eq_none_of_markNames {m : Assoc String Json} (h : ∀ p ∈ m, p.1 ∉ markNames)
    {name : String} (hname : name ∈ markNames) : m.get? name = none := by
  refine Assoc.get?_eq_none_of_notMem fun hmem => ?_
  obtain ⟨p, hp, rfl⟩ := List.mem_map.mp hmem
  exact h p hp hname

/-- A failure sets its attributes after all others. -/
theorem exists_attributes_mark (hrecording : s.recording = true) (hf : f.isFailure = true) :
    ∃ older, (s.mark f).attributes = older ++ [("error", .bool true),
        ("error.type", .str f.kind.label), ("error.message", .str f.message)] ∧
      ∀ p ∈ older, p.1 ∉ markNames := by
  obtain ⟨older₁, h₁, hold₁⟩ := exists_attributes_set "error" (.bool true) hrecording (by decide)
    (List.append_nil _).symm (by simp) (by decide)
  obtain ⟨older₂, h₂, hold₂⟩ := exists_attributes_set "error.type" (.str f.kind.label)
    (by simpa using hrecording) (by decide) h₁ (by simp) (by simp [capacity])
  obtain ⟨older₃, h₃, hold₃⟩ := exists_attributes_set "error.message" (.str f.message)
    (by simpa using hrecording) (by decide) h₂ (by simp) (by simp [capacity])
  refine ⟨older₃, ?_, fun p hp => ?_⟩
  · rw [mark, if_pos (by simp [hrecording, hf]), attributes_note]
    exact h₃
  · obtain ⟨hp, hmessage⟩ := hold₃ p hp
    obtain ⟨hp, htype⟩ := hold₂ p hp
    obtain ⟨-, herror⟩ := hold₁ p hp
    simp [markNames, herror, htype, hmessage]

/-- The span bears the marks of the failure, or has none if there is no failure. -/
structure Marked (s : Span) (failure : Option Fault) : Prop where
  error : Assoc.get? s.attributes "error" = failure.map fun _ => .bool true
  type : Assoc.get? s.attributes "error.type" = failure.map fun f => .str f.kind.label
  message : Assoc.get? s.attributes "error.message" = failure.map fun f => .str f.message

/-- **A failure marks a span.** -/
theorem marked_mark (hrecording : s.recording = true) (hf : f.isFailure = true) :
    (s.mark f).Marked (some f) := by
  obtain ⟨older, hattributes, holder⟩ := exists_attributes_mark hrecording hf
  constructor
  all_goals
    rw [hattributes, Assoc.get?_append, get?_eq_none_of_markNames holder (by simp [markNames])]
    simp [Assoc.get?]

/-- An interrupt leaves no marks. -/
theorem mark_of_not_isFailure (hf : f.isFailure = false) : s.mark f = s := by
  simp [mark, hf]

/-- A span whose attributes have other names bears no marks. -/
theorem marked_of_notMem (h : ∀ p ∈ s.attributes, p.1 ∉ markNames) : s.Marked none where
  error := get?_eq_none_of_markNames h (by simp [markNames])
  type := get?_eq_none_of_markNames h (by simp [markNames])
  message := get?_eq_none_of_markNames h (by simp [markNames])

/-! ## Texts -/

section Texts

variable {texts : List (String × String)}

@[simp] theorem recording_setTexts : (s.setTexts texts).recording = s.recording := by
  unfold setTexts
  induction texts generalizing s with
  | nil => rfl
  | cons p texts ih => rw [List.foldl_cons, ih, recording_set]

@[simp] theorem name_setTexts : (s.setTexts texts).name = s.name := by
  unfold setTexts
  induction texts generalizing s with
  | nil => rfl
  | cons p texts ih => rw [List.foldl_cons, ih, name_set]

/-- A span that is not recorded takes no note of attributes. -/
theorem setTexts_of_not_recording (h : s.recording = false) : s.setTexts texts = s := by
  unfold setTexts
  induction texts with
  | nil => rfl
  | cons p texts ih =>
    have hset : s.set p.1 (.str p.2) = s := by simp [set, h]
    rw [List.foldl_cons, hset, ih]

/-- An attribute was there or has one of the names that were set. -/
theorem mem_attributes_setTexts {p : String × Json} (hp : p ∈ (s.setTexts texts).attributes) :
    p ∈ s.attributes ∨ p.1 ∈ texts.map (·.1) := by
  induction texts generalizing s with
  | nil => exact .inl hp
  | cons q texts ih =>
    obtain hp | hp := ih (s := s.set q.1 (.str q.2)) hp
    · exact (mem_attributes_set hp).imp_right fun h => List.mem_cons.mpr (.inl h)
    · exact .inr (List.mem_cons_of_mem _ hp)

end Texts

end Span

end TableDiscovery
