/-!
# Insertion-ordered maps

A finite map is a list of keys with their values. A new key goes to the end; writing a key again
replaces its value and keeps its place.

* `Assoc`, `Assoc.get?`, `Assoc.put`, `Assoc.erase`, `Assoc.update`;
* `Assoc.get?_put`: what is found after a write.
-/

namespace TableDiscovery

/-- Keys with values, the keys in the order in which they were first written. -/
abbrev Assoc (α β : Type) := List (α × β)

namespace Assoc

variable {α β : Type} [DecidableEq α]

/-- The value of a key. -/
def get? : Assoc α β → α → Option β
  | [], _ => none
  | (k, v) :: rest, key => if k = key then some v else get? rest key

/-- Writes a key. -/
def put : Assoc α β → α → β → Assoc α β
  | [], key, value => [(key, value)]
  | (k, v) :: rest, key, value =>
    if k = key then (k, value) :: rest else (k, v) :: put rest key value

/-- Forgets a key. -/
def erase (m : Assoc α β) (key : α) : Assoc α β := m.filter fun p => p.1 ≠ key

/-- Writes the entries of another map in their order. -/
def update (m other : Assoc α β) : Assoc α β := other.foldl (fun m p => m.put p.1 p.2) m

/-- Changes the value of a key, which is `start` if there is none yet. -/
def alter (m : Assoc α β) (key : α) (start : β) (f : β → β) : Assoc α β :=
  m.put key (f ((m.get? key).getD start))

/-- The map of a list of entries; of several with one key the last value counts. -/
def ofList (entries : List (α × β)) : Assoc α β := update [] entries

theorem get?_put (m : Assoc α β) (key : α) (value : β) (k : α) :
    (m.put key value).get? k = if key = k then some value else m.get? k := by
  induction m with
  | nil => rfl
  | cons p rest ih =>
    obtain ⟨k', v⟩ := p
    by_cases h : k' = key
    · subst h
      by_cases hk : k' = k <;> simp [put, get?, hk]
    · by_cases hk : k' = k
      · subst hk
        simp [put, get?, h, Ne.symm h]
      · simp [put, get?, h, hk, ih]

end Assoc

end TableDiscovery
