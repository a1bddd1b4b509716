import TableDiscovery.Retry

/-!
# Trials

A trial runs a scripted function under a retry policy: what each call of the function gives and
what each call of the callback does is known beforehand.

* `Retry.Trial`: a site with a scripted function and callback;
* `Retry.Trial.call`, `Retry.Trial.callback`: one call of each;
* `Retry.Trial.run`.
-/

namespace TableDiscovery.Retry

/-- A site with the outcomes of a function and of a callback, call by call. -/
structure Trial extends Site where
  outcome : Nat → Except Fault Json
  answer : Nat → Option Fault
  calls : Nat := 0
  callbacks : Nat := 0

namespace Trial

instance : MonadLift (Act Site) (Act Trial) :=
  ⟨Act.zoom (·.toSite) fun t s => { t with toSite := s }⟩

/-- Calls the function. -/
def call : Act Trial Json := do
  Site.record .call
  let t ← get
  set { t with calls := t.calls + 1 }
  Act.ofExcept (t.outcome t.calls)

/-- Calls the callback. -/
def callback (attempt : Nat) (f : Fault) (delay : Float) : Act Trial Unit := do
  Site.record (.retried attempt f delay)
  let t ← get
  set { t with callbacks := t.callbacks + 1 }
  Act.failWith (t.answer t.callbacks)

/-- Runs the function under a policy, with the callback or without it. -/
def run (name : String) (p : Policy) (withCallback : Bool) : Act Trial Json :=
  Retry.run name p (if withCallback then some callback else none) call

end Trial

end TableDiscovery.Retry
