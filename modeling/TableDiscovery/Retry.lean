import TableDiscovery.Site

/-!
# Retrying

An action that fails is tried again after a delay that grows from attempt to attempt up to a bound.
A random part of up to a quarter of it keeps callers apart.

* `Retry.Policy`, `Retry.delay`: how often, how long, and after which failures;
* `Retry.run`: an action under a policy.
-/

namespace TableDiscovery.Retry

/-- The logger of this module. -/
def logger : String := "utils.retry"

/-- How an action is retried. No kinds at all mean every failure. -/
structure Policy where
  maxRetries : Int := 3
  baseDelay : Float := 1.0
  maxDelay : Float := 60.0
  growth : Float := 2.0
  jitter : Bool := true
  kinds : List Kind := []

/-- The smaller of two numbers, the first one unless the second is less. -/
def least (a b : Float) : Float := if b < a then b else a

/-- The greater of two numbers, the first one unless the second is greater. -/
def greatest (a b : Float) : Float := if a < b then b else a

/-- The delay after an attempt, counted from zero, before its random part. -/
def bareDelay (p : Policy) (attempt : Int) : Except Fault Float :=
  match Number.power p.growth attempt with
  | .ok factor => .ok (least (p.baseDelay * factor) p.maxDelay)
  | .error cause => .error (.power cause)

/-- A delay moved by up to a quarter of itself; `r` is a random number below one. -/
def jittered (delay r : Float) : Float :=
  let amount := delay * 0.25
  greatest 0.1 (delay + (-amount + (amount - -amount) * r))

/-- The delay after an attempt, counted from zero. -/
def delay (p : Policy) (attempt : Int) : Act Site Float := do
  let bare ← Act.ofExcept (bareDelay p attempt)
  if p.jitter && 0.0 < bare then return greatest 0.0 (jittered bare (← Site.random))
  else return greatest 0.0 bare

/-- Whether a failure is worth another attempt. -/
def Policy.retries (p : Policy) (f : Fault) : Bool := p.kinds.isEmpty || f.isAnyOf p.kinds

section

variable {σ α : Type} [MonadLiftT (Act Site) (Act σ)]

/-- The number of attempts in decimal, if it can be written. -/
def totalText (p : Policy) : Act σ String :=
  match Text.writeInt? (p.maxRetries + 1) with
  | some s => pure s
  | none => throw .tooManyDigits

/-- What is done between an attempt and the next one: the delay is announced and waited, if the
platform can wait for so long. -/
def pause (name : String) (p : Policy) (onRetry : Option (Nat → Fault → Float → Act σ Unit))
    (attempt : Nat) (f : Fault) : Act σ Unit := do
  let wait ← delay p attempt
  let total ← totalText p
  Site.log .warning logger ("Attempt " ++ toString (attempt + 1) ++ "/" ++ total ++
    " failed for " ++ name ++ ": " ++ f.summary ++ ". Retrying in " ++
    Number.fixed 2 false wait ++ "s...")
  match onRetry with
  | none => pure ()
  | some callback =>
    match ← Act.attempt (callback (attempt + 1) f wait) with
    | .ok _ => pure ()
    | .error g =>
      if g.isFailure then
        Site.log .error logger ("Error in retry callback: " ++ g.message)
      else throw g
  if 0.0 < wait then Site.sleep wait

/-- The attempts from the one with a number on, of which `left` are left. -/
def attempts (name : String) (p : Policy) (onRetry : Option (Nat → Fault → Float → Act σ Unit))
    (x : Act σ α) : (left attempt : Nat) → Act σ α
  | 0, _ => throw (.attemptsExhausted name)
  | left + 1, attempt => do
    match ← Act.attempt x with
    | .ok a => return a
    | .error f =>
      if !f.isFailure then throw f
      else if !p.retries f then
        Site.log .error logger ("Non-retryable exception in " ++ name ++ ": " ++ f.summary)
        throw f
      else if left = 0 then
        Site.log .error logger ("Giving up on " ++ name ++ " after " ++ toString (attempt + 1) ++
          " attempt(s): " ++ f.summary)
        throw f
      else
        pause name p onRetry attempt f
        attempts name p onRetry x left (attempt + 1)

/-- Runs an action under a policy; a negative number of retries leaves no attempt at all. -/
def run (name : String) (p : Policy) (onRetry : Option (Nat → Fault → Float → Act σ Unit))
    (x : Act σ α) : Act σ α :=
  attempts name p onRetry x (p.maxRetries + 1).toNat 0

end

end TableDiscovery.Retry
