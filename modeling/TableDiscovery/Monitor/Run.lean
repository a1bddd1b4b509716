import TableDiscovery.Monitor.Basic

/-!
# The monitor's loop

The loop polls and waits in turn. It ends when the monitor is to stop, or after it has told the
host of a failure that is not transient. It runs on a thread of its own, of which a caller sees
whether it waits for the next poll or has ended, or on the caller's thread.

* `Monitor.awaitPoll`: the wait for the next poll;
* `Monitor.round`: one poll with what follows it, up to the wait;
* `Monitor.run`: the loop, stopped in a given wait;
* `Monitor.start`, `Monitor.tick`, `Monitor.settle`, `Monitor.stop`: the thread.
-/

namespace TableDiscovery.Monitor

/-- The beginning of the loop. -/
def enter : Act Watch Unit := Site.log .info logger "Starting thread to monitor tables."

/-- The end of the loop when the monitor is to stop. -/
def finish : Act Watch Unit := Site.log .info logger "Table monitor stopped"

/-- A poll and the request that it may call for. -/
def pollAndRequest (m : Monitor) : Act Watch Unit := do
  if ← m.poll then m.requestReconfiguration

/-- The wait for the next poll, which a shutdown ends. Its length is announced and must be one that
can be written, converted and waited for; a failure here is not told to the host. -/
def awaitPoll (m : Monitor) : Act Watch Unit := do
  match Text.writeInt? m.interval with
  | none => throw .tooManyDigits
  | some interval =>
    Site.log .debug logger ("Waiting " ++ interval ++ " ms to check for changed tables.")
    let seconds ← Act.ofExcept m.seconds
    Site.block (← get).stopping seconds

/-- One round of the loop up to its wait; tells whether it waits. -/
def round (m : Monitor) : Act Watch Bool := do
  if (← get).stopping then
    finish
    return false
  else
    match ← Act.attempt m.pollAndRequest with
    | .error f =>
      if f.isFailure then
        Site.log .error logger "Table monitor failed, no further table polls will run"
        reportError f
        return false
      else throw f
    | .ok _ =>
      m.awaitPoll
      return true

/-- Rounds of the loop; after `more` waits that time out, one ends by a shutdown. -/
def rounds (m : Monitor) : (more : Nat) → Act Watch Unit
  | 0 => do
    if ← m.round then
      modify Watch.overtaken
      finish
  | more + 1 => do
    if ← m.round then
      if (← get).stopping then finish else m.rounds more

/-- The loop on the caller's thread, stopped in the wait with a number, the first one at least. -/
def run (m : Monitor) (wait : Nat) : Act Watch Unit := do
  enter
  m.rounds (wait - 1)

/-! ## The thread -/

/-- The thread ends if it waits and the monitor is to stop. -/
def settle : Act Watch Unit := do
  let w ← get
  if w.thread = .waiting && w.stopping then
    finish
    modify fun w => { w with thread := .ended }

/-- The thread runs up to its next wait or its end. What escapes the loop ends the thread. -/
def advance (m : Monitor) : Act Watch Unit := do
  match ← Act.attempt m.round with
  | .ok true => modify fun w => { w with thread := .waiting }
  | _ => modify fun w => { w with thread := .ended }

/-- Starts the thread, which is possible once. -/
def start (m : Monitor) : Act Watch Unit := do
  if (← get).thread = .idle then
    enter
    m.advance
  else throw .threadStarted

/-- The wait of the thread times out, unless the monitor is to stop. -/
def tick (m : Monitor) : Act Watch Unit := do
  let w ← get
  if w.thread = .waiting && !w.stopping then m.advance

/-- Tells the monitor to stop and waits for its thread. -/
def stop : Act Watch Unit := do
  shutDown
  modify fun w => { w with thread := w.thread.woken }
  settle

/-- The name of the thread, and whether it may be left behind at the end of the program. -/
def threadTraits : String × Bool := ("table-monitor", true)

end TableDiscovery.Monitor
