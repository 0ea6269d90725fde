import CacheCoherence.Proofs.QueueSteps

/-!
Runs of an update queue. Its callers, its two tasks and the other side of the
stream take steps in any order, one at a time; each step goes from one point
where the party may have to wait to the next. The other side can leave the
stream in any state whatever.
-/

namespace CacheCoherence

structure Exchange where
  queue : UpdateQueue
  stream : Endpoint

namespace Exchange

open UpdateQueue

inductive Action where
  | enqueue (r : Request) (c : Completion)
  | submit (r : Request) (caller : Nat)
  | evict (k : Key) (c : Completion)
  | downgrade (k : Key) (c : Completion)
  | shutdown
  /-- The last of the callers lets go of the queue. -/
  | release
  | send
  | receive
  | peer (stream : Endpoint)

def start (node : NodeId) (limits : Limits) (stream : Endpoint) : Exchange :=
  ⟨{ node, limits }, stream⟩

/-- A call on the queue, which only one who has it can make. -/
def call (x : Exchange) (f : UpdateQueue → UpdateQueue) : Exchange :=
  if x.queue.held then { x with queue := f x.queue } else x

def advance (x : Exchange) (task : UpdateQueue → Endpoint → Option (UpdateQueue × Endpoint)) :
    Exchange :=
  match task x.queue x.stream with
  | none => x
  | some (queue, stream) => ⟨queue, stream⟩

def step (x : Exchange) : Action → Exchange
  | .enqueue r c => x.call fun q => (q.enqueue r c).1
  | .submit r caller => x.call fun q => q.submit r caller
  | .evict k c => x.call fun q => (q.evict k c).1
  | .downgrade k c => x.call fun q => (q.downgrade k c).1
  | .shutdown => x.call UpdateQueue.shutdown
  | .release => x.call UpdateQueue.release
  | .send => x.advance send
  | .receive => x.advance UpdateQueue.receive
  | .peer stream => { x with stream }

def after (x : Exchange) (run : List Action) : Exchange :=
  run.foldl step x

section Keeps

variable {P : List InFlight → UpdateQueue → Prop} {x : Exchange}

theorem call_keeps {f : UpdateQueue → UpdateQueue} (h : P [] x.queue)
    (kept : P [] (f x.queue)) : P [] (x.call f).queue := by
  rw [call]
  split
  · exact kept
  · exact h

theorem advance_keeps {task : UpdateQueue → Endpoint → Option (UpdateQueue × Endpoint)}
    (h : P [] x.queue)
    (kept : ∀ q stream, task x.queue x.stream = some (q, stream) → P [] q) :
    P [] (x.advance task).queue := by
  rw [advance]
  cases found : task x.queue x.stream with
  | none => exact h
  | some result => exact kept _ _ found

theorem step_keeps (k : Keeps P) (send : ∀ {q q'}, P [] q → SendStep q q' → P [] q')
    (receive : ∀ {q q'}, P [] q → ReceiveStep q q' → P [] q') (a : Action) (h : P [] x.queue) :
    P [] (x.step a).queue := by
  cases a with
  | enqueue r c => exact call_keeps h (k.enqueue r c h)
  | submit r caller => exact call_keeps h (k.submit r caller h)
  | evict key c => exact call_keeps h (k.ask (.evict key) c h)
  | downgrade key c => exact call_keeps h (k.ask (.downgrade key) c h)
  | shutdown => exact call_keeps h (k.fail [] _ _ h)
  | release => exact call_keeps h (k.release h)
  | send => exact advance_keeps h fun _ _ found => send h (sendStep_of_send found)
  | receive => exact advance_keeps h fun _ _ found => receive h (receiveStep_of_receive found)
  | peer stream => exact h

theorem after_keeps (k : Keeps P) (send : ∀ {q q'}, P [] q → SendStep q q' → P [] q')
    (receive : ∀ {q q'}, P [] q → ReceiveStep q q' → P [] q') (run : List Action)
    (h : P [] x.queue) : P [] (x.after run).queue := by
  induction run generalizing x with
  | nil => exact h
  | cons a rest ih => exact ih (step_keeps k send receive a h)

end Keeps

end Exchange

end CacheCoherence
