import CacheCoherence.Proofs.Completions
import CacheCoherence.Proofs.ResponseFormat
import CacheCoherence.Queue.Tasks

/-!
What the two tasks of a queue can do in one step.
-/

namespace CacheCoherence

theorem StreamFault.toError_ne_completionPanicked (f : StreamFault) (context : String) (n : Nat) :
    f.toError context ≠ .completionPanicked n := by
  cases f <;> nofun

namespace UpdateQueue

theorem leave_of_failed {q : UpdateQueue} {e : ChannelError} (failed : q.failure = some e)
    (buffered : List UInt8) :
    q.leave buffered =
      q.waiting.foldl (fun q s => q.deliver s.sequence s.completion (.error (.channel e)))
        { q with waiting := [], sending := .closing buffered } := by
  have known : q.unsentError = e := by
    rw [unsentError, failed]
    rfl
  rw [leave, known]

/-- A sending task that stops completes what waits. It stops because the queue has failed, or
because nothing waits any more. -/
theorem Keeps.leave {P : List InFlight → UpdateQueue → Prop} (k : Keeps P) {l : List InFlight}
    {q : UpdateQueue} (buffered : List UInt8)
    (h : P (q.waiting.map Submission.toInFlight ++ l)
      { q with waiting := [], sending := .closing buffered })
    (ended : q.failure = none → q.waiting = []) : P l (q.leave buffered) := by
  cases failed : q.failure with
  | some e =>
      rw [leave_of_failed failed]
      exact k.deliverAll q.waiting l _ h failed
  | none =>
      rw [ended failed] at h
      rw [UpdateQueue.leave, ended failed]
      exact h

inductive SendStep (q : UpdateQueue) : UpdateQueue → Prop where
  /-- The first request that waits is noted, and its frame begun. -/
  | launch (s : Submission) (waiting : List Submission) (sending : Sending)
      (idle : q.sending = .idle) (live : q.failure = none) (first : q.waiting = s :: waiting)
      (taking : isTaking { q with sending } = true) :
      SendStep q
        { q with
          waiting
          inFlight := q.inFlight ++ [s.toInFlight]
          sent := q.sent ++ [s]
          sending }
  /-- A failure is met. -/
  | leave (e : ChannelError) (failed : q.failure = some e) : SendStep q (q.leave [])
  /-- Nobody has the queue, and nothing waits. -/
  | drain (released : q.held = false) (live : q.failure = none) (rest : q.waiting = []) :
      SendStep q ({ q with draining := true }.leave [])
  | fail (f : StreamFault) (buffered : List UInt8) : SendStep q (q.failSending f buffered)
  | write (sending : Sending) (taking : isTaking { q with sending } = q.isTaking) :
      SendStep q { q with sending }
  /-- A task that has stopped taking requests is through with its stream. -/
  | stop (fault : Option StreamFault) (left : q.isTaking = false) : SendStep q (q.stopSending fault)

theorem launch_of_live (q : UpdateQueue) (live : q.failure = none) (s : Submission) :
    q.launch s =
      ({ q with inFlight := q.inFlight ++ [s.toInFlight], sent := q.sent ++ [s] }, true) := by
  rw [launch, live]

theorem sendStep_of_take {q q' : UpdateQueue} (idle : q.sending = .idle) (h : q.take = some q') :
    SendStep q q' := by
  rw [take] at h
  split at h
  · next e failed =>
    cases h
    exact .leave e failed
  · next live rest =>
    split at h
    · cases h
    · next released =>
      cases h
      exact .drain (by simpa using released) live rest
  · next s waiting live first =>
    have launched := launch_of_live { q with waiting } live s
    rw [launched] at h
    cases h
    refine .launch s waiting _ idle live first ?_
    cases isShorter s.request.frame bufferSize <;> rfl

theorem sendStep_of_transmit {q q' : UpdateQueue} {stream stream' : Endpoint}
    {rest buffered : List UInt8} (writing : q.sending = .writing rest buffered)
    (h : q.transmit stream rest buffered = some (q', stream')) : SendStep q q' := by
  have taking : q.isTaking = true := by rw [isTaking, writing]
  rw [transmit] at h
  split at h
  · split at h
    · cases h
      exact .fail _ _
    · cases h
    · split at h
      · cases h
        exact .fail _ _
      · cases h
        exact .write _ taking.symm
    · cases h
      exact .write _ taking.symm
  · split at h
    · cases h
      exact .write _ taking.symm
    · split at h
      · cases h
        exact .fail _ _
      · cases h
      · cases h
        exact .write _ taking.symm

theorem sendStep_of_conclude {q q' : UpdateQueue} {stream stream' : Endpoint}
    {buffered : List UInt8} (closing : q.sending = .closing buffered)
    (h : q.conclude stream buffered = some (q', stream')) : SendStep q q' := by
  have left : q.isTaking = false := by rw [isTaking, closing]
  rw [conclude] at h
  split at h
  · cases h
    exact .stop _ left
  · cases h
  · cases h
    exact .stop _ left
  · cases h
    exact .write _ left.symm

theorem sendStep_of_send {q q' : UpdateQueue} {stream stream' : Endpoint}
    (h : q.send stream = some (q', stream')) : SendStep q q' := by
  rw [send] at h
  split at h
  · next idle =>
    split at h
    · cases h
    · obtain ⟨_, taken, eq⟩ := Option.map_eq_some_iff.mp h
      cases eq
      exact sendStep_of_take idle taken
  · next writing => exact sendStep_of_transmit writing h
  · next closing => exact sendStep_of_conclude closing h
  · cases h

inductive ReceiveStep (q : UpdateQueue) : UpdateQueue → Prop where
  | wait (receiving : Receiving) : ReceiveStep q { q with receiving }
  /-- The stream fails or ends, or brings what is no answer to a request. -/
  | fail (e : ChannelError) (outer : ∀ n, e ≠ .completionPanicked n) :
      ReceiveStep q (q.failReceiving e)
  /-- A response comes for the oldest request in flight. -/
  | answer (f : InFlight) (inFlight : List InFlight) (r : Response) (rest : List UInt8)
      (live : q.failure = none) (oldest : q.inFlight = f :: inFlight) :
      ReceiveStep q
        (({ q with inFlight, receiving := .running rest }.report [q.answeredLog f]).deliver
          f.sequence f.completion r.toOutcome)

theorem receiveStep_answer {q : UpdateQueue} (live : q.failure = none) (r : Response)
    (rest : List UInt8) : ReceiveStep q (q.answer r rest) := by
  rw [answer]
  cases found : q.inFlight with
  | nil => exact .fail _ nofun
  | cons f inFlight => exact .answer f inFlight r rest live found

theorem receiveStep_of_refused {q : UpdateQueue} {bytes : List UInt8} {e : ChannelError}
    (arrived : Response.read.arrival bytes = .refused e) : ReceiveStep q (q.failReceiving e) := by
  refine .fail e ?_
  rintro n rfl
  cases Response.isRefusal_of_arrival arrived

theorem receiveStep_of_collect {q q' : UpdateQueue} {stream stream' : Endpoint}
    {received : List UInt8} {context : String} {missing : Nat} {atEnd : ChannelError}
    (live : q.failure = none) (outer : ∀ n, atEnd ≠ .completionPanicked n)
    (h : q.collect stream received context missing atEnd = some (q', stream')) :
    ReceiveStep q q' := by
  rw [collect] at h
  split at h
  · next f _ =>
    cases h
    exact .fail _ (f.toError_ne_completionPanicked context)
  · cases h
  · cases h
    exact .fail _ outer
  · dsimp only at h
    split at h
    · cases h
      exact receiveStep_answer live _ _
    · cases h
      exact .wait _
    · cases h
      exact .wait _
    · next arrived =>
      cases h
      exact receiveStep_of_refused arrived

theorem receiveStep_of_receive {q q' : UpdateQueue} {stream stream' : Endpoint}
    (h : q.receive stream = some (q', stream')) : ReceiveStep q q' := by
  rw [receive] at h
  split at h
  · cases h
  · cases h
    exact .wait _
  · next live =>
    have ending : ∀ n, q.endError ≠ .completionPanicked n := by
      rw [endError]
      split <;> nofun
    split at h
    · cases h
    · split at h
      · cases h
        exact receiveStep_answer live _ _
      · exact receiveStep_of_collect live ending h
      · exact receiveStep_of_collect live (by nofun) h
      · next arrived =>
        cases h
        exact receiveStep_of_refused arrived

end UpdateQueue

end CacheCoherence
