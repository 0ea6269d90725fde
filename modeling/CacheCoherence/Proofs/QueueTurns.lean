import CacheCoherence.Proofs.ChannelTurns
import CacheCoherence.Proofs.QueueStream

/-!
The two tasks of a queue on a stream that does not fail, while completions neither
panic nor shut the queue down. The sending task leaves only when nobody has the
queue any more and nothing waits; the receiving task goes on until the stream ends.
-/

namespace CacheCoherence

/-- Whether a completion neither panics nor shuts the queue down, and hands in nothing that does. -/
def Completion.isCalm : Completion → Bool
  | .ignore | .notify _ => true
  | .callback _ panics => !panics
  | .asking _ c later => c.isCalm && later.isCalm
  | .closing _ => false
  | .releasing later | .recording _ later => later.isCalm

/-- What is still to be done for the octets of a frame, two for each, and for the frame. -/
def Sending.work : Sending → Nat
  | .idle => 2
  | .writing rest buffered =>
    2 * (rest ++ buffered).length + 3 + if rest.isEmpty then 0 else 1
  | .closing buffered => 2 * buffered.length + 1
  | .stopped => 0

/-- A stream that does not fail, and has room for octets in both directions. -/
structure Endpoint.Plain (e : Endpoint) : Prop where
  quiet : e.faults = {}
  inward : 0 < e.incoming.capacity
  outward : 0 < e.outgoing.capacity

theorem Endpoint.Plain.of_alike {e e' : Endpoint} (h : e.Plain) (alike : e.Alike e') :
    e'.Plain where
  quiet := alike.faults.trans h.quiet
  inward := alike.incomingCapacity ▸ h.inward
  outward := alike.outgoingCapacity ▸ h.outward

namespace UpdateQueue

/-- A queue that has not failed, and does not on account of its completions. Its sending task has
left only when nobody had the queue any more and everything was sent. -/
structure Lasting (q : UpdateQueue) : Prop where
  live : q.failure = none
  calm : ∀ s ∈ q.accepted, s.completion.isCalm = true
  left : q.isTaking = false →
    q.held = false ∧ q.draining = true ∧ q.sending.pending = [] ∧ q.accepted = q.sent

theorem lasting_new (node : NodeId) (limits : Limits) : Lasting { node, limits } where
  live := rfl
  calm s h := by cases h
  left := nofun

variable {q q' : UpdateQueue} {stream stream' : Endpoint}

theorem Lasting.accept (h : q.Lasting) {r : Request} {c : Completion} (calm : c.isCalm = true)
    (accepted : q.refusal? r = none) : (q.accept r c).Lasting where
  live := h.live
  calm s hs := by
    rw [accepted_accept, List.mem_append, List.mem_singleton] at hs
    cases hs with
    | inl old => exact h.calm s old
    | inr new => exact new ▸ calm
  left stopped := absurd ((refusal?_eq_none accepted).2.2.symm.trans stopped) (by decide)

theorem Lasting.refuse (h : q.Lasting) (r : Request) (c : Completion) (e : Error) :
    (q.refuse r c e).Lasting where
  live := h.live
  calm s hs := h.calm s (accepted_refuse q r c e ▸ hs)
  left stopped := by
    rw [accepted_refuse]
    exact h.left stopped

theorem Lasting.release (h : q.Lasting) : q.release.Lasting where
  live := h.live
  calm := h.calm
  left stopped := ⟨rfl, (h.left stopped).2⟩

theorem Lasting.react (h : q.Lasting) {c : Completion} (calm : c.isCalm = true) (n : Nat) :
    (react fail n c q).Lasting := by
  induction c generalizing q n with
  | ignore | notify _ => exact h
  | callback name panics =>
      rw [Completion.isCalm, Bool.not_eq_true'] at calm
      rw [UpdateQueue.react, calm]
      exact h
  | asking a c later ihc ih =>
      rw [Completion.isCalm, Bool.and_eq_true] at calm
      rw [UpdateQueue.react]
      split
      · have given : (q.forgo a).Lasting := by
          cases a <;> exact ⟨h.live, h.calm, h.left⟩
        refine ih ?_ calm.2 n
        cases found : (q.forgo a).refusal? a.request with
        | none => exact given.accept calm.1 found
        | some e => exact ihc (given.refuse _ _ e) calm.1 _
      · exact ih h calm.2 n
  | closing later ih => cases calm
  | releasing later ih => exact ih h.release calm n
  | recording holdings later ih =>
      rw [UpdateQueue.react]
      refine ih ?_ calm n
      split
      · exact ⟨h.live, h.calm, h.left⟩
      · exact h

/-- When nobody has the queue, a completion cannot do anything to it. -/
theorem react_of_free (free : q.held = false) {c : Completion} (calm : c.isCalm = true) (n : Nat) :
    react fail n c q = q := by
  induction c generalizing n with
  | ignore | notify _ => rfl
  | callback name panics =>
      rw [Completion.isCalm, Bool.not_eq_true'] at calm
      rw [UpdateQueue.react, calm]
      rfl
  | asking a c later ihc ih =>
      rw [Completion.isCalm, Bool.and_eq_true] at calm
      rw [UpdateQueue.react, free]
      exact ih calm.2 n
  | closing later ih => cases calm
  | releasing later ih =>
      have same : q.release = q := by rw [UpdateQueue.release, ← free]
      rw [UpdateQueue.react, same]
      exact ih calm n
  | recording holdings later ih =>
      rw [UpdateQueue.react, free]
      exact ih calm n

section Answer

variable (h : q.Lasting) (o : q.Ordered) {s : Submission} {later : List Submission}
  (oldest : q.sent.drop q.answers.length = s :: later)

include h o oldest

/-- A response goes to the first request that is not answered, and its completion was handed in with
the request. -/
theorem answer_eq_react (r : Response) (rest : List UInt8) :
    s.completion.isCalm = true ∧ q.answer r rest = react fail s.sequence s.completion
      (({ q with
        inFlight := later.map Submission.toInFlight
        receiving := .running rest }.report [q.answeredLog s.toInFlight]).invoke s.sequence
          s.completion r.toOutcome) := by
  have flying : q.inFlight = s.toInFlight :: later.map Submission.toInFlight := by
    rw [o.flying h.live, oldest, List.map_cons]
  have sent : s ∈ q.sent := List.mem_of_mem_drop (oldest ▸ List.mem_cons_self)
  refine ⟨h.calm s (o.sent.subset sent), ?_⟩
  rw [UpdateQueue.answer, flying]
  rfl

theorem Lasting.answer (r : Response) (rest : List UInt8) : (q.answer r rest).Lasting := by
  obtain ⟨calm, eq⟩ := answer_eq_react h o oldest r rest
  rw [eq]
  refine Lasting.react ?_ calm s.sequence
  exact ⟨h.live, h.calm, h.left⟩

/-- When nobody has the queue, nothing comes of the response but the outcome. -/
theorem answer_of_free (free : q.held = false) (r : Response) (rest : List UInt8) :
    q.answer r rest = ({ q with
      inFlight := later.map Submission.toInFlight
      receiving := .running rest }.report [q.answeredLog s.toInFlight]).invoke s.sequence
        s.completion r.toOutcome := by
  obtain ⟨calm, eq⟩ := answer_eq_react h o oldest r rest
  rw [eq]
  refine react_of_free ?_ calm s.sequence
  exact free

end Answer

/-- A step of the sending task of a lasting queue on a stream that does not fail. -/
inductive Dispatch (q : UpdateQueue) (stream : Endpoint) : UpdateQueue → Endpoint → Prop where
  | launch (s : Submission) (waiting : List Submission) (rest buffered : List UInt8)
      (idle : q.sending = .idle) (first : q.waiting = s :: waiting)
      (frame : rest ++ buffered = s.request.frame) (tidy : rest = [] ∨ buffered = []) :
      Dispatch q stream
        { q with
          waiting
          inFlight := q.inFlight ++ [s.toInFlight]
          sent := q.sent ++ [s]
          sending := .writing rest buffered }
        stream.spend
  | leave (idle : q.sending = .idle) (released : q.held = false) (rest : q.waiting = []) :
      Dispatch q stream { q with draining := true, waiting := [], sending := .closing [] }
        stream.spend
  | write (sending : Sending) (given : List UInt8) (stream' : Endpoint)
      (taking : q.isTaking = true) (still : isTaking { q with sending } = true)
      (tidy : sending.Tidy) (octets : q.sending.pending = given ++ sending.pending)
      (less : sending.work + given.length < q.sending.work) (moved : stream.Moved stream' [] given)
      (alike : stream.Alike stream') : Dispatch q stream { q with sending } stream'
  | stop (closing : q.sending = .closing []) :
      Dispatch q stream { q with sending := .stopped }
        { stream with outgoing := stream.outgoing.close }

theorem dispatch_of_take (h : q.Lasting) (idle : q.sending = .idle) (taken : q.take = some q') :
    Dispatch q stream q' stream.spend := by
  rw [take] at taken
  split at taken
  · next e _ failed => cases h.live.symm.trans failed
  · next live rest =>
    split at taken
    · cases taken
    · next released =>
      cases taken
      have left : leave { q with draining := true } [] =
          { q with draining := true, waiting := [], sending := .closing [] } := by
        rw [UpdateQueue.leave, rest]
        rfl
      rw [left]
      exact .leave idle (by simpa using released) rest
  · next s waiting live first =>
    have launched := launch_of_live { q with waiting } live s
    rw [launched] at taken
    dsimp only at taken
    split at taken
    · cases taken
      exact .launch s waiting [] _ idle first rfl (.inl rfl)
    · cases taken
      exact .launch s waiting _ [] idle first (List.append_nil _) (.inr rfl)

section Quiet

variable (quiet : stream.faults = {})

include quiet

theorem dispatch_of_transmit (unclosed : stream.outgoing.closed = false)
    {rest buffered : List UInt8} (writing : q.sending = .writing rest buffered)
    (tidy : rest = [] ∨ buffered = [])
    (step : q.transmit stream rest buffered = some (q', stream')) :
    Dispatch q stream q' stream' := by
  have taking : q.isTaking = true := by rw [isTaking, writing]
  have pending : q.sending.pending = rest ++ buffered := by rw [writing]; rfl
  rw [transmit] at step
  split at step
  · next empty =>
    rw [List.isEmpty_iff] at empty
    subst empty
    split at step
    · next failed => exact absurd failed (Endpoint.write_ne_failed quiet unclosed _ _)
    · cases step
    · next after written =>
      obtain ⟨given, octets, -, moved, alike⟩ := Endpoint.exists_given_of_write written
      have flush : after.faults.flush = none := by rw [alike.faults, quiet]
      rw [flush] at step
      cases step
      refine .write .idle given _ taking rfl trivial (pending.trans octets) ?_ moved alike
      rw [List.append_nil] at octets
      simp only [writing, octets, Sending.work, List.nil_append]
      omega
    · next after left more written =>
      obtain ⟨given, octets, less, moved, alike⟩ := Endpoint.exists_given_of_write written
      cases step
      have some : 0 < given.length := List.length_pos_iff.mpr fun none => more (less none)
      refine .write (.writing [] left) given _ taking rfl (.inl rfl) (pending.trans octets) ?_
        moved alike
      simp only [writing, octets, Sending.work, List.nil_append, List.length_append,
        List.isEmpty_nil]
      omega
  · next long =>
    have alone : buffered = [] := by
      refine tidy.resolve_left fun none => long ?_
      rw [none]
      rfl
    subst alone
    rw [List.append_nil] at pending
    split at step
    · cases step
      refine .write _ [] stream taking rfl (.inl rfl) pending ?_ stream.moved_refl stream.alike_refl
      simp [writing, Sending.work, long]
    · split at step
      · next failed => exact absurd failed (Endpoint.write_ne_failed quiet unclosed _ _)
      · cases step
      · next after left written =>
        obtain ⟨given, octets, less, moved, alike⟩ := Endpoint.exists_given_of_write written
        cases step
        refine .write (.writing left []) given _ taking rfl (.inr rfl) ?_ ?_ moved alike
        · rw [pending, octets, Sending.pending, List.append_nil]
        · have some : left ≠ [] → 0 < given.length := fun left =>
            List.length_pos_iff.mpr fun none => left (less none)
          have count := congrArg List.length octets
          rw [List.length_append] at count
          simp only [writing, Sending.work, List.append_nil, long]
          cases left with
          | nil => simp at count ⊢; omega
          | cons b left =>
              have := some (List.cons_ne_nil b left)
              simp at count ⊢; omega

theorem dispatch_of_send (h : q.Lasting) (tidy : q.sending.Tidy)
    (unclosed : q.sending ≠ .stopped → stream.outgoing.closed = false)
    (step : q.send stream = some (q', stream')) : Dispatch q stream q' stream' := by
  rw [send] at step
  split at step
  · next idle =>
    split at step
    · cases step
    · obtain ⟨_, taken, eq⟩ := Option.map_eq_some_iff.mp step
      cases eq
      exact dispatch_of_take h idle taken
  · next rest buffered writing =>
    rw [writing] at tidy
    exact dispatch_of_transmit quiet (unclosed (by simp [writing])) writing tidy step
  · next buffered closing =>
    have nothing : buffered = [] := by
      have pending := (h.left (by rw [isTaking, closing])).2.2.1
      rwa [closing] at pending
    subst nothing
    have finish : stream.finish = ({ stream with outgoing := stream.outgoing.close }, none) := by
      rw [Endpoint.finish, quiet]
    rw [conclude, Endpoint.write] at step
    simp only [List.isEmpty_nil, if_true, finish] at step
    cases step
    exact .stop closing
  · cases step

end Quiet

/-- Once nobody has the queue, the sending task waits only for room in the stream. -/
theorem room_of_send (live : q.failure = none) (free : q.held = false)
    (ready : stream.allowance ≠ 0) (waiting : q.send stream = none) :
    q.sending = .stopped ∨ stream.outgoing.room = 0 := by
  have room : ∀ {bytes}, stream.write bytes = .blocked → stream.outgoing.room = 0 :=
    fun blocked => ((Endpoint.blocked_of_write blocked).resolve_left ready).2.2
  rw [send] at waiting
  split at waiting
  · next idle =>
    rw [live, Option.isNone_none, Bool.true_and, decide_eq_false ready,
      if_neg Bool.false_ne_true, Option.map_eq_none_iff, take, live, free] at waiting
    cases first : q.waiting with
    | nil =>
        rw [first] at waiting
        cases waiting
    | cons s rest =>
        rw [first] at waiting
        dsimp only at waiting
        split at waiting <;> cases waiting
  · next rest buffered writing =>
    rw [transmit] at waiting
    split at waiting
    · split at waiting
      · cases waiting
      · next blocked => exact .inr (room blocked)
      · split at waiting <;> cases waiting
      · cases waiting
    · split at waiting
      · cases waiting
      · split at waiting
        · cases waiting
        · next blocked => exact .inr (room blocked)
        · cases waiting
  · next buffered closing =>
    rw [conclude] at waiting
    split at waiting
    · cases waiting
    · next blocked => exact .inr (room blocked)
    · cases waiting
    · cases waiting
  · next off => exact .inl off

/-- A step of the receiving task of a live queue on a stream that does not fail, while the octets
that it holds are no fault. -/
inductive Intake (q : UpdateQueue) (stream : Endpoint) (received : List UInt8) :
    UpdateQueue → Endpoint → Prop where
  | digest (bytes : List UInt8) (stream' : Endpoint) (moved : stream.Moved stream' bytes [])
      (alike : stream.Alike stream')
      (found : bytes = [] → ∃ r rest, Response.read.arrival received = .frame r rest) :
      Intake q stream received (q.digest (received ++ bytes)) stream'
  | finish (atEnd : ChannelError) (none : stream.incoming.octets = [])
      (closed : stream.incoming.closed = true)
      (ending : Response.read.arrival received = .nothing ∧ atEnd = q.endError ∨
        ∃ context missing, Response.read.arrival received = .begun context missing) :
      Intake q stream received (q.failReceiving atEnd) stream

theorem intake_of_collect (quiet : stream.faults = {}) {received : List UInt8} {context : String}
    {missing : Nat} {atEnd : ChannelError}
    (ending : Response.read.arrival received = .nothing ∧ atEnd = q.endError ∨
      ∃ context missing, Response.read.arrival received = .begun context missing)
    (step : q.collect stream received context missing atEnd = some (q', stream')) :
    Intake q stream received q' stream' := by
  rw [collect] at step
  split at step
  · next failed => exact absurd failed (Endpoint.read_ne_failed quiet _ _)
  · cases step
  · next ended =>
    obtain ⟨empty, closed⟩ := Endpoint.exhausted_of_read ended
    cases step
    exact .finish atEnd empty closed ending
  · next after bytes got =>
    have digested : some (q.digest (received ++ bytes), after) = some (q', stream') := by
      rw [UpdateQueue.digest, ← step]
      dsimp only
      cases Response.read.arrival (received ++ bytes) <;> rfl
    cases digested
    exact .digest bytes _ (Endpoint.moved_read got) (Endpoint.alike_read got) fun none =>
      absurd none (Endpoint.ne_nil_of_readAhead got)

theorem intake_of_receive (quiet : stream.faults = {}) (live : q.failure = none)
    {received : List UInt8} (running : q.receiving = .running received)
    (sound : ∀ e, Response.read.arrival received ≠ .refused e)
    (step : q.receive stream = some (q', stream')) : Intake q stream received q' stream' := by
  rw [receive, running, live] at step
  dsimp only at step
  split at step
  · cases step
  · cases arrived : Response.read.arrival received with
    | frame r rest =>
        have now : q.digest (received ++ []) = q.answer r rest := by
          rw [List.append_nil, UpdateQueue.digest, arrived]
        rw [arrived] at step
        cases step
        rw [← now]
        exact .digest [] _ stream.moved_refl stream.alike_refl fun _ => ⟨r, rest, arrived⟩
    | nothing =>
        rw [arrived] at step
        exact intake_of_collect quiet (.inl ⟨arrived, rfl⟩) step
    | begun context missing =>
        rw [arrived] at step
        exact intake_of_collect quiet (.inr ⟨context, missing, arrived⟩) step
    | refused e => exact absurd arrived (sound e)

theorem waits_of_collect (ready : stream.allowance ≠ 0) {received : List UInt8}
    {context : String} {missing : Nat} {atEnd : ChannelError}
    (waiting : q.collect stream received context missing atEnd = none) :
    stream.incoming.octets = [] ∧ stream.incoming.closed = false := by
  rw [collect] at waiting
  split at waiting
  · cases waiting
  · next read => exact (Endpoint.waiting_of_read read).resolve_left ready
  · cases waiting
  · dsimp only at waiting
    split at waiting <;> cases waiting

/-- The receiving task of a live queue waits only for octets, or for the end of the stream. -/
theorem waits_of_receive (live : q.failure = none) {received : List UInt8}
    (running : q.receiving = .running received) (ready : stream.allowance ≠ 0)
    (waiting : q.receive stream = none) :
    stream.incoming.octets = [] ∧ stream.incoming.closed = false := by
  rw [receive, running, live] at waiting
  dsimp only at waiting
  rw [if_neg ready] at waiting
  split at waiting
  · cases waiting
  · exact waits_of_collect ready waiting
  · exact waits_of_collect ready waiting
  · cases waiting

/-- A queue with nothing in flight fails without completing anything. -/
theorem fail_of_idle (live : q.failure = none) (idle : q.inFlight = []) (e : ChannelError) :
    q.fail e = q.close e := by
  rw [UpdateQueue.fail, live, idle]
  rfl

end UpdateQueue

end CacheCoherence
