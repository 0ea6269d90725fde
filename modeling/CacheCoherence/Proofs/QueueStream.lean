import CacheCoherence.Proofs.QueueOrder
import CacheCoherence.Proofs.Stream

/-!
What the two tasks of a queue do with its stream. The sending task writes the
frames of the requests that it notes, one behind the other, and leaves the rest
of a frame unwritten only when it stops for good. The receiving task makes
responses of the octets in the order in which they come.
-/

namespace CacheCoherence

/-- Octets of frames that are begun, and still to be written. -/
def Sending.pending : Sending → List UInt8
  | .writing rest buffered => rest ++ buffered
  | .closing buffered => buffered
  | .idle | .stopped => []

/-- A frame is in the buffer as a whole, or not at all. -/
def Sending.Tidy : Sending → Prop
  | .writing rest buffered => rest = [] ∨ buffered = []
  | .idle | .closing _ | .stopped => True

namespace UpdateQueue

variable {q q' : UpdateQueue} {stream stream' : Endpoint}

/-- A step of the sending task, with the octets that it has written and those that never will be. -/
inductive Transmission (q : UpdateQueue) (stream : Endpoint) : UpdateQueue → Endpoint → Prop where
  /-- The first request that waits is noted, and its frame begun. -/
  | launch (s : Submission) (waiting : List Submission) (rest buffered : List UInt8)
      (idle : q.sending = .idle) (live : q.failure = none) (first : q.waiting = s :: waiting)
      (frame : rest ++ buffered = s.request.frame) (tidy : rest = [] ∨ buffered = []) :
      Transmission q stream
        { q with
          waiting
          inFlight := q.inFlight ++ [s.toInFlight]
          sent := q.sent ++ [s]
          sending := .writing rest buffered }
        stream.spend
  /-- No more requests are taken, for a failure or because nobody has the queue. -/
  | leave (q₁ : UpdateQueue) (buffered given lost : List UInt8) (stream' : Endpoint)
      (before : q.Continues q₁) (unbroken : q.Unbroken → q₁.Unbroken)
      (ended : q₁.failure = none → q₁.waiting = [])
      (octets : q.sending.pending = given ++ buffered ++ lost)
      (moved : stream.Moved stream' [] given) : Transmission q stream (q₁.leave buffered) stream'
  | write (sending : Sending) (given : List UInt8) (stream' : Endpoint)
      (taking : isTaking { q with sending } = q.isTaking) (tidy : sending.Tidy)
      (octets : q.sending.pending = given ++ sending.pending)
      (moved : stream.Moved stream' [] given) : Transmission q stream { q with sending } stream'
  | stop (fault : Option StreamFault) (given lost : List UInt8) (stream' : Endpoint)
      (octets : q.sending.pending = given ++ lost) (moved : stream.Moved stream' [] given) :
      Transmission q stream (q.stopSending fault) stream'

theorem transmission_of_take (idle : q.sending = .idle) (h : q.take = some q') :
    Transmission q stream q' stream.spend := by
  have nothing : q.sending.pending = [] ++ [] ++ [] := by
    rw [idle]
    rfl
  rw [take] at h
  split at h
  · next e failed =>
    cases h
    refine .leave q [] [] [] _ q.continues_refl id ?_ nothing stream.moved_spend
    intro live
    rw [live] at failed
    cases failed
  · next live rest =>
    split at h
    · cases h
    · cases h
      have draining : q.Continues { q with draining := true } := by
        obtain ⟨limits, sent, answers, sending, receiving, accepted, flying⟩ := q.continues_refl
        exact ⟨limits, sent, answers, sending, receiving, accepted, flying⟩
      exact .leave _ [] [] [] _ draining id (fun _ => rest) nothing stream.moved_spend
  · next s waiting live first =>
    have launched := launch_of_live { q with waiting } live s
    rw [launched] at h
    dsimp only at h
    split at h
    · cases h
      exact .launch s waiting [] _ idle live first rfl (.inl rfl)
    · cases h
      exact .launch s waiting _ [] idle live first (List.append_nil _) (.inr rfl)

theorem transmission_of_failSending (f : StreamFault) {buffered given : List UInt8}
    (lost : List UInt8) (octets : q.sending.pending = given ++ buffered ++ lost)
    (moved : stream.Moved stream' [] given) :
    Transmission q stream (q.failSending f buffered) stream' := by
  refine .leave (q.fail _) buffered given lost stream' (q.continues_fail _)
    (·.fail (f.isBreach_toError "frame")) ?_ octets moved
  intro live
  rw [failure_fail] at live
  cases live

theorem transmission_of_transmit {rest buffered : List UInt8}
    (writing : q.sending = .writing rest buffered) (tidy : rest = [] ∨ buffered = [])
    (h : q.transmit stream rest buffered = some (q', stream')) :
    Transmission q stream q' stream' := by
  have pending : q.sending.pending = rest ++ buffered := by rw [writing]; rfl
  have taking : ∀ rest buffered, isTaking { q with sending := .writing rest buffered } =
      q.isTaking := by
    intro rest buffered
    rw [isTaking, isTaking, writing]
  rw [transmit] at h
  split at h
  · next empty =>
    rw [List.isEmpty_iff.mp empty, List.nil_append] at pending
    split at h
    · cases h
      refine transmission_of_failSending _ [] ?_ stream.moved_refl
      rw [pending, List.nil_append, List.append_nil]
    · cases h
    · next written =>
      obtain ⟨given, octets, moved⟩ := Endpoint.moved_write written
      rw [octets] at pending
      split at h
      · cases h
        refine transmission_of_failSending _ [] ?_ moved
        rw [pending, List.append_nil, List.append_nil]
      · cases h
        refine .write .idle given _ ?_ trivial pending moved
        rw [isTaking, isTaking, writing]
    · next written =>
      obtain ⟨given, octets, moved⟩ := Endpoint.moved_write written
      cases h
      exact .write _ given _ (taking ..) (.inl rfl) (by rw [pending, octets]; rfl) moved
  · next long =>
    have alone : buffered = [] := by
      refine tidy.resolve_left fun none => long ?_
      rw [none]
      rfl
    rw [alone, List.append_nil] at pending
    split at h
    · cases h
      exact .write _ [] _ (taking ..) (.inl rfl) pending stream.moved_refl
    · split at h
      · cases h
        refine transmission_of_failSending _ rest ?_ stream.moved_refl
        rw [pending]
        rfl
      · cases h
      · next written =>
        obtain ⟨given, octets, moved⟩ := Endpoint.moved_write written
        cases h
        refine .write _ given _ (taking ..) (.inr alone) ?_ moved
        rw [pending, octets, alone, Sending.pending, List.append_nil]

theorem transmission_of_conclude {buffered : List UInt8} (closing : q.sending = .closing buffered)
    (h : q.conclude stream buffered = some (q', stream')) :
    Transmission q stream q' stream' := by
  have pending : q.sending.pending = buffered := by rw [closing]; rfl
  rw [conclude] at h
  split at h
  · cases h
    exact .stop _ [] buffered _ pending stream.moved_refl
  · cases h
  · next written =>
    obtain ⟨given, octets, moved⟩ := Endpoint.moved_write written
    cases h
    exact .stop _ given [] _ (pending.trans octets) moved.finish
  · next written =>
    obtain ⟨given, octets, moved⟩ := Endpoint.moved_write written
    cases h
    refine .write _ given _ ?_ trivial (pending.trans octets) moved
    rw [isTaking, isTaking, closing]

theorem transmission_of_send (tidy : q.sending.Tidy) (h : q.send stream = some (q', stream')) :
    Transmission q stream q' stream' := by
  rw [send] at h
  split at h
  · next idle =>
    split at h
    · cases h
    · obtain ⟨_, taken, eq⟩ := Option.map_eq_some_iff.mp h
      cases eq
      exact transmission_of_take idle taken
  · next writing =>
    rw [writing] at tidy
    exact transmission_of_transmit writing tidy h
  · next closing => exact transmission_of_conclude closing h
  · cases h

/-- What a step of the sending task does to the octets on their way: frames may begin, a part is
written, and octets are given up only by a task that stops. -/
structure Sends (q q' : UpdateQueue) (launched : List Submission) (given lost : List UInt8) :
    Prop where
  limits : q'.limits = q.limits
  answers : q'.answers = q.answers
  receiving : q'.receiving = q.receiving
  sent : q'.sent = q.sent ++ launched
  octets : q.sending.pending ++ launched.flatMap (fun s => s.request.frame) =
    given ++ q'.sending.pending ++ lost
  launching : launched ≠ [] → q.isTaking = true
  taking : q'.isTaking = true → q.isTaking = true ∧ lost = []
  live : q'.failure = none → q.failure = none

theorem Transmission.sends (h : Transmission q stream q' stream') :
    ∃ launched given lost, q.Sends q' launched given lost ∧ stream.Moved stream' [] given := by
  cases h with
  | launch s waiting rest buffered idle live first frame tidy =>
      have taking : q.isTaking = true := by rw [isTaking, idle]
      refine ⟨[s], [], [], ⟨rfl, rfl, rfl, rfl, ?_, fun _ => taking, fun _ => ⟨taking, rfl⟩, id⟩,
        stream.moved_spend⟩
      rw [idle, List.flatMap_singleton, ← frame, List.append_nil]
      rfl
  | leave q₁ buffered given lost stream' before unbroken ended octets moved =>
      have left := continues_leave (q := q₁) buffered ended
      refine ⟨[], given, lost, ⟨?_, ?_, ?_, ?_, ?_, fun h => absurd rfl h, fun taking => ?_, ?_⟩,
        moved⟩
      · exact left.limits.trans before.limits
      · exact left.answers.trans before.answers
      · exact left.receiving.trans before.receiving
      · rw [left.sent, List.append_nil]
        exact before.sent
      · rw [left.sending, List.flatMap_nil, List.append_nil]
        exact octets
      · rw [isTaking, left.sending] at taking
        cases taking
      · exact fun live => (before.live (left.live live).1).1
  | write sending given stream' taking tidy octets moved =>
      refine ⟨[], given, [], ⟨rfl, rfl, rfl, (List.append_nil _).symm, ?_, fun h => absurd rfl h,
        fun h => ⟨taking ▸ h, rfl⟩, id⟩, moved⟩
      rw [List.flatMap_nil, List.append_nil, List.append_nil]
      exact octets
  | stop fault given lost stream' octets moved =>
      refine ⟨[], given, lost, ?_, moved⟩
      cases fault with
      | none | some f =>
          refine ⟨rfl, rfl, rfl, (List.append_nil _).symm, ?_, fun h => absurd rfl h, fun h => ?_,
            id⟩
          · rw [List.flatMap_nil, List.append_nil, octets]
            exact congrArg (· ++ lost) (List.append_nil given).symm
          · cases h

/-- A frame begins only behind all octets of those before it. -/
theorem Sends.octets_append {launched : List Submission} {given lost unsent : List UInt8}
    (s : q.Sends q' launched given lost) (whole : q.isTaking = true → unsent = []) :
    q.sending.pending ++ unsent ++ launched.flatMap (fun s => s.request.frame) =
      given ++ (q'.sending.pending ++ (lost ++ unsent)) ∧
    (q'.isTaking = true → lost ++ unsent = []) := by
  constructor
  · have behind : unsent ++ launched.flatMap (fun s => s.request.frame) =
        launched.flatMap (fun s => s.request.frame) ++ unsent := by
      by_cases none : launched = []
      · rw [none, List.flatMap_nil, List.append_nil, List.nil_append]
      · rw [whole (s.launching none), List.append_nil, List.nil_append]
    rw [List.append_assoc, behind, ← List.append_assoc, s.octets]
    simp only [List.append_assoc]
  · intro still
    obtain ⟨before, nothing⟩ := s.taking still
    rw [nothing, whole before]
    rfl

theorem Transmission.ordered (h : Transmission q stream q' stream') (o : q.Ordered) :
    q'.Ordered := by
  cases h with
  | launch s waiting rest buffered idle live first frame tidy =>
      have accepted : q.accepted = (q.sent ++ [s]) ++ waiting := by
        rw [o.waiting (by rw [isTaking, idle]), first, List.append_cons]
      refine ⟨o.checked, ⟨waiting, accepted.symm⟩, fun _ => accepted, ?_, fun _ => ?_⟩
      · exact o.answered.trans ((List.prefix_append q.sent [s]).map _)
      · change q.inFlight ++ _ = ((q.sent ++ [s]).drop q.answers.length).map _
        rw [List.drop_append_of_le_length o.answers_le, List.map_append, o.flying live]
        rfl
  | leave q₁ buffered given lost stream' before unbroken ended octets moved =>
      have o₁ := before.ordered o
      refine (continues_leave buffered ended).ordered
        ⟨o₁.checked, o₁.sent, fun taking => ?_, o₁.answered, o₁.flying⟩
      cases taking
  | write sending given stream' taking tidy octets moved =>
      exact ⟨o.checked, o.sent, fun h => o.waiting (taking ▸ h), o.answered, o.flying⟩
  | stop fault given lost stream' octets moved =>
      cases fault with
      | none | some f =>
          refine ⟨o.checked, o.sent, fun h => ?_, o.answered, o.flying⟩
          cases h

theorem Transmission.unbroken (h : Transmission q stream q' stream') (f : q.Unbroken) :
    q'.Unbroken := by
  cases h with
  | launch _ _ _ _ _ _ _ _ _ | write _ _ _ _ _ _ _ => exact f
  | leave q₁ buffered given lost stream' before unbroken ended octets moved =>
      exact (unbroken f).leave buffered ended
  | stop fault given lost stream' octets moved => cases fault <;> exact f

theorem Transmission.tidy (h : Transmission q stream q' stream') : q'.sending.Tidy := by
  cases h with
  | launch s waiting rest buffered idle live first frame tidy => exact tidy
  | leave q₁ buffered given lost stream' before unbroken ended octets moved =>
      rw [(continues_leave (q := q₁) buffered ended).sending]
      trivial
  | write sending given stream' taking tidy octets moved => exact tidy
  | stop fault given lost stream' octets moved => cases fault <;> trivial

/-- What the receiving task makes of the octets that it has. -/
def digest (q : UpdateQueue) (received : List UInt8) : UpdateQueue :=
  match Response.read.arrival received with
  | .frame r rest => q.answer r rest
  | .nothing | .begun _ _ => { q with receiving := .running received }
  | .refused e => q.failReceiving e

inductive Reception (q : UpdateQueue) (stream : Endpoint) : UpdateQueue → Endpoint → Prop where
  /-- A failure is met. -/
  | stop (e : ChannelError) (failed : q.failure = some e) :
      Reception q stream { q with receiving := .stopped } stream
  /-- The stream fails, or ends, when no whole response is there. -/
  | fail (e : ChannelError) (received : List UInt8) (running : q.receiving = .running received)
      (lacking : ∀ r rest, Response.read.arrival received ≠ .frame r rest)
      (unbroken : e.isBreach = false) : Reception q stream (q.failReceiving e) stream
  | digest (received bytes : List UInt8) (stream' : Endpoint)
      (running : q.receiving = .running received) (live : q.failure = none)
      (moved : stream.Moved stream' bytes []) :
      Reception q stream (q.digest (received ++ bytes)) stream'

theorem reception_of_collect {received : List UInt8} {context : String} {missing : Nat}
    {atEnd : ChannelError} (running : q.receiving = .running received) (live : q.failure = none)
    (lacking : ∀ r rest, Response.read.arrival received ≠ .frame r rest)
    (unbroken : atEnd.isBreach = false)
    (h : q.collect stream received context missing atEnd = some (q', stream')) :
    Reception q stream q' stream' := by
  rw [collect] at h
  split at h
  · next f _ =>
    cases h
    exact .fail _ received running lacking (f.isBreach_toError context)
  · cases h
  · cases h
    exact .fail atEnd received running lacking unbroken
  · next after bytes got =>
    have digested : some (q.digest (received ++ bytes), after) = some (q', stream') := by
      rw [UpdateQueue.digest, ← h]
      dsimp only
      cases Response.read.arrival (received ++ bytes) <;> rfl
    cases digested
    exact .digest received bytes _ running live (Endpoint.moved_read got)

theorem reception_of_receive (h : q.receive stream = some (q', stream')) :
    Reception q stream q' stream' := by
  rw [receive] at h
  split at h
  · cases h
  · next e _ failed =>
    cases h
    exact .stop e failed
  · next received running live =>
    have ending : q.endError.isBreach = false := by
      rw [endError]
      split <;> rfl
    have now : Reception q stream (q.digest (received ++ [])) stream :=
      .digest received [] stream running live stream.moved_refl
    rw [List.append_nil, UpdateQueue.digest] at now
    split at h
    · cases h
    · split at h
      · next found =>
        cases h
        rw [found] at now
        exact now
      · next found =>
        refine reception_of_collect running live (fun r rest frame => ?_) ending h
        cases found.symm.trans frame
      · next found =>
        refine reception_of_collect running live (fun r rest frame => ?_) rfl h
        cases found.symm.trans frame
      · next found =>
        cases h
        rw [found] at now
        exact now

end UpdateQueue

end CacheCoherence
