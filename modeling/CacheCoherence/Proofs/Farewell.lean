import CacheCoherence.Proofs.CutStream
import CacheCoherence.Proofs.CompletionOrder
import CacheCoherence.Proofs.QueueTranscript
import CacheCoherence.Proofs.QueueTurns
import Mathlib.Data.List.Infix

/-!
A queue that its callers let go of, and a peer that reads what is sent, answers
each request with one response, in order, and closes its side of the stream when
it has seen the end of the other one. In whatever order they take their steps, the
queue sends and completes all that it has accepted before the peer hangs up.
-/

namespace CacheCoherence

/-- Octets that are one response for a node that reads them. -/
structure Reply where
  octets : List UInt8
  response : Response
  whole : Response.read.arrival octets = .frame response []

/-- A response as the server writes it. -/
def Reply.ofResponse (r : Response) : Reply where
  octets := r.frame
  response := r.clipped
  whole := by
    rw [← List.append_nil r.frame]
    exact Response.reads.arrival_frame trivial []

open Frame.Reader in
theorem Reply.reads : Response.read.Reads Reply.octets Reply.response fun _ => True where
  empty := rfl
  frame r rest _ := by
    have whole := r.whole
    rw [arrival] at whole
    split at whole
    · next found =>
      cases whole
      exact Response.divides.attempt_append found (by rintro ⟨⟩) (by rintro ⟨_, _, ⟨⟩⟩) rest
    · cases whole
    · cases whole
    · cases whole
  steady := Response.reads.steady

/-- Octets of replies that do not begin with a reply are those of none. -/
theorem Reply.eq_nil_of_lacking {replies : List Reply} {received : List UInt8}
    (octets : replies.flatMap Reply.octets = received)
    (lacking : ∀ r rest, Response.read.arrival received ≠ .frame r rest) : replies = [] := by
  cases replies with
  | nil => rfl
  | cons r others =>
      rw [List.flatMap_cons] at octets
      have whole := Reply.reads.arrival_frame (x := r) trivial (others.flatMap Reply.octets)
      rw [octets] at whole
      exact absurd whole (lacking _ _)

/-- A task may make so many calls on its stream until it lets others go on. -/
def Exchange.allow (x : Exchange) (calls : Nat) : Exchange :=
  { x with stream := { x.stream with allowance := calls } }

/-- When nobody has the queue, a caller cannot do anything to it. -/
theorem Exchange.step_of_free {x : Exchange} (free : x.queue.held = false) {a : Action}
    (caller : a.callback?.isSome = true) : x.step a = x := by
  have nobody : ¬x.queue.held = true := by rw [free]; decide
  cases a with
  | enqueue _ _ | submit _ _ | evict _ _ | downgrade _ _ | shutdown | release =>
      exact if_neg nobody
  | send | receive | peer _ => cases caller

/-- The octets of some requests on the stream. -/
abbrev frames (requests : List Submission) : List UInt8 :=
  requests.flatMap fun s => s.request.frame

/-- The other side of a queue's stream, which answers the requests that are sent. -/
structure Peer where
  /-- What it has read. -/
  heard : List UInt8 := []
  replies : List Reply := []
  /-- What it has still to write of its replies. -/
  unsent : List UInt8 := []

namespace Peer

/-- Whether it has read the whole of a request that it has not answered. -/
def Owes (p : Peer) (sent : List Submission) : Prop :=
  p.replies.length < sent.length ∧ frames (sent.take (p.replies.length + 1)) <+: p.heard

instance (p : Peer) (sent : List Submission) : Decidable (p.Owes sent) :=
  inferInstanceAs (Decidable (_ ∧ _))

inductive Move where
  /-- Reads octets, no more than so many. -/
  | hear (n : Nat)
  /-- Answers the first request that it has read and not answered. -/
  | reply (r : Reply)
  /-- Writes octets, no more than so many and than there is room for. -/
  | write (n : Nat)
  /-- Closes its side of the stream, if it has seen the end of the other one and is through. -/
  | hangUp

/-- What a move makes of the peer, and of the stream as the queue sees it. -/
def act (p : Peer) (sent : List Submission) (stream : Endpoint) : Move → Peer × Endpoint
  | .hear n =>
    let buffer := stream.outgoing.buffer
    ({ p with heard := p.heard ++ buffer.toList.take n },
      { stream with outgoing := { stream.outgoing with buffer := buffer.drop n } })
  | .reply r =>
    if p.Owes sent then
      ({ p with replies := p.replies ++ [r], unsent := p.unsent ++ r.octets }, stream)
    else (p, stream)
  | .write n =>
    if stream.incoming.closed then (p, stream)
    else
      let written := stream.incoming.accept (p.unsent.take n)
      ({ p with unsent := written.2 ++ p.unsent.drop n }, { stream with incoming := written.1 })
  | .hangUp =>
    let ended := stream.outgoing.closed && stream.outgoing.buffer.isEmpty
    if ended = true ∧ ¬p.Owes sent ∧ p.unsent = [] then
      (p, { stream with incoming := stream.incoming.close })
    else (p, stream)

end Peer

structure Farewell where
  handover : Handover
  peer : Peer := {}

namespace Farewell

open UpdateQueue

inductive Event where
  /-- Something that a caller does with the queue. -/
  | call (a : Exchange.Action)
  /-- The sending task takes the first request that waits, and has still to note it. -/
  | take
  /-- The sending task goes on, and has some calls on its stream until it lets others go on. -/
  | send (calls : Nat)
  | receive (calls : Nat)
  | peer (m : Peer.Move)

/-- Whether an event is not the doing of a caller who shuts the queue down, or hands in a completion
that does or that panics. -/
def Event.isCalm : Event → Bool
  | .call a => a.callback?.any Completion.isCalm
  | .take | .send _ | .receive _ | .peer _ => true

abbrev queue (f : Farewell) : UpdateQueue :=
  f.handover.exchange.queue

abbrev stream (f : Farewell) : Endpoint :=
  f.handover.exchange.stream

/-- The exchange as if nothing had been taken that is not noted. -/
abbrev view (f : Farewell) : Exchange :=
  f.handover.view

/-- What happens between the queue and its stream in an event. -/
def actions (f : Farewell) : Event → List Handover.Action
  | .call a => [.other a]
  | .take => [.take]
  | .send calls => [.other (.peer { f.stream with allowance := calls }), .other .send]
  | .receive calls => [.other (.peer { f.stream with allowance := calls }), .other .receive]
  | .peer m => [.other (.peer (f.peer.act f.queue.sent f.stream m).2)]

def step (f : Farewell) (e : Event) : Farewell where
  handover := f.handover.after (f.actions e)
  peer := match e with
    | .peer m => (f.peer.act f.queue.sent f.stream m).1
    | .call _ | .take | .send _ | .receive _ => f.peer

/-- The farewell after the first events of a schedule. -/
def run (f : Farewell) (schedule : Nat → Event) : Nat → Farewell
  | 0 => f
  | n + 1 => (f.run schedule n).step (schedule n)

/-- A new queue, on a stream with room for so many octets in and out. -/
def start (node : NodeId) (limits : Limits) (inward outward : Nat) : Farewell where
  handover := .start node limits
    { incoming := ⟨inward, .ofList [], false⟩, outgoing := ⟨outward, .ofList [], false⟩,
      allowance := 0 }

/-- What holds as long as the queue lives. -/
structure Open (x : Exchange) (p : Peer) : Prop where
  ordered : x.queue.Ordered
  lasting : x.queue.Lasting
  tidy : x.queue.sending.Tidy
  plain : x.stream.Plain
  ended : x.stream.outgoing.closed = true ↔ x.queue.sending = .stopped
  octets : frames x.queue.sent =
    p.heard ++ (x.stream.outgoing.octets ++ x.queue.sending.pending)
  replied : p.replies.length ≤ x.queue.sent.length
  told : x.queue.answers.map Delivery.outcome =
    (p.replies.take x.queue.answers.length).map fun r => r.response.toOutcome
  /-- The octets of the replies that the queue has not taken yet are on their way. -/
  coming : ∃ received, x.queue.receiving = .running received ∧
    (p.replies.drop x.queue.answers.length).flatMap Reply.octets =
      received ++ (x.stream.incoming.octets ++ p.unsent)
  hungUp : x.stream.incoming.closed = true → x.queue.sending = .stopped ∧
    x.stream.outgoing.octets = [] ∧ p.replies.length = x.queue.sent.length ∧ p.unsent = []

/-- What is told to all who still want something of a queue that is over. -/
def closed : ChannelError :=
  .shutDown "update queue closed"

/-- What holds from the end of the queue on. -/
structure Over (x : Exchange) (p : Peer) : Prop where
  ordered : x.queue.Ordered
  failure : x.queue.failure = some closed
  sending : x.queue.sending = .stopped
  receiving : x.queue.receiving = .stopped
  released : x.queue.held = false
  sent : x.queue.accepted = x.queue.sent
  heard : p.heard = frames x.queue.sent
  drained : x.stream.outgoing.octets = []
  replied : p.replies.length = x.queue.sent.length
  told : x.queue.answers.map Delivery.outcome = p.replies.map fun r => r.response.toOutcome

variable {x : Exchange} {p : Peer} {q : UpdateQueue}

theorem Open.answers_le (h : Open x p) : x.queue.answers.length ≤ p.replies.length := by
  have count := congrArg List.length h.told
  rw [List.length_map, List.length_map, List.length_take] at count
  omega

theorem Open.unclosed (h : Open x p) (on : x.queue.sending ≠ .stopped) :
    x.stream.outgoing.closed = false :=
  Bool.eq_false_iff.mpr (mt h.ended.mp on)

/-- As long as the sending task has not stopped, the peer has not hung up. -/
theorem Open.listening (h : Open x p) (on : x.queue.sending ≠ .stopped) :
    x.stream.incoming.closed ≠ true :=
  fun gone => on (h.hungUp gone).1

/-- What completions and callers do to the queue does not touch what has been sent or answered. -/
theorem Open.continues (h : Open x p) (later : x.queue.Continues q) (lasting : q.Lasting) :
    Open ⟨q, x.stream⟩ p where
  ordered := later.ordered h.ordered
  lasting := lasting
  tidy := later.sending ▸ h.tidy
  plain := h.plain
  ended := later.sending ▸ h.ended
  octets := by
    dsimp only
    rw [later.sent, later.sending]
    exact h.octets
  replied := later.sent ▸ h.replied
  told := by
    dsimp only
    rw [later.answers]
    exact h.told
  coming := by
    dsimp only
    rw [later.answers, later.receiving]
    exact h.coming
  hungUp := by
    dsimp only
    rw [later.sent, later.sending]
    exact h.hungUp

theorem Open.call (h : Open x p) {a : Exchange.Action} {c : Completion}
    (callback : a.callback? = some c) (calm : c.isCalm = true) : Open (x.step a) p := by
  obtain ⟨log, eq⟩ := Exchange.exists_step_eq callback x
  have reacted := h.continues (x.queue.continues_react 0 c) (h.lasting.react calm 0)
  rw [eq]
  exact { reacted with
    ordered := reacted.ordered.log log
    lasting := { reacted.lasting with } }

/-- The sending task may only leave and end the stream when everything is sent. -/
theorem Open.send (h : Open x p) : Open (x.step .send) p := by
  rw [Exchange.step, Exchange.advance]
  cases step : x.queue.send x.stream with
  | none => exact h
  | some result =>
      have on : ∀ {q : UpdateQueue}, q.isTaking = true → q.sending ≠ .stopped := by
        intro q taking off
        rw [isTaking, off] at taking
        cases taking
      have sends := dispatch_of_send h.plain.quiet h.lasting h.tidy h.unclosed step
      have ordered := (transmission_of_send h.tidy step).ordered h.ordered
      dsimp only
      generalize result.1 = q', result.2 = stream' at sends ordered
      cases sends with
      | launch s waiting rest buffered idle first frame tidy =>
          have open' := h.unclosed (by simp [idle])
          exact { h with
            ordered, tidy
            lasting := { h.lasting with left := by rintro ⟨⟩ }
            plain := { h.plain with }
            ended := iff_of_false (ne_true_of_eq_false open') (by simp)
            octets := by
              have octets := h.octets
              rw [idle, Sending.pending, List.append_nil] at octets
              simp only [frames, List.flatMap_append, List.flatMap_singleton, ← frame, octets,
                List.append_assoc]
              rfl
            replied := Nat.le_trans h.replied (by simp)
            hungUp := fun gone => absurd gone (h.listening (by simp [idle])) }
      | leave idle released rest =>
          have open' := h.unclosed (by simp [idle])
          have all : x.queue.accepted = x.queue.sent := by
            rw [h.ordered.waiting (by rw [isTaking, idle]), rest, List.append_nil]
          exact { h with
            ordered
            lasting := { h.lasting with left := fun _ => ⟨released, rfl, rfl, all⟩ }
            tidy := trivial
            plain := { h.plain with }
            ended := iff_of_false (ne_true_of_eq_false open') (by simp)
            octets := by
              have octets := h.octets
              rw [idle] at octets
              exact octets
            hungUp := fun gone => absurd gone (h.listening (by simp [idle])) }
      | write sending given stream' taking still tidy octets less moved alike =>
          have open' := h.unclosed (on taking)
          have incoming : x.stream.incoming.octets = stream'.incoming.octets := moved.incoming
          exact { h with
            ordered, tidy
            lasting := { h.lasting with
              left := fun off => absurd (still.symm.trans off) (by decide) }
            plain := h.plain.of_alike alike
            ended := by
              rw [alike.outgoingClosed]
              exact iff_of_false (ne_true_of_eq_false open') (on still)
            octets := by
              have before := h.octets
              dsimp only
              rw [before, octets, moved.outgoing, List.append_assoc]
            coming := incoming ▸ h.coming
            hungUp := fun gone => absurd (alike.incomingClosed ▸ gone) (h.listening (on taking)) }
      | stop closing =>
          have off : x.queue.isTaking = false := by rw [isTaking, closing]
          obtain ⟨released, draining, nothing, all⟩ := h.lasting.left off
          exact { h with
            ordered
            lasting := { h.lasting with left := fun _ => ⟨released, draining, rfl, all⟩ }
            tidy := trivial
            plain := { h.plain with }
            ended := ⟨fun _ => rfl, fun _ => rfl⟩
            octets := by
              have octets := h.octets
              rw [nothing] at octets
              exact octets
            hungUp := fun gone => absurd gone (h.listening (by simp [closing])) }

/-- A reply that is not taken is one to a request that is not answered. -/
theorem Open.exists_oldest (h : Open x p) {r : Reply} {others : List Reply}
    (first : p.replies.drop x.queue.answers.length = r :: others) :
    ∃ s later, x.queue.sent.drop x.queue.answers.length = s :: later := by
  have count : x.queue.answers.length < p.replies.length :=
    List.length_lt_of_drop_ne_nil (first ▸ List.cons_ne_nil r others)
  exact List.exists_cons_of_ne_nil
    (mt List.drop_eq_nil_iff.mp (Nat.not_le.mpr (Nat.lt_of_lt_of_le count h.replied)))

section Take

variable {stream : Endpoint} {bytes : List UInt8} (h : Open x p)
  (moved : x.stream.Moved stream bytes [])

include h moved

/-- Octets are taken off the stream, and begin the next reply. -/
theorem Open.take (alike : x.stream.Alike stream) {received : List UInt8}
    (running : x.queue.receiving = .running received) :
    Open ⟨{ x.queue with receiving := .running (received ++ bytes) }, stream⟩ p := by
  have outgoing : stream.outgoing.octets = x.stream.outgoing.octets :=
    moved.outgoing.trans (List.append_nil _)
  obtain ⟨received', running', octets⟩ := h.coming
  cases running.symm.trans running'
  exact { h with
    ordered := h.ordered.receiving _
    lasting := { h.lasting with }
    plain := h.plain.of_alike alike
    ended := by
      rw [alike.outgoingClosed]
      exact h.ended
    octets := by
      rw [outgoing]
      exact h.octets
    coming := by
      refine ⟨_, rfl, octets.trans ?_⟩
      rw [moved.incoming]
      simp only [List.append_assoc]
    hungUp := by
      rw [outgoing, alike.incomingClosed]
      exact h.hungUp }

/-- The reply that has come whole goes to the first request that is not answered. -/
theorem Open.answer (alike : x.stream.Alike stream) {rest : List UInt8} {r : Reply}
    {others : List Reply} (first : p.replies.drop x.queue.answers.length = r :: others)
    (octets : others.flatMap Reply.octets = rest ++ (stream.incoming.octets ++ p.unsent)) :
    Open ⟨x.queue.answer r.response rest, stream⟩ p := by
  obtain ⟨s, later, oldest⟩ := h.exists_oldest first
  obtain ⟨ordered, -, -, sent, sending, receiving, answers⟩ :=
    h.ordered.answer h.lasting.live oldest r.response.isAnswer_toOutcome rest
  have outgoing : stream.outgoing.octets = x.stream.outgoing.octets :=
    moved.outgoing.trans (List.append_nil _)
  have next : p.replies[x.queue.answers.length]? = some r := by
    rw [← List.head?_drop, first]
    rfl
  exact {
    ordered
    lasting := h.lasting.answer h.ordered oldest r.response rest
    tidy := sending ▸ h.tidy
    plain := h.plain.of_alike alike
    ended := by
      rw [sending, alike.outgoingClosed]
      exact h.ended
    octets := by
      rw [sent, sending, outgoing]
      exact h.octets
    replied := sent ▸ h.replied
    told := by
      rw [answers, List.map_append, h.told, List.length_append, List.length_singleton,
        List.take_add_one, next, List.map_append]
      rfl
    coming := by
      refine ⟨rest, receiving, ?_⟩
      rw [answers, List.length_append, List.length_singleton, ← List.drop_drop, first]
      exact octets
    hungUp := by
      rw [sent, sending, outgoing, alike.incomingClosed]
      exact h.hungUp }

/-- What the octets that have come amount to: no whole reply yet, or the next one. -/
theorem Open.digest_cases {received : List UInt8}
    (running : x.queue.receiving = .running received) :
    ((∀ r rest, Response.read.arrival (received ++ bytes) ≠ .frame r rest) ∧
      x.queue.digest (received ++ bytes) =
        { x.queue with receiving := .running (received ++ bytes) }) ∨
    ∃ r others rest, p.replies.drop x.queue.answers.length = r :: others ∧
      others.flatMap Reply.octets = rest ++ (stream.incoming.octets ++ p.unsent) ∧
      rest.length < (received ++ bytes).length ∧
      x.queue.digest (received ++ bytes) = x.queue.answer r.response rest := by
  obtain ⟨received', running', octets⟩ := h.coming
  cases running.symm.trans running'
  rw [moved.incoming, List.append_assoc, ← List.append_assoc received] at octets
  have underway := Reply.reads.arrival (fun _ _ => trivial) octets
  have shorter : ∀ {r rest}, Response.read.arrival (received ++ bytes) = .frame r rest →
      rest.length < (received ++ bytes).length := Response.divides.length_lt_of_arrival
  rw [UpdateQueue.digest]
  generalize Response.read.arrival (received ++ bytes) = arrived at underway shorter
  cases underway with
  | nothing none => exact .inl ⟨by rintro _ _ ⟨⟩, rfl⟩
  | begun context missing => exact .inl ⟨by rintro _ _ ⟨⟩, rfl⟩
  | frame r others rest first left => exact .inr ⟨r, others, rest, first, left, shorter rfl, rfl⟩

theorem Open.digest (alike : x.stream.Alike stream) {received : List UInt8}
    (running : x.queue.receiving = .running received) :
    Open ⟨x.queue.digest (received ++ bytes), stream⟩ p := by
  obtain ⟨-, eq⟩ | ⟨r, others, rest, first, octets, -, eq⟩ := h.digest_cases moved running
  · rw [eq]
    exact h.take moved alike running
  · rw [eq]
    exact h.answer moved alike first octets

end Take

/-- When the stream ends, everything that was sent is answered, and all answers have been taken. -/
theorem Open.finish (h : Open x p) {received : List UInt8} {atEnd : ChannelError}
    (running : x.queue.receiving = .running received) (none : x.stream.incoming.octets = [])
    (gone : x.stream.incoming.closed = true)
    (ending : Response.read.arrival received = .nothing ∧ atEnd = x.queue.endError ∨
      ∃ context missing, Response.read.arrival received = .begun context missing) :
    Over ⟨x.queue.failReceiving atEnd, x.stream⟩ p := by
  obtain ⟨received', running', octets⟩ := h.coming
  cases running.symm.trans running'
  obtain ⟨sending, drained, replied, unsent⟩ := h.hungUp gone
  obtain ⟨released, draining, nothing, all⟩ := h.lasting.left (by rw [isTaking, sending])
  rw [none, unsent, List.append_nil, List.append_nil] at octets
  have taken : p.replies.drop x.queue.answers.length = [] := by
    refine Reply.eq_nil_of_lacking octets fun r rest whole => ?_
    obtain ⟨end', -⟩ | ⟨_, _, begun⟩ := ending
    · cases end'.symm.trans whole
    · cases begun.symm.trans whole
  rw [taken, List.flatMap_nil] at octets
  subst octets
  have count : x.queue.answers.length = x.queue.sent.length := by
    have le := h.answers_le
    rw [List.drop_eq_nil_iff] at taken
    omega
  have idle : x.queue.inFlight = [] := by
    rw [h.ordered.flying h.lasting.live, count, List.drop_length]
    rfl
  have known : atEnd = closed := by
    obtain ⟨-, eq⟩ | ⟨_, _, begun⟩ := ending
    · rw [eq, endError, idle, draining]
      rfl
    · cases begun
  subst known
  have failed := (x.queue.continues_fail closed).ordered h.ordered
  rw [failReceiving]
  rw [fail_of_idle h.lasting.live idle] at failed ⊢
  exact {
    ordered := failed.receiving .stopped
    failure := rfl
    sending, released, drained, replied
    receiving := rfl
    sent := all
    heard := by
      have octets := h.octets
      rw [drained, nothing, List.append_nil, List.append_nil] at octets
      exact octets.symm
    told := by
      have told := h.told
      rw [count, ← replied, List.take_length] at told
      exact told }

/-- Octets of replies are never refused. -/
theorem Open.intake (h : Open x p) {received : List UInt8}
    (running : x.queue.receiving = .running received) {stream : Endpoint}
    (step : x.queue.receive x.stream = some (q, stream)) :
    Intake x.queue x.stream received q stream := by
  obtain ⟨received', running', octets⟩ := h.coming
  cases running.symm.trans running'
  refine intake_of_receive h.plain.quiet h.lasting.live running (fun e refused => ?_) step
  have underway := Reply.reads.arrival (fun _ _ => trivial) octets
  rw [refused] at underway
  cases underway

theorem Open.receive (h : Open x p) : Open (x.step .receive) p ∨ Over (x.step .receive) p := by
  obtain ⟨received, running, octets⟩ := h.coming
  rw [Exchange.step, Exchange.advance]
  cases step : x.queue.receive x.stream with
  | none => exact .inl h
  | some result =>
      have intake := h.intake running step
      dsimp only
      generalize result.1 = q', result.2 = stream' at intake
      cases intake with
      | digest bytes _ moved alike found => exact .inl (h.digest moved alike running)
      | finish atEnd none gone ending => exact .inr (h.finish running none gone ending)

theorem Open.allow (h : Open x p) (calls : Nat) : Open (x.allow calls) p :=
  { h with plain := { h.plain with } }

/-- The peer owes no answer when it has read everything and has answered as much as was sent. -/
theorem Open.not_owes_iff (h : Open x p) (sending : x.queue.sending = .stopped)
    (drained : x.stream.outgoing.octets = []) :
    ¬p.Owes x.queue.sent ↔ p.replies.length = x.queue.sent.length := by
  have octets := h.octets
  rw [drained, sending, Sending.pending, List.append_nil, List.append_nil] at octets
  have all : frames (x.queue.sent.take (p.replies.length + 1)) <+: p.heard := by
    rw [← octets]
    exact List.IsPrefix.flatMap (List.take_prefix _ _) _
  have replied := h.replied
  rw [Peer.Owes, not_and]
  constructor
  · intro none
    exact Nat.le_antisymm replied (Nat.le_of_not_lt fun less => none less all)
  · intro same less
    omega

theorem Open.act (h : Open x p) (m : Peer.Move) :
    Open { x with stream := (p.act x.queue.sent x.stream m).2 }
      (p.act x.queue.sent x.stream m).1 := by
  cases m with
  | hear n =>
      exact { h with
        plain := { h.plain with }
        octets := by
          simp only [Peer.act, Pipe.octets, Buffer.toList_drop, List.append_assoc]
          rw [← List.append_assoc (List.take _ _), List.take_append_drop]
          exact h.octets
        hungUp := fun gone => by
          obtain ⟨sending, drained, through⟩ := h.hungUp gone
          rw [Pipe.octets] at drained
          refine ⟨sending, ?_, through⟩
          simp only [Peer.act, Pipe.octets, Buffer.toList_drop, drained, List.drop_nil] }
  | reply r =>
      rw [Peer.act]
      split
      · next owes =>
        exact { h with
          replied := by
            rw [List.length_append]
            exact owes.1
          told := by
            rw [List.take_append_of_le_length h.answers_le]
            exact h.told
          coming := by
            obtain ⟨received, running, octets⟩ := h.coming
            refine ⟨received, running, ?_⟩
            rw [List.drop_append_of_le_length h.answers_le, List.flatMap_append, octets,
              List.flatMap_singleton]
            simp only [List.append_assoc]
          hungUp := fun gone => absurd (h.hungUp gone).2.2.1 (Nat.ne_of_lt owes.1) }
      · exact h
  | write n =>
      rw [Peer.act]
      split
      · exact h
      · next on =>
        have kept := x.stream.incoming.accept_conserves (p.unsent.take n)
        exact { h with
          plain := { h.plain with }
          coming := by
            obtain ⟨received, running, octets⟩ := h.coming
            refine ⟨received, running, octets.trans ?_⟩
            simp only [Pipe.octets]
            rw [← List.append_assoc (Buffer.toList _), kept, List.append_assoc,
              List.take_append_drop]
          hungUp := fun gone => absurd gone on }
  | hangUp =>
      rw [Peer.act]
      split
      · next through =>
        obtain ⟨seen, owes, unsent⟩ := through
        rw [Bool.and_eq_true, Buffer.isEmpty_iff] at seen
        have sending := h.ended.mp seen.1
        exact { h with
          plain := { h.plain with }
          hungUp := fun _ =>
            ⟨sending, seen.2, (h.not_owes_iff sending seen.2).mp owes, unsent⟩ }
      · exact h

theorem Over.allow (h : Over x p) (calls : Nat) : Over (x.allow calls) p :=
  { h with }

theorem Over.send (h : Over x p) : x.step .send = x := by
  rw [Exchange.step, Exchange.advance, UpdateQueue.send, h.sending]

theorem Over.receive (h : Over x p) : x.step .receive = x := by
  rw [Exchange.step, Exchange.advance, UpdateQueue.receive, h.receiving]

theorem Over.act (h : Over x p) (m : Peer.Move) :
    Over { x with stream := (p.act x.queue.sent x.stream m).2 }
      (p.act x.queue.sent x.stream m).1 := by
  cases m with
  | hear n =>
      have drained := h.drained
      rw [Pipe.octets] at drained
      exact { h with
        heard := by
          simp only [Peer.act, drained, List.take_nil, List.append_nil]
          exact h.heard
        drained := by
          simp only [Peer.act, Pipe.octets, Buffer.toList_drop, drained, List.drop_nil] }
  | reply r =>
      rw [Peer.act, if_neg fun owes => Nat.ne_of_lt owes.1 h.replied]
      exact h
  | write n =>
      rw [Peer.act]
      split
      · exact h
      · exact { h with }
  | hangUp =>
      rw [Peer.act]
      split
      · exact { h with }
      · exact h

variable {f : Farewell}

theorem exists_view_eq (poised : f.handover.Poised) :
    ∃ front, f.view = ⟨f.queue.putBack front f.queue.sending, f.stream⟩ :=
  Handover.exists_view_eq poised

theorem sent_view (poised : f.handover.Poised) : f.view.queue.sent = f.queue.sent := by
  obtain ⟨front, now⟩ := exists_view_eq poised
  rw [now]
  rfl

theorem stream_view (f : Farewell) : f.view.stream = f.stream :=
  f.handover.stream_view

/-- An event as it is for the exchange in which a request that is taken still waits. -/
theorem view_step (poised : f.handover.Poised) (e : Event) :
    (f.step e).view = match e with
      | .call a => f.view.step a
      | .take => f.view
      | .send calls => (f.view.allow calls).step .send
      | .receive calls => (f.view.allow calls).step .receive
      | .peer m => { f.view with
          stream := (f.peer.act f.view.queue.sent f.view.stream m).2 } := by
  have stream := f.stream_view
  refine (Handover.view_after poised (f.actions e)).trans ?_
  cases e with
  | call a => rfl
  | take => rfl
  | send calls =>
      change (f.view.step (.peer { f.stream with allowance := calls })).step .send = _
      rw [← stream]
      rfl
  | receive calls =>
      change (f.view.step (.peer { f.stream with allowance := calls })).step .receive = _
      rw [← stream]
      rfl
  | peer m =>
      rw [sent_view poised, stream]
      rfl

theorem peer_step (poised : f.handover.Poised) (m : Peer.Move) :
    (f.step (.peer m)).peer = (f.peer.act f.view.queue.sent f.view.stream m).1 := by
  rw [sent_view poised, stream_view]
  rfl

/-- What holds at any moment. -/
structure Good (f : Farewell) : Prop where
  poised : f.handover.Poised
  view : Open f.view f.peer ∨ Over f.view f.peer

theorem good_start (node : NodeId) (limits : Limits) {inward outward : Nat} (room : 0 < inward)
    (room' : 0 < outward) : (start node limits inward outward).Good where
  poised := Handover.poised_start node limits _
  view := .inl
    { ordered := ordered_new node limits
      lasting := lasting_new node limits
      tidy := trivial
      plain := ⟨rfl, room, room'⟩
      ended := ⟨nofun, nofun⟩
      octets := rfl
      replied := Nat.le_refl 0
      told := rfl
      coming := ⟨[], rfl, rfl⟩
      hungUp := nofun }

theorem Good.step (h : f.Good) {e : Event} (calm : e.isCalm = true) : (f.step e).Good := by
  have stepped := view_step h.poised e
  refine ⟨Handover.poised_after h.poised _, ?_⟩
  cases e with
  | call a =>
      obtain ⟨c, callback, calm⟩ := (Option.any_eq_true ..).mp calm
      dsimp only at stepped
      rw [stepped]
      refine h.view.imp (fun live => live.call callback calm) fun past => ?_
      rw [Exchange.step_of_free past.released (callback ▸ rfl)]
      exact past
  | take =>
      dsimp only at stepped
      rw [stepped]
      exact h.view
  | send calls =>
      dsimp only at stepped
      rw [stepped]
      refine h.view.imp (fun live => (live.allow calls).send) fun past => ?_
      rw [(past.allow calls).send]
      exact past.allow calls
  | receive calls =>
      dsimp only at stepped
      rw [stepped]
      obtain live | past := h.view
      · exact (live.allow calls).receive
      · rw [(past.allow calls).receive]
        exact .inr (past.allow calls)
  | peer m =>
      dsimp only at stepped
      rw [stepped, peer_step h.poised]
      exact h.view.imp (fun live => live.act m) fun past => past.act m

theorem Good.run (h : f.Good) {schedule : Nat → Event} (calm : ∀ n, (schedule n).isCalm = true)
    (n : Nat) : (f.run schedule n).Good := by
  induction n with
  | zero => exact h
  | succ n ih => exact ih.step (calm n)

end Farewell

end CacheCoherence
