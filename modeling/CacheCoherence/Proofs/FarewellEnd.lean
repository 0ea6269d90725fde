import CacheCoherence.Proofs.Farewell

/-!
A farewell comes to an end. Once nobody has the queue, what is accepted is fixed,
and each request and each octet has only so far to go. A reply may be of any
length, so the requests without one count first, and octets of replies second.
There is always a party that can move something, and nobody else takes that away
from it; so if everybody gets their turn again and again, both tasks stop.
-/

namespace CacheCoherence

/-- What the receiving task holds. -/
def Receiving.octets : Receiving → List UInt8
  | .running received => received
  | .stopped => []

/-- The parties to a farewell that can move something; the peer is four of them. -/
inductive Farewell.Party where
  | sender
  | receiver
  | reader
  | replier
  | writer
  | closer

/-- The party whose turn a move of the peer is, if it can come to anything. -/
def Peer.Move.party? : Peer.Move → Option Farewell.Party
  | .hear n => if n = 0 then none else some .reader
  | .reply _ => some .replier
  | .write n => if n = 0 then none else some .writer
  | .hangUp => some .closer

namespace Farewell

open UpdateQueue

/-- Where requests and octets are. -/
structure Stage where
  queue : UpdateQueue
  peer : Peer
  incoming : List UInt8
  outgoing : List UInt8
  hungUp : Bool

def stageOf (x : Exchange) (p : Peer) : Stage where
  queue := x.queue
  peer := p
  incoming := x.stream.incoming.octets
  outgoing := x.stream.outgoing.octets
  hungUp := x.stream.incoming.closed

def stage (f : Farewell) : Stage :=
  stageOf f.view f.peer

namespace Stage

/-- What is to be done for the requests that wait: the task is idle before and after each. -/
def backlog : List Submission → Nat
  | [] => 0
  | s :: rest => 2 * s.request.frame.length + 3 + backlog rest

/-- What is still to be done up to the last reply. -/
def asked (g : Stage) : Nat :=
  (g.queue.accepted.length - g.peer.replies.length) + backlog g.queue.waiting +
    g.queue.sending.work + g.outgoing.length

/-- What is to be done for the replies that there are. -/
def answered (g : Stage) : Nat :=
  3 * g.peer.unsent.length + 2 * g.incoming.length + g.queue.receiving.octets.length +
    (!g.hungUp).toNat

/-- Less is left to do, before the replies or else behind them. -/
def Less (g' g : Stage) : Prop :=
  Prod.Lex (· < ·) (· < ·) (g'.asked, g'.answered) (g.asked, g.answered)

theorem less_wf : WellFounded Less :=
  InvImage.wf (fun g : Stage => (g.asked, g.answered)) (Prod.lex Nat.lt_wfRel Nat.lt_wfRel).wf

variable {g g' : Stage}

theorem less_of_asked (less : g'.asked < g.asked) : g'.Less g :=
  .left _ _ less

theorem less_of_answered (same : g'.asked = g.asked) (less : g'.answered < g.answered) :
    g'.Less g := by
  rw [Less, same]
  exact .right _ less

end Stage

variable {x : Exchange} {p : Peer} {q : UpdateQueue} {stream : Endpoint}

/-- The queue is over, or nobody has it and less is left to do than at a stage. -/
def Nearer (g : Stage) (x : Exchange) (p : Peer) : Prop :=
  Over x p ∨ x.queue.held = false ∧ (stageOf x p).Less g

/-- A party takes a farewell nearer to its end, or leaves it where it is and has nothing to move. -/
def NearerOrStays (g : Stage) (x : Exchange) (p : Peer) (idle : Prop) : Prop :=
  Nearer g x p ∨ stageOf x p = g ∧ idle

section Steps

variable (h : Open x p) (free : x.queue.held = false)

include h free

theorem Open.nearer_of_send (step : x.queue.send x.stream = some (q, stream)) :
    Nearer (stageOf x p) ⟨q, stream⟩ p := by
  have outgoing : x.stream.spend.outgoing = x.stream.outgoing := rfl
  cases dispatch_of_send h.plain.quiet h.lasting h.tidy h.unclosed step with
  | launch s waiting rest buffered idle first frame tidy =>
      refine .inr ⟨free, Stage.less_of_asked ?_⟩
      have flag : (if rest.isEmpty then 0 else 1) ≤ 1 := by split <;> decide
      have count := congrArg List.length frame
      simp only [Stage.asked, stageOf, idle, first, Sending.work, Stage.backlog, outgoing,
        accepted] at count ⊢
      omega
  | leave idle released rest =>
      refine .inr ⟨free, Stage.less_of_asked ?_⟩
      simp only [Stage.asked, stageOf, idle, rest, Sending.work, outgoing, accepted,
        List.length_nil]
      omega
  | write sending given stream' taking still tidy octets less moved alike =>
      refine .inr ⟨free, Stage.less_of_asked ?_⟩
      simp only [Stage.asked, stageOf, moved.outgoing, List.length_append, accepted]
      omega
  | stop closing =>
      refine .inr ⟨free, Stage.less_of_asked ?_⟩
      simp only [Stage.asked, stageOf, closing, Sending.work, accepted, Pipe.close, Pipe.octets,
        List.length_nil]
      omega

theorem Open.nearer_of_receive (step : x.queue.receive x.stream = some (q, stream)) :
    Nearer (stageOf x p) ⟨q, stream⟩ p := by
  obtain ⟨received, running, octets⟩ := h.coming
  cases h.intake running step with
  | finish atEnd none gone ending => exact .inl (h.finish running none gone ending)
  | digest bytes _ moved alike found =>
      have incoming := congrArg List.length moved.incoming
      rw [List.length_append] at incoming
      have outgoing : stream.outgoing.octets = x.stream.outgoing.octets :=
        moved.outgoing.trans (List.append_nil _)
      obtain ⟨lacking, eq⟩ | ⟨r, others, rest, first, -, shorter, eq⟩ :=
        h.digest_cases moved running
      · have some : 0 < bytes.length := by
          refine List.length_pos_iff.mpr fun none => ?_
          obtain ⟨r, rest, arrived⟩ := found none
          rw [none, List.append_nil] at lacking
          exact lacking r rest arrived
        rw [eq]
        refine .inr ⟨free, Stage.less_of_answered ?_ ?_⟩
        · simp only [Stage.asked, stageOf, outgoing, accepted]
        · simp only [Stage.answered, stageOf, running, Receiving.octets, List.length_append,
            alike.incomingClosed]
          omega
      · obtain ⟨s, later, oldest⟩ := h.exists_oldest first
        rw [List.length_append] at shorter
        rw [eq, answer_of_free h.lasting h.ordered oldest free]
        refine .inr ⟨free, Stage.less_of_answered ?_ ?_⟩
        · simp only [Stage.asked, stageOf, outgoing, accepted, invoke, report]
        · simp only [Stage.answered, stageOf, running, Receiving.octets, alike.incomingClosed,
            invoke, report]
          omega

/-- The sending task waits for room, when it has not stopped. -/
theorem Open.step_send :
    NearerOrStays (stageOf x p) (x.step .send) p
      (x.stream.allowance ≠ 0 → x.stream.outgoing.octets = [] → x.queue.sending = .stopped) := by
  rw [Exchange.step, Exchange.advance]
  cases step : x.queue.send x.stream with
  | some result => exact .inl (h.nearer_of_send free step)
  | none =>
      refine .inr ⟨rfl, fun ready empty => ?_⟩
      refine (room_of_send h.lasting.live free ready step).resolve_right ?_
      have size := congrArg List.length empty
      rw [Pipe.length_octets, List.length_nil] at size
      rw [Pipe.room, size]
      exact Nat.ne_of_gt h.plain.outward

/-- The receiving task waits for octets, unless the stream has ended. -/
theorem Open.step_receive :
    NearerOrStays (stageOf x p) (x.step .receive) p
      (x.stream.allowance ≠ 0 →
        x.stream.incoming.octets = [] ∧ x.stream.incoming.closed = false) := by
  rw [Exchange.step, Exchange.advance]
  cases step : x.queue.receive x.stream with
  | some result => exact .inl (h.nearer_of_receive free step)
  | none =>
      obtain ⟨received, running, -⟩ := h.coming
      refine .inr ⟨rfl, fun ready => ?_⟩
      exact waits_of_receive h.lasting.live running ready step

end Steps

/-- The party whose turn an event is, if it can come to anything. -/
def Event.party? : Event → Option Party
  | .send calls => if calls = 0 then none else some .sender
  | .receive calls => if calls = 0 then none else some .receiver
  | .peer m => m.party?
  | .call _ | .take => none

/-- Whether a party can move something at a stage. -/
def Stage.Moves (g : Stage) : Party → Prop
  | .sender => g.outgoing = [] ∧ g.queue.sending ≠ .stopped
  | .receiver => g.incoming ≠ [] ∨ g.hungUp = true
  | .reader => g.outgoing ≠ []
  | .replier => g.peer.Owes g.queue.sent
  | .writer => g.peer.unsent ≠ [] ∧ g.incoming = [] ∧ g.hungUp = false
  | .closer => g.outgoing = [] ∧ g.queue.sending = .stopped ∧ ¬g.peer.Owes g.queue.sent ∧
      g.peer.unsent = [] ∧ g.hungUp = false

theorem Stage.exists_moves (g : Stage) : ∃ party, g.Moves party := by
  by_cases outgoing : g.outgoing = []
  · by_cases sending : g.queue.sending = .stopped
    · by_cases owes : g.peer.Owes g.queue.sent
      · exact ⟨.replier, owes⟩
      · by_cases coming : g.incoming ≠ [] ∨ g.hungUp = true
        · exact ⟨.receiver, coming⟩
        · rw [not_or, not_not, Bool.not_eq_true] at coming
          by_cases unsent : g.peer.unsent = []
          · exact ⟨.closer, outgoing, sending, owes, unsent, coming.2⟩
          · exact ⟨.writer, unsent, coming⟩
    · exact ⟨.sender, outgoing, sending⟩
  · exact ⟨.reader, outgoing⟩

/-- A move of the peer takes the farewell nearer to its end, or its party has nothing to move. -/
def Goes (x : Exchange) (p : Peer) (m : Peer.Move) : Prop :=
  NearerOrStays (stageOf x p) { x with stream := (p.act x.queue.sent x.stream m).2 }
    (p.act x.queue.sent x.stream m).1
    (∀ party, m.party? = some party → ¬(stageOf x p).Moves party)

theorem turn_of_party? {n : Nat} {party party' : Party}
    (turn : (if n = 0 then none else some party) = some party') : n ≠ 0 ∧ party' = party := by
  split at turn
  · cases turn
  · next count => exact ⟨count, (Option.some.inj turn).symm⟩

section Peer

variable (h : Open x p) (free : x.queue.held = false)

include h free

omit h in
theorem goes_hear (n : Nat) : Goes x p (.hear n) := by
  by_cases nothing : n = 0 ∨ x.stream.outgoing.octets = []
  · refine .inr ⟨?_, fun party turn moves => ?_⟩
    · have none : x.stream.outgoing.octets.take n = [] := List.take_eq_nil_iff.mpr nothing
      have all : x.stream.outgoing.octets.drop n = x.stream.outgoing.octets := by
        rw [← List.nil_append (List.drop ..), ← none, List.take_append_drop]
      simp only [stageOf, Peer.act, Pipe.octets, Buffer.toList_drop] at none all ⊢
      rw [none, all, List.append_nil]
    · obtain ⟨count, rfl⟩ := turn_of_party? turn
      exact moves (nothing.resolve_left count)
  · rw [not_or] at nothing
    refine .inl (.inr ⟨free, Stage.less_of_asked ?_⟩)
    have some := List.length_pos_iff.mpr nothing.2
    simp only [Stage.asked, stageOf, Peer.act, Pipe.octets, Buffer.toList_drop,
      List.length_drop] at some ⊢
    omega

theorem goes_reply (r : Reply) : Goes x p (.reply r) := by
  by_cases owes : p.Owes x.queue.sent
  · refine .inl (.inr ⟨free, Stage.less_of_asked ?_⟩)
    have count := Nat.lt_of_lt_of_le owes.1 h.ordered.sent.length_le
    simp only [Stage.asked, stageOf, Peer.act, if_pos owes, List.length_append,
      List.length_singleton]
    omega
  · refine .inr ⟨?_, fun party turn moves => ?_⟩
    · simp only [Peer.act, if_neg owes]
    · cases turn
      exact owes moves

theorem goes_write (n : Nat) : Goes x p (.write n) := by
  cases gone : x.stream.incoming.closed with
  | true =>
      refine .inr ⟨?_, fun party turn moves => ?_⟩
      · simp only [Peer.act, gone, if_true]
      · obtain ⟨-, rfl⟩ := turn_of_party? turn
        exact absurd (gone.symm.trans moves.2.2) (by decide)
  | false =>
      let sent := (p.unsent.take n).take x.stream.incoming.room
      let left := (p.unsent.take n).drop x.stream.incoming.room ++ p.unsent.drop n
      have unsent : p.unsent = sent ++ left := by
        rw [← List.append_assoc, List.take_append_drop, List.take_append_drop]
      have moved : stageOf { x with stream := (p.act x.queue.sent x.stream (.write n)).2 }
          (p.act x.queue.sent x.stream (.write n)).1 =
            { stageOf x p with
              peer := { p with unsent := left }
              incoming := x.stream.incoming.octets ++ sent } := by
        simp only [stageOf, Peer.act, gone, Bool.false_eq_true, if_false, Pipe.accept,
          Pipe.octets, Buffer.toList_append]
        rfl
      by_cases none : sent = []
      · refine .inr ⟨?_, fun party turn moves => ?_⟩
        · rw [none, List.nil_append] at unsent
          rw [moved, none, List.append_nil, ← unsent]
          rfl
        · obtain ⟨count, rfl⟩ := turn_of_party? turn
          have some : x.stream.incoming.room ≠ 0 := by
            have size := congrArg List.length moves.2.1
            rw [stageOf, Pipe.length_octets, List.length_nil] at size
            rw [Pipe.room, size]
            exact Nat.ne_of_gt h.plain.inward
          rw [List.take_eq_nil_iff, List.take_eq_nil_iff] at none
          exact moves.1 ((none.resolve_left some).resolve_left count)
      · refine .inl (.inr ⟨free, ?_⟩)
        rw [moved]
        refine Stage.less_of_answered rfl ?_
        have some := List.length_pos_iff.mpr none
        have count := congrArg List.length unsent
        rw [List.length_append] at count
        simp only [Stage.answered, stageOf, List.length_append]
        omega

theorem goes_hangUp : Goes x p .hangUp := by
  by_cases through : (x.stream.outgoing.closed && x.stream.outgoing.buffer.isEmpty) = true ∧
      ¬p.Owes x.queue.sent ∧ p.unsent = []
  · have moved : stageOf { x with stream := (p.act x.queue.sent x.stream .hangUp).2 }
        (p.act x.queue.sent x.stream .hangUp).1 = { stageOf x p with hungUp := true } := by
      simp only [Peer.act, if_pos through]
      rfl
    cases gone : x.stream.incoming.closed with
    | true =>
        refine .inr ⟨?_, fun party turn moves => ?_⟩
        · rw [moved, ← gone]
          rfl
        · cases turn
          exact absurd (gone.symm.trans moves.2.2.2.2) (by decide)
    | false =>
        refine .inl (.inr ⟨free, ?_⟩)
        rw [moved]
        refine Stage.less_of_answered rfl ?_
        simp [Stage.answered, stageOf, gone]
  · refine .inr ⟨?_, fun party turn moves => ?_⟩
    · simp only [Peer.act, if_neg through]
    · cases turn
      obtain ⟨empty, sending, owes, unsent, -⟩ := moves
      refine through ⟨?_, owes, unsent⟩
      rw [Bool.and_eq_true, Buffer.isEmpty_iff]
      exact ⟨h.ended.mpr sending, empty⟩

theorem goes (m : Peer.Move) : Goes x p m := by
  cases m with
  | hear n => exact goes_hear free n
  | reply r => exact goes_reply h free r
  | write n => exact goes_write h free n
  | hangUp => exact goes_hangUp h free

end Peer

variable {f : Farewell}

theorem Open.nearer_or_stays (h : Open f.view f.peer) (poised : f.handover.Poised)
    (free : f.view.queue.held = false) {e : Event} (calm : e.isCalm = true) :
    NearerOrStays f.stage (f.step e).view (f.step e).peer
      (∀ party, e.party? = some party → ¬f.stage.Moves party) := by
  have stepped := view_step poised e
  cases e with
  | call a =>
      obtain ⟨c, callback, -⟩ := (Option.any_eq_true ..).mp calm
      dsimp only at stepped
      rw [stepped, Exchange.step_of_free free (callback ▸ rfl)]
      exact .inr ⟨rfl, nofun⟩
  | take =>
      dsimp only at stepped
      rw [stepped]
      exact .inr ⟨rfl, nofun⟩
  | send calls =>
      dsimp only at stepped
      rw [stepped]
      refine ((h.allow calls).step_send free).imp_right fun stays => ⟨stays.1, ?_⟩
      intro party turn moves
      obtain ⟨count, rfl⟩ := turn_of_party? turn
      exact moves.2 (stays.2 count moves.1)
  | receive calls =>
      dsimp only at stepped
      rw [stepped]
      refine ((h.allow calls).step_receive free).imp_right fun stays => ⟨stays.1, ?_⟩
      intro party turn moves
      obtain ⟨count, rfl⟩ := turn_of_party? turn
      obtain ⟨none, on⟩ := stays.2 count
      exact moves.elim (absurd none) fun gone => absurd (on.symm.trans gone) (by decide)
  | peer m =>
      dsimp only at stepped
      rw [stepped, peer_step poised]
      exact goes h free m

/-- Each of the parties has its turn again and again. -/
def Fair (schedule : Nat → Event) : Prop :=
  ∀ party n, ∃ m, n ≤ m ∧ (schedule m).party? = some party

section Fair

variable {schedule : Nat → Event} (good : f.Good)
  (calm : ∀ n, (schedule n).isCalm = true) (fair : Fair schedule)

include good calm fair

/-- A party that can move something has its turn, and nothing else has taken that away from it then,
unless it has taken the farewell nearer to its end itself. -/
theorem exists_nearer {k : Nat} (free : (f.run schedule k).view.queue.held = false) :
    ∃ m, Nearer (f.run schedule k).stage (f.run schedule m).view (f.run schedule m).peer := by
  obtain ⟨party, moves⟩ := (f.run schedule k).stage.exists_moves
  obtain ⟨turn, later, its⟩ := fair party k
  -- Everything stays where it is up to the turn of the party, or has come nearer before.
  refine of_turn (P := fun n => (f.run schedule n).stage = (f.run schedule k).stage) later rfl ?_
  intro n _ there
  have free' : (f.run schedule n).view.queue.held = false :=
    (congrArg (fun g : Stage => g.queue.held) there).trans free
  obtain live | past := (good.run calm n).view
  · have next := live.nearer_or_stays (good.run calm n).poised free' (calm n)
    rw [there] at next
    refine next.imp (fun nearer => ⟨n + 1, nearer⟩) fun stays => ⟨stays.1, ?_⟩
    rintro rfl
    exact stays.2 party its moves
  · exact .inl ⟨n, .inl past⟩

theorem exists_over {k : Nat} (free : (f.run schedule k).view.queue.held = false) :
    ∃ m, Over (f.run schedule m).view (f.run schedule m).peer := by
  -- Less is left to do at each later stage that comes nearer, so the induction is on that.
  induction here : (f.run schedule k).stage using Stage.less_wf.induction generalizing k with
  | h g ih =>
      obtain ⟨m, past | ⟨free', less⟩⟩ := exists_nearer good calm fair free
      · exact ⟨m, past⟩
      · exact ih _ (here ▸ less) free' rfl

end Fair

theorem exists_run (f : Farewell) (schedule : Nat → Event) (n : Nat) :
    ∃ actions, (f.run schedule n).handover = f.handover.after actions := by
  induction n with
  | zero => exact ⟨[], rfl⟩
  | succ n ih =>
      obtain ⟨actions, same⟩ := ih
      refine ⟨actions ++ (f.run schedule n).actions (schedule n), ?_⟩
      rw [Handover.after, List.foldl_append]
      exact congrArg (Handover.after · ((f.run schedule n).actions (schedule n))) same

theorem lined_run (node : NodeId) (limits : Limits) (inward outward : Nat)
    (schedule : Nat → Event) (n : Nat) :
    Lined [] ((start node limits inward outward).run schedule n).view.queue := by
  obtain ⟨actions, same⟩ := (start node limits inward outward).exists_run schedule n
  rw [view, same]
  exact Handover.lined_after node limits _ actions

theorem Open.count (h : Open x p) : x.queue.accepted.length ≤
    x.queue.answers.length + (x.queue.inFlight.length + x.queue.waiting.length) := by
  have flying := congrArg List.length (h.ordered.flying h.lasting.live)
  rw [List.length_map, List.length_drop] at flying
  have answers := h.ordered.answers_le
  cases taking : x.queue.isTaking with
  | true =>
      have accepted := congrArg List.length (h.ordered.waiting taking)
      rw [List.length_append] at accepted
      omega
  | false =>
      rw [(h.lasting.left taking).2.2.2]
      omega

theorem Over.count (h : Over x p) : x.queue.answers.length = x.queue.accepted.length := by
  have told := congrArg List.length h.told
  rw [List.length_map, List.length_map] at told
  rw [told, h.sent, h.replied]

/-- The requests accepted, each with the outcome that its reply has for it. -/
def repliesTo (q : UpdateQueue) (p : Peer) : List (Ticket × Outcome) :=
  (q.accepted.map Submission.ticket).zip (p.replies.map fun r => r.response.toOutcome)

/-- What a queue has accepted is not lost, as far as things have come. -/
structure Lossless (q : UpdateQueue) (p : Peer) : Prop where
  sent : q.sent <+: q.accepted
  answered : q.answers.map (fun d => (d.ticket, d.outcome)) <+: repliesTo q p
  unfailing : ∀ d ∈ q.completed, d.ticket ∈ q.accepted.map Submission.ticket →
    ∀ e, d.outcome ≠ .error (.channel e)
  failure : ∀ e, q.failure = some e → e = closed
  /-- When both tasks have stopped, the peer has read all requests, and each of them has been
  completed with the outcome of its own reply. -/
  done : q.isDone = true → q.failure = some closed ∧ q.sent = q.accepted ∧
    p.heard = frames q.accepted ∧ p.replies.length = q.accepted.length ∧
    q.answers.map (fun d => (d.ticket, d.outcome)) = repliesTo q p

theorem answers_prefix_repliesTo (o : q.Ordered)
    (told : q.answers.map Delivery.outcome <+: p.replies.map fun r => r.response.toOutcome) :
    q.answers.map (fun d => (d.ticket, d.outcome)) <+: repliesTo q p := by
  rw [← List.zip_map', repliesTo]
  refine zip_prefix_zip (o.answered.trans (o.sent.map _)) told ?_
  rw [List.length_map, List.length_map]

theorem not_channel_of_isAnswer {o : Outcome} (answer : o.isAnswer = true) (e : ChannelError) :
    o ≠ .error (.channel e) := by
  rintro rfl
  cases answer

theorem Open.lossless (h : Open x p) (lined : Lined [] x.queue) :
    Lossless x.queue p where
  sent := h.ordered.sent
  answered := by
    refine answers_prefix_repliesTo h.ordered ?_
    rw [h.told]
    exact (List.take_prefix ..).map _
  unfailing d hd accepted :=
    not_channel_of_isAnswer (isAnswer_of_accepted lined h.ordered h.count d hd accepted)
  failure e failed := absurd (h.lasting.live.symm.trans failed) nofun
  done stopped := by
    obtain ⟨received, running, -⟩ := h.coming
    rw [isDone, running, Bool.and_eq_true] at stopped
    cases stopped.2

theorem Over.lossless (h : Over x p) (lined : Lined [] x.queue) : Lossless x.queue p := by
  have answered := answers_prefix_repliesTo h.ordered ⟨[], (List.append_nil _).trans h.told⟩
  have length : p.replies.length = x.queue.accepted.length := by rw [h.replied, h.sent]
  have all : x.queue.answers.map (fun d => (d.ticket, d.outcome)) = repliesTo x.queue p := by
    refine answered.eq_of_length ?_
    rw [repliesTo, List.length_map, List.length_zip, List.length_map, List.length_map, length,
      Nat.min_self, h.count]
  refine ⟨h.ordered.sent, answered, fun d hd accepted => ?_, fun e failed => ?_, fun _ => ?_⟩
  · have count : x.queue.accepted.length ≤
        x.queue.answers.length + (x.queue.inFlight.length + x.queue.waiting.length) :=
      Nat.le_trans (Nat.le_of_eq h.count.symm) (Nat.le_add_right ..)
    exact not_channel_of_isAnswer (isAnswer_of_accepted lined h.ordered count d hd accepted)
  · exact (Option.some.inj (h.failure.symm.trans failed)).symm
  · exact ⟨h.failure, h.sent.symm, h.sent ▸ h.heard, length, all⟩

/-- Callers hand in requests whose completions neither panic nor shut the queue down, and let go of
it at any moment; the peer answers each request that it has read, and closes its side when it has
seen the end of the other one. In whatever order they and the two tasks take their steps, what is
accepted is sent in order, and completed with the outcome of its own reply and not with a failure of
the channel. If all take their turns again and again after the queue has been let go of, both tasks
come to stop; all of it is sent and answered then, and the queue has failed as shut down. -/
theorem loses_nothing (node : NodeId) (limits : Limits) {inward outward : Nat} (room : 0 < inward)
    (room' : 0 < outward) {schedule : Nat → Event} (calm : ∀ n, (schedule n).isCalm = true) :
    let f := (start node limits inward outward).run schedule
    (∀ n, Lossless (f n).queue (f n).peer) ∧
      (Fair schedule → (∃ n, (f n).queue.held = false) → ∃ n, (f n).queue.isDone = true) := by
  intro f
  have good := (good_start node limits room room').run calm
  refine ⟨fun n => ?_, fun fair released => ?_⟩
  · have lined := lined_run node limits inward outward schedule n
    have lossless : Lossless (f n).view.queue (f n).peer :=
      (good n).view.elim (·.lossless lined) (·.lossless lined)
    obtain ⟨front, eq⟩ := exists_view_eq (good n).poised
    rw [eq] at lossless
    exact { lossless with }
  · obtain ⟨n, free⟩ := released
    obtain ⟨front, eq⟩ := exists_view_eq (good n).poised
    have free' : (f n).view.queue.held = false := by
      rw [eq]
      exact free
    obtain ⟨m, past⟩ := exists_over (good_start node limits room room') calm fair free'
    obtain ⟨front', eq'⟩ := exists_view_eq (good m).poised
    have sending := past.sending
    have receiving := past.receiving
    rw [eq'] at sending receiving
    refine ⟨m, ?_⟩
    rw [isDone, Bool.and_eq_true]
    exact ⟨decide_eq_true sending, decide_eq_true receiving⟩

/-- Everybody has a turn, one after the other. The first replies grant what is asked, the later ones
do not. -/
def inTurns (k : Nat) : Event :=
  match k % 6 with
  | 0 => .send 1
  | 1 => .peer (.hear 3)
  | 2 => .peer (.reply (.ofResponse (if k < 36 then .ok else .rejected "no")))
  | 3 => .peer (.write 1)
  | 4 => .receive 1
  | _ => .peer .hangUp

/-- Of two requests the first one is taken and the second one waits when the queue is let go of. -/
def parting : Nat → Event
  | 0 => .call (.submit (.evictObject 10) 1)
  | 1 => .call (.evict (.binding (.name "é")) (.callback "second" false))
  | 2 => .take
  | 3 => .call .release
  | k + 4 => inTurns k

theorem isCalm_parting (k : Nat) : (parting k).isCalm = true := by
  match k with
  | 0 | 1 | 2 | 3 => rfl
  | k + 4 =>
      rw [parting, inTurns]
      split <;> rfl

/-- The turns come round every six steps. -/
theorem party?_inTurns (n k : Nat) : (inTurns (6 * n + k)).party? = (inTurns k).party? := by
  rw [inTurns, inTurns, Nat.mul_add_mod]
  split <;> rfl

theorem fair_parting : Fair parting := by
  intro party n
  cases party with
  | sender => exact ⟨6 * n + 0 + 4, by omega, party?_inTurns n 0⟩
  | reader => exact ⟨6 * n + 1 + 4, by omega, party?_inTurns n 1⟩
  | replier => exact ⟨6 * n + 2 + 4, by omega, party?_inTurns n 2⟩
  | writer => exact ⟨6 * n + 3 + 4, by omega, party?_inTurns n 3⟩
  | receiver => exact ⟨6 * n + 4 + 4, by omega, party?_inTurns n 4⟩
  | closer => exact ⟨6 * n + 5 + 4, by omega, party?_inTurns n 5⟩

theorem loses_nothing_parting :
    (∃ n, ((start 7 ⟨4, 4, 3⟩ 2 3).run parting n).queue.isDone = true) ∧
      let f := (start 7 ⟨4, 4, 3⟩ 2 3).run parting 96
      f.queue.failure = some closed ∧ f.peer.heard = frames f.queue.accepted ∧
        f.queue.answers.map Delivery.outcome = [.ok (), .error (.input (.rejected "no"))] := by
  obtain ⟨lossless, stops⟩ :=
    loses_nothing 7 ⟨4, 4, 3⟩ (by decide : 0 < 2) (by decide : 0 < 3) isCalm_parting
  have released : ((start 7 ⟨4, 4, 3⟩ 2 3).run parting 4).queue.held = false := by decide +kernel
  have done : ((start 7 ⟨4, 4, 3⟩ 2 3).run parting 96).queue.isDone = true := by decide +kernel
  obtain ⟨failure, -, heard, -, -⟩ := (lossless 96).done done
  refine ⟨stops fair_parting ⟨4, released⟩, failure, heard, ?_⟩
  decide +kernel

end Farewell

end CacheCoherence
