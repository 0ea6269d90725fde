import CacheCoherence.Proofs.ResponseFormat
import CacheCoherence.Proofs.Visit

/-!
The service of a visit returns. Each octet passes through the same places in the
same order, and what an octet has still to go through can be priced, so whatever
moves takes the visit nearer to its end. While the service has not returned there
is always one party that can move something, and nobody else takes that away from
it; so if everybody gets their turn again and again, the service returns.
-/

namespace CacheCoherence

namespace Visit

/-- Where the octets of a visit are, while the service has not returned. -/
structure Stage where
  unsent : List UInt8
  incoming : List UInt8
  received : List UInt8
  answer : Option (List UInt8)
  outgoing : List UInt8
  hungUp : Bool
  capacity : Nat

def stageOf (v : Visit) (c : Channel) : Stage where
  unsent := v.unsent
  incoming := v.host.stream.incoming.octets
  received := c.received
  answer := c.answer
  outgoing := v.host.stream.outgoing.octets
  hungUp := v.host.stream.incoming.closed
  capacity := v.host.stream.outgoing.capacity

def stage (v : Visit) : Option Stage :=
  match v.task with
  | .inr _ => none
  | .inl c => some (v.stageOf c)

/-- The price of an octet that has been received. It pays for two moves of each octet of an
answer. -/
def price : Nat :=
  2 * (Response.maxMessage + 5) + 2

theorem price_eq : price = 8204 := rfl

def answerWork : Option (List UInt8) → Nat
  | none => 0
  | some rest => 2 * rest.length + 1

def Stage.work (g : Stage) : Nat :=
  (price + 2) * g.unsent.length + (price + 1) * g.incoming.length + price * g.received.length +
    answerWork g.answer + g.outgoing.length + if g.hungUp then 0 else 1

section Work

variable {g : Stage}

theorem work_of_send {sent unsent : List UInt8} (octets : g.unsent = sent ++ unsent)
    (some : sent ≠ []) :
    Stage.work { g with unsent, incoming := g.incoming ++ sent } < g.work := by
  have count := List.length_pos_iff.mpr some
  simp only [Stage.work, octets, List.length_append, price_eq]
  omega

theorem work_of_hangUp (still : g.hungUp = false) :
    Stage.work { g with hungUp := true } < g.work := by
  simp [Stage.work, still]

theorem work_of_take {bytes incoming : List UInt8} (octets : g.incoming = bytes ++ incoming)
    (some : bytes ≠ []) :
    Stage.work { g with incoming, received := g.received ++ bytes } < g.work := by
  have count := List.length_pos_iff.mpr some
  simp only [Stage.work, octets, List.length_append, price_eq]
  omega

/-- The octets of the request pay for the answer. -/
theorem work_of_process {bytes incoming rest : List UInt8} (r : Response)
    (octets : g.incoming = bytes ++ incoming)
    (shorter : rest.length < g.received.length + bytes.length) (answered : g.answer = none) :
    Stage.work { g with incoming, received := rest, answer := some r.frame } < g.work := by
  have short : r.frame.length ≤ 4101 := r.length_frame_le
  simp only [Stage.work, octets, answered, answerWork, List.length_append, price_eq]
  omega

theorem work_of_respond {rest given : List UInt8} {answer : Option (List UInt8)}
    (answering : g.answer = some rest) (octets : rest = given ++ answer.getD [])
    (less : given = [] → answer = none) :
    Stage.work { g with answer, outgoing := g.outgoing ++ given } < g.work := by
  simp only [Stage.work, answering, octets, List.length_append]
  cases answer with
  | none =>
      simp only [answerWork, Option.getD_none, List.append_nil]
      omega
  | some left =>
      have count : 0 < given.length :=
        List.length_pos_iff.mpr fun none => absurd (less none) (Option.some_ne_none left)
      simp only [answerWork, Option.getD_some, List.length_append]
      omega

theorem work_of_read {k : Nat} (count : k ≠ 0) (some : g.outgoing ≠ []) :
    Stage.work { g with outgoing := g.outgoing.drop k } < g.work := by
  have present := List.length_pos_iff.mpr some
  simp only [Stage.work, List.length_drop]
  omega

end Work

/-- The service has returned, or there is less work left than at a stage. -/
def Nearer (g : Stage) (v : Visit) : Prop :=
  ∀ g', v.stage = some g' → g'.work < g.work

theorem nearer_of_stage {g g' : Stage} {v : Visit} (there : v.stage = some g')
    (less : g'.work < g.work) : Nearer g v := by
  intro other here
  rw [there, Option.some.injEq] at here
  exact here ▸ less

variable {s : Server} {id : SessionId} {n : NodeId} {bytes : List UInt8} {v : Visit} {c : Channel}
  {g : Stage}

theorem stage_of_task (task : v.task = .inl c) : v.stage = some (v.stageOf c) := by
  rw [stage, task]

theorem eq_stageOf (task : v.task = .inl c) (here : v.stage = some g) : g = v.stageOf c := by
  rw [stage_of_task task] at here
  exact (Option.some.inj here).symm

/-- Where the octets are after the service has gone on, with its stream in another state. -/
theorem stage_of_alike (task : v.task = .inl c) (here : v.stage = some g) {host : Host}
    {c' : Channel} {given : List UInt8} {calls : Nat}
    (alike : (v.ready calls).stream.Alike host.stream)
    (outgoing : host.stream.outgoing.octets = v.host.stream.outgoing.octets ++ given) :
    stage { v with host, task := .inl c' } = some
      { g with
        incoming := host.stream.incoming.octets
        received := c'.received
        answer := c'.answer
        outgoing := g.outgoing ++ given } := by
  rw [stage_of_task rfl, eq_stageOf task here]
  simp only [stageOf, outgoing, alike.incomingClosed, alike.outgoingCapacity]
  rfl

theorem Underway.nearer_of_serve (h : Underway s id n bytes v c) (task : v.task = .inl c)
    (here : v.stage = some g) {calls : Nat} (moves : c.step (v.ready calls) ≠ none) :
    Nearer g (v.serve calls) := by
  obtain ⟨result, stepped⟩ := Option.ne_none_iff_exists'.mp moves
  have served : v.serve calls = { v with host := result.1, task := result.2 } := by
    rw [Visit.serve, task]
    dsimp only
    rw [stepped]
  have eq := eq_stageOf task here
  have incoming : g.incoming = v.host.stream.incoming.octets := by rw [eq, stageOf]
  have received : g.received = c.received := by rw [eq, stageOf]
  have answer : g.answer = c.answer := by rw [eq, stageOf]
  rw [served]
  cases Channel.turn_of_step (h := v.ready calls) h.sane.quiet h.sane.unclosed h.isShutDown
    stepped with
  | respond left rest given stream answering octets less moved alike =>
      have same : stream.incoming.octets = g.incoming := moved.incoming.symm.trans incoming.symm
      refine nearer_of_stage (stage_of_alike task here alike moved.outgoing) ?_
      dsimp only
      rw [same, ← received]
      exact work_of_respond (answer.trans answering) octets less
  | take bytes stream answered some moved alike =>
      refine nearer_of_stage (stage_of_alike task here alike moved.outgoing) ?_
      dsimp only
      rw [List.append_nil, ← received, ← answer]
      exact work_of_take (incoming.trans moved.incoming) some
  | process bytes rest r p stream answered moved alike shorter first processed =>
      rw [← received] at shorter
      refine nearer_of_stage (stage_of_alike task here alike moved.outgoing) ?_
      dsimp only
      rw [List.append_nil]
      exact work_of_process (Response.ofOutcome p.2.outcome) (incoming.trans moved.incoming)
        shorter (answer.trans answered)
  | finish bytes stream result answered moved alike last =>
      exact fun _ here => absurd here.symm (Option.some_ne_none _)

/-- What the peer sends goes from its own octets to those on the way. -/
theorem send_conserves (v : Visit) (k : Nat) (unclosed : v.host.stream.incoming.closed = false) :
    let sent := (v.unsent.take k).take v.host.stream.incoming.room
    v.unsent = sent ++ (v.send k).unsent ∧
      (v.send k).host.stream.incoming.octets = v.host.stream.incoming.octets ++ sent := by
  intro sent
  rw [Visit.send]
  dsimp only
  rw [unclosed, if_neg Bool.false_ne_true]
  refine ⟨?_, Buffer.toList_append ..⟩
  change v.unsent = sent ++ ((v.unsent.take k).drop _ ++ v.unsent.drop k)
  rw [← List.append_assoc, List.take_append_drop, List.take_append_drop]

/-- The parties that can move octets. -/
inductive Party where
  | service
  | sender
  | closer
  | reader

/-- The party whose turn an event is, if it can come to anything. -/
def Event.party? : Event → Option Party
  | .serve calls => if calls = 0 then none else some .service
  | .send k => if k = 0 then none else some .sender
  | .hangUp => some .closer
  | .read k => if k = 0 then none else some .reader
  | .other _ => none

/-- Whether a party can move something at a stage. -/
def Stage.Moves (g : Stage) : Party → Prop
  | .reader => g.answer ≠ none ∧ g.capacity ≤ g.outgoing.length
  | .sender => g.answer = none ∧ g.incoming = [] ∧ g.hungUp = false ∧ g.unsent ≠ []
  | .closer => g.answer = none ∧ g.incoming = [] ∧ g.hungUp = false ∧ g.unsent = []
  | .service => ¬(g.answer ≠ none ∧ g.capacity ≤ g.outgoing.length) ∧
      ¬(g.answer = none ∧ g.incoming = [] ∧ g.hungUp = false)

theorem Stage.exists_moves (g : Stage) : ∃ party, g.Moves party := by
  by_cases full : g.answer ≠ none ∧ g.capacity ≤ g.outgoing.length
  · exact ⟨.reader, full⟩
  · by_cases empty : g.answer = none ∧ g.incoming = [] ∧ g.hungUp = false
    · obtain ⟨answered, none, still⟩ := empty
      by_cases sent : g.unsent = []
      · exact ⟨.closer, answered, none, still, sent⟩
      · exact ⟨.sender, answered, none, still, sent⟩
    · exact ⟨.service, full, empty⟩

/-- The event takes the visit nearer to its end, or it leaves all octets where they are and is not
the turn of a party that can move some. -/
def NearerOrStays (g : Stage) (v : Visit) (turn : Prop) (party : Party) : Prop :=
  Nearer g v ∨ v.stage = some g ∧ (turn → ¬g.Moves party)

theorem Underway.step_serve (h : Underway s id n bytes v c) (task : v.task = .inl c)
    (here : v.stage = some g) (calls : Nat) :
    NearerOrStays g (v.serve calls) (calls ≠ 0) .service := by
  cases stepped : c.step (v.ready calls) with
  | some result =>
      exact .inl (h.nearer_of_serve task here (stepped ▸ Option.some_ne_none result))
  | none =>
      refine .inr ⟨?_, fun some moves => ?_⟩
      · rw [Visit.serve, task]
        dsimp only
        rw [stepped]
        exact here
      · rw [eq_stageOf task here] at moves
        obtain ⟨answering, full⟩ | stuck :=
          Channel.waits_of_step (h := v.ready calls) some h.isShutDown stepped
        · have filled : v.host.stream.outgoing.capacity ≤ v.host.stream.outgoing.octets.length := by
            rw [Pipe.length_octets]
            exact Nat.le_of_sub_eq_zero full
          exact moves.1 ⟨answering, filled⟩
        · exact moves.2 stuck

theorem stage_send (task : v.task = .inl c) (here : v.stage = some g) (k : Nat)
    (unclosed : v.host.stream.incoming.closed = false) :
    (v.send k).stage = some
      { g with
        unsent := (v.send k).unsent
        incoming := (v.send k).host.stream.incoming.octets } := by
  rw [eq_stageOf task here, stage, task_send, task, Visit.send]
  dsimp only [stageOf]
  rw [unclosed, if_neg Bool.false_ne_true]
  exact congrArg (fun hungUp => some (Stage.mk _ _ _ _ _ hungUp _)) unclosed

theorem Underway.step_send (h : Underway s id n bytes v c) (task : v.task = .inl c)
    (here : v.stage = some g) (k : Nat) : NearerOrStays g (v.send k) (k ≠ 0) .sender := by
  have eq := eq_stageOf task here
  cases closed : v.host.stream.incoming.closed with
  | true =>
      refine .inr ⟨?_, fun _ moves => ?_⟩
      · rw [Visit.send]
        dsimp only
        rw [if_pos closed]
        exact here
      · rw [eq] at moves
        exact Bool.false_ne_true (moves.2.2.1.symm.trans closed)
  | false =>
      obtain ⟨unsent, incoming⟩ := v.send_conserves k closed
      have after := stage_send task here k closed
      by_cases none : (v.unsent.take k).take v.host.stream.incoming.room = []
      · rw [none] at unsent incoming
        rw [List.nil_append] at unsent
        rw [List.append_nil] at incoming
        refine .inr ⟨by rw [after, incoming, ← unsent, eq]; rfl, fun count moves => ?_⟩
        rw [eq, stageOf] at moves
        have room : v.host.stream.incoming.room ≠ 0 := by
          have empty := congrArg List.length moves.2.1
          rw [Pipe.length_octets, List.length_nil] at empty
          rw [Pipe.room, empty]
          exact Nat.ne_of_gt h.sane.inward
        rw [List.take_eq_nil_iff, List.take_eq_nil_iff] at none
        exact moves.2.2.2 ((none.resolve_left room).resolve_left count)
      · have before : g.unsent = v.unsent := by rw [eq, stageOf]
        have way : g.incoming = v.host.stream.incoming.octets := by rw [eq, stageOf]
        refine .inl (nearer_of_stage after ?_)
        rw [incoming, ← way]
        exact work_of_send (before.trans unsent) none

theorem stage_hangUp (task : v.task = .inl c) (here : v.stage = some g) (sent : v.unsent = []) :
    v.hangUp.stage = some { g with hungUp := true } := by
  rw [eq_stageOf task here, stage, task_hangUp, task, Visit.hangUp, if_pos sent]
  rfl

theorem step_hangUp (task : v.task = .inl c) (here : v.stage = some g) :
    NearerOrStays g v.hangUp True .closer := by
  have eq := eq_stageOf task here
  by_cases sent : v.unsent = []
  · have after := stage_hangUp task here sent
    cases closed : g.hungUp with
    | true =>
        refine .inr ⟨?_, fun _ moves => Bool.false_ne_true (moves.2.2.1.symm.trans closed)⟩
        rw [after, ← closed]
    | false => exact .inl (nearer_of_stage after (work_of_hangUp closed))
  · refine .inr ⟨?_, fun _ moves => sent ?_⟩
    · rw [Visit.hangUp, if_neg sent]
      exact here
    · rw [eq] at moves
      exact moves.2.2.2

theorem stage_read (task : v.task = .inl c) (here : v.stage = some g) (k : Nat) :
    (v.read k).stage = some { g with outgoing := g.outgoing.drop k } := by
  rw [eq_stageOf task here, stage, show (v.read k).task = _ from task]
  simp only [Visit.read, stageOf, withStream, Pipe.octets, Buffer.toList_drop]

theorem Underway.step_read (h : Underway s id n bytes v c) (task : v.task = .inl c)
    (here : v.stage = some g) (k : Nat) : NearerOrStays g (v.read k) (k ≠ 0) .reader := by
  have after := stage_read task here k
  by_cases nothing : k = 0 ∨ g.outgoing = []
  · refine .inr ⟨?_, fun count moves => ?_⟩
    · rw [after]
      obtain none | none := nothing
      · rw [none, List.drop_zero]
      · rw [none, List.drop_nil, ← none]
    · have room : 0 < g.capacity := by
        rw [eq_stageOf task here]
        exact h.sane.outward
      have full := moves.2
      rw [nothing.resolve_left count, List.length_nil] at full
      omega
  · rw [not_or] at nothing
    exact .inl (nearer_of_stage after (work_of_read nothing.1 nothing.2))

theorem stage_other (v : Visit) (op : Server.Operation) : (v.other op).stage = v.stage := by
  rw [Visit.other]
  split
  · rfl
  · dsimp only
    split <;> rfl

theorem Underway.nearer_or_stays (h : Underway s id n bytes v c) (task : v.task = .inl c)
    (here : v.stage = some g) (e : Event) :
    Nearer g (v.step e) ∨
      (v.step e).stage = some g ∧ ∀ party, e.party? = some party → ¬g.Moves party := by
  have turn : ∀ {k : Nat} {party other : Party},
      (if k = 0 then none else some party) = some other → k ≠ 0 ∧ party = other := by
    intro k party other eq
    split at eq
    · cases eq
    next count => exact ⟨count, Option.some.inj eq⟩
  cases e with
  | serve calls =>
      refine (h.step_serve task here calls).imp_right fun stays => ⟨stays.1, fun party eq => ?_⟩
      obtain ⟨count, rfl⟩ := turn eq
      exact stays.2 count
  | send k =>
      refine (h.step_send task here k).imp_right fun stays => ⟨stays.1, fun party eq => ?_⟩
      obtain ⟨count, rfl⟩ := turn eq
      exact stays.2 count
  | hangUp =>
      refine (step_hangUp task here).imp_right fun stays => ⟨stays.1, fun party eq => ?_⟩
      cases eq
      exact stays.2 trivial
  | read k =>
      refine (h.step_read task here k).imp_right fun stays => ⟨stays.1, fun party eq => ?_⟩
      obtain ⟨count, rfl⟩ := turn eq
      exact stays.2 count
  | other op => exact .inr ⟨(v.stage_other op).trans here, nofun⟩

/-- Each of the parties has its turn again and again. -/
def Fair (schedule : Nat → Event) : Prop :=
  ∀ party n, ∃ m, n ≤ m ∧ (schedule m).party? = some party

theorem exists_task (here : v.stage = some g) : ∃ c, v.task = .inl c := by
  rw [stage] at here
  split at here
  · cases here
  next c task => exact ⟨c, task⟩

/-- A party that can move something has its turn, and nothing else has taken that away from it then,
unless it has taken the visit nearer to its end itself. -/
theorem exists_nearer {schedule : Nat → Event} (good : Good s id n bytes v) (fair : Fair schedule)
    {k : Nat} (here : (v.run schedule k).stage = some g) :
    ∃ m, k ≤ m ∧ Nearer g (v.run schedule m) := by
  obtain ⟨party, moves⟩ := g.exists_moves
  obtain ⟨turn, later, its⟩ := fair party k
  -- The octets stay where they are up to the turn of the party, or the visit is nearer before.
  refine of_turn (P := fun n => (v.run schedule n).stage = some g) later here ?_
  intro n since there
  obtain ⟨c, task⟩ := exists_task there
  have under := good.run schedule n
  rw [Good, task] at under
  refine (Underway.nearer_or_stays under task there (schedule n)).imp
    (fun nearer => ⟨n + 1, Nat.le_succ_of_le since, nearer⟩) fun stays => ⟨stays.1, ?_⟩
  rintro rfl
  exact stays.2 party its moves

theorem exists_returned_of_stage {schedule : Nat → Event} (good : Good s id n bytes v)
    (fair : Fair schedule) {k : Nat} (here : (v.run schedule k).stage = some g) :
    ∃ m summary, (v.run schedule m).task = .inr summary := by
  -- The work that is left becomes less from one stage to a later one, so the induction is on it.
  induction work : g.work using Nat.strongRecOn generalizing k g with
  | ind work ih =>
      obtain ⟨m, -, nearer⟩ := exists_nearer good fair here
      cases task : (v.run schedule m).task with
      | inr summary => exact ⟨m, summary, task⟩
      | inl c =>
          have there := stage_of_task task
          exact ih _ (work ▸ nearer _ there) there rfl

theorem exists_returned {schedule : Nat → Event} (good : Good s id n bytes v)
    (fair : Fair schedule) : ∃ m summary, (v.run schedule m).task = .inr summary := by
  cases here : v.stage with
  | some g => exact exists_returned_of_stage good fair (k := 0) here
  | none =>
      rw [stage] at here
      split at here
      next summary task => exact ⟨0, summary, task⟩
      · cases here

/-- A channel of a session that is registered and not shut down processes the requests of what it is
sent, one by one, up to the end or to where no request can be read, whatever the pieces in which it
is sent and whatever else is done to the server that does not end the session. It writes the answers
to their outcomes, and does nothing else to the server but that it closes the session: it is shut
down and no longer registered then, and its node holds nothing. -/
theorem returns_when_read (s : Server) {id : SessionId} {session : Session}
    (present : s.registry.session? id = some session)
    (live : s.registry.live.get? session.node = some id) (unattached : session.attached = false)
    (up : session.shutDown = false) {inward outward : Nat} (roomIn : 0 < inward)
    (roomOut : 0 < outward) (bytes : List UInt8) {schedule : Nat → Event} (fair : Fair schedule) :
    let all := s.readAll bytes
    (∃ rest, bytes = all.1.flatMap Request.frame ++ rest ∧
      ((Request.read s.settings.limits).on rest).1 = all.2.map fun _ => none) ∧
    ∃ v, start s id inward outward bytes = some v ∧
      (∃ k summary, (v.run schedule k).task = .inr summary) ∧
      ∀ k summary, (v.run schedule k).task = .inr summary →
        let w := v.run schedule k
        summary = ⟨session.node, all.1.length, .ofRead all.2⟩ ∧
        (∃ handled, handled.map Prod.fst = all.1 ∧
          s.Became (deeds id handled ++ [(.closeSession id, none)]) w.others w.host.server ∧
          w.got ++ w.host.stream.outgoing.octets = answers handled) ∧
        (∃ ended, w.host.server.registry.session? id = some ended ∧ ended.shutDown = true) ∧
        session.node ∉ w.host.server.registry.nodes ∧
        ∀ k, (w.host.server.directory.state k).levelOf session.node = none := by
  intro all
  refine ⟨Request.exists_rest_of_readAll s.settings.limits bytes, ?_⟩
  obtain ⟨v, started, good⟩ := exists_start present live unattached up roomIn roomOut bytes
  refine ⟨v, started, exists_returned good fair, fun k summary returned => ?_⟩
  have finished := good.run schedule k
  rw [Good, returned] at finished
  exact ⟨finished.summary, finished.handled, finished.shutDown, finished.unregistered,
    finished.unheld⟩

/-- The parties one after the other, each with one octet or one call at a time. -/
def inTurns (k : Nat) : Event :=
  match k % 4 with
  | 0 => .serve 1
  | 1 => .send 1
  | 2 => .hangUp
  | _ => .read 1

theorem fair_inTurns : Fair inTurns := by
  intro party n
  cases party with
  | service => exact ⟨4 * n, by omega, by simp [inTurns, Event.party?]⟩
  | sender => exact ⟨4 * n + 1, by omega, by simp [inTurns, Event.party?]⟩
  | closer => exact ⟨4 * n + 2, by omega, by simp [inTurns, Event.party?]⟩
  | reader => exact ⟨4 * n + 3, by omega, by simp [inTurns, Event.party?]⟩

/-- The frame of a request, and the first octets of another one. -/
def cut : List UInt8 :=
  Request.frame (.evictObject 10) ++ [2, 0]

theorem returns_when_read_cut :
    let s : Server :=
      ⟨{ shards := 1, feedCapacity := 1 }, .new Key.place 1, {},
        ⟨[{ node := 1 }], SortedMap.empty.insert 1 0⟩, .new 1⟩
    ∃ v k, start s 0 3 2 cut = some v ∧
      (v.run inTurns k).task = .inr ⟨1, 1, .failed (.endOfStream "oid")⟩ := by
  intro s
  have present : s.registry.session? 0 = some { node := 1 } := by decide
  obtain ⟨-, v, started, ⟨k, summary, returned⟩, all⟩ :=
    returns_when_read s present (by decide) rfl rfl (by decide : 0 < 3) (by decide : 0 < 2) cut
      fair_inTurns
  have read : s.readAll cut = ([.evictObject 10], .error (.endOfStream "oid")) := by
    decide +kernel
  obtain ⟨rfl, -⟩ := all k summary returned
  rw [read] at returned
  exact ⟨v, k, started, returned⟩

end Visit

end CacheCoherence
