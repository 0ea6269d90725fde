import CacheCoherence.Proofs.SessionCourse
import CacheCoherence.Proofs.Visit

/-!
A connection while the other side does what it likes with the stream and others
do what they like with the server. From the moment when it has registered a
session, what it has written and done is told by the octets that it has taken
behind the greeting, and its session is closed whatever becomes of it.
-/

namespace CacheCoherence

open Server

theorem Server.Became.settings {s t : Server} {deeds : List (Operation × Option Outcome)}
    {others : List Operation} (h : s.Became deeds others t) : t.settings = s.settings := by
  induction h with
  | refl => rfl
  | deed _ op ih | other _ op ih => exact (settings_step _ op).trans ih

/-- A connection from its start, with what came of it and what others did to its server. -/
structure Admission where
  host : Host
  task : Connection ⊕ ConnectionResult := .inl (.greeting [])
  /-- What the connection has taken off its stream, in order. -/
  taken : List UInt8 := []
  /-- What the connection has written, in order. -/
  written : List UInt8 := []
  /-- Its stream as each step of the connection has found it, in order. -/
  found : List Endpoint := []
  /-- What others have done, in order, each with the server that it was done to. -/
  others : List (Server × Operation) := []

namespace Admission

inductive Event where
  | proceed
  /-- The other side of the stream leaves this one like that. -/
  | peer (stream : Endpoint)
  | other (op : Operation)

abbrev server (a : Admission) : Server :=
  a.host.server

abbrev stream (a : Admission) : Endpoint :=
  a.host.stream

def start (s : Server) (stream : Endpoint) : Admission :=
  { host := { server := s, stream } }

def proceed (a : Admission) : Admission :=
  match a.task with
  | .inr _ => a
  | .inl c =>
    match c.step a.host with
    | none => a
    | some (host, task) =>
      { a with
        host
        task
        taken := a.taken ++ a.stream.taken host.stream
        written := a.written ++ a.stream.given host.stream
        found := a.found ++ [a.stream] }

def step (a : Admission) : Event → Admission
  | .proceed => a.proceed
  | .peer stream => { a with host := { a.host with stream } }
  | .other op =>
    { a with
      host := { a.host with server := a.server.step op }
      others := a.others ++ [(a.server, op)] }

def after (a : Admission) (run : List Event) : Admission :=
  run.foldl step a

def ops (others : List (Server × Operation)) : List Operation :=
  others.map Prod.snd

theorem ops_concat (others : List (Server × Operation)) (s : Server) (op : Operation) :
    ops (others ++ [(s, op)]) = ops others ++ [op] :=
  List.map_append

/-- A channel against the octets that its connection has written and has taken behind the greeting.
These are the requests that the channel has processed, and the octets that it still has. -/
structure Orderly (t : Server) (id : SessionId) (n : NodeId) (written behind : List UInt8)
    (c : Channel) : Prop where
  session : c.session = id
  node : c.node = n
  count : c.processed = c.handled.toList.length
  input : ∀ more, t.readAll (behind ++ more) =
    (c.handled.toList.map Prod.fst ++ (t.readAll (c.received ++ more)).1,
      (t.readAll (c.received ++ more)).2)
  output : written ++ c.answer.getD [] = Response.ok.frame ++ Visit.answers c.handled.toList
  /-- All answers but the last one are written in full. -/
  earlier : Response.ok.frame ++ Visit.answers c.handled.toList.dropLast <+: written

/-- Why a connection no longer serves its channel, and what it has done until then. It has processed
all requests among the octets that it has taken, and answered them, unless somebody else has shut
the session down or the last answer could not be written; these leave requests unprocessed only
behind the others. -/
inductive Stopped (t : Server) (id : SessionId) (written behind : List UInt8)
    (found : List Endpoint) (later : List (Server × Operation))
    (handled : List (Request × Outcome)) : ChannelEnd → Prop where
  | closed (stream : Endpoint) (among : stream ∈ found) (ended : stream.Exhausted)
      (input : t.readAll behind = (handled.map Prod.fst, .ok ()))
      (output : written = Response.ok.frame ++ Visit.answers handled) :
      Stopped t id written behind found later handled .closed
  /-- The stream has ended inside a frame. -/
  | cut (context : String) (stream : Endpoint) (among : stream ∈ found) (ended : stream.Exhausted)
      (input : t.readAll behind = (handled.map Prod.fst, .error (.endOfStream context)))
      (output : written = Response.ok.frame ++ Visit.answers handled) :
      Stopped t id written behind found later handled (.failed (.endOfStream context))
  /-- What comes next is no request. -/
  | refused (e : ChannelError)
      (input : t.readAll behind = (handled.map Prod.fst, .error e))
      (output : written = Response.ok.frame ++ Visit.answers handled) :
      Stopped t id written behind found later handled (.failed e)
  | unread (f : StreamFault) (context : String) (stream : Endpoint) (among : stream ∈ found)
      (broken : stream.faults.read = some f)
      (input : (t.readAll behind).1 = handled.map Prod.fst)
      (output : written = Response.ok.frame ++ Visit.answers handled) :
      Stopped t id written behind found later handled (.failed (f.toError context))
  | shutDown (dismissed : Dismissed later id)
      (input : handled.map Prod.fst <+: (t.readAll behind).1)
      (output : written = Response.ok.frame ++ Visit.answers handled) :
      Stopped t id written behind found later handled .shutDown
  | unwritten (f : StreamFault) (stream : Endpoint) (among : stream ∈ found)
      (broken : stream.Unwritable f)
      (input : handled.map Prod.fst <+: (t.readAll behind).1)
      (output : written <+: Response.ok.frame ++ Visit.answers handled)
      (earlier : Response.ok.frame ++ Visit.answers handled.dropLast <+: written) :
      Stopped t id written behind found later handled (.failed (f.toError "frame"))

/-- Nobody but the connection has claimed the session. -/
def Uncontested (later : List (Server × Operation)) (id : SessionId) : Prop :=
  ∀ s, (s, .attach id) ∉ later

theorem Uncontested.mono {later more : List (Server × Operation)} {id : SessionId}
    (h : Uncontested more id) (le : later ⊆ more) : Uncontested later id :=
  fun s member => h s (le member)

/-- How far a connection has come that has registered a session, leaving the server `t`: with what
it has written, and with the octets that it has taken behind the greeting, the requests that it has
processed, and what it has done to the server since. -/
inductive Conduct (t : Server) (id : SessionId) (n : NodeId) (written behind : List UInt8)
    (found : List Endpoint) (later : List (Server × Operation)) :
    Connection ⊕ ConnectionResult → List (Request × Outcome) →
      List (Operation × Option Outcome) → Prop where
  | welcoming {rest} (told : written ++ rest = Response.ok.frame) (none : behind = []) :
      Conduct t id n written behind found later (.inl (.welcoming rest id)) [] []
  /-- The welcome could not be written. -/
  | unwelcome (f : StreamFault) (stream : Endpoint) (among : stream ∈ found)
      (broken : stream.Unwritable f) (told : written <+: Response.ok.frame) (none : behind = []) :
      Conduct t id n written behind found later (.inr (.error (.channel (f.toError "frame")))) []
        [(.closeSession id, .none)]
  | starting (told : written = Response.ok.frame) (none : behind = []) :
      Conduct t id n written behind found later (.inl (.starting id)) [] []
  /-- Somebody else has claimed the session. -/
  | contested (e : InputError) (claimed : ¬Uncontested later id)
      (told : written = Response.ok.frame) (none : behind = []) :
      Conduct t id n written behind found later (.inr (.error (.input e))) [] []
  | serving (c : Channel) (orderly : Orderly t id n written behind c) :
      Conduct t id n written behind found later (.inl (.serving c)) c.handled.toList
        (Visit.deeds id c.handled.toList)
  | served (handled : List (Request × Outcome)) (ending : ChannelEnd)
      (stopped : Stopped t id written behind found later handled ending) :
      Conduct t id n written behind found later (.inr (.ok ⟨n, handled.length, ending⟩)) handled
        (Visit.deeds id handled ++ [(.closeSession id, .none)])

/-- A connection that has returned when the node closed its side has processed all requests. -/
theorem Conduct.all_of_closed {t : Server} {id : SessionId} {n : NodeId}
    {written behind : List UInt8} {found : List Endpoint} {later : List (Server × Operation)}
    {handled : List (Request × Outcome)} {deeds : List (Operation × Option Outcome)} {count : Nat}
    (h : Conduct t id n written behind found later (.inr (.ok ⟨n, count, .closed⟩)) handled deeds) :
    t.readAll behind = (handled.map Prod.fst, .ok ()) := by
  cases h with
  | served _ _ stopped =>
      cases stopped with
      | closed _ _ _ input _ => exact input

/-- What holds of the server once a connection has registered a session. -/
structure Tenure (t : Server) (id : SessionId) (n : NodeId) (later : List (Server × Operation))
    (deeds : List (Operation × Option Outcome)) (s : Server) : Prop where
  became : t.Became deeds (ops later) s
  node : s.nodeOf id = some n
  fenced : Fenced n (Strayed later n) s.registry s.directory
  unclaimed : deeds = [] → Uncontested later id → s.Unclaimed id

section Tenure

variable {t s : Server} {id : SessionId} {n : NodeId} {later : List (Server × Operation)}
  {deeds : List (Operation × Option Outcome)} (h : Tenure t id n later deeds s)

include h

theorem Tenure.own (op : Operation) (own : op.byConnection) :
    Tenure t id n later (deeds ++ [(op, s.outcome? op)]) (s.step op) where
  became := h.became.deed op
  node := nodeOf_step h.node op
  fenced := h.fenced.of_step fun k level eq _ => by
    rw [eq] at own
    exact own.elim
  unclaimed none := absurd none (List.append_ne_nil_of_right_ne_nil _ (List.cons_ne_nil _ _))

theorem Tenure.other (op : Operation) :
    Tenure t id n (later ++ [(s, op)]) deeds (s.step op) where
  became := by
    rw [ops_concat]
    exact h.became.other op
  node := nodeOf_step h.node op
  fenced := h.fenced.step op
  unclaimed none alone := by
    refine (h.unclaimed none (alone.mono (List.subset_append_left ..))).step fun eq => ?_
    refine alone s (List.mem_append_right _ (List.mem_singleton.mpr ?_))
    rw [eq]

end Tenure

section Proceed

variable {a : Admission}

theorem proceed_eq {c : Connection} (running : a.task = .inl c)
    {result : Host × (Connection ⊕ ConnectionResult)} (stepped : c.step a.host = some result)
    {taken given : List UInt8} (moved : a.stream.Moved result.1.stream taken given) :
    a.proceed =
      { a with
        host := result.1
        task := result.2
        taken := a.taken ++ taken
        written := a.written ++ given
        found := a.found ++ [a.stream] } := by
  rw [proceed, running]
  dsimp only
  rw [stepped]
  dsimp only
  rw [moved.taken_eq, moved.given_eq]

theorem proceed_of_idle {c : Connection} (running : a.task = .inl c) (idle : c.step a.host = none) :
    a.proceed = a := by
  rw [proceed, running]
  dsimp only
  rw [idle]

theorem proceed_of_returned {result : ConnectionResult} (returned : a.task = .inr result) :
    a.proceed = a := by
  rw [proceed, returned]

end Proceed

/-- What holds of a connection that has registered a session. -/
structure Admitted (t : Server) (id : SessionId) (n : NodeId) (later : List (Server × Operation))
    (handled : List (Request × Outcome)) (deeds : List (Operation × Option Outcome))
    (a : Admission) : Prop where
  greeted : Hello.frame n <+: a.taken
  conduct : Conduct t id n a.written (a.taken.drop 8) a.found later a.task handled deeds
  tenure : Tenure t id n later deeds a.server
  standing : ∀ c, a.task = .inl c → a.server.Up id ∨ Dismissed later id
  ended : ∀ result, a.task = .inr result → Uncontested later id → a.server.registry.Over id n

section Admitted

variable {t : Server} {id : SessionId} {n : NodeId} {later : List (Server × Operation)}
  {handled : List (Request × Outcome)} {deeds : List (Operation × Option Outcome)} {a : Admission}

/-- A connection that has not returned owes nothing yet. -/
theorem admitted_of_running {c : Connection} (running : a.task = .inl c)
    (greeted : Hello.frame n <+: a.taken)
    (conduct : Conduct t id n a.written (a.taken.drop 8) a.found later a.task handled deeds)
    (tenure : Tenure t id n later deeds a.server) (standing : a.server.Up id ∨ Dismissed later id) :
    Admitted t id n later handled deeds a where
  greeted
  conduct
  tenure
  standing _ _ := standing
  ended _ returned := absurd (running.symm.trans returned) Sum.inl_ne_inr

/-- A connection that has returned has no session to serve any more. -/
theorem admitted_of_returned {result : ConnectionResult} (returned : a.task = .inr result)
    (greeted : Hello.frame n <+: a.taken)
    (conduct : Conduct t id n a.written (a.taken.drop 8) a.found later a.task handled deeds)
    (tenure : Tenure t id n later deeds a.server)
    (ended : Uncontested later id → a.server.registry.Over id n) :
    Admitted t id n later handled deeds a where
  greeted
  conduct
  tenure
  standing _ running := absurd (running.symm.trans returned) Sum.inl_ne_inr
  ended _ _ := ended

theorem drop_append_of_greeted (greeted : Hello.frame n <+: a.taken) (bytes : List UInt8) :
    (a.taken ++ bytes).drop 8 = a.taken.drop 8 ++ bytes := by
  have length := greeted.length_le
  rw [Hello.length_frame] at length
  exact List.drop_append_of_le_length length

/-- The stream as a step has found it is the last of those that have been found. -/
theorem mem_found (a : Admission) : a.stream ∈ a.found ++ [a.stream] :=
  List.mem_append_right _ (List.mem_singleton.mpr rfl)

theorem Admitted.confirm (h : Admitted t id n later [] [] a) {rest : List UInt8}
    (running : a.task = .inl (.welcoming rest id)) (told : a.written ++ rest = Response.ok.frame)
    (none : a.taken.drop 8 = []) :
    ∃ handled deeds, Admitted t id n later handled deeds a.proceed := by
  have standing := h.standing _ running
  cases stepped : (Connection.welcoming rest id).step a.host with
  | none =>
      rw [proceed_of_idle running stepped]
      exact ⟨_, _, h⟩
  | some result =>
      cases Connection.move_of_step stepped with
      | welcome given left stream octets moved =>
          rw [proceed_eq running stepped moved, List.append_nil]
          rw [octets, ← List.append_assoc] at told
          exact ⟨_, _, admitted_of_running rfl h.greeted (.welcoming told none) h.tenure standing⟩
      | welcomed stream moved =>
          rw [proceed_eq running stepped moved, List.append_nil]
          exact ⟨_, _, admitted_of_running rfl h.greeted (.starting told none) h.tenure standing⟩
      | unwelcome f given stream broken octets moved =>
          rw [proceed_eq running stepped moved.drop, List.append_nil]
          obtain ⟨left, rfl⟩ := octets
          rw [← List.append_assoc] at told
          exact ⟨_, _, admitted_of_returned rfl h.greeted
            (.unwelcome f a.stream a.mem_found broken ⟨left, told⟩ none)
            (h.tenure.own (.closeSession id) trivial) fun _ => over_closeSession h.tenure.node⟩

theorem Admitted.begin (h : Admitted t id n later [] [] a) (running : a.task = .inl (.starting id))
    (told : a.written = Response.ok.frame) (none : a.taken.drop 8 = []) :
    ∃ handled deeds, Admitted t id n later handled deeds a.proceed := by
  cases stepped : (Connection.starting id).step a.host with
  | none =>
      rw [proceed_of_idle running stepped]
      exact ⟨_, _, h⟩
  | some result =>
      cases Connection.move_of_step stepped with
      | claim session present log =>
          obtain ⟨other, there, own⟩ := Option.map_eq_some_iff.mp h.tenure.node
          cases there.symm.trans present
          rw [proceed_eq running stepped a.stream.moved_refl, List.append_nil, List.append_nil]
          have orderly : Orderly t id n a.written (a.taken.drop 8)
              { session := id, node := session.node } := by
            refine ⟨rfl, own, rfl, fun more => ?_, ?_, ?_⟩
            · rw [none]
              rfl
            · rw [told]
              rfl
            · rw [told]
              exact List.prefix_rfl
          exact ⟨_, _, admitted_of_running rfl h.greeted (.serving _ orderly)
            (h.tenure.own (.attach id) trivial)
            ((h.standing _ running).imp_left fun up => up.attach id)⟩
      | contest e session present claimed =>
          rw [proceed_eq running stepped a.stream.moved_refl.drop, List.append_nil, List.append_nil]
          have contested : ¬Uncontested later id := by
            intro alone
            obtain ⟨other, there, free⟩ := h.tenure.unclaimed rfl alone
            cases there.symm.trans present
            exact Bool.false_ne_true (free.symm.trans claimed)
          exact ⟨_, _, admitted_of_returned rfl h.greeted (.contested e contested told none)
            h.tenure fun alone => absurd alone contested⟩

section Serving

variable {c : Channel} {written behind : List UInt8} (o : Orderly t id n written behind c)

include o

theorem Orderly.respond {answer : Option (List UInt8)} {given : List UInt8}
    (octets : c.answer.getD [] = given ++ answer.getD []) :
    Orderly t id n (written ++ given) behind { c with answer } where
  session := o.session
  node := o.node
  count := o.count
  input := o.input
  output := by
    rw [List.append_assoc, ← octets]
    exact o.output
  earlier := o.earlier.trans (List.prefix_append _ _)

theorem Orderly.take (bytes : List UInt8) :
    Orderly t id n written (behind ++ bytes) { c with received := c.received ++ bytes } where
  session := o.session
  node := o.node
  count := o.count
  input more := by
    rw [List.append_assoc, List.append_assoc]
    exact o.input (bytes ++ more)
  output := o.output
  earlier := o.earlier

/-- A channel that has no answer to write has answered all that it has processed. -/
theorem Orderly.told (answered : c.answer = none) :
    written = Response.ok.frame ++ Visit.answers c.handled.toList := by
  have told := o.output
  rwa [answered, Option.getD_none, List.append_nil] at told

theorem Orderly.process (answered : c.answer = none) {r : Request} {rest : List UInt8}
    (arrived : (Request.read t.settings.limits).arrival c.received = .frame r rest)
    (outcome : Outcome) :
    Orderly t id n written behind
      { c with
        processed := c.processed + 1
        received := rest
        answer := some (Response.ofOutcome outcome).frame
        handled := c.handled.append [(r, outcome)] } where
  session := o.session
  node := o.node
  count := by
    rw [Journal.toList_append, List.length_append, ← o.count]
    rfl
  input more := by
    have next : t.readAll (c.received ++ more) =
        (r :: (t.readAll (rest ++ more)).1, (t.readAll (rest ++ more)).2) :=
      (Request.divides t.settings.limits).readAll_frame arrived more
    rw [o.input, next, Journal.toList_append, List.map_append, List.append_assoc]
    rfl
  output := by
    rw [o.told answered, Journal.toList_append, List.append_assoc]
    simp [Visit.answers]
  earlier := by
    rw [Journal.toList_append, List.dropLast_concat]
    exact o.told answered ▸ List.prefix_rfl

/-- Where no request is left in what the channel still has, it has processed all that came. -/
theorem Orderly.last {result : Except ChannelError Unit}
    (last : t.readAll c.received = ([], result)) :
    t.readAll behind = (c.handled.toList.map Prod.fst, result) := by
  have all := o.input []
  rw [List.append_nil, List.append_nil, last, List.append_nil] at all
  exact all

theorem Orderly.handled_prefix : c.handled.toList.map Prod.fst <+: (t.readAll behind).1 := by
  have all := o.input []
  rw [List.append_nil] at all
  rw [all]
  exact List.prefix_append _ _

/-- A channel that lacks octets has processed all requests that came. -/
theorem Orderly.all_of_lacking
    (lacking : (Request.read t.settings.limits).arrival c.received = .nothing ∨
      ∃ context missing,
        (Request.read t.settings.limits).arrival c.received = .begun context missing) :
    (t.readAll behind).1 = c.handled.toList.map Prod.fst := by
  obtain nothing | ⟨context, missing, begun⟩ := lacking
  · rw [o.last ((Request.divides t.settings.limits).readAll_nothing nothing)]
  · rw [o.last ((Request.divides t.settings.limits).readAll_begun begun)]

theorem Orderly.not_up {s : Server} (down : c.isShutDown s = true) : ¬s.Up id := by
  intro up
  obtain ⟨session, present, up⟩ := up
  rw [Channel.isShutDown, o.session, present] at down
  exact absurd (up.symm.trans down) Bool.false_ne_true

/-- The reason for which a channel ends is the one for which its connection stops serving it. -/
theorem Orderly.stopped {h : Host} {ending : ChannelEnd} (why : c.Reason h ending)
    (settings : h.server.settings = t.settings) {found : List Endpoint} (among : h.stream ∈ found)
    (standing : h.server.Up id ∨ Dismissed later id) {given lost : List UInt8}
    (octets : c.answer.getD [] = given ++ lost) :
    Stopped t id (written ++ given) behind found later c.handled.toList ending := by
  have silent : c.answer = none →
      written ++ given = Response.ok.frame ++ Visit.answers c.handled.toList := by
    intro answered
    rw [answered] at octets
    rw [(List.append_eq_nil_iff.mp octets.symm).1, List.append_nil]
    exact o.told answered
  have divides := Request.divides t.settings.limits
  cases why with
  | closed answered nothing ended =>
      rw [Channel.arrival, settings] at nothing
      exact .closed h.stream among ended (o.last (divides.readAll_nothing nothing))
        (silent answered)
  | shutDown answered down =>
      exact .shutDown (standing.resolve_left (o.not_up down)) o.handled_prefix (silent answered)
  | cut context missing answered begun ended =>
      rw [Channel.arrival, settings] at begun
      exact .cut context h.stream among ended (o.last (divides.readAll_begun begun))
        (silent answered)
  | unread f context answered lacking broken =>
      rw [Channel.arrival, settings] at lacking
      have input := o.all_of_lacking (lacking.imp_right fun ⟨missing, begun⟩ =>
        ⟨context, missing, begun⟩)
      exact .unread f context h.stream among broken input (silent answered)
  | unwritten f answering broken =>
      have told := o.output
      rw [octets, ← List.append_assoc] at told
      exact .unwritten f h.stream among broken o.handled_prefix ⟨lost, told⟩
        (o.earlier.trans (List.prefix_append _ _))

end Serving

section Serve

variable {c : Channel}

theorem Admitted.orderly (h : Admitted t id n later handled deeds a)
    (running : a.task = .inl (.serving c)) :
    Orderly t id n a.written (a.taken.drop 8) c ∧ handled = c.handled.toList ∧
      deeds = Visit.deeds id c.handled.toList := by
  have conduct := h.conduct
  rw [running] at conduct
  cases conduct with
  | serving _ orderly => exact ⟨orderly, rfl, rfl⟩

theorem Admitted.finish (h : Admitted t id n later handled deeds a)
    (running : a.task = .inl (.serving c)) {ending : ChannelEnd} {written : List UInt8}
    {found : List Endpoint} (stopped : Stopped t id written (a.taken.drop 8) found later
      c.handled.toList ending) (stream : Endpoint) :
    ∃ handled deeds, Admitted t id n later handled deeds
      { a with
        host := (c.finish { a.host with stream } ending).1
        task := (c.finish { a.host with stream } ending).2.map .serving .ok
        written
        found } := by
  obtain ⟨orderly, rfl, rfl⟩ := h.orderly running
  obtain rfl := orderly.session
  obtain rfl := orderly.node
  have conduct := Conduct.served (n := c.node) _ _ stopped
  rw [← orderly.count] at conduct
  exact ⟨_, _, admitted_of_returned rfl h.greeted conduct
    (h.tenure.own (.closeSession c.session) trivial) fun _ => over_closeSession h.tenure.node⟩

theorem Admitted.digest (h : Admitted t id n later handled deeds a)
    (running : a.task = .inl (.serving c)) (answered : c.answer = none)
    {result : Host × (Channel ⊕ ChannelSummary)} (digested : c.digest a.host = some result) :
    a.stream.Moved result.1.stream [] [] ∧ ∃ handled deeds, Admitted t id n later handled deeds
      { a with host := result.1, task := result.2.map .serving .ok } := by
  obtain ⟨orderly, rfl, rfl⟩ := h.orderly running
  have standing := h.standing _ running
  rw [Channel.digest, Channel.arrival,
    show a.host.server.settings = t.settings from h.tenure.became.settings] at digested
  split at digested
  · next r rest arrived =>
    obtain ⟨p, processed, rfl⟩ := Option.map_eq_some_iff.mp digested
    obtain rfl := orderly.session
    have done : a.server.step (.process c.session r) = p.1 := by
      rw [Server.step, processed]
      rfl
    have outcome : a.server.outcome? (.process c.session r) = some p.2.outcome := by
      rw [Server.outcome?, Server.request?, Option.bind_some, processed, Option.map_some]
    have tenure := h.tenure.own (.process c.session r) trivial
    have standing := standing.imp_left fun up => up.process c.session r
    rw [done] at standing
    rw [done, outcome, ← Visit.deeds_concat _ _ (r, p.2.outcome), ← Journal.toList_append] at tenure
    exact ⟨a.stream.moved_refl, _, _, admitted_of_running rfl h.greeted
      (.serving _ (orderly.process answered arrived p.2.outcome)) tenure standing⟩
  · cases digested
    exact ⟨a.stream.moved_refl, _, _,
      admitted_of_running rfl h.greeted (.serving c orderly) h.tenure standing⟩
  · cases digested
    exact ⟨a.stream.moved_refl, _, _,
      admitted_of_running rfl h.greeted (.serving c orderly) h.tenure standing⟩
  · next e refused =>
    cases digested
    have last : t.readAll c.received = ([], .error e) := by
      have last := (Request.divides t.settings.limits).readAll_refused refused []
      rwa [List.append_nil] at last
    exact ⟨a.stream.moved_refl.finish.drop, h.finish running
      (.refused e (orderly.last last) (orderly.told answered)) a.stream⟩

theorem Admitted.serve (h : Admitted t id n later handled deeds a)
    (running : a.task = .inl (.serving c)) :
    ∃ handled deeds, Admitted t id n later handled deeds a.proceed := by
  obtain ⟨orderly, rfl, rfl⟩ := h.orderly running
  have standing := h.standing _ running
  cases stepped : (Connection.serving c).step a.host with
  | none =>
      rw [proceed_of_idle running stepped]
      exact ⟨_, _, h⟩
  | some result =>
      cases Connection.move_of_step stepped with
      | serve result served =>
          cases Channel.service_of_step served with
          | respond answer given stream answering octets moved =>
              rw [proceed_eq running stepped moved, List.append_nil]
              exact ⟨_, _, admitted_of_running rfl h.greeted
                (.serving _ (orderly.respond octets)) h.tenure standing⟩
          | digest bytes stream answered moved result digested =>
              let read : Admission :=
                { a with
                  host := { a.host with stream }
                  task := .inl (.serving { c with received := c.received ++ bytes })
                  taken := a.taken ++ bytes
                  found := a.found ++ [a.stream] }
              have orderly := orderly.take bytes
              rw [← drop_append_of_greeted h.greeted] at orderly
              have admitted : Admitted t id n later c.handled.toList
                  (Visit.deeds id c.handled.toList) read :=
                admitted_of_running rfl (h.greeted.trans (List.prefix_append _ _))
                  (.serving _ orderly) h.tenure standing
              obtain ⟨left, admitted⟩ := admitted.digest rfl answered digested
              rw [proceed_eq running stepped (moved.trans left), List.append_nil, List.append_nil,
                List.append_nil]
              exact admitted
          | finish ending given lost stream why octets moved =>
              rw [proceed_eq running stepped moved.finish.drop, List.append_nil]
              exact h.finish running
                (orderly.stopped why h.tenure.became.settings a.mem_found standing octets) stream

end Serve

theorem Admitted.proceed (h : Admitted t id n later handled deeds a) :
    ∃ handled deeds, Admitted t id n later handled deeds a.proceed := by
  have conduct := h.conduct
  generalize running : a.task = task at conduct
  cases conduct with
  | welcoming told none => exact h.confirm running told none
  | starting told none => exact h.begin running told none
  | serving c orderly => exact h.serve running
  | unwelcome _ _ _ _ _ _ | contested _ _ _ _ | served _ _ _ =>
      rw [proceed_of_returned running]
      exact ⟨_, _, h⟩

theorem Stopped.mono {written behind : List UInt8} {found : List Endpoint} {ending : ChannelEnd}
    (h : Stopped t id written behind found later handled ending)
    {more : List (Server × Operation)} (le : later ⊆ more) :
    Stopped t id written behind found more handled ending := by
  cases h with
  | closed stream among ended input output => exact .closed stream among ended input output
  | cut context stream among ended input output =>
      exact .cut context stream among ended input output
  | refused e input output => exact .refused e input output
  | unread f context stream among broken input output =>
      exact .unread f context stream among broken input output
  | shutDown dismissed input output => exact .shutDown (dismissed.mono le) input output
  | unwritten f stream among broken input output earlier =>
      exact .unwritten f stream among broken input output earlier

theorem Conduct.mono {written behind : List UInt8} {found : List Endpoint}
    {task : Connection ⊕ ConnectionResult}
    (h : Conduct t id n written behind found later task handled deeds)
    {more : List (Server × Operation)} (le : later ⊆ more) :
    Conduct t id n written behind found more task handled deeds := by
  cases h with
  | welcoming told none => exact .welcoming told none
  | unwelcome f stream among broken told none => exact .unwelcome f stream among broken told none
  | starting told none => exact .starting told none
  | contested e claimed told none =>
      exact .contested e (fun alone => claimed (alone.mono le)) told none
  | serving c orderly => exact .serving c orderly
  | served handled ending stopped => exact .served handled ending (stopped.mono le)

theorem Admitted.other (h : Admitted t id n later handled deeds a) (op : Operation) :
    Admitted t id n (later ++ [(a.server, op)]) handled deeds (a.step (.other op)) where
  greeted := h.greeted
  conduct := h.conduct.mono (List.subset_append_left ..)
  tenure := h.tenure.other op
  standing c running := up_or_dismissed_step (h.standing c running) op
  ended result returned alone :=
    over_step (h.ended result returned (alone.mono (List.subset_append_left ..))) op

end Admitted

end Admission

end CacheCoherence
