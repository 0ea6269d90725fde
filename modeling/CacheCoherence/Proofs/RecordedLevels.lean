import CacheCoherence.Proofs.Conveyance
import CacheCoherence.Proofs.ReleasesUnderway
import CacheCoherence.Proofs.SparedLevels

/-!
A node's own record against the directory. The record is the node's, and is
changed when a grant comes and when a release is handed in; the directory is the
server's, and is changed when the grant is given and when the release is
processed. As long as the session of the node is live the record claims no more
than the directory grants, however many releases are on their way.
-/

namespace CacheCoherence

open Access

namespace Dialogue

/-- Something that happens to a queue and its server, grants to the node of the queue included. -/
inductive Deed where
  | act (a : Action)
  /-- The node asks the directory for a key, and records what it is given. -/
  | grant (k : Key) (level : Level)

def grant (d : Dialogue) (k : Key) (level : Level) : Dialogue :=
  match d.server.directory.grant k d.queue.node level with
  | .ok directory =>
      { d with
        server := { d.server with directory }
        queue := { d.queue with holdings := d.queue.holdings.granted k level } }
  | .error _ => d

def perform (d : Dialogue) : Deed → Dialogue
  | .act a => d.step a
  | .grant k level => d.grant k level

def afterAll (d : Dialogue) (run : List Deed) : Dialogue :=
  run.foldl perform d

/-- Whether no release of the key has been handed in that is still to be processed. -/
def isFree (d : Dialogue) (k : Key) : Bool :=
  (d.queue.underway d.handled.length).all fun r => r.change?.all (·.1 ≠ k)

/-- The node gives up keys only by the calls of its queue that are for it, is left alone by whatever
else is done to the server, and asks for no key of which a release is still to be processed. -/
def permits (d : Dialogue) : Deed → Bool
  | .act (.node a) => a.callback?.all (·.keepsTo .plain)
  | .act (.server op) => op.spares d.server d.queue.node
  | .act .serve | .act (.carry _ _) => true
  | .grant k _ => d.isFree k

def isOrderly (d : Dialogue) : List Deed → Bool
  | [] => true
  | a :: run => d.permits a && (d.perform a).isOrderly run

/-- The directory backs what the record says, and what it says has room for the releases that are
still to be processed. -/
structure Covered (id : SessionId) (n : NodeId) (d : Dialogue) : Prop where
  conveyed : d.Conveyed
  node : d.queue.node = n
  session : d.channel.session = id
  modest : d.queue.Modest d.queue.holdings.level? d.handled.length
  backed : Server.Backed id n d.queue.holdings.level? d.server.registry d.server.directory

variable {id : SessionId} {n : NodeId} {d : Dialogue}

theorem covered_startWith {s : Server} (reachable : s.Reachable) (own : s.nodeOf id = some n)
    {limits : Limits} (framed : limits.Framed) : (startWith s n id limits).Covered id n where
  conveyed := conveyed_startWith s n id framed
  node := rfl
  session := rfl
  modest := UpdateQueue.modest_new _ n limits
  backed :=
    (Server.backed_of_reachable reachable own).mono (UpdateQueue.modest_new _ n limits).within

theorem Covered.node_step (h : d.Covered id n) {a : Exchange.Action}
    (plain : ∀ c ∈ a.callback?, c.keepsTo .plain = true) : (d.step (.node a)).Covered id n := by
  by_cases own : ∀ stream, a ≠ .peer stream
  · let x := Exchange.step ⟨d.queue, d.nodeEnd⟩ a
    have conveyed := h.conveyed.step (.node a)
    have modest : x.queue.Modest d.queue.holdings.level? d.handled.length :=
      Exchange.modest_step (x := ⟨d.queue, d.nodeEnd⟩) h.modest plain
    have node : x.queue.node = d.queue.node := congrArg Prod.fst (Exchange.terms_step _ a)
    rw [d.step_node own] at conveyed ⊢
    exact ⟨conveyed, node.trans h.node, h.session, modest.self, h.backed.mono modest.within⟩
  · obtain ⟨stream, rfl⟩ := not_forall_not.mp own
    exact h

/-- The channel has processed a request, which was underway until then. -/
theorem Covered.process (h : d.Covered id n) {r : Request} {p : Server × Processed}
    (processed : d.server.process d.channel.session r = some p) {next : Dialogue}
    (conveyed : next.Conveyed) (queue : next.queue = d.queue) (server : next.server = p.1)
    (session : next.channel.session = d.channel.session)
    (handled : next.handled = d.handled ++ [(r, p.2.outcome)]) : next.Covered id n := by
  have first : (d.queue.sent.map Submission.request)[d.handled.length]? = some r := by
    obtain ⟨later, sent⟩ := conveyed.handled_prefix
    rw [handled, queue] at sent
    rw [← sent]
    simp
  obtain ⟨modest, released⟩ := h.modest.process first
  have stepped : d.server.step (.process id r) = next.server := by
    rw [← h.session, Server.step, processed, server]
    rfl
  have request : d.server.request? (.process id r) = some (id, r) := rfl
  have backed := h.backed.request request fun _ => released
  rw [stepped] at backed
  refine ⟨conveyed, queue ▸ h.node, session.trans h.session, ?_, queue ▸ backed⟩
  rw [handled, queue, List.length_append]
  exact modest

theorem Covered.serve (h : d.Covered id n) : d.serve.Covered id n := by
  have conveyed := h.conveyed.serve
  rw [Dialogue.serve] at conveyed ⊢
  by_cases ended : d.ended.isSome = true
  · rw [if_pos ended]
    exact h
  · rw [if_neg ended] at conveyed ⊢
    have closed : Server.Backed id n d.queue.holdings.level?
        (d.server.closeSession d.channel.session).1.registry
        (d.server.closeSession d.channel.session).1.directory :=
      h.backed.step (show Server.Operation.spares _ _ (.closeSession d.channel.session) from rfl)
    cases step : d.channel.step { server := d.server, stream := d.serverEnd } with
    | none => exact h
    | some result =>
        rw [step] at conveyed
        cases Channel.service_of_step step with
        | respond answer given stream answering octets moved =>
            exact ⟨conveyed, h.node, h.session, h.modest, h.backed⟩
        | finish ending given lost stream why octets moved =>
            exact ⟨conveyed, h.node, h.session, h.modest, closed⟩
        | digest bytes stream answered moved result digested =>
            rw [Channel.digest] at digested
            split at digested
            · next r rest arrived =>
              obtain ⟨p, processed, rfl⟩ := Option.map_eq_some_iff.mp digested
              exact h.process processed conveyed rfl rfl rfl (Channel.handled_handle ..)
            · cases digested
              exact ⟨conveyed, h.node, h.session, h.modest, h.backed⟩
            · cases digested
              exact ⟨conveyed, h.node, h.session, h.modest, h.backed⟩
            · cases digested
              exact ⟨conveyed, h.node, h.session, h.modest, closed⟩

theorem Covered.grant (h : d.Covered id n) {k : Key} (free : d.isFree k = true) (level : Level) :
    (d.grant k level).Covered id n := by
  rw [Dialogue.grant, h.node]
  cases given : d.server.directory.grant k n level with
  | error e => exact h
  | ok directory =>
      have unreleased : ∀ r ∈ d.queue.underway d.handled.length, ∀ c, r.change? ≠ some (k, c) := by
        intro r among c change
        have other := List.all_eq_true.mp free r among
        simp [change] at other
      have modest := h.modest.grant unreleased level
      refine ⟨?_, h.node, h.session, modest.self, (h.backed.grant given).mono modest.within⟩
      refine h.conveyed.of_queue rfl fun _ _ faithful => ?_
      have ordered := faithful.ordered
      exact faithful.of_queue ⟨ordered.checked, ordered.sent, ordered.waiting, ordered.answered,
        ordered.flying⟩ rfl rfl rfl fun live => ⟨live, rfl⟩

theorem Covered.perform (h : d.Covered id n) {a : Deed} (permitted : d.permits a = true) :
    (d.perform a).Covered id n := by
  cases a with
  | grant k level => exact h.grant permitted level
  | act a =>
      cases a with
      | node a => exact h.node_step ((Option.all_eq_true ..).mp permitted)
      | serve => exact h.serve
      | server op =>
          have conveyed := h.conveyed.step (.server op)
          exact ⟨conveyed, h.node, h.session, h.modest, h.backed.step (h.node ▸ permitted)⟩
      | carry nodeEnd serverEnd =>
          have conveyed := h.conveyed.step (.carry nodeEnd serverEnd)
          rw [Dialogue.perform, Dialogue.step] at *
          split
          · next same =>
            rw [if_pos same] at conveyed
            exact ⟨conveyed, h.node, h.session, h.modest, h.backed⟩
          · exact h

theorem Covered.afterAll (h : d.Covered id n) {run : List Deed} (orderly : d.isOrderly run = true) :
    (d.afterAll run).Covered id n := by
  induction run generalizing d with
  | nil => exact h
  | cons a run ih =>
      obtain ⟨permitted, later⟩ := Bool.and_eq_true_iff.mp orderly
      exact ih (h.perform permitted) later

/-- While the session of the node is live, it writes in the directory whatever it writes by its own
record, and holds whatever it reads by it. -/
theorem recorded_levels_held {s : Server} (reachable : s.Reachable) {n : NodeId} {id : SessionId}
    (own : s.nodeOf id = some n) {limits : Limits} (framed : limits.Framed) (run : List Deed)
    (orderly : (startWith s n id limits).isOrderly run = true) :
    let d := (startWith s n id limits).afterAll run
    d.server.registry.isLive id = true → ∀ k,
      (d.queue.holdings.level? k = some .write → d.server.directory.state k = .exclusive n) ∧
      (d.queue.holdings.level? k = some .read → (d.server.directory.state k).holds n = true) := by
  intro d live k
  have covered : d.Covered id n := (covered_startWith reachable own framed).afterAll orderly
  have backed := covered.backed.backed live k
  refine ⟨fun writes => ?_, fun reads => ?_⟩
  · rw [writes] at backed
    exact State.eq_exclusive_of_levelOf (eq_write_of_strength backed)
  · rw [reads] at backed
    rw [State.holds_iff]
    intro none
    rw [none] at backed
    exact absurd backed (by decide)

/-- Two nodes are registered, and the first one has a channel. -/
def attended : Server :=
  Server.after ⟨{ shards := 1, feedCapacity := 1 }, .new Key.place 1, {}, {}, .new 1⟩
    [.register 1, .register 2, .attach 0]

/-- Node 1 writes three objects. It hands in two releases of the first and one of the second, and
all of them are sent. When the first release has been processed, node 2 comes to read the object. -/
def releasing : List Deed :=
  let frames := [Request.downgradeObject 10, .evictObject 10, .downgradeObject 12].flatMap
    Request.frame
  [.grant (.object 10) .write, .grant (.object 12) .write, .grant (.object 13) .write,
    .act (.carry (roomy [] []) (roomy [] [])),
    .act (.node (.downgrade (.object 10) .ignore)), .act (.node (.evict (.object 10) .ignore)),
    .act (.node (.downgrade (.object 12) .ignore))] ++
  List.replicate 6 (.act (.node .send)) ++
  [.act (.carry (roomy [] []) (roomy frames [])), .act .serve,
    .act (.server (.directory (.grant (.object 10) 2 .read)))]

theorem recorded_levels_held_releasing :
    let first := startWith attended 1 0 attended.settings.limits
    let d := first.afterAll releasing
    first.isOrderly releasing = true ∧ d.handled.length = 1 ∧ d.queue.sent.length = 3 ∧
      (d.server.directory.state (.object 10)).levelOf 1 = some .read ∧
      (d.server.directory.state (.object 10)).levelOf 2 = some .read ∧
      d.queue.holdings.level? (.object 10) = none ∧
      (d.server.directory.state (.object 12)).holds 1 = true ∧
      d.server.directory.state (.object 13) = .exclusive 1 := by
  intro first d
  have reachable : attended.Reachable :=
    ⟨_, _, ⟨{ shards := 1, feedCapacity := 1 }, Key.place, _, rfl, rfl⟩, rfl⟩
  have framed : attended.settings.limits.Framed := ⟨by decide, by decide, by decide⟩
  have orderly : first.isOrderly releasing = true := by decide +kernel
  have own : attended.nodeOf 0 = some 1 := rfl
  have held := recorded_levels_held reachable own framed releasing orderly
    (by decide +kernel)
  exact ⟨orderly, by decide +kernel, by decide +kernel, by decide +kernel, by decide +kernel,
    by decide +kernel, (held (.object 12)).2 (by decide +kernel),
    (held (.object 13)).1 (by decide +kernel)⟩

end Dialogue

end CacheCoherence
