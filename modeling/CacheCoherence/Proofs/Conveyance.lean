import CacheCoherence.Proofs.Dialogue
import CacheCoherence.Proofs.QueueTranscript

/-!
What a channel makes of the requests of a queue, whatever the limits on either
side. Frames can be told apart from what stands before them, so the requests that
the channel has processed are the first ones that the queue has sent. It may
refuse the next one and end; the queue may have begun frames that never come.
-/

namespace CacheCoherence

open CacheCoherence.Frame.Reader

/-- The limits that no frame can go beyond. -/
def Limits.widest : Limits :=
  ⟨Settings.maxLength, Settings.maxLength, Settings.maxLength⟩

namespace Request

theorem Within.widest {limits : Limits} {r : Request} (h : r.Within limits) :
    r.Within .widest := by
  have fits : ∀ {limit n}, Frame.Reader.Fits limit n → Frame.Reader.Fits Settings.maxLength n :=
    fun f => ⟨f.2, f.2⟩
  cases r with
  | commit b =>
      obtain ⟨objects, bindings, values, names⟩ := h
      exact ⟨fits objects, fits bindings,
        fun w among bytes some => fits (values w among bytes some),
        fun w among => fits (names w among)⟩
  | evictObject _ | downgradeObject _ => trivial
  | evictBinding _ | downgradeBinding _ => exact fun s some => fits (h s some)

/-- Requests whose frames are the first octets of the frames of others are the first of these. -/
theorem prefix_of_frames {limits : Limits} {first all : List Request} {rest : List UInt8}
    (hf : ∀ r ∈ first, r.Within limits) (ha : ∀ r ∈ all, r.Within limits)
    (octets : all.flatMap frame = first.flatMap frame ++ rest) : first <+: all := by
  induction first generalizing all with
  | nil => exact List.nil_prefix
  | cons r first ih =>
      obtain ⟨here, later⟩ := List.forall_mem_cons.mp hf
      cases all with
      | nil => cases octets
      | cons s all =>
          obtain ⟨here', later'⟩ := List.forall_mem_cons.mp ha
          rw [List.flatMap_cons, List.flatMap_cons, List.append_assoc] at octets
          have read := (attempt_read_eq_some_iff limits _ (all.flatMap frame) s).mpr ⟨rfl, here'⟩
          rw [octets, (attempt_read_eq_some_iff limits _ _ r).mpr ⟨rfl, here⟩] at read
          simp only [Prod.mk.injEq, Except.ok.injEq, Option.some.injEq] at read
          exact List.cons_prefix_cons.mpr ⟨read.1, ih later later' read.2.symm⟩

end Request

namespace UpdateQueue

/-- The node of a queue and the limits of its requests. -/
def terms (q : UpdateQueue) : NodeId × Limits :=
  (q.node, q.limits)

theorem keeps_terms (terms : NodeId × Limits) : Keeps fun _ q => q.terms = terms where
  accept _ _ h _ := h
  refuse _ _ _ h _ := h
  complete _ _ h _ := h
  close _ h _ := h
  report _ h := h
  record _ h := h
  release h := h

theorem SendStep.terms {q q' : UpdateQueue} (step : SendStep q q') : q'.terms = q.terms := by
  have keeps := keeps_terms q.terms
  cases step with
  | launch _ _ _ _ _ _ _ | write _ _ => rfl
  | leave e failed =>
      refine keeps.leave (l := []) [] rfl fun live => ?_
      exact absurd (live.symm.trans failed) nofun
  | drain released live rest =>
      exact keeps.leave (q := { q with draining := true }) (l := []) [] rfl fun _ => rest
  | fail f buffered =>
      have failed := keeps.fail [] q (f.toError "frame") rfl
      refine keeps.leave (l := []) buffered failed fun live => ?_
      rw [failure_fail] at live
      cases live
  | stop fault left => cases fault <;> rfl

theorem ReceiveStep.terms {q q' : UpdateQueue} (step : ReceiveStep q q') :
    q'.terms = q.terms := by
  have keeps := keeps_terms q.terms
  cases step with
  | wait receiving => rfl
  | fail e outer => exact keeps.fail [] q e rfl
  | answer f inFlight r rest live oldest =>
      refine keeps.deliver (l := []) f r.toOutcome rfl fun e failed => ?_
      exact absurd (live.symm.trans failed) nofun

end UpdateQueue

namespace Exchange

open UpdateQueue

theorem terms_step (x : Exchange) (a : Action) : (x.step a).queue.terms = x.queue.terms :=
  step_keeps (keeps_terms x.queue.terms) (fun same step => step.terms.trans same)
    (fun same step => step.terms.trans same) a rfl

/-- What the queue itself does takes octets off the stream in front and puts octets behind. -/
theorem moved_step {x : Exchange} (tidy : x.queue.sending.Tidy) {a : Action}
    (own : ∀ stream, a ≠ .peer stream) :
    ∃ taken given, x.stream.Moved (x.step a).stream taken given := by
  have still := x.stream.moved_refl
  have called : ∀ c, a.callback? = some c →
      ∃ taken given, x.stream.Moved (x.step a).stream taken given := by
    intro c callback
    obtain ⟨log, eq⟩ := exists_step_eq callback x
    rw [eq]
    exact ⟨[], [], still⟩
  cases a with
  | enqueue _ _ | submit _ _ | evict _ _ | downgrade _ _ | shutdown | release =>
      exact called _ rfl
  | peer stream => exact absurd rfl (own stream)
  | send =>
      rw [step, advance]
      cases sent : x.queue.send x.stream with
      | none => exact ⟨[], [], still⟩
      | some result =>
          obtain ⟨-, given, -, -, moved⟩ := (transmission_of_send tidy sent).sends
          exact ⟨[], given, moved⟩
  | receive =>
      rw [step, advance]
      cases received : x.queue.receive x.stream with
      | none => exact ⟨[], [], still⟩
      | some result =>
          obtain ⟨q, stream⟩ := result
          cases reception_of_receive received with
          | stop _ _ | fail _ _ _ _ _ => exact ⟨[], [], still⟩
          | digest received bytes stream running live moved => exact ⟨bytes, [], moved⟩

end Exchange

namespace Dialogue

/-- What the channel has processed is written in front of the octets that the queue has written, and
until it has ended the channel has the others before it. -/
structure Conveyed (d : Dialogue) : Prop where
  framed : d.queue.limits.Framed
  written : ∃ written taken left, d.queue.Faithful written taken ∧
    written = (d.handled.map Prod.fst).flatMap Request.frame ++ left ∧
    (d.ended = none → left = d.channel.received ++ d.upstream)
  within : ∀ p ∈ d.handled, p.1.Within .widest

variable {d : Dialogue}

theorem Conveyed.handled_prefix (h : d.Conveyed) :
    d.handled.map Prod.fst <+: d.queue.sent.map Submission.request := by
  obtain ⟨written, taken, left, faithful, octets, -⟩ := h.written
  obtain ⟨unsent, frames, -⟩ := faithful.sent
  have sent : ∀ r ∈ d.queue.sent.map Submission.request, r.Within .widest := by
    intro r among
    obtain ⟨s, here, rfl⟩ := List.mem_map.mp among
    have checked := faithful.ordered.checked s (faithful.ordered.sent.subset here)
    exact ((Request.check_eq_ok_iff h.framed s.request).mp checked).widest
  have octets : (d.queue.sent.map Submission.request).flatMap Request.frame =
      (d.handled.map Prod.fst).flatMap Request.frame ++
        (left ++ (d.queue.sending.pending ++ unsent)) := by
    rw [List.flatMap_map, frames, octets, List.append_assoc]
  exact Request.prefix_of_frames (List.forall_mem_map.mpr h.within) sent octets

/-- As at the start, with limits of its own for the queue. -/
def startWith (s : Server) (n : NodeId) (id : SessionId) (limits : Limits) : Dialogue :=
  { start s n id with queue := { node := n, limits } }

theorem conveyed_startWith (s : Server) (n : NodeId) (id : SessionId) {limits : Limits}
    (framed : limits.Framed) : (startWith s n id limits).Conveyed where
  framed := framed
  written := ⟨[], [], [], UpdateQueue.faithful_new n limits, rfl, fun _ => rfl⟩
  within _ among := absurd among List.not_mem_nil

/-- The queue makes its own steps on its own end of the stream. -/
theorem step_node (d : Dialogue) {a : Exchange.Action} (own : ∀ stream, a ≠ .peer stream) :
    let x := Exchange.step ⟨d.queue, d.nodeEnd⟩ a
    d.step (.node a) = { d with queue := x.queue, nodeEnd := x.stream } := by
  cases a with
  | peer stream => exact absurd rfl (own stream)
  | _ => rfl

theorem Conveyed.node (h : d.Conveyed) (a : Exchange.Action) : (d.step (.node a)).Conveyed := by
  by_cases own : ∀ stream, a ≠ .peer stream
  · let x := Exchange.step ⟨d.queue, d.nodeEnd⟩ a
    obtain ⟨written, taken, left, faithful, octets, front⟩ := h.written
    have next := Exchange.faithful_step (x := ⟨d.queue, d.nodeEnd⟩) faithful own
    obtain ⟨got, given, moved⟩ := Exchange.moved_step (x := ⟨d.queue, d.nodeEnd⟩) faithful.tidy own
    rw [moved.given_eq, moved.taken_eq] at next
    have limits : x.queue.limits = d.queue.limits := congrArg Prod.snd (Exchange.terms_step _ a)
    rw [d.step_node own]
    refine ⟨limits ▸ h.framed, ⟨_, _, left ++ given, next, ?_, fun running => ?_⟩, h.within⟩
    · rw [octets, List.append_assoc]
      rfl
    · rw [front running, upstream, upstream, show x.stream.outgoing.octets = _ from moved.outgoing]
      simp only [List.append_assoc]
  · obtain ⟨stream, rfl⟩ := not_forall_not.mp own
    exact h

/-- A change of the queue that leaves alone what it passes on. -/
theorem Conveyed.of_queue (h : d.Conveyed) {q : UpdateQueue} {s : Server}
    (limits : q.limits = d.queue.limits)
    (faithful : ∀ written taken, d.queue.Faithful written taken → q.Faithful written taken) :
    Conveyed { d with queue := q, server := s } := by
  obtain ⟨written, taken, left, now, octets, front⟩ := h.written
  exact ⟨limits ▸ h.framed, ⟨written, taken, left, faithful _ _ now, octets, front⟩, h.within⟩

section Serve

/-- The channel has taken octets off the stream or has written some, and has processed nothing. -/
theorem Conveyed.move (h : d.Conveyed) {bytes given : List UInt8} {stream : Endpoint}
    (moved : d.serverEnd.Moved stream bytes given) (answer : Option (List UInt8)) :
    Conveyed
      { d with
        serverEnd := stream
        channel := { d.channel with received := d.channel.received ++ bytes, answer } } := by
  obtain ⟨written, taken, left, faithful, octets, front⟩ := h.written
  refine ⟨h.framed, ⟨written, taken, left, faithful, octets, fun running => ?_⟩, h.within⟩
  rw [front running, upstream, upstream, moved.incoming]
  simp only [List.append_assoc]

theorem Conveyed.process (h : d.Conveyed) {r : Request} {rest : List UInt8}
    (arrived : d.channel.arrival d.server = .frame r rest) (running : d.ended = none)
    (server : Server) (outcome : Outcome) :
    Conveyed { d with server, channel := d.channel.handle r outcome rest } := by
  obtain ⟨received, within⟩ := (Request.arrival_eq_frame_iff ..).mp arrived
  obtain ⟨written, taken, left, faithful, octets, front⟩ := h.written
  have handled : handled { d with server, channel := d.channel.handle r outcome rest } =
      d.handled ++ [(r, outcome)] := Channel.handled_handle ..
  refine ⟨h.framed, ⟨written, taken, rest ++ d.upstream, faithful, ?_, fun _ => rfl⟩, ?_⟩
  · rw [handled, octets, front running, received]
    simp
  · rw [handled, List.forall_mem_append]
    exact ⟨h.within, List.forall_mem_singleton.mpr within.widest⟩

/-- The service ends, whatever it has read. -/
theorem Conveyed.finish (h : d.Conveyed) (server : Server) (stream : Endpoint)
    (summary : ChannelSummary) :
    Conveyed { d with server, serverEnd := stream, ended := some summary } := by
  obtain ⟨written, taken, left, faithful, octets, -⟩ := h.written
  exact ⟨h.framed, ⟨written, taken, left, faithful, octets, nofun⟩, h.within⟩

theorem Conveyed.serve (h : d.Conveyed) : d.serve.Conveyed := by
  rw [Dialogue.serve]
  split
  · exact h
  · next unended =>
    have running : d.ended = none := by simpa using unended
    cases step : d.channel.step { server := d.server, stream := d.serverEnd } with
    | none => exact h
    | some result =>
        cases Channel.service_of_step step with
        | respond answer given stream answering octets moved =>
            have responded := h.move moved answer
            rwa [List.append_nil] at responded
        | finish ending given lost stream why octets moved => exact h.finish _ _ _
        | digest bytes stream answered moved result digested =>
            have took := h.move moved d.channel.answer
            rw [Channel.digest] at digested
            split at digested
            · next r rest arrived =>
              obtain ⟨p, -, rfl⟩ := Option.map_eq_some_iff.mp digested
              exact took.process arrived running p.1 p.2.outcome
            · cases digested
              exact took
            · cases digested
              exact took
            · cases digested
              exact h.finish _ _ _

end Serve

theorem Conveyed.step (h : d.Conveyed) (a : Action) : (d.step a).Conveyed := by
  cases a with
  | node a => exact h.node a
  | serve => exact h.serve
  | server op => exact h.of_queue (s := d.server.step op) rfl fun _ _ same => same
  | carry nodeEnd serverEnd =>
      rw [Dialogue.step]
      split
      · next same =>
        obtain ⟨written, taken, left, faithful, octets, front⟩ := h.written
        refine ⟨h.framed, ⟨written, taken, left, faithful, octets, fun running => ?_⟩, h.within⟩
        rw [same.1]
        exact front running
      · exact h

end Dialogue

end CacheCoherence
