import CacheCoherence.Proofs.ServerRegistry

/-!
What a server tells of the requests that it has processed: in the counters of
their sessions, in their sequence numbers, and in its feed. All of these agree
with the requests themselves, in the order in which they were applied; what comes
to no request leaves none of them changed.
-/

namespace CacheCoherence

namespace Applied.Status

def isFault : Status → Bool
  | .fault _ => true
  | _ => false

def isRejected : Status → Bool
  | .rejected _ => true
  | _ => false

end Applied.Status

/-- The counters of a session. -/
structure Tally where
  processed : Nat
  faults : Nat
  rejected : Nat

namespace Tally

def zero : Tally := ⟨0, 0, 0⟩

def count (t : Tally) : Applied.Status → Tally
  | .applied => { t with processed := t.processed + 1 }
  | .fault _ => { t with processed := t.processed + 1, faults := t.faults + 1 }
  | .rejected _ => { t with processed := t.processed + 1, rejected := t.rejected + 1 }

/-- What the counters have to be after these events. -/
def of (events : List Applied) : Tally where
  processed := events.length
  faults := (events.filter (·.status.isFault)).length
  rejected := (events.filter (·.status.isRejected)).length

theorem of_concat (events : List Applied) (e : Applied) :
    of (events ++ [e]) = (of events).count e.status := by
  cases told : e.status <;>
    simp [of, count, told, Applied.Status.isFault, Applied.Status.isRejected]

end Tally

def Session.tally (s : Session) : Tally :=
  ⟨s.processed, s.faults, s.rejected⟩

/-- The counters tell the outcomes apart as the feed does. -/
theorem Server.tally_countOutcome (outcome : Outcome) (s : Session) :
    (countOutcome outcome s).tally = s.tally.count (.ofOutcome outcome) := by
  cases outcome with
  | ok => rfl
  | error e => cases e <;> rfl

namespace Registry

/-- The counters of a session; those of one that is not there are at zero. -/
def tally (r : Registry) (id : SessionId) : Tally :=
  ((r.session? id).map Session.tally).getD .zero

theorem tally_modify (r : Registry) (id : SessionId) {f : Session → Session}
    (same : ∀ s, (f s).tally = s.tally) (j : SessionId) : (r.modify id f).tally j = r.tally j := by
  rw [tally, session?_modify, tally]
  split
  · cases r.session? j with
    | none => rfl
    | some s => exact same s
  · rfl

theorem tally_enrol (r : Registry) (n : NodeId) (j : SessionId) :
    (r.enrol n).tally j = r.tally j := by
  rw [tally, session?_enrol, tally]
  split
  · next new =>
    have unknown : r.session? j = none := List.getElem?_eq_none (Nat.le_of_eq new.symm)
    rw [unknown]
    rfl
  · rfl

theorem tally_shutDown (r : Registry) (id j : SessionId) : (r.shutDown id).tally j = r.tally j :=
  r.tally_modify (f := fun s => { s with shutDown := true }) id (fun _ => rfl) j

variable {σ α : Type}

theorem tally_endSession (r : Registry) (n : NodeId) (id : SessionId) (release : Release σ) (s : σ)
    (j : SessionId) : (r.endSession n id release s).1.tally j = r.tally j :=
  r.tally_shutDown id j

theorem tally_endAll (release : Release σ) (acc : List SessionId × Registry × σ)
    (entries : List (NodeId × SessionId)) (j : SessionId) :
    (endAll release acc entries).2.1.tally j = acc.2.1.tally j := by
  induction entries generalizing acc with
  | nil => rfl
  | cons e entries ih => exact (ih _).trans (tally_endSession ..)

/-- Who comes and goes does not touch the counters. -/
theorem tally_step (perform : α → Release σ) (x : Registry × σ) (op : Operation α)
    (j : SessionId) : (step perform x op).1.tally j = x.1.tally j := by
  cases op with
  | register n =>
      rw [step, register_eq]
      cases x.1.live.get? n with
      | none => exact tally_enrol ..
      | some id => rfl
  | unregister n act =>
      rw [step, unregister]
      cases x.1.live.get? n with
      | none => rfl
      | some id => exact tally_endSession ..
  | close id act =>
      rw [step, close]
      cases x.1.session? id with
      | none => rfl
      | some session =>
          dsimp only
          split
          · exact tally_endSession ..
          · exact tally_shutDown ..
  | unregisterAll act => exact tally_endAll ..
  | signal id => exact tally_shutDown ..

end Registry

/-- A request that has been processed, for a session, and what came of it. -/
structure Record where
  session : SessionId
  request : Request
  done : Processed

/-- The event names the session, the kind and the keys of the request, and how it ended. -/
structure Record.Told (e : Record) : Prop where
  session : e.done.event.session = e.session
  kind : e.done.event.kind = e.request.kind
  keys : e.done.event.keys = e.request.keys
  status : e.done.event.status = .ofOutcome e.done.outcome

namespace Server

/-- The request that an operation has processed, if it comes to that. -/
def record? (s : Server) (op : Operation) : Option Record :=
  (s.request? op).bind fun p => (s.process p.1 p.2).map fun done => ⟨p.1, p.2, done.2⟩

theorem record?_process {s : Server} {id : SessionId} {r : Request} {p : Server × Processed}
    (processed : s.process id r = some p) : s.record? (.process id r) = some ⟨id, r, p.2⟩ := by
  rw [record?, request?, Option.bind_some, processed]
  rfl

/-- An operation that has processed a request, and what there was before and what is there then. -/
structure Processing (s : Server) (op : Operation) (e : Record) (session : Session) : Prop where
  present : s.registry.session? e.session = some session
  outcome : e.done.outcome = (s.apply session.node e.request).1
  event : e.done.event = eventOf e.session session e.request e.done.outcome
  receivers : e.done.receivers = s.feed.receivers
  registry : (s.step op).registry = s.registry.modify e.session (countOutcome e.done.outcome)
  feed : (s.step op).feed = s.feed.publish e.done.event

theorem processing_of_record? {s : Server} {op : Operation} {e : Record}
    (h : s.record? op = some e) : ∃ session, s.Processing op e session := by
  obtain ⟨⟨id, r⟩, request, recorded⟩ := Option.bind_eq_some_iff.mp h
  obtain ⟨done, processed, rfl⟩ := Option.map_eq_some_iff.mp recorded
  have stepped := step_of_request? request
  rw [show s.process id r = some done from processed] at stepped
  rw [process_eq] at processed
  obtain ⟨session, present, rfl⟩ := Option.map_eq_some_iff.mp processed
  have frame := s.frame_apply session.node r
  refine ⟨session, present, rfl, rfl, rfl, ?_, ?_⟩
  · simp only [stepped, Option.map_some, Option.getD_some, frame.2.1]
  · simp only [stepped, Option.map_some, Option.getD_some, frame.2.2]

theorem Processing.told {s : Server} {op : Operation} {e : Record} {session : Session}
    (h : s.Processing op e session) : e.Told := by
  constructor <;> rw [h.event] <;> rfl

theorem sent_drain (f : Feed) (reader : Nat) :
    (((f.drain? reader).map Prod.fst).getD f).sent = f.sent := by
  rw [Feed.drain?]
  split <;> rfl

/-- An operation that has processed no request leaves the counters and the events as they were. -/
theorem unchanged_of_record?_eq_none {s : Server} {op : Operation} (h : s.record? op = none) :
    (∀ id, (s.step op).registry.tally id = s.registry.tally id) ∧
      (s.step op).feed.sent = s.feed.sent := by
  cases request : s.request? op with
  | some p =>
      rw [record?, request, Option.bind_some, Option.map_eq_none_iff] at h
      rw [step_of_request? request, h]
      exact ⟨fun _ => rfl, rfl⟩
  | none =>
      cases op with
      | process id r => cases request
      | call n r =>
          rw [step_call_of_request?_eq_none request]
          exact ⟨fun _ => rfl, rfl⟩
      | callArrays n a =>
          rw [step_callArrays_of_request?_eq_none request]
          exact ⟨fun _ => rfl, rfl⟩
      | register _ | unregister _ | closeSession _ | shutdown | signal _ =>
          rw [step_of_registration? s rfl]
          exact ⟨fun id => Registry.tally_step _ (s.registry, s.directory, []) _ id, rfl⟩
      | attach id =>
          rw [step]
          cases claimed : s.registry.attach? id with
          | none => exact ⟨fun _ => rfl, rfl⟩
          | some result =>
              cases result with
              | error e => exact ⟨fun _ => rfl, rfl⟩
              | ok registry =>
                  dsimp only
                  rw [Registry.attach?_eq_ok claimed]
                  let claim : Session → Session := fun session => { session with attached := true }
                  exact ⟨s.registry.tally_modify (f := claim) id fun _ => rfl, rfl⟩
      | drain reader => exact ⟨fun _ => rfl, sent_drain s.feed reader⟩
      | subscribe | unsubscribe _ | disorder _ | directory _ => exact ⟨fun _ => rfl, rfl⟩

/-- The events of a session, in the order of their publication. -/
def eventsOf (records : List Record) (id : SessionId) : List Applied :=
  (records.filter (·.session = id)).map (·.done.event)

/-- The events that somebody was subscribed for when they were published. -/
def heard (records : List Record) : List Applied :=
  (records.filter (·.done.receivers ≠ 0)).map (·.done.event)

/-- What the server tells is what can be told of these requests. -/
structure Accounts (s : Server) (records : List Record) : Prop where
  told : ∀ e ∈ records, e.Told
  tally : ∀ id, s.registry.tally id = .of (eventsOf records id)
  sequences : ∀ id, (eventsOf records id).map Applied.sequence =
    List.range' 1 (eventsOf records id).length
  sent : s.feed.sent.toList = heard records

section Accounts

variable {s : Server} {records : List Record} (h : s.Accounts records)

include h

/-- The events that name a session are those of its requests. -/
theorem Accounts.eventsOf_eq (id : SessionId) :
    eventsOf records id = (records.map (·.done.event)).filter (·.session = id) := by
  rw [eventsOf, List.filter_map]
  refine congrArg _ (List.filter_congr fun e among => ?_)
  rw [Function.comp_apply, (h.told e among).session]

theorem Accounts.counters {id : SessionId} {session : Session}
    (present : s.registry.session? id = some session) :
    session.processed = (eventsOf records id).length ∧
    session.faults = ((eventsOf records id).filter (·.status.isFault)).length ∧
    session.rejected = ((eventsOf records id).filter (·.status.isRejected)).length := by
  have tally := h.tally id
  rw [Registry.tally, present] at tally
  exact ⟨congrArg Tally.processed tally, congrArg Tally.faults tally,
    congrArg Tally.rejected tally⟩

/-- There are no events of a session that is not there. -/
theorem Accounts.eventsOf_eq_nil {id : SessionId} (absent : s.registry.session? id = none) :
    eventsOf records id = [] := by
  have tally := h.tally id
  rw [Registry.tally, absent] at tally
  exact List.length_eq_zero_iff.mp (congrArg Tally.processed tally).symm

theorem Accounts.told_eq :
    (records.map fun e => (e.done.event.session, e.done.event.kind, e.done.event.keys)) =
      records.map fun e => (e.session, e.request.kind, e.request.keys) := by
  refine List.map_congr_left fun e among => ?_
  have told := h.told e among
  rw [told.session, told.kind, told.keys]

end Accounts

theorem accounts_of_started {s : Server} (h : s.Started) : s.Accounts [] := by
  obtain ⟨settings, place, made, new, eq⟩ := h
  have registry : s.registry = {} := by rw [eq, eq_of_new new]
  have sent : s.feed.sent = {} := by rw [eq, eq_of_new new, Feed.new]
  refine ⟨fun _ among => absurd among List.not_mem_nil, fun id => ?_, fun _ => rfl, ?_⟩
  · rw [registry]
    rfl
  · rw [sent]
    rfl

theorem Accounts.process {s : Server} {records : List Record} (h : s.Accounts records)
    {op : Operation} {e : Record} {session : Session} (processing : s.Processing op e session) :
    (s.step op).Accounts (records ++ [e]) := by
  have told := processing.told
  have counted : s.registry.tally e.session = session.tally := by
    rw [Registry.tally, processing.present]
    rfl
  have own :
      eventsOf (records ++ [e]) e.session = eventsOf records e.session ++ [e.done.event] := by
    simp [eventsOf]
  have others : ∀ id, id ≠ e.session → eventsOf (records ++ [e]) id = eventsOf records id := by
    intro id ne
    simp [eventsOf, Ne.symm ne]
  refine ⟨?_, fun id => ?_, fun id => ?_, ?_⟩
  · intro e' among
    rcases List.mem_append.mp among with before | last
    · exact h.told e' before
    · cases List.mem_singleton.mp last
      exact told
  · rw [processing.registry, Registry.tally, Registry.session?_modify]
    by_cases same : id = e.session
    · subst same
      rw [if_pos rfl, processing.present, own, Tally.of_concat, ← h.tally, counted, told.status]
      exact tally_countOutcome e.done.outcome session
    · rw [if_neg same, others id same]
      exact h.tally id
  · by_cases same : id = e.session
    · subst same
      -- The number of the event is one more than the number of those before it.
      have number : e.done.event.sequence = (eventsOf records e.session).length + 1 := by
        rw [processing.event]
        exact congrArg (·.processed + 1) (counted.symm.trans (h.tally e.session))
      rw [own, List.map_append, h.sequences, List.length_append, List.length_singleton,
        List.range'_1_concat, List.map_singleton, number, Nat.add_comm]
    · rw [others id same]
      exact h.sequences id
  · rw [processing.feed, Feed.publish, heard, List.filter_append, List.map_append, ← heard,
      ← h.sent, List.filter_singleton, processing.receivers]
    by_cases nobody : s.feed.receivers = 0 <;> simp [nobody]

theorem Accounts.step {s : Server} {records : List Record} (h : s.Accounts records)
    (op : Operation) : (s.step op).Accounts (records ++ (s.record? op).toList) := by
  cases recorded : s.record? op with
  | none =>
      obtain ⟨counters, events⟩ := unchanged_of_record?_eq_none recorded
      rw [Option.toList_none, List.append_nil]
      exact ⟨h.told, fun id => (counters id).trans (h.tally id), h.sequences, events ▸ h.sent⟩
  | some e =>
      obtain ⟨session, processing⟩ := processing_of_record? recorded
      exact h.process processing

end Server

end CacheCoherence
