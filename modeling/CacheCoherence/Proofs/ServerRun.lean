import CacheCoherence.Proofs.Requests

/-!
Runs of a server. Whatever is done to a server moves its directory by directory
operations, and its store only by the batch of a commit that succeeds, whose
node writes every key of the batch at that moment.
-/

namespace CacheCoherence.Server

/-- What may be done to a server. The last four do not concern access or values, but for `disorder`,
which makes the store refuse batches or stop refusing them. -/
inductive Operation where
  | register (n : NodeId)
  | directory (op : Directory.Operation)
  | process (id : SessionId) (r : Request)
  | call (n : NodeId) (r : Request)
  | callArrays (n : NodeId) (a : BatchArrays)
  | unregister (n : NodeId)
  | closeSession (id : SessionId)
  | shutdown
  | attach (id : SessionId)
  | signal (id : SessionId)
  | subscribe
  | unsubscribe (reader : Nat)
  | drain (reader : Nat)
  | disorder (reason : Option String)

/-- The session and the request that an operation has processed, if it comes to that. -/
def request? (s : Server) : Operation → Option (SessionId × Request)
  | .process id r => some (id, r)
  | .call n r => (s.registry.live.get? n).map (·, r)
  | .callArrays n a =>
      (Batch.ofArrays a).toOption.bind fun b => (s.registry.live.get? n).map (·, .commit b)
  | _ => none

def called (s : Server) (n : NodeId) (r : Request) : Server :=
  ((s.call n r).toOption.map Prod.fst).getD s

/-- The server after an operation, which may have been refused. -/
def step (s : Server) : Operation → Server
  | .register n => ((s.register n).toOption.map Prod.fst).getD s
  | .directory op => { s with directory := s.directory.step op }
  | .process id r => ((s.process id r).map Prod.fst).getD s
  | .call n r => s.called n r
  | .callArrays n a =>
      match Batch.ofArrays a with
      | .ok b => s.called n (.commit b)
      | .error _ => s
  | .unregister n => ((s.unregister n).toOption.map Prod.fst).getD s
  | .closeSession id => (s.closeSession id).1
  | .shutdown => s.shutdown.1
  | .attach id =>
      match s.registry.attach? id with
      | some (.ok registry) => { s with registry }
      | _ => s
  | .signal id => { s with registry := s.registry.shutDown id }
  | .subscribe => { s with feed := s.feed.subscribe.1 }
  | .unsubscribe reader => { s with feed := s.feed.unsubscribe reader }
  | .drain reader => { s with feed := ((s.feed.drain? reader).map Prod.fst).getD s.feed }
  | .disorder reason => { s with store := { s.store with disorder := reason } }

def after (s : Server) (ops : List Operation) : Server :=
  ops.foldl step s

/-- A server as it starts: made for usable settings, with the store that it is given. -/
def Started (s : Server) : Prop :=
  ∃ settings place made, Server.new settings place = .ok made ∧ s = { made with store := s.store }

def Reachable (s : Server) : Prop :=
  ∃ start ops, Started start ∧ s = start.after ops

/-- The node and the batch of a commit, if the operation is a commit that succeeds. -/
def committed? (s : Server) (op : Operation) : Option (NodeId × Batch) :=
  match s.request? op with
  | some (id, .commit b) =>
      (s.process id (.commit b)).bind fun p =>
        if p.2.outcome.isOk then some (p.2.event.node, b) else none
  | _ => none

theorem after_concat (s : Server) (ops : List Operation) (op : Operation) :
    s.after (ops ++ [op]) = (s.after ops).step op := by
  simp [after]

/-- The event of a request of a session, once it has been applied. -/
def eventOf (id : SessionId) (session : Session) (r : Request) (outcome : Outcome) : Applied :=
  ⟨session.node, id, session.processed + 1, r.kind, r.keys, .ofOutcome outcome⟩

theorem process_eq (s : Server) (id : SessionId) (r : Request) :
    s.process id r =
      (s.registry.session? id).map fun session =>
        let applied := s.apply session.node r
        let event := eventOf id session r applied.1
        ({ applied.2 with
            registry := applied.2.registry.modify id (countOutcome applied.1)
            feed := applied.2.feed.publish event },
          ⟨event, applied.1, s.feed.receivers⟩) := by
  rw [process]
  cases s.registry.session? id <;> rfl

theorem called_eq (s : Server) (n : NodeId) (r : Request) :
    s.called n r =
      match s.registry.live.get? n with
      | some id => ((s.process id r).map Prod.fst).getD s
      | none => s := by
  rw [called, call, Registry.liveSession]
  cases s.registry.live.get? n with
  | none => rfl
  | some id =>
      dsimp only
      cases s.process id r <;> rfl

theorem step_of_request? {s : Server} {op : Operation} {id : SessionId} {r : Request}
    (h : s.request? op = some (id, r)) : s.step op = ((s.process id r).map Prod.fst).getD s := by
  cases op with
  | process id' r' =>
      cases h
      rfl
  | call n r' =>
      simp only [request?, Option.map_eq_some_iff, Prod.mk.injEq] at h
      obtain ⟨id', live, rfl, rfl⟩ := h
      rw [step, called_eq, live]
  | callArrays n a =>
      simp only [request?] at h
      cases arrays : Batch.ofArrays a with
      | error e => simp [arrays, Except.toOption] at h
      | ok b =>
          simp only [arrays, Except.toOption, Option.bind_some, Option.map_eq_some_iff,
            Prod.mk.injEq] at h
          obtain ⟨id', live, rfl, rfl⟩ := h
          simp only [step, arrays, called_eq, live]
  | _ => cases h

theorem step_call_of_request?_eq_none {s : Server} {n : NodeId} {r : Request}
    (h : s.request? (.call n r) = none) : s.step (.call n r) = s := by
  rw [request?, Option.map_eq_none_iff] at h
  rw [step, called_eq, h]

theorem step_callArrays_of_request?_eq_none {s : Server} {n : NodeId} {a : BatchArrays}
    (h : s.request? (.callArrays n a) = none) : s.step (.callArrays n a) = s := by
  cases arrays : Batch.ofArrays a with
  | error e => simp only [step, arrays]
  | ok b =>
      simp only [request?, arrays, Except.toOption, Option.bind_some, Option.map_eq_none_iff] at h
      simp only [step, arrays, called_eq, h]

theorem directory_release (registry : Registry) (id : SessionId) (acc : Directory × List Released) :
    ∃ ops, (release registry id acc).1 = acc.1.after ops := by
  rw [release]
  cases registry.session? id with
  | none => exact ⟨[], rfl⟩
  | some session => exact ⟨[.releaseNode session.node], rfl⟩

theorem directory_unregisterAll (entries : List (NodeId × SessionId))
    (acc : List SessionId × Registry × Directory × List Released) :
    ∃ ops, (entries.foldl
      (fun acc e =>
        let ended := acc.2.1.endSession e.1 e.2 release acc.2.2
        (acc.1 ++ [e.2], ended)) acc).2.2.1 = acc.2.2.1.after ops := by
  induction entries generalizing acc with
  | nil => exact ⟨[], rfl⟩
  | cons e entries ih =>
      obtain ⟨now, hnow⟩ := directory_release (acc.2.1.shutDown e.2) e.2 acc.2.2
      obtain ⟨later, hlater⟩ := ih (acc.1 ++ [e.2], acc.2.1.endSession e.1 e.2 release acc.2.2)
      refine ⟨now ++ later, ?_⟩
      rw [List.foldl_cons, hlater, Directory.after_append, ← hnow]
      rfl

theorem directory_process (s : Server) (id : SessionId) (r : Request) :
    ∃ ops, (((s.process id r).map Prod.fst).getD s).directory = s.directory.after ops := by
  rw [process_eq]
  cases s.registry.session? id with
  | none => exact ⟨[], rfl⟩
  | some session =>
      simp only [Option.map_some, Option.getD_some, directory_apply]
      cases r.change? with
      | none => exact ⟨[], rfl⟩
      | some p => exact ⟨[.change p.1 session.node p.2], rfl⟩

/-- An operation that has no request processed leaves every value alone, and moves the directory by
operations of its own. -/
theorem step_of_request?_eq_none {s : Server} {op : Operation} (h : s.request? op = none) :
    (∃ ops, (s.step op).directory = s.directory.after ops) ∧
      ∀ k, (s.step op).store.value? k = s.store.value? k := by
  cases op with
  | process id r => cases h
  | directory op => exact ⟨⟨[op], rfl⟩, fun _ => rfl⟩
  | register n =>
      simp only [step, register]
      cases s.registry.register n <;> exact ⟨⟨[], rfl⟩, fun _ => rfl⟩
  | call n r =>
      rw [step_call_of_request?_eq_none h]
      exact ⟨⟨[], rfl⟩, fun _ => rfl⟩
  | callArrays n a =>
      rw [step_callArrays_of_request?_eq_none h]
      exact ⟨⟨[], rfl⟩, fun _ => rfl⟩
  | unregister n =>
      simp only [step, unregister, Registry.unregister]
      cases s.registry.live.get? n with
      | none => exact ⟨⟨[], rfl⟩, fun _ => rfl⟩
      | some id =>
          exact ⟨directory_release (s.registry.shutDown id) id (s.directory, []), fun _ => rfl⟩
  | closeSession id =>
      refine ⟨?_, fun _ => rfl⟩
      simp only [step, closeSession, Registry.close]
      cases s.registry.session? id with
      | none => exact ⟨[], rfl⟩
      | some session =>
          dsimp only
          split
          · exact directory_release (s.registry.shutDown id) id (s.directory, [])
          · exact ⟨[], rfl⟩
  | shutdown =>
      exact ⟨directory_unregisterAll s.registry.live.entries ([], s.registry, s.directory, []),
        fun _ => rfl⟩
  | attach id =>
      simp only [step]
      cases s.registry.attach? id with
      | none => exact ⟨⟨[], rfl⟩, fun _ => rfl⟩
      | some r => cases r <;> exact ⟨⟨[], rfl⟩, fun _ => rfl⟩
  | disorder reason =>
      refine ⟨⟨[], rfl⟩, fun k => ?_⟩
      cases k with
      | object oid => rfl
      | binding key => cases key <;> rfl
  | signal _ | subscribe | unsubscribe _ | drain _ => exact ⟨⟨[], rfl⟩, fun _ => rfl⟩

/-- The claim of a session that no channel has taken marks it as taken, and changes nothing else. -/
theorem step_attach_of_ok {s : Server} {id : SessionId} {session attached : Session}
    (present : s.registry.session? id = some session) (claimed : session.attach = .ok attached) :
    s.step (.attach id) = { s with registry := s.registry.modify id fun _ => attached } := by
  simp only [step, Registry.attach?, present, Option.map_some, claimed, Except.map]

/-- Whatever is done to a server, its directory moves by operations of its own. -/
theorem directory_step (s : Server) (op : Operation) :
    ∃ ops, (s.step op).directory = s.directory.after ops := by
  cases request : s.request? op with
  | none => exact (step_of_request?_eq_none request).1
  | some p =>
      rw [step_of_request? request]
      exact directory_process s p.1 p.2

theorem sound_after {s : Server} (h : s.directory.Sound) (ops : List Operation) :
    (s.after ops).directory.Sound := by
  induction ops generalizing s with
  | nil => exact h
  | cons op ops ih =>
      apply ih
      obtain ⟨moves, eq⟩ := s.directory_step op
      rw [eq]
      exact h.after moves

theorem eq_of_new {settings : Settings} {place : Key → Nat} {s : Server}
    (new : Server.new settings place = .ok s) :
    s = { settings, directory := Directory.new place settings.shards, store := {}, registry := {},
          feed := Feed.new settings.feedCapacity } := by
  rw [Server.new] at new
  cases check : settings.check with
  | error e => simp [check, bind, Except.bind] at new
  | ok =>
      simp only [check, bind, Except.bind, pure, Except.pure, Except.ok.injEq] at new
      exact new.symm

theorem sound_of_reachable {s : Server} (h : s.Reachable) : s.directory.Sound := by
  obtain ⟨start, ops, ⟨settings, place, made, new, eq⟩, rfl⟩ := h
  apply sound_after
  rw [eq, eq_of_new new]
  exact Directory.sound_new place settings.shards

theorem committed?_of_session {s : Server} {op : Operation} {id : SessionId} {b : Batch}
    {session : Session} (request : s.request? op = some (id, .commit b))
    (present : s.registry.session? id = some session) :
    s.committed? op =
      if (s.commit session.node b).1.isOk then some (session.node, b) else none := by
  simp only [committed?, request, process_eq, present, Option.map_some, Option.bind_some]
  rfl

/-- Only a commit that succeeds changes a value. -/
theorem value?_step (s : Server) (op : Operation) (k : Key) :
    (s.step op).store.value? k =
      match s.committed? op with
      | some (_, b) => (s.store.write b).value? k
      | none => s.store.value? k := by
  cases request : s.request? op with
  | none =>
      rw [committed?, request]
      exact (step_of_request?_eq_none request).2 k
  | some p =>
      obtain ⟨id, r⟩ := p
      rw [step_of_request? request, process_eq]
      cases present : s.registry.session? id with
      | none => cases r <;> simp [committed?, request, process_eq, present]
      | some session =>
          simp only [Option.map_some, Option.getD_some, store_apply]
          cases r with
          | commit b =>
              rw [committed?_of_session request present]
              dsimp only
              split <;> rfl
          | _ => simp only [committed?, request]

/-- A commit succeeds only for the writer of all its keys. -/
theorem levelOf_of_committed? {s : Server} {op : Operation} {n : NodeId} {b : Batch}
    (h : s.committed? op = some (n, b)) {k : Key} (hk : k ∈ b.keys) :
    (s.directory.state k).levelOf n = some .write := by
  cases request : s.request? op with
  | none => simp [committed?, request] at h
  | some p =>
      obtain ⟨id, r⟩ := p
      cases r with
      | commit b' =>
          cases present : s.registry.session? id with
          | none => simp [committed?, request, process_eq, present] at h
          | some session =>
              rw [committed?_of_session request present] at h
              simp only [Option.ite_none_right_eq_some, Option.some.injEq, Prod.mk.injEq] at h
              obtain ⟨ok, rfl, rfl⟩ := h
              obtain ⟨e, eq⟩ | ⟨-, written⟩ := s.commit_cases session.node b'
              · rw [eq] at ok
                cases ok
              · exact written k hk
      | _ => simp [committed?, request] at h

end CacheCoherence.Server
