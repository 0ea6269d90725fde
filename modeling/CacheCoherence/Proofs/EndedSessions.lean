import CacheCoherence.Proofs.RegisteredHolders

/-!
Requests on sessions that have ended. A request acts for the node of its session
and is not asked whether the session is still the node's registration. While the
node is not registered it holds nothing, so nothing can come of the request. Once
the node is registered again, the request acts as one of the new session.
-/

namespace CacheCoherence.Server

/-- A node that holds nothing can do nothing to the directory or the store. -/
theorem apply_of_holds_nothing {s : Server} {n : NodeId}
    (nothing : ∀ k, (s.directory.state k).levelOf n = none) (r : Request) :
    (s.apply n r).2.directory = s.directory ∧ (s.apply n r).2.store = s.store := by
  rw [directory_apply, store_apply]
  cases change : r.change? with
  | some p =>
      obtain ⟨k, c⟩ := p
      have refused : (s.directory.state k).change? n c = none := by
        rw [Access.State.change?_eq_none_iff, nothing k]
        cases c with
        | release => rfl
        | weaken => nofun
      refine ⟨Directory.step_of_not_changed refused, ?_⟩
      cases r with
      | commit b => cases change
      | _ => rfl
  | none =>
      obtain ⟨b, rfl⟩ := Request.commit_of_change?_eq_none change
      refine ⟨rfl, ?_⟩
      dsimp only
      obtain ⟨e, eq⟩ | ⟨eq, written⟩ := s.commit_cases n b
      · rw [eq]
        rfl
      · -- A batch without keys needs no access, so it is not refused. But it writes nothing.
        have empty : b.keys = [] := by
          refine List.eq_nil_iff_forall_not_mem.mpr fun k hk => ?_
          have writes := written k hk
          rw [nothing k] at writes
          cases writes
        rw [eq]
        exact s.store.write_of_keys_eq_nil empty

/-- In a run whose grants are made to registered nodes, a request on a session that has ended leaves
directory and store as they are, unless its node has been registered again. Then it comes to what
the same request on the new session comes to. -/
theorem process_of_ended {start : Server} (started : Started start) (happenings : List Happening)
    (entitled : start.Entitled happenings) {id : SessionId} {session : Session}
    (present : (happenings.foldl happen start).registry.session? id = some session)
    (ended : (happenings.foldl happen start).registry.isLive id = false) (r : Request) :
    let s := happenings.foldl happen start
    ∃ t done, s.process id r = some (t, done) ∧
      (session.node ∉ s.registry.nodes → t.directory = s.directory ∧ t.store = s.store) ∧
      ∀ live, s.registry.live.get? session.node = some live → live ≠ id ∧
        ∃ u made, s.process live r = some (u, made) ∧ done.outcome = made.outcome ∧
          t.directory = u.directory ∧ t.store = u.store := by
  intro s
  have h : Held s.registry s.directory := (held_of_started started).run entitled
  refine ⟨_, _, process_of_session present r, fun absent => ?_, fun live registered => ?_⟩
  · refine apply_of_holds_nothing (fun k => ?_) r
    by_contra holds
    exact absent (h.registered session.node k holds)
  · obtain ⟨newer, there, own⟩ := h.sound session.node live registered
    refine ⟨?_, _, _, process_of_session there r, ?_⟩
    · rintro rfl
      rw [(h.sound.isLive_iff live).mpr ⟨session.node, registered⟩] at ended
      cases ended
    · rw [own]
      exact ⟨rfl, rfl, rfl⟩

/-- Node 1 is unregistered, registers again, and is granted an object for writing. -/
def returned : List Happening :=
  [.operation (.register 1), .operation (.unregister 1), .operation (.register 1),
    .operation (.directory (.grant (.object 10) 1 .write))]

theorem process_of_ended_returned :
    let start : Server := ⟨{ shards := 1, feedCapacity := 1 }, .new Key.place 1, {}, {}, .new 1⟩
    let s := returned.foldl happen start
    ∃ t done u made, s.process 0 (.evictObject 10) = some (t, done) ∧
      s.process 1 (.evictObject 10) = some (u, made) ∧ done.outcome = made.outcome ∧
      t.directory = u.directory := by
  intro start s
  have started : Started start :=
    ⟨{ shards := 1, feedCapacity := 1 }, Key.place, start, rfl, rfl⟩
  have entitled : start.Entitled returned := by
    refine ⟨?_, ?_, ?_, ?_, trivial⟩ <;> decide
  have present : s.registry.session? 0 = some ⟨1, 0, 0, 0, false, true⟩ := by decide
  obtain ⟨t, done, old, -, again⟩ :=
    process_of_ended started returned entitled present (by decide) (.evictObject 10)
  obtain ⟨-, u, made, new, outcome, directory, -⟩ := again 1 (by decide)
  exact ⟨t, done, u, made, old, new, outcome, directory⟩

/-- What the new registration of a node was granted is not safe from the session that has ended: a
request on it evicts the object, and another one writes it. -/
theorem ended_session_acts :
    let start : Server := ⟨{ shards := 1, feedCapacity := 1 }, .new Key.place 1, {}, {}, .new 1⟩
    let s := returned.foldl happen start
    s.registry.isLive 0 = false ∧ s.registry.live.get? 1 = some 1 ∧
      (s.directory.state (.object 10)).levelOf 1 = some .write ∧
      ((s.step (.process 0 (.evictObject 10))).directory.state (.object 10)).levelOf 1 = none ∧
      s.store.value? (.object 10) = none ∧
      (s.step (.process 0 (.commit (.store {} 10 [7])))).store.value? (.object 10) =
        some (.bytes [7]) := by
  decide

end CacheCoherence.Server
