import CacheCoherence.Proofs.ConnectionSteps
import CacheCoherence.Proofs.DirectoryLevels
import CacheCoherence.Proofs.ServerRegistry

/-!
No access outlives its registration. A session that is struck from the registry
gives back what its node holds, and only a grant gives a node something to hold.
So where grants are made to registered nodes only, those who hold a key are
registered, and when everybody has been unregistered nobody holds anything.
-/

namespace CacheCoherence

namespace Access.State

/-- A grant changes the level of its own node only. -/
theorem levelOf_allow_of_ne {s t : State} {n m : NodeId} {level : Level}
    (h : s.allow n level = .ok t) (ne : m ≠ n) : t.levelOf m = s.levelOf m := by
  cases level with
  | read =>
      have cases := s.allowReader_cases n
      rw [show s.allowReader n = .ok t from h] at cases
      rw [cases.2 m, if_neg ne]
  | write =>
      have cases := s.allowWriter_cases n
      rw [show s.allowWriter n = .ok t from h] at cases
      rw [cases.2 m, if_neg ne]

/-- Nobody comes to hold a key by giving up access. -/
theorem holds_of_holds_changed {s : State} {n m : NodeId} {c : Change}
    (h : (s.changed n c).levelOf m ≠ none) : s.levelOf m ≠ none := by
  rw [levelOf_changed] at h
  split at h
  next own =>
    rw [own]
    intro none
    rw [none] at h
    cases c <;> exact h rfl
  next => exact h

end Access.State

namespace Directory

/-- Only a grant gives a node something to hold. -/
theorem holds_of_holds_step {d : Directory} (wide : 0 < d.shards.length) {op : Operation}
    {m : NodeId} {j : Key} (h : ((d.step op).state j).levelOf m ≠ none) :
    (d.state j).levelOf m ≠ none ∨ ∃ level, op = .grant j m level := by
  cases op with
  | grant k n level =>
      rw [step, grant] at h
      cases allowed : (d.state k).allow n level with
      | error holder =>
          rw [allowed] at h
          exact .inl h
      | ok s =>
          rw [allowed] at h
          simp only [Except.toOption, Option.getD_some, state_record wide] at h
          by_cases e : j = k
          · subst e
            by_cases own : m = n
            · exact .inr ⟨level, by rw [own]⟩
            · rw [if_pos rfl, Access.State.levelOf_allow_of_ne allowed own] at h
              exact .inl h
          · rw [if_neg e] at h
            exact .inl h
  | change k n c =>
      rw [state_change wide] at h
      split at h
      next e =>
        subst e
        exact .inl (Access.State.holds_of_holds_changed h)
      · exact .inl h
  | releaseNode n =>
      rw [step, state_releaseNode] at h
      exact .inl (Access.State.holds_of_holds_changed h)

/-- A table in which nobody holds anything has no entries. -/
theorem Kept.entries_eq_nil {d : Directory} (h : d.Kept)
    (nobody : ∀ k n, (d.state k).levelOf n = none) : d.entries = [] := by
  refine List.eq_nil_iff_forall_not_mem.mpr fun e he => ?_
  obtain ⟨eq, someone⟩ := (h.mem_entries_iff e.1 e.2).mp he
  refine someone (Access.State.ext_of_levelOf ?_ rfl fun n => ?_)
  · rw [← eq]
    exact h.sound.coherent e.1
  · rw [← eq]
    exact nobody e.1 n

end Directory

namespace Server

/-- What the registry and the directory have in common: who holds a key is registered. -/
structure Held (r : Registry) (d : Directory) : Prop where
  sound : r.Sound
  kept : d.Kept
  registered : ∀ n k, (d.state k).levelOf n ≠ none → n ∈ r.nodes

section Held

variable {r : Registry} {d : Directory} (h : Held r d)

include h

theorem Held.modify (id : SessionId) {f : Session → Session}
    (node : ∀ session, (f session).node = session.node) : Held (r.modify id f) d where
  sound := h.sound.modify id node
  kept := h.kept
  registered := h.registered

/-- The registrations are as they were, and the directory has moved without giving anybody a key. -/
theorem Held.step (op : Directory.Operation)
    (entitled : ∀ k n level, op = .grant k n level → n ∈ r.nodes) : Held r (d.step op) where
  sound := h.sound
  kept := h.kept.step op
  registered n k holds := by
    obtain before | ⟨level, granted⟩ := Directory.holds_of_holds_step h.kept.wide holds
    · exact h.registered n k before
    · exact entitled k n level granted

end Held

theorem kept_release {r : Registry} {id : SessionId} {acc : Directory × List Released}
    (h : acc.1.Kept) : (release r id acc).1.Kept := by
  rw [release]
  cases r.session? id with
  | none => exact h
  | some session => exact h.step (.releaseNode session.node)

/-- A session that ends takes everything from its node, and nothing from others. -/
theorem holds_of_holds_release {r : Registry} (sound : r.Sound) {n m : NodeId} {id : SessionId}
    (live : r.live.get? n = some id) {acc : Directory × List Released} {k : Key}
    (holds : ((release (r.shutDown id) id acc).1.state k).levelOf m ≠ none) :
    m ≠ n ∧ (acc.1.state k).levelOf m ≠ none := by
  obtain ⟨session, present, own⟩ := sound n id live
  simp only [release, Registry.session?_shutDown_self present, own,
    Directory.levelOf_releaseNode] at holds
  by_cases e : m = n
  · rw [if_pos e] at holds
    exact absurd rfl holds
  · rw [if_neg e] at holds
    exact ⟨e, holds⟩

theorem keeps_held : Registry.Keeps (fun _ : Unit => release) fun x => Held x.1 x.2.1 where
  enrol h absent := ⟨h.sound.enrol _, h.kept, fun n k holds =>
    Registry.mem_nodes_enrol _ _ (h.registered n k holds)⟩
  modify id _ h node _ := h.modify id node
  ended {r s n id} _ h live := by
    rw [Registry.endSession_eq]
    refine ⟨h.sound.strike n id, kept_release h.kept, fun m k holds => ?_⟩
    obtain ⟨ne, before⟩ := holds_of_holds_release h.sound live holds
    exact r.mem_nodes_strike n id (h.registered m k before) ne

/-- The node that an operation grants a key to, unless it is no grant. -/
def Operation.grantee? : Operation → Option NodeId
  | .directory (.grant _ n _) => some n
  | _ => none

theorem Held.after_step {s : Server} (h : Held s.registry s.directory) (op : Operation)
    (entitled : ∀ n ∈ op.grantee?, n ∈ s.registry.nodes) :
    Held (s.step op).registry (s.step op).directory := by
  refine withstands_step keeps_held (fun k n c h => h.step (.change k n c) nofun) h ?_
  rintro op rfl
  refine h.step op fun k n level eq => entitled n ?_
  rw [eq]
  rfl

/-- Something that happens to a server: an operation, or a step of a connection, whatever it has
come to and whatever its stream holds. -/
inductive Happening where
  | operation (op : Operation)
  | connection (c : Connection) (stream : Endpoint)

def happen (s : Server) : Happening → Server
  | .operation op => s.step op
  | .connection c stream => ((c.step ⟨s, stream, []⟩).map fun r => r.1.server).getD s

/-- Every grant is made to a node that is registered then. -/
def Entitled (s : Server) : List Happening → Prop
  | [] => True
  | e :: es =>
    (match e with
      | .operation op => ∀ n ∈ op.grantee?, n ∈ s.registry.nodes
      | .connection _ _ => True) ∧ Entitled (s.happen e) es

theorem Held.happen {s : Server} (h : Held s.registry s.directory) {e : Happening}
    {es : List Happening} (entitled : s.Entitled (e :: es)) :
    Held (s.happen e).registry (s.happen e).directory := by
  cases e with
  | operation op => exact h.after_step op entitled.1
  | connection c stream =>
      rw [Server.happen]
      cases step : c.step ⟨s, stream, []⟩ with
      | none => exact h
      | some result =>
          obtain same | ⟨op, made, eq⟩ := Connection.advanced_step step
          · rw [Option.map_some, Option.getD_some, same]
            exact h
          · rw [Option.map_some, Option.getD_some, eq]
            refine h.after_step op fun n granted => ?_
            cases op with
            | directory _ => cases made
            | _ => cases granted

theorem Held.run {s : Server} (h : Held s.registry s.directory) {es : List Happening}
    (entitled : s.Entitled es) :
    Held (es.foldl Server.happen s).registry (es.foldl Server.happen s).directory := by
  induction es generalizing s with
  | nil => exact h
  | cons e es ih => exact ih (h.happen entitled) entitled.2

/-- Nothing is held once everybody has been unregistered. -/
theorem Held.shutdown {s : Server} (h : Held s.registry s.directory) (k : Key) (n : NodeId) :
    (s.shutdown.1.directory.state k).levelOf n = none := by
  have after : Held s.shutdown.1.registry s.shutdown.1.directory :=
    h.after_step .shutdown nofun
  by_contra holds
  have registered := after.registered n k holds
  have gone : s.shutdown.1.registry.nodes = [] :=
    s.registry.nodes_unregisterAll release (s.directory, [])
  rw [gone] at registered
  cases registered

theorem register_eq_ok {s t : Server} {n : NodeId} {id : SessionId}
    (given : s.register n = .ok (t, id)) : s.registry.live.get? n = none ∧
      id = s.registry.sessions.length ∧ t = { s with registry := s.registry.enrol n } := by
  rw [register, Registry.register_eq] at given
  cases live : s.registry.live.get? n with
  | some other => simp [live] at given
  | none =>
      simp only [live, Except.ok.injEq, Prod.mk.injEq] at given
      exact ⟨rfl, given.2.symm, given.1.symm⟩

theorem registered_of_register {s t : Server} {n : NodeId} {id : SessionId}
    (given : s.register n = .ok (t, id)) : n ∉ s.registry.nodes ∧ t.directory = s.directory := by
  obtain ⟨absent, -, rfl⟩ := register_eq_ok given
  refine ⟨fun registered => ?_, rfl⟩
  obtain ⟨other, present⟩ := (s.registry.mem_nodes_iff n).mp registered
  rw [absent] at present
  cases present

theorem held_of_started {s : Server} (h : Started s) : Held s.registry s.directory := by
  obtain ⟨settings, place, made, new, eq⟩ := h
  rw [eq, eq_of_new new]
  refine ⟨Registry.sound_empty, Directory.kept_new place settings.shards, fun n k holds => ?_⟩
  rw [Directory.state_new] at holds
  exact absurd rfl holds

/-- Where each grant is made to a node that is registered then, every node that holds a key is
registered, whatever else happens to the server. So a node that comes to be registered holds nothing
yet, and nobody holds anything once the server has been shut down. -/
theorem holders_registered {start : Server} (started : Started start) (happenings : List Happening)
    (entitled : start.Entitled happenings) :
    let s := happenings.foldl happen start
    (∀ n k, (s.directory.state k).holds n = true → n ∈ s.registry.nodes) ∧
    (∀ n t id, s.register n = .ok (t, id) → ∀ k, (t.directory.state k).holds n = false) ∧
    (∀ k, s.shutdown.1.directory.state k = .unheld) ∧
    s.shutdown.1.directory.entries = [] ∧ s.shutdown.1.directory.entryCount = 0 := by
  intro s
  have h : Held s.registry s.directory := (held_of_started started).run entitled
  have kept : s.shutdown.1.directory.Kept := (h.after_step .shutdown nofun).kept
  have empty := kept.entries_eq_nil h.shutdown
  refine ⟨fun n k holds => ?_, fun n t id given k => ?_, fun k => ?_, empty, ?_⟩
  · exact h.registered n k ((Access.State.holds_iff _ n).mp holds)
  · obtain ⟨absent, same⟩ := registered_of_register given
    rw [same, Bool.eq_false_iff]
    intro holds
    exact absent (h.registered n k ((Access.State.holds_iff _ n).mp holds))
  · exact Access.State.ext_of_levelOf (kept.sound.coherent k) rfl (h.shutdown k)
  · rw [Directory.entryCount_eq, empty]
    rfl

/-- The node of a channel closes its stream, registers again and is granted the key that it wrote
before. The first session is closed once more in between, which the second one survives. -/
def reconnected : List Happening :=
  let hungUp : Endpoint := ⟨⟨4, .ofList [], true⟩, ⟨4, .ofList [], false⟩, {}, 1⟩
  [.operation (.register 1), .operation (.directory (.grant (.object 10) 1 .write)),
    .connection (.serving { session := 0, node := 1 }) hungUp, .operation (.register 1),
    .operation (.closeSession 0), .operation (.directory (.grant (.object 10) 1 .read))]

theorem holders_registered_reconnected :
    let start : Server := ⟨{ shards := 1, feedCapacity := 1 }, .new Key.place 1, {}, {}, .new 1⟩
    let s := reconnected.foldl happen start
    start.Entitled reconnected ∧ s.registry.live.get? 1 = some 1 ∧
    ((reconnected.take 4).foldl happen start).directory.state (.object 10) = .unheld ∧
    (s.directory.state (.object 10)).levelOf 1 = some .read ∧ 1 ∈ s.registry.nodes ∧
    s.shutdown.1.directory.entries = [] := by
  intro start s
  have started : Started start :=
    ⟨{ shards := 1, feedCapacity := 1 }, Key.place, start, rfl, rfl⟩
  have entitled : start.Entitled reconnected := by
    refine ⟨?_, ?_, trivial, ?_, ?_, ?_, trivial⟩ <;> decide
  obtain ⟨registered, -, -, empty, -⟩ := holders_registered started reconnected entitled
  exact ⟨entitled, by decide, by decide, by decide, registered 1 (.object 10) (by decide), empty⟩

end Server

end CacheCoherence
