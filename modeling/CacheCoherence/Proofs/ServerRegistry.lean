import CacheCoherence.Proofs.Interleaving
import CacheCoherence.Proofs.Registry

/-!
What the operations of a server do to its registry, with the directory that the
ends of sessions work on. An assertion about the two that withstands what may be
done to a registry, and that keys are given up, withstands every operation but a
direct one on the directory.
-/

namespace CacheCoherence

theorem Session.attach_eq_ok {session attached : Session} (h : session.attach = .ok attached) :
    attached = { session with attached := true } := by
  rw [attach] at h
  split at h <;> cases h
  rfl

theorem Registry.attach?_eq_ok {r registry : Registry} {id : SessionId}
    (h : r.attach? id = some (.ok registry)) :
    registry = r.modify id fun session => { session with attached := true } := by
  obtain ⟨session, present, claimed⟩ := Option.map_eq_some_iff.mp h
  cases claim : session.attach with
  | error e =>
      rw [claim] at claimed
      cases claimed
  | ok attached =>
      rw [claim] at claimed
      cases claimed
      exact Registry.modify_congr present (Session.attach_eq_ok claim)

namespace Server

theorem shutDown_countOutcome (outcome : Outcome) (session : Session) :
    (countOutcome outcome session).shutDown = session.shutDown := by
  simp only [countOutcome]
  split <;> rfl

/-- The operation on the registry that an operation comes down to, if it concerns nothing but who is
registered. -/
def Operation.registration? : Operation → Option (Registry.Operation Unit)
  | .register n => some (.register n)
  | .unregister n => some (.unregister n ())
  | .closeSession id => some (.close id ())
  | .shutdown => some (.unregisterAll ())
  | .signal id => some (.signal id)
  | _ => none

theorem step_of_registration? (s : Server) {op : Operation} {o : Registry.Operation Unit}
    (h : op.registration? = some o) :
    s.step op =
      (s.ended (Registry.step (fun _ => release) (s.registry, s.directory, []) o)).1 := by
  cases op with
  | register n =>
      cases h
      simp only [step, register, Registry.step]
      cases s.registry.register n <;> rfl
  | unregister n =>
      cases h
      simp only [step, unregister, Registry.step]
      cases s.registry.unregister n release (s.directory, []) <;> rfl
  | closeSession id | shutdown | signal id =>
      cases h
      rfl
  | _ => cases h

section Withstands

variable {P : Registry → Directory → Prop}
  (k : Registry.Keeps (fun _ : Unit => release) fun x => P x.1 x.2.1)

include k

theorem withstands_attach {s : Server} (h : P s.registry s.directory) (id : SessionId) :
    P (s.step (.attach id)).registry (s.step (.attach id)).directory := by
  rw [step]
  cases claimed : s.registry.attach? id with
  | none => exact h
  | some result =>
      cases result with
      | error e => exact h
      | ok registry =>
          dsimp only
          rw [Registry.attach?_eq_ok claimed]
          exact k.modify (s := (s.directory, [])) id h (fun _ => rfl) fun _ down => down

/-- A request that is processed changes no more of the two than the level that it is for. -/
theorem withstands_request {s : Server} (h : P s.registry s.directory) {op : Operation}
    {id : SessionId} {r : Request} (request : s.request? op = some (id, r))
    (change : ∀ session key c, s.registry.session? id = some session →
      r.change? = some (key, c) → P s.registry (s.directory.step (.change key session.node c))) :
    P (s.step op).registry (s.step op).directory := by
  rw [step_of_request? request, process_eq]
  cases present : s.registry.session? id with
  | none => exact h
  | some session =>
      simp only [Option.map_some, Option.getD_some, directory_apply, (s.frame_apply _ r).2.1]
      refine k.modify (s := (_, [])) id ?_ (node_countOutcome _) fun session down => ?_
      · cases given : r.change? with
        | none => exact h
        | some p => exact change session p.1 p.2 present given
      · rw [shutDown_countOutcome]
        exact down

theorem withstands_other {s : Server} (h : P s.registry s.directory) {op : Operation}
    (other : s.request? op = none)
    (direct : ∀ o, op = .directory o → P s.registry (s.directory.step o)) :
    P (s.step op).registry (s.step op).directory := by
  cases op with
  | register _ | unregister _ | closeSession _ | shutdown | signal _ =>
      rw [step_of_registration? s rfl]
      exact k.step (x := (s.registry, s.directory, [])) h _
  | directory op => exact direct op rfl
  | process id r => cases other
  | call n r => rwa [step_call_of_request?_eq_none other]
  | callArrays n a => rwa [step_callArrays_of_request?_eq_none other]
  | attach id => exact withstands_attach k h id
  | subscribe | unsubscribe _ | drain _ | disorder _ => exact h

theorem withstands_step (change : ∀ {r d} k n c, P r d → P r (d.step (.change k n c))) {s : Server}
    (h : P s.registry s.directory) {op : Operation}
    (direct : ∀ o, op = .directory o → P s.registry (s.directory.step o)) :
    P (s.step op).registry (s.step op).directory := by
  cases request : s.request? op with
  | none => exact withstands_other k h request direct
  | some p => exact withstands_request k h request fun session key c _ _ => change key _ c h

end Withstands

theorem keeps_node (id : SessionId) (n : NodeId) :
    Registry.Keeps (fun _ : Unit => release)
      fun x => (x.1.session? id).map Session.node = some n where
  enrol {r s m} h _ := by
    obtain ⟨session, present, own⟩ := Option.map_eq_some_iff.mp h
    have inside : id < r.sessions.length := (List.getElem?_eq_some_iff.mp present).1
    rw [Registry.session?_enrol, if_neg (Nat.ne_of_lt inside)]
    exact h
  modify {r s} j f h node _ := by
    obtain ⟨session, present, own⟩ := Option.map_eq_some_iff.mp h
    rw [Registry.session?_modify, present]
    split
    · rw [Option.map_some, Option.map_some, node, own]
    · rw [Option.map_some, own]
  ended {r s m j} _ h _ := by
    obtain ⟨session, present, own⟩ := Option.map_eq_some_iff.mp h
    rw [Registry.endSession_eq, Registry.session?_strike, Registry.shutDown,
      Registry.session?_modify, present]
    split <;> exact congrArg some own

/-- A session stays a session of its node. -/
theorem nodeOf_step {s : Server} {id : SessionId} {n : NodeId} (h : s.nodeOf id = some n)
    (op : Operation) : (s.step op).nodeOf id = some n :=
  withstands_step (P := fun r _ => (r.session? id).map Session.node = some n) (keeps_node id n)
    (fun _ _ _ same => same) h fun _ _ => h

end Server

end CacheCoherence
