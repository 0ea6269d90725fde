import CacheCoherence.Proofs.Registry

/-!
The life of a session. It is given to its node, is registered until it ends, and
is shut down from then on. What is to be done when it ends is done once, while it
is still registered and already shut down, and a handle to a session that has
ended does nothing to the one that its node has come to have since.
-/

namespace CacheCoherence.Registry

variable {σ α : Type}

/-- A session that ends: the registry as it is then, and what is to be done with the session. -/
structure Ending (α : Type) where
  registry : Registry
  session : SessionId
  act : α

/-- Does nothing with a session that ends but note it. -/
def note (act : α) : Release (List (Ending α)) := fun registry id endings =>
  endings ++ [⟨registry, id, act⟩]

def Ending.run (perform : α → Release σ) (s : σ) (e : Ending α) : σ :=
  perform e.act e.registry e.session s

theorem endSession_eq_note (perform : α → Release σ) (s : σ) (r : Registry) (n : NodeId)
    (id : SessionId) (act : α) (endings : List (Ending α)) :
    r.endSession n id (perform act) (endings.foldl (Ending.run perform) s) =
      ((r.endSession n id (note act) endings).1,
        (r.endSession n id (note act) endings).2.foldl (Ending.run perform) s) := by
  simp only [endSession_eq, note, List.foldl_append]
  rfl

theorem endAll_eq_note (perform : α → Release σ) (s : σ) (act : α)
    (entries : List (NodeId × SessionId)) (ids : List SessionId) (r : Registry)
    (endings : List (Ending α)) :
    (endAll (perform act) (ids, r, endings.foldl (Ending.run perform) s) entries).2 =
      ((endAll (note act) (ids, r, endings) entries).2.1,
        (endAll (note act) (ids, r, endings) entries).2.2.foldl (Ending.run perform) s) := by
  induction entries generalizing r endings ids with
  | nil => rfl
  | cons e entries ih =>
      simp only [endAll, List.foldl_cons, endSession_eq_note]
      exact ih ..

/-- A run does with the sessions that end what it is told to do with them, one after the other in
the order in which they are noted. -/
theorem step_eq_note (perform : α → Release σ) (s : σ) (r : Registry) (endings : List (Ending α))
    (op : Operation α) :
    step perform (r, endings.foldl (Ending.run perform) s) op =
      ((step note (r, endings) op).1,
        (step note (r, endings) op).2.foldl (Ending.run perform) s) := by
  cases op with
  | register n =>
      simp only [step]
      cases r.register n <;> rfl
  | unregister n act =>
      simp only [step, unregister]
      cases r.live.get? n with
      | none => rfl
      | some id => exact endSession_eq_note perform s r n id act endings
  | close id act =>
      simp only [step, close]
      cases r.session? id with
      | none => rfl
      | some session =>
          dsimp only
          split
          · exact endSession_eq_note perform s r session.node id act endings
          · rfl
  | unregisterAll act =>
      simp only [step, unregisterAll_eq]
      exact endAll_eq_note perform s act r.live.entries [] r endings
  | signal id => rfl

theorem after_eq_note (perform : α → Release σ) (s : σ) (r : Registry) (endings : List (Ending α))
    (ops : List (Operation α)) :
    after perform (r, endings.foldl (Ending.run perform) s) ops =
      ((after note (r, endings) ops).1,
        (after note (r, endings) ops).2.foldl (Ending.run perform) s) := by
  induction ops generalizing r endings with
  | nil => rfl
  | cons op ops ih =>
      rw [after, List.foldl_cons, step_eq_note]
      exact ih _ _

/-- The session that an operation gives, if it is a registration that is not refused. -/
def Operation.given (r : Registry) : Operation α → List SessionId
  | .register n => ((r.register n).toOption.map Prod.snd).toList
  | .unregister _ _ | .close _ _ | .unregisterAll _ | .signal _ => []

/-- The sessions that the registrations of a run have given. -/
def given (x : Registry × List (Ending α)) : List (Operation α) → List SessionId
  | [] => []
  | op :: ops => op.given x.1 ++ given (step note x op) ops

/-- The session that an operation is called on, if it is called on one. -/
def Operation.handle? : Operation α → Option SessionId
  | .close id _ | .signal id => some id
  | .register _ | .unregister _ _ | .unregisterAll _ => none

/-- What holds of a registry and the sessions that have ended. -/
structure Tended (x : Registry × List (Ending α)) : Prop where
  sound : x.1.Sound
  marked : ∀ {id session}, x.1.session? id = some session → x.1.isLive id = false →
    session.shutDown = true
  ending : ∀ e ∈ x.2, e.registry.isLive e.session = true ∧
    ∃ session, e.registry.session? e.session = some session ∧ session.shutDown = true
  once : ∀ id, (x.2.map Ending.session).count id =
    if id < x.1.sessions.length ∧ x.1.isLive id = false then 1 else 0

theorem tended_empty : Tended (({}, []) : Registry × List (Ending α)) where
  sound := sound_empty
  marked := nofun
  ending := nofun
  once _ := rfl

section Tended

variable {r : Registry} {endings : List (Ending α)} (h : Tended (r, endings))

include h

theorem Tended.enrol {n : NodeId} (absent : r.live.get? n = none) :
    Tended (r.enrol n, endings) where
  sound := h.sound.enrol n
  marked {id session} present ended := by
    rw [Bool.eq_false_iff, Ne, h.sound.isLive_enrol absent, not_or] at ended
    rw [session?_enrol, if_neg ended.1] at present
    exact h.marked present (Bool.eq_false_iff.mpr ended.2)
  ending := h.ending
  once id := by
    rw [h.once id]
    refine if_congr ?_ rfl rfl
    simp only [Bool.eq_false_iff, Ne, h.sound.isLive_enrol absent, not_or]
    simp only [Registry.enrol, List.length_append, List.length_singleton]
    constructor
    · rintro ⟨inside, ended⟩
      exact ⟨Nat.lt_succ_of_lt inside, Nat.ne_of_lt inside, ended⟩
    · rintro ⟨inside, ne, ended⟩
      exact ⟨Nat.lt_of_le_of_ne (Nat.le_of_lt_succ inside) ne, ended⟩

theorem Tended.modify (id : SessionId) {f : Session → Session}
    (node : ∀ session, (f session).node = session.node)
    (lasting : ∀ session, session.shutDown = true → (f session).shutDown = true) :
    Tended (r.modify id f, endings) where
  sound := h.sound.modify id node
  marked {j session} present ended := by
    rw [h.sound.isLive_modify id node] at ended
    rw [session?_modify] at present
    split at present
    · obtain ⟨before, there, rfl⟩ := Option.map_eq_some_iff.mp present
      exact lasting before (h.marked there ended)
    · exact h.marked present ended
  ending := h.ending
  once j := by
    rw [h.once j]
    simp only [h.sound.isLive_modify id node, length_sessions_modify]

theorem Tended.ended {n : NodeId} {id : SessionId} (act : α) (live : r.live.get? n = some id) :
    Tended (r.endSession n id (note act) endings) := by
  obtain ⟨session, present, own⟩ := h.sound n id live
  have alive : r.isLive id = true := (h.sound.isLive_iff id).mpr ⟨n, live⟩
  have keeps : ∀ session : Session, ({ session with shutDown := true } : Session).node =
      session.node := fun _ => rfl
  rw [endSession_eq]
  refine ⟨h.sound.strike n id, ?_, ?_, ?_⟩
  · intro j other there ended
    rw [session?_strike, shutDown, session?_modify] at there
    split at there
    · obtain ⟨before, -, rfl⟩ := Option.map_eq_some_iff.mp there
      rfl
    next ne =>
      rw [Bool.eq_false_iff, Ne, h.sound.isLive_strike live] at ended
      exact h.marked there (Bool.eq_false_iff.mpr fun still => ended ⟨ne, still⟩)
  · intro e he
    rcases List.mem_append.mp he with he | he
    · exact h.ending e he
    · cases List.mem_singleton.mp he
      have still := (h.sound.isLive_modify id keeps id).trans alive
      exact ⟨still, _, session?_shutDown_self present, rfl⟩
  · intro j
    have before := h.once j
    simp only [note, List.map_append, List.count_append, before, List.map_singleton,
      Bool.eq_false_iff, Ne, h.sound.isLive_strike live]
    rw [show (r.strike n id).sessions.length = r.sessions.length from length_sessions_modify ..]
    by_cases e : j = id
    · subst e
      have inside := h.sound.lt_length live
      simp [alive, inside]
    · simp [e, Ne.symm e]

end Tended

/-- A handle that is not live is at most shut down. -/
theorem step_of_stale {r : Registry} (endings : List (Ending α)) {id : SessionId}
    (stale : r.isLive id = false) {op : Operation α} (called : op.handle? = some id) :
    step note (r, endings) op = (r, endings) ∨
      step note (r, endings) op = (r.shutDown id, endings) := by
  cases op with
  | close j act =>
      cases called
      simp only [step, close]
      cases present : r.session? id with
      | none => exact .inl rfl
      | some session =>
          have superseded : r.live.get? session.node ≠ some id := by
            simpa [isLive, present] using stale
          exact .inr (if_neg superseded)
  | signal j =>
      cases called
      exact .inr rfl
  | register _ | unregister _ _ | unregisterAll _ => cases called

section Handles

variable {r : Registry} (h : r.Sound) {endings : List (Ending α)}

include h

/-- What is done through a handle that is not live leaves every registered session alone. -/
theorem Sound.session?_of_stale {id : SessionId} (stale : r.isLive id = false) {op : Operation α}
    (called : op.handle? = some id) :
    let y := step note (r, endings) op
    y.2 = endings ∧ ∀ n j, r.live.get? n = some j →
      y.1.live.get? n = some j ∧ y.1.session? j = r.session? j := by
  have spared : ∀ n j, r.live.get? n = some j → (r.shutDown id).session? j = r.session? j := by
    intro n j live
    rw [shutDown, session?_modify, if_neg]
    rintro rfl
    rw [(h.isLive_iff j).mpr ⟨n, live⟩] at stale
    cases stale
  obtain eq | eq := step_of_stale endings stale called
  · rw [eq]
    exact ⟨rfl, fun n j live => ⟨live, rfl⟩⟩
  · rw [eq]
    exact ⟨rfl, fun n j live => ⟨live, spared n j live⟩⟩

theorem Sound.mem_unregisterAll_iff (release : Release σ) (s : σ) (id : SessionId) :
    id ∈ (r.unregisterAll release s).1 ↔ r.isLive id = true := by
  rw [unregisterAll_eq, endAll_fst, List.nil_append, List.mem_map, h.isLive_iff]
  constructor
  · rintro ⟨e, he, rfl⟩
    exact ⟨e.1, SortedMap.get?_eq_some_iff.mpr he⟩
  · rintro ⟨n, live⟩
    exact ⟨(n, id), SortedMap.get?_eq_some_iff.mp live, rfl⟩

theorem Sound.nodes_of_unregisterAll (release : Release σ) (s : σ) :
    (r.unregisterAll release s).1.map (fun id => (r.session? id).map Session.node) =
      r.nodes.map some := by
  rw [unregisterAll_eq, endAll_fst, List.nil_append, nodes, SortedMap.keys, List.map_map,
    List.map_map]
  refine List.map_congr_left fun e he => ?_
  obtain ⟨session, present, own⟩ := h e.1 e.2 (SortedMap.get?_eq_some_iff.mpr he)
  simp [present, own]

end Handles

theorem length_sessions_step (x : Registry × List (Ending α)) (op : Operation α) :
    List.range x.1.sessions.length ++ op.given x.1 =
      List.range (step note x op).1.sessions.length := by
  obtain ⟨r, endings⟩ := x
  cases op with
  | register n =>
      simp only [Operation.given, step, register_eq]
      cases r.live.get? n with
      | some id => exact List.append_nil _
      | none => simp [Registry.enrol, Except.toOption, List.range_succ]
  | unregister n act =>
      simp only [Operation.given, step, unregister]
      cases r.live.get? n with
      | none => exact List.append_nil _
      | some id => simp [endSession_eq, strike, shutDown, length_sessions_modify]
  | close id act =>
      simp only [Operation.given, step, close]
      cases r.session? id with
      | none => exact List.append_nil _
      | some session =>
          dsimp only
          split <;> simp [endSession_eq, strike, shutDown, length_sessions_modify]
  | unregisterAll act =>
      simp [Operation.given, step, unregisterAll_eq, length_sessions_endAll]
  | signal id => simp [Operation.given, step, shutDown, length_sessions_modify]

theorem given_eq (x : Registry × List (Ending α)) (ops : List (Operation α)) :
    List.range x.1.sessions.length ++ given x ops =
      List.range (after note x ops).1.sessions.length := by
  induction ops generalizing x with
  | nil => exact List.append_nil _
  | cons op ops ih =>
      rw [given, ← List.append_assoc, length_sessions_step]
      exact ih _

theorem keeps_tended : Keeps note (Tended (α := α)) where
  enrol h absent := h.enrol absent
  modify id _ h node lasting := h.modify id node lasting
  ended act h live := h.ended act live

/-- Whatever is done to a registry that started empty, a node has one registered session at most,
and that is one of its own. Sessions that are not registered are shut down. What is to be done with
a session that ends is done once, while it is registered and shut down, and it is not done with any
other. A stale handle does nothing to the sessions that are registered, and all of these end, in the
order of their nodes, when all are to end. -/
theorem sessions_end_once (ops : List (Operation α)) :
    let x := after note ({}, []) ops
    (∀ {σ : Type} (perform : α → Release σ) (s : σ),
      after perform ({}, s) ops = (x.1, x.2.foldl (Ending.run perform) s)) ∧
    given ({}, []) ops = List.range x.1.sessions.length ∧
    (∀ n id, x.1.live.get? n = some id →
      ∃ session, x.1.session? id = some session ∧ session.node = n) ∧
    (∀ id session, x.1.session? id = some session → x.1.isLive id = false →
      session.shutDown = true) ∧
    (∀ e ∈ x.2, e.registry.isLive e.session = true ∧
      ∃ session, e.registry.session? e.session = some session ∧ session.shutDown = true) ∧
    (∀ id, (x.2.map Ending.session).count id =
      if id < x.1.sessions.length ∧ x.1.isLive id = false then 1 else 0) ∧
    (∀ id op, x.1.isLive id = false → Operation.handle? op = some id →
      let y := step note x op
      y.2 = x.2 ∧ ∀ n j, x.1.live.get? n = some j →
        y.1.live.get? n = some j ∧ y.1.session? j = x.1.session? j) ∧
    ∀ act,
      let all := x.1.unregisterAll (note act) x.2
      (∀ id, id ∈ all.1 ↔ x.1.isLive id = true) ∧
      all.1.map (fun id => (x.1.session? id).map Session.node) = x.1.nodes.map some ∧
      x.1.nodes.Pairwise (fun a b => a.value < b.value) ∧
      all.2.1.nodes = [] := by
  intro x
  have h : Tended x := keeps_tended.after tended_empty ops
  refine ⟨fun perform s => after_eq_note perform s {} [] ops, given_eq ({}, []) ops, h.sound,
    fun _ _ => h.marked, h.ending, h.once, fun id op stale called => ?_, fun act => ?_⟩
  · exact h.sound.session?_of_stale stale called
  · exact ⟨h.sound.mem_unregisterAll_iff (note act) x.2,
      h.sound.nodes_of_unregisterAll (note act) x.2, x.1.pairwise_nodes,
      x.1.nodes_unregisterAll (note act) x.2⟩

end CacheCoherence.Registry
