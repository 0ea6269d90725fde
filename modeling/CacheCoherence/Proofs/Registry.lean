import CacheCoherence.Proofs.SortedMap
import CacheCoherence.Registry

/-!
Runs of a registry. Whatever is done to it comes down to three changes: a session
is enrolled for a node that has none, one is changed in what does not concern its
registration, or a live one ends. So an assertion that withstands these three
holds of every run. A session ends once, and not while it is live is anything
done with it.
-/

namespace CacheCoherence.Registry

theorem session?_modify (r : Registry) (id : SessionId) (f : Session → Session) (j : SessionId) :
    (r.modify id f).session? j = if j = id then (r.session? j).map f else r.session? j := by
  simp only [modify, session?, List.getElem?_modify]
  by_cases e : j = id
  · simp [e]
  · simp [e, Ne.symm e]

theorem session?_shutDown_self {r : Registry} {id : SessionId} {session : Session}
    (present : r.session? id = some session) :
    (r.shutDown id).session? id = some { session with shutDown := true } := by
  rw [shutDown, session?_modify, if_pos rfl, present]
  rfl

/-- Only what is made of the session that is there matters. -/
theorem modify_congr {r : Registry} {id : SessionId} {session : Session} {f g : Session → Session}
    (present : r.session? id = some session) (same : f session = g session) :
    r.modify id f = r.modify id g := by
  have sessions : r.sessions.modify id f = r.sessions.modify id g := by
    refine List.ext_getElem? fun j => ?_
    rw [List.getElem?_modify, List.getElem?_modify]
    by_cases e : id = j
    · subst e
      rw [show r.sessions[id]? = some session from present]
      simp [same]
    · simp [e]
  rw [modify, modify, sessions]

theorem length_sessions_modify (r : Registry) (id : SessionId) (f : Session → Session) :
    (r.modify id f).sessions.length = r.sessions.length :=
  List.length_modify ..

/-- A new session for a node. -/
def enrol (r : Registry) (n : NodeId) : Registry :=
  ⟨r.sessions ++ [{ node := n }], r.live.insert n r.sessions.length⟩

theorem register_eq (r : Registry) (n : NodeId) :
    r.register n =
      match r.live.get? n with
      | some _ => .error (.alreadyRegistered n)
      | none => .ok (r.enrol n, r.sessions.length) := by
  rw [register, SortedMap.contains]
  cases r.live.get? n <;> rfl

theorem session?_enrol (r : Registry) (n : NodeId) (j : SessionId) :
    (r.enrol n).session? j =
      if j = r.sessions.length then some { node := n } else r.session? j := by
  rw [enrol, session?, List.getElem?_append]
  split
  next inside => rw [if_neg (Nat.ne_of_lt inside)]; rfl
  next outside =>
    by_cases e : j = r.sessions.length
    · simp [e]
    · have beyond : r.sessions.length < j :=
        Nat.lt_of_le_of_ne (Nat.le_of_not_lt outside) (Ne.symm e)
      have unknown : r.session? j = none := List.getElem?_eq_none (Nat.le_of_lt beyond)
      rw [if_neg e, unknown]
      exact List.getElem?_eq_none (Nat.sub_pos_of_lt beyond)

/-- What is left of the registry when the session of a node has ended. -/
def strike (r : Registry) (n : NodeId) (id : SessionId) : Registry :=
  { r.shutDown id with live := r.live.erase n }

theorem session?_strike (r : Registry) (n : NodeId) (id j : SessionId) :
    (r.strike n id).session? j = (r.shutDown id).session? j := rfl

variable {σ τ α : Type}

theorem endSession_eq (r : Registry) (n : NodeId) (id : SessionId) (release : Release σ) (s : σ) :
    r.endSession n id release s = (r.strike n id, release (r.shutDown id) id s) := rfl

/-- Ends the sessions of some entries one after the other. -/
def endAll (release : Release σ) (acc : List SessionId × Registry × σ)
    (entries : List (NodeId × SessionId)) : List SessionId × Registry × σ :=
  entries.foldl
    (fun acc e =>
      let ended := acc.2.1.endSession e.1 e.2 release acc.2.2
      (acc.1 ++ [e.2], ended))
    acc

theorem endAll_fst (release : Release σ) (acc : List SessionId × Registry × σ)
    (entries : List (NodeId × SessionId)) :
    (endAll release acc entries).1 = acc.1 ++ entries.map Prod.snd := by
  induction entries generalizing acc with
  | nil => exact (List.append_nil _).symm
  | cons e entries ih => exact (ih _).trans (List.append_assoc ..)

theorem length_sessions_endAll (release : Release σ) (acc : List SessionId × Registry × σ)
    (entries : List (NodeId × SessionId)) :
    (endAll release acc entries).2.1.sessions.length = acc.2.1.sessions.length := by
  induction entries generalizing acc with
  | nil => rfl
  | cons e entries ih => exact (ih _).trans (length_sessions_modify ..)

theorem get?_live_endAll (release : Release σ) (acc : List SessionId × Registry × σ)
    (entries : List (NodeId × SessionId)) (n : NodeId) :
    (endAll release acc entries).2.1.live.get? n =
      if n ∈ entries.map Prod.fst then none else acc.2.1.live.get? n := by
  induction entries generalizing acc with
  | nil => rfl
  | cons e entries ih =>
      rw [endAll, List.foldl_cons, ← endAll, ih]
      change (if _ then none else (acc.2.1.live.erase e.1).get? n) = _
      rw [SortedMap.get?_erase]
      have named : n ∈ (e :: entries).map Prod.fst ↔ n ∈ entries.map Prod.fst ∨ n = e.1 := by
        rw [List.map_cons, List.mem_cons, or_comm]
      by_cases later : n ∈ entries.map Prod.fst
      · rw [if_pos later, if_pos (named.mpr (.inl later))]
      · rw [if_neg later]
        refine if_congr ?_ rfl rfl
        rw [named, or_iff_right later]

theorem unregisterAll_eq (r : Registry) (release : Release σ) (s : σ) :
    r.unregisterAll release s = endAll release ([], r, s) r.live.entries := rfl

/-- The session that is registered for a node is a session of that node. -/
def Sound (r : Registry) : Prop :=
  ∀ n id, r.live.get? n = some id → ∃ session, r.session? id = some session ∧ session.node = n

theorem sound_empty : ({} : Registry).Sound := nofun

section Sound

variable {r : Registry} (h : r.Sound)

include h

theorem Sound.isLive_iff (id : SessionId) : r.isLive id = true ↔ ∃ n, r.live.get? n = some id := by
  rw [isLive]
  constructor
  · intro live
    cases present : r.session? id with
    | none => simp [present] at live
    | some session => exact ⟨session.node, by simpa [present] using live⟩
  · rintro ⟨n, live⟩
    obtain ⟨session, present, rfl⟩ := h n id live
    simpa [present] using live

theorem Sound.lt_length {n : NodeId} {id : SessionId} (live : r.live.get? n = some id) :
    id < r.sessions.length := by
  obtain ⟨session, present, -⟩ := h n id live
  exact (List.getElem?_eq_some_iff.mp present).1

theorem Sound.node_eq {n m : NodeId} {id : SessionId} (hn : r.live.get? n = some id)
    (hm : r.live.get? m = some id) : n = m := by
  obtain ⟨session, present, rfl⟩ := h n id hn
  obtain ⟨other, present', rfl⟩ := h m id hm
  rw [present, Option.some.injEq] at present'
  rw [present']

theorem Sound.enrol (n : NodeId) : (r.enrol n).Sound := by
  intro m id live
  rw [session?_enrol]
  simp only [Registry.enrol, SortedMap.get?_insert] at live
  split at live
  next e =>
    cases live
    exact ⟨_, if_pos rfl, e.symm⟩
  next =>
    rw [if_neg (Nat.ne_of_lt (h.lt_length live))]
    exact h m id live

theorem Sound.modify (id : SessionId) {f : Session → Session}
    (node : ∀ session, (f session).node = session.node) : (r.modify id f).Sound := by
  intro m j live
  obtain ⟨session, present, own⟩ := h m j live
  rw [session?_modify, present]
  split
  · exact ⟨f session, rfl, (node session).trans own⟩
  · exact ⟨session, rfl, own⟩

theorem Sound.strike (n : NodeId) (id : SessionId) : (r.strike n id).Sound := by
  intro m j live
  simp only [Registry.strike, SortedMap.get?_erase] at live
  split at live
  · cases live
  · exact h.modify (f := fun s => { s with shutDown := true }) id (fun _ => rfl) m j live

theorem Sound.isLive_enrol {n : NodeId} (absent : r.live.get? n = none) (j : SessionId) :
    (r.enrol n).isLive j = true ↔ j = r.sessions.length ∨ r.isLive j = true := by
  rw [(h.enrol n).isLive_iff, h.isLive_iff]
  simp only [Registry.enrol, SortedMap.get?_insert]
  constructor
  · rintro ⟨m, live⟩
    split at live
    · cases live
      exact .inl rfl
    · exact .inr ⟨m, live⟩
  · rintro (rfl | ⟨m, live⟩)
    · exact ⟨n, if_pos rfl⟩
    · refine ⟨m, ?_⟩
      rw [if_neg, live]
      rintro rfl
      rw [absent] at live
      cases live

theorem Sound.isLive_modify (id : SessionId) {f : Session → Session}
    (node : ∀ session, (f session).node = session.node) (j : SessionId) :
    (r.modify id f).isLive j = r.isLive j := by
  rw [Bool.eq_iff_iff, (h.modify id node).isLive_iff, h.isLive_iff]
  rfl

theorem Sound.isLive_strike {n : NodeId} {id : SessionId} (live : r.live.get? n = some id)
    (j : SessionId) : (r.strike n id).isLive j = true ↔ j ≠ id ∧ r.isLive j = true := by
  rw [(h.strike n id).isLive_iff, h.isLive_iff]
  simp only [Registry.strike, SortedMap.get?_erase]
  constructor
  · rintro ⟨m, still⟩
    split at still
    · cases still
    next ne =>
      refine ⟨?_, m, still⟩
      rintro rfl
      exact ne (h.node_eq still live)
  · rintro ⟨ne, m, still⟩
    refine ⟨m, ?_⟩
    rw [if_neg, still]
    rintro rfl
    rw [live, Option.some.injEq] at still
    exact ne still.symm

end Sound

/-- What may be done to a registry. Where sessions may end, it is said what is to be done with
each that does. -/
inductive Operation (α : Type) where
  | register (n : NodeId)
  | unregister (n : NodeId) (act : α)
  | close (id : SessionId) (act : α)
  | unregisterAll (act : α)
  | signal (id : SessionId)

/-- The registry, and what the releases work on, after an operation that may have been refused. -/
def step (perform : α → Release σ) (x : Registry × σ) : Operation α → Registry × σ
  | .register n =>
    match x.1.register n with
    | .ok (r, _) => (r, x.2)
    | .error _ => x
  | .unregister n act =>
    match x.1.unregister n (perform act) x.2 with
    | .ok (_, ended) => ended
    | .error _ => x
  | .close id act => x.1.close id (perform act) x.2
  | .unregisterAll act => (x.1.unregisterAll (perform act) x.2).2
  | .signal id => (x.1.shutDown id, x.2)

def after (perform : α → Release σ) (x : Registry × σ) (ops : List (Operation α)) : Registry × σ :=
  ops.foldl (step perform) x

/-- The changes that an assertion about a registry has to withstand. -/
structure Keeps (perform : α → Release σ) (P : Registry × σ → Prop) : Prop where
  enrol : ∀ {r s n}, P (r, s) → r.live.get? n = none → P (r.enrol n, s)
  modify : ∀ {r s} (id : SessionId) {f : Session → Session}, P (r, s) →
    (∀ session, (f session).node = session.node) →
    (∀ session, session.shutDown = true → (f session).shutDown = true) → P (r.modify id f, s)
  ended : ∀ {r s n id} (act : α), P (r, s) → r.live.get? n = some id →
    P (r.endSession n id (perform act) s)

section Keeps

variable {perform : α → Release σ} {P : Registry × σ → Prop} (k : Keeps perform P)

include k

theorem Keeps.shutDown {r : Registry} {s : σ} (h : P (r, s)) (id : SessionId) :
    P (r.shutDown id, s) :=
  k.modify id h (fun _ => rfl) fun _ _ => rfl

/-- Entries that are still to be ended stay live while others are ended, since each is for a node of
its own. -/
theorem Keeps.endAll (act : α) (entries : List (NodeId × SessionId)) {ids : List SessionId}
    {x : Registry × σ} (h : P x) (live : ∀ e ∈ entries, x.1.live.get? e.1 = some e.2)
    (distinct : entries.Pairwise fun a b => a.1 ≠ b.1) :
    P (endAll (perform act) (ids, x) entries).2 := by
  induction entries generalizing ids x with
  | nil => exact h
  | cons e entries ih =>
      rw [List.pairwise_cons] at distinct
      refine ih (k.ended act h (live e List.mem_cons_self)) (fun e' he' => ?_) distinct.2
      change (x.1.live.erase e.1).get? e'.1 = some e'.2
      rw [SortedMap.get?_erase, if_neg (distinct.1 e' he').symm]
      exact live e' (List.mem_cons_of_mem _ he')

end Keeps

theorem pairwise_nodes (r : Registry) : r.nodes.Pairwise fun a b => a.value < b.value :=
  List.pairwise_map.mpr <| r.live.ascending.imp fun lt => Nat.compare_eq_lt.mp lt

theorem pairwise_ne_live (r : Registry) : r.live.entries.Pairwise fun a b => a.1 ≠ b.1 :=
  (List.pairwise_map.mp r.pairwise_nodes).imp fun lt same => by
    rw [same] at lt
    exact Nat.lt_irrefl _ lt

theorem mem_nodes_iff (r : Registry) (n : NodeId) :
    n ∈ r.nodes ↔ ∃ id, r.live.get? n = some id := by
  simp only [nodes, SortedMap.keys, List.mem_map, SortedMap.get?_eq_some_iff]
  constructor
  · rintro ⟨⟨m, id⟩, here, rfl⟩
    exact ⟨id, here⟩
  · rintro ⟨id, here⟩
    exact ⟨(n, id), here, rfl⟩

theorem mem_nodes_enrol (r : Registry) (n : NodeId) {m : NodeId} (h : m ∈ r.nodes) :
    m ∈ (r.enrol n).nodes := by
  obtain ⟨id, live⟩ := (r.mem_nodes_iff m).mp h
  rw [mem_nodes_iff]
  simp only [enrol, SortedMap.get?_insert]
  split
  · exact ⟨_, rfl⟩
  · exact ⟨id, live⟩

theorem mem_nodes_strike (r : Registry) (n : NodeId) (id : SessionId) {m : NodeId}
    (h : m ∈ r.nodes) (ne : m ≠ n) : m ∈ (r.strike n id).nodes := by
  obtain ⟨other, live⟩ := (r.mem_nodes_iff m).mp h
  rw [mem_nodes_iff]
  refine ⟨other, ?_⟩
  rw [strike, SortedMap.get?_erase, if_neg ne]
  exact live

theorem not_mem_nodes_strike (r : Registry) (n : NodeId) (id : SessionId) :
    n ∉ (r.strike n id).nodes := by
  intro member
  obtain ⟨other, live⟩ := (mem_nodes_iff _ n).mp member
  rw [strike, SortedMap.get?_erase, if_pos rfl] at live
  cases live

/-- When all sessions have been ended, nobody is registered. -/
theorem nodes_unregisterAll (r : Registry) (release : Release σ) (s : σ) :
    (r.unregisterAll release s).2.1.nodes = [] := by
  refine List.eq_nil_iff_forall_not_mem.mpr fun n hn => ?_
  obtain ⟨e, he, rfl⟩ := List.mem_map.mp hn
  have found := SortedMap.get?_eq_some_iff.mpr he
  rw [unregisterAll_eq, get?_live_endAll] at found
  split at found
  · cases found
  next absent =>
    exact absent (List.mem_map_of_mem (SortedMap.get?_eq_some_iff.mp found))

theorem Keeps.step {perform : α → Release σ} {P : Registry × σ → Prop} (k : Keeps perform P)
    {x : Registry × σ} (h : P x) (op : Operation α) : P (step perform x op) := by
  obtain ⟨r, s⟩ := x
  cases op with
  | register n =>
      simp only [Registry.step, register_eq]
      cases live : r.live.get? n with
      | none => exact k.enrol h live
      | some id => exact h
  | unregister n act =>
      simp only [Registry.step, unregister]
      cases live : r.live.get? n with
      | none => exact h
      | some id => exact k.ended act h live
  | close id act =>
      simp only [Registry.step, close]
      cases r.session? id with
      | none => exact h
      | some session =>
          dsimp only
          split
          next live => exact k.ended act h live
          next => exact k.shutDown h id
  | unregisterAll act =>
      refine k.endAll act r.live.entries h (fun e he => ?_) r.pairwise_ne_live
      exact SortedMap.get?_eq_some_iff.mpr he
  | signal id => exact k.shutDown h id

theorem Keeps.after {perform : α → Release σ} {P : Registry × σ → Prop} (k : Keeps perform P)
    {x : Registry × σ} (h : P x) (ops : List (Operation α)) : P (after perform x ops) := by
  induction ops generalizing x with
  | nil => exact h
  | cons op ops ih => exact ih (k.step h op)

end CacheCoherence.Registry
