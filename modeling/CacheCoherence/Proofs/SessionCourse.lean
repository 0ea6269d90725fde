import CacheCoherence.Proofs.RegisteredHolders

/-!
What becomes of one session, whatever is done to its server. Nobody claims it
but by the operation that does so, and once it is over it stays over. What its
node holds then it holds by another registration, or it was granted while it was
not registered.
-/

namespace CacheCoherence

namespace Registry

/-- The session is there as it was, or has been shut down since. -/
def Remains (r : Registry) (id : SessionId) (session : Session) : Prop :=
  r.session? id = some session ∨ r.session? id = some { session with shutDown := true }

section Remains

variable {r : Registry} {id : SessionId} {session : Session}

theorem Remains.enrol (h : r.Remains id session) (n : NodeId) : (r.enrol n).Remains id session := by
  have inside : id < r.sessions.length := by
    obtain there | there := h <;> exact (List.getElem?_eq_some_iff.mp there).1
  rw [Remains, session?_enrol, if_neg (Nat.ne_of_lt inside)]
  exact h

theorem Remains.shutDown (h : r.Remains id session) (j : SessionId) :
    (r.shutDown j).Remains id session := by
  rw [Remains, Registry.shutDown, session?_modify]
  split
  · obtain there | there := h <;> rw [there] <;> exact .inr rfl
  · exact h

variable {σ α : Type}

theorem Remains.endAll {release : Release σ} (entries : List (NodeId × SessionId))
    (acc : List SessionId × Registry × σ) (h : acc.2.1.Remains id session) :
    (endAll release acc entries).2.1.Remains id session := by
  induction entries generalizing acc with
  | nil => exact h
  | cons e entries ih => exact ih _ (h.shutDown e.2)

theorem Remains.step (perform : α → Release σ) {x : Registry × σ} (h : x.1.Remains id session)
    (op : Operation α) : (step perform x op).1.Remains id session := by
  cases op with
  | register n =>
      simp only [Registry.step, register_eq]
      cases x.1.live.get? n with
      | some other => exact h
      | none => exact h.enrol n
  | unregister n act =>
      simp only [Registry.step, unregister]
      cases x.1.live.get? n with
      | none => exact h
      | some j => exact h.shutDown j
  | close j act =>
      simp only [Registry.step, close]
      cases x.1.session? j with
      | none => exact h
      | some other =>
          dsimp only
          split <;> exact h.shutDown j
  | unregisterAll act => exact Remains.endAll x.1.live.entries ([], x) h
  | signal j => exact h.shutDown j

end Remains

/-- The session has been shut down and is not its node's registration. -/
structure Over (r : Registry) (id : SessionId) (n : NodeId) : Prop where
  shutDown : ∃ session, r.session? id = some session ∧ session.shutDown = true
  unregistered : r.live.get? n ≠ some id

end Registry

namespace Server

/-- The session is there, and nobody has claimed it for a channel. -/
def Unclaimed (s : Server) (id : SessionId) : Prop :=
  ∃ session, s.registry.session? id = some session ∧ session.attached = false

/-- The session is there, and has not been shut down. -/
def Up (s : Server) (id : SessionId) : Prop :=
  ∃ session, s.registry.session? id = some session ∧ session.shutDown = false

section Session

variable {s : Server} {id : SessionId} {P : Session → Prop}
  (h : ∃ session, s.registry.session? id = some session ∧ P session)

include h

/-- What holds of a session still does when sessions change in a way that it withstands. -/
theorem exists_session_modify {r : Registry} (same : r = s.registry) {j : SessionId}
    {f : Session → Session} (kept : j = id → ∀ session, P session → P (f session)) :
    ∃ session, (r.modify j f).session? id = some session ∧ P session := by
  obtain ⟨session, present, holds⟩ := h
  rw [same, Registry.session?_modify, present]
  split
  next e => exact ⟨f session, rfl, kept e.symm session holds⟩
  next => exact ⟨session, rfl, holds⟩

theorem exists_session_process
    (kept : ∀ outcome session, P session → P (countOutcome outcome session)) (j : SessionId)
    (r : Request) :
    ∃ session, (s.step (.process j r)).registry.session? id = some session ∧ P session := by
  rw [step, process_eq]
  cases s.registry.session? j with
  | none => exact h
  | some session =>
      exact exists_session_modify h (s.frame_apply session.node r).2.1 fun _ => kept _

theorem exists_session_attach (j : SessionId)
    (kept : j = id → ∀ session, P session → P { session with attached := true }) :
    ∃ session, (s.step (.attach j)).registry.session? id = some session ∧ P session := by
  rw [Server.step]
  cases claimed : s.registry.attach? j with
  | none => exact h
  | some result =>
      cases result with
      | error e => exact h
      | ok registry =>
          dsimp only
          rw [Registry.attach?_eq_ok claimed]
          exact exists_session_modify h rfl kept

end Session

section Unclaimed

variable {s : Server} {id : SessionId} (h : s.Unclaimed id)

include h

theorem Unclaimed.process (j : SessionId) (r : Request) : (s.step (.process j r)).Unclaimed id := by
  refine exists_session_process h (fun outcome session free => ?_) j r
  refine Eq.trans ?_ free
  simp only [countOutcome]
  split <;> rfl

theorem Unclaimed.called (n : NodeId) (r : Request) : (s.called n r).Unclaimed id := by
  rw [called_eq]
  cases s.registry.live.get? n with
  | none => exact h
  | some j => exact h.process j r

/-- A session is claimed by the operation that claims it only. -/
theorem Unclaimed.step {op : Operation} (other : op ≠ .attach id) : (s.step op).Unclaimed id := by
  cases op with
  | register _ | unregister _ | closeSession _ | shutdown | signal _ =>
      obtain ⟨session, present, free⟩ := h
      rw [step_of_registration? s rfl]
      have remains : s.registry.Remains id session := .inl present
      obtain there | there := remains.step (fun _ => release) (x := (s.registry, s.directory, [])) _
      · exact ⟨_, there, free⟩
      · exact ⟨_, there, free⟩
  | process j r => exact h.process j r
  | call n r => exact h.called n r
  | callArrays n a =>
      rw [Server.step]
      cases Batch.ofArrays a with
      | ok b => exact h.called n (.commit b)
      | error e => exact h
  | attach j =>
      exact exists_session_attach h j fun e => absurd (congrArg Operation.attach e) other
  | directory _ | subscribe | unsubscribe _ | drain _ | disorder _ => exact h

end Unclaimed

/-- A session is not shut down by being claimed or by its requests. -/
theorem Up.attach {s : Server} {id : SessionId} (h : s.Up id) (j : SessionId) :
    (s.step (.attach j)).Up id :=
  exists_session_attach h j fun _ _ up => up

theorem Up.process {s : Server} {id : SessionId} (h : s.Up id) (j : SessionId) (r : Request) :
    (s.step (.process j r)).Up id :=
  exists_session_process h
    (fun outcome session up => (shutDown_countOutcome outcome session).trans up) j r

/-- One of the operations, each with the server that it was done to, has shut the session down. -/
def Dismissed (others : List (Server × Operation)) (id : SessionId) : Prop :=
  ∃ s op, (s, op) ∈ others ∧ s.Up id ∧ ¬(s.step op).Up id

theorem Dismissed.mono {others more : List (Server × Operation)} {id : SessionId}
    (h : Dismissed others id) (le : others ⊆ more) : Dismissed more id := by
  obtain ⟨s, op, among, up, down⟩ := h
  exact ⟨s, op, le among, up, down⟩

/-- Whatever others do to the server, the session is up until one of them shuts it down. -/
theorem up_or_dismissed_step {s : Server} {others : List (Server × Operation)} {id : SessionId}
    (h : s.Up id ∨ Dismissed others id) (op : Operation) :
    (s.step op).Up id ∨ Dismissed (others ++ [(s, op)]) id := by
  obtain up | dismissed := h
  · by_cases still : (s.step op).Up id
    · exact .inl still
    · exact .inr ⟨s, op, List.mem_append_right _ (List.mem_singleton.mpr rfl), up, still⟩
  · exact .inr (dismissed.mono (List.subset_append_left ..))

theorem keeps_over (id : SessionId) (n : NodeId) :
    Registry.Keeps (fun _ : Unit => release) fun x => x.1.Over id n where
  enrol {r s m} h _ := by
    obtain ⟨session, present, down⟩ := h.shutDown
    have inside : id < r.sessions.length := (List.getElem?_eq_some_iff.mp present).1
    refine ⟨⟨session, ?_, down⟩, ?_⟩
    · rw [Registry.session?_enrol, if_neg (Nat.ne_of_lt inside), present]
    · simp only [Registry.enrol, SortedMap.get?_insert]
      split
      · exact fun e => absurd (Option.some.inj e).symm (Nat.ne_of_lt inside)
      · exact h.unregistered
  modify {r s} j f h _ lasting := by
    obtain ⟨session, present, down⟩ := h.shutDown
    refine ⟨?_, h.unregistered⟩
    rw [Registry.session?_modify, present]
    split
    · exact ⟨f session, rfl, lasting session down⟩
    · exact ⟨session, rfl, down⟩
  ended {r s m j} _ h _ := by
    obtain ⟨session, present, down⟩ := h.shutDown
    rw [Registry.endSession_eq]
    refine ⟨?_, ?_⟩
    · rw [Registry.session?_strike, Registry.shutDown, Registry.session?_modify, present]
      split
      · exact ⟨_, rfl, rfl⟩
      · exact ⟨session, rfl, down⟩
    · simp only [Registry.strike, SortedMap.get?_erase]
      split
      · exact (Option.some_ne_none id).symm
      · exact h.unregistered

theorem over_step {s : Server} {id : SessionId} {n : NodeId} (h : s.registry.Over id n)
    (op : Operation) : (s.step op).registry.Over id n :=
  withstands_step (P := fun r _ => r.Over id n) (keeps_over id n) (fun _ _ _ h => h) h fun _ _ => h

/-- A session that is closed is over, whether it was its node's registration until then or not. -/
theorem over_closeSession {s : Server} {id : SessionId} {n : NodeId} (h : s.nodeOf id = some n) :
    (s.step (.closeSession id)).registry.Over id n := by
  obtain ⟨session, present, rfl⟩ := Option.map_eq_some_iff.mp h
  have down := Registry.session?_shutDown_self present
  rw [step, closeSession, Registry.close, present]
  dsimp only [ended]
  split
  · rw [Registry.endSession_eq]
    refine ⟨⟨_, down, rfl⟩, ?_⟩
    rw [Registry.strike, SortedMap.get?_erase, if_pos rfl]
    exact (Option.some_ne_none id).symm
  next stale => exact ⟨⟨_, down, rfl⟩, stale⟩

/-- One of the operations, each with the server that it was done to, gave the node the key while the
node was not registered. -/
def Strayed (others : List (Server × Operation)) (n : NodeId) (k : Key) : Prop :=
  ∃ s level, (s, .directory (.grant k n level)) ∈ others ∧ n ∉ s.registry.nodes ∧
    ((s.directory.step (.grant k n level)).state k).levelOf n ≠ none

/-- Either the node is registered, or it holds no key but those that it is excused for. -/
structure Fenced (n : NodeId) (excused : Key → Prop) (r : Registry) (d : Directory) : Prop where
  sound : r.Sound
  kept : d.Kept
  registered : ∀ k, (d.state k).levelOf n ≠ none → n ∈ r.nodes ∨ excused k

section Fenced

variable {n : NodeId} {excused : Key → Prop}

theorem Fenced.mono {r : Registry} {d : Directory} (h : Fenced n excused r d) {more : Key → Prop}
    (le : ∀ k, excused k → more k) : Fenced n more r d :=
  ⟨h.sound, h.kept, fun k holds => (h.registered k holds).imp_right (le k)⟩

theorem Fenced.directory {r : Registry} {d : Directory} (h : Fenced n excused r d)
    (op : Directory.Operation)
    (entitled : ∀ k level, op = .grant k n level → ((d.step op).state k).levelOf n ≠ none →
      n ∈ r.nodes ∨ excused k) : Fenced n excused r (d.step op) where
  sound := h.sound
  kept := h.kept.step op
  registered k holds := by
    obtain before | ⟨level, granted⟩ := Directory.holds_of_holds_step h.kept.wide holds
    · exact h.registered k before
    · exact entitled k level granted holds

theorem keeps_fenced (n : NodeId) (excused : Key → Prop) :
    Registry.Keeps (fun _ : Unit => release) fun x => Fenced n excused x.1 x.2.1 where
  enrol h _ := ⟨h.sound.enrol _, h.kept, fun k holds =>
    (h.registered k holds).imp_left (Registry.mem_nodes_enrol _ _)⟩
  modify id _ h node _ := ⟨h.sound.modify id node, h.kept, h.registered⟩
  ended {r s m id} _ h live := by
    rw [Registry.endSession_eq]
    refine ⟨h.sound.strike m id, kept_release h.kept, fun k holds => ?_⟩
    obtain ⟨ne, before⟩ := holds_of_holds_release h.sound live holds
    exact (h.registered k before).imp_left fun member => r.mem_nodes_strike m id member ne

theorem Fenced.of_step {s : Server} (h : Fenced n excused s.registry s.directory) {op : Operation}
    (entitled : ∀ k level, op = .directory (.grant k n level) →
      ((s.directory.step (.grant k n level)).state k).levelOf n ≠ none →
        n ∈ s.registry.nodes ∨ excused k) :
    Fenced n excused (s.step op).registry (s.step op).directory := by
  refine withstands_step (keeps_fenced n excused) (fun k m c h => h.directory (.change k m c) nofun)
    h fun o eq => h.directory o fun k level granted holds => ?_
  subst granted
  exact entitled k level eq holds

/-- Whoever does something to the server, what is held by a node that is not registered then has
strayed to it. -/
theorem Fenced.step {s : Server} {others : List (Server × Operation)}
    (h : Fenced n (Strayed others n) s.registry s.directory) (op : Operation) :
    Fenced n (Strayed (others ++ [(s, op)]) n) (s.step op).registry (s.step op).directory := by
  have wider : Fenced n (Strayed (others ++ [(s, op)]) n) s.registry s.directory := by
    refine h.mono fun k strayed => ?_
    obtain ⟨s', level, member, stray⟩ := strayed
    exact ⟨s', level, List.mem_append_left _ member, stray⟩
  refine wider.of_step fun k level eq holds => ?_
  by_cases member : n ∈ s.registry.nodes
  · exact .inl member
  · refine .inr ⟨s, level, List.mem_append_right _ (List.mem_singleton.mpr ?_), member, holds⟩
    rw [eq]

end Fenced

theorem reachable_after {s : Server} (h : s.Reachable) (ops : List Operation) :
    (s.after ops).Reachable := by
  obtain ⟨start, before, started, rfl⟩ := h
  refine ⟨start, before ++ ops, started, ?_⟩
  rw [after, after, after, List.foldl_append]

theorem fenced_of_reachable {s : Server} (h : s.Reachable) (n : NodeId) :
    Fenced n (fun _ => True) s.registry s.directory := by
  obtain ⟨start, ops, started, rfl⟩ := h
  have held := held_of_started started
  have fenced : Fenced n (fun _ => True) start.registry start.directory :=
    ⟨held.sound, held.kept, fun _ _ => .inr trivial⟩
  clear held started
  induction ops generalizing start with
  | nil => exact fenced
  | cons op ops ih => exact ih (start.step op) (fenced.of_step fun _ _ _ _ => .inr trivial)

end Server

end CacheCoherence
