import CacheCoherence.Proofs.Registry
import CacheCoherence.Proofs.ServerRun

/-!
Requests of different nodes commute. What a request comes to, up to the recorded
state that a fault quotes, depends on the levels of its own node alone, and it
changes no level of another node. So each node gets the results that its
requests would get if they were processed alone, in whatever order the requests
of others come between them.
-/

namespace CacheCoherence

/-- A fault without the recorded state that it quotes. -/
def ConsistencyFault.withoutRecorded : ConsistencyFault → ConsistencyFault
  | .notHeld n k _ => .notHeld n k .unheld
  | .notWriter n k _ => .notWriter n k .unheld
  | .commitNotWriter n k _ => .commitNotWriter n k .unheld
  | .reported m => .reported m

def Error.withoutRecorded : Error → Error
  | .consistency f => .consistency f.withoutRecorded
  | e => e

def Outcome.withoutRecorded (o : Outcome) : Outcome :=
  o.mapError Error.withoutRecorded

theorem Outcome.isOk_eq_of_withoutRecorded {o p : Outcome}
    (h : o.withoutRecorded = p.withoutRecorded) : o.isOk = p.isOk := by
  cases o <;> cases p <;> first | rfl | cases h

namespace Access.State

theorem levelOf_changed_of_ne (s : State) {n m : NodeId} (c : Change) (ne : m ≠ n) :
    (s.changed n c).levelOf m = s.levelOf m := by
  rw [levelOf_changed, if_neg ne]

theorem change?_isSome_congr {s t : State} {n : NodeId} (h : s.levelOf n = t.levelOf n)
    (c : Change) : (s.change? n c).isSome = (t.change? n c).isSome := by
  have same : s.change? n c = none ↔ t.change? n c = none := by
    rw [change?_eq_none_iff, change?_eq_none_iff, h]
  cases hs : s.change? n c <;> cases ht : t.change? n c <;> simp_all

theorem levelOf_changed_congr {s t : State} {n : NodeId} (h : s.levelOf n = t.levelOf n)
    (c : Change) : (s.changed n c).levelOf n = (t.changed n c).levelOf n := by
  rw [levelOf_changed, levelOf_changed, if_pos rfl, if_pos rfl, h]

/-- Nobody comes to write a key by giving up access. -/
theorem levelOf_of_changed_write {s : State} {n : NodeId} {c : Change}
    (h : (s.changed n c).levelOf n = some .write) : s.levelOf n = some .write := by
  rw [levelOf_changed, if_pos rfl] at h
  cases c with
  | release => cases h
  | weaken =>
      obtain ⟨_, _, ⟨⟩⟩ := Option.map_eq_some_iff.mp h

end Access.State

namespace Server

/-- What two servers have in common for the requests of `n`: everything such a request looks at or
changes, where `own` are keys whose values nobody but `n` can change. -/
structure SameFor (n : NodeId) (own : Key → Prop) (s t : Server) : Prop where
  wide_left : 0 < s.directory.shards.length
  wide_right : 0 < t.directory.shards.length
  settings : s.settings = t.settings
  disorder : s.store.disorder = t.store.disorder
  level : ∀ k, (s.directory.state k).levelOf n = (t.directory.state k).levelOf n
  sessions : ∀ id session, session.node = n →
    (s.registry.session? id = some session ↔ t.registry.session? id = some session)
  alone : ∀ k, own k → ∀ m, (s.directory.state k).levelOf m = some .write → m = n
  value : ∀ k, own k → s.store.value? k = t.store.value? k

variable {n : NodeId} {own : Key → Prop} {s t : Server}

theorem commit_congr (h : SameFor n own s t) (b : Batch) :
    Outcome.withoutRecorded (s.commit n b).1 = Outcome.withoutRecorded (t.commit n b).1 := by
  have fits : s.checkBatch b = t.checkBatch b := by
    simp only [checkBatch, h.settings]
  have written : s.directory.firstNotWritten n b.keys = t.directory.firstNotWritten n b.keys := by
    rw [Directory.firstNotWritten, Directory.firstNotWritten]
    congr 1
    funext k
    have writer : (s.directory.state k).writer? = some n ↔
        (t.directory.state k).writer? = some n := by
      rw [Access.State.writer?_eq_some_iff, Access.State.writer?_eq_some_iff, h.level]
    simp [writer]
  rw [commit_eq, commit_eq, fits, written, h.disorder]
  cases t.checkBatch b with
  | error e => rfl
  | ok =>
      cases t.directory.firstNotWritten n b.keys with
      | some k => rfl
      | none => cases t.store.disorder <;> rfl

theorem outcome_congr (h : SameFor n own s t) (r : Request) :
    Outcome.withoutRecorded (s.apply n r).1 = Outcome.withoutRecorded (t.apply n r).1 := by
  cases change : r.change? with
  | none =>
      obtain ⟨b, rfl⟩ := Request.commit_of_change?_eq_none change
      exact commit_congr h b
  | some p =>
      obtain ⟨k, c⟩ := p
      rw [apply_of_change? s n change, apply_of_change? t n change, changeDirectory_change,
        changeDirectory_change]
      have same := Access.State.change?_isSome_congr (h.level k) c
      cases hs : (s.directory.state k).change? n c <;>
        cases ht : (t.directory.state k).change? n c
      · cases c <;> rfl
      · simp [hs, ht] at same
      · simp [hs, ht] at same
      · rfl

theorem levelOf_apply_of_ne (wide : 0 < s.directory.shards.length) {m : NodeId} (ne : m ≠ n)
    (r : Request) (k : Key) :
    ((s.apply n r).2.directory.state k).levelOf m = (s.directory.state k).levelOf m := by
  rw [state_apply wide]
  cases r.change? with
  | none => rfl
  | some p =>
      dsimp only
      split
      · exact Access.State.levelOf_changed_of_ne _ p.2 ne
      · rfl

theorem wide_apply (wide : 0 < s.directory.shards.length) (n : NodeId) (r : Request) :
    0 < (s.apply n r).2.directory.shards.length := by
  rw [directory_apply]
  cases r.change? with
  | none => exact wide
  | some p =>
      dsimp only
      rw [Directory.length_shards_step]
      exact wide

theorem disorder_apply (s : Server) (n : NodeId) (r : Request) :
    (s.apply n r).2.store.disorder = s.store.disorder := by
  rw [store_apply]
  cases r with
  | commit b =>
      dsimp only
      split <;> rfl
  | _ => rfl

/-- A request of `n` itself does the same on both sides. -/
theorem SameFor.apply (h : SameFor n own s t) (r : Request) :
    SameFor n own (s.apply n r).2 (t.apply n r).2 where
  wide_left := wide_apply h.wide_left n r
  wide_right := wide_apply h.wide_right n r
  settings := by rw [(s.frame_apply n r).1, (t.frame_apply n r).1, h.settings]
  disorder := by rw [disorder_apply, disorder_apply, h.disorder]
  level k := by
    rw [state_apply h.wide_left, state_apply h.wide_right]
    cases r.change? with
    | none => exact h.level k
    | some p =>
        dsimp only
        split
        · exact Access.State.levelOf_changed_congr (h.level k) p.2
        · exact h.level k
  sessions := by
    rw [(s.frame_apply n r).2.1, (t.frame_apply n r).2.1]
    exact h.sessions
  alone k hk m writes := by
    by_cases e : m = n
    · exact e
    · rw [levelOf_apply_of_ne h.wide_left e] at writes
      exact h.alone k hk m writes
  value k hk := by
    rw [store_apply, store_apply]
    cases r with
    | commit b =>
        have same : (s.commit n b).1.isOk = (t.commit n b).1.isOk :=
          Outcome.isOk_eq_of_withoutRecorded (commit_congr h b)
        dsimp only
        rw [same]
        split
        · rw [Store.value?_write, Store.value?_write, h.value k hk]
        · exact h.value k hk
    | _ => exact h.value k hk

/-- A request of another node makes no difference to `n`. -/
theorem SameFor.apply_other (h : SameFor n own s t) {m : NodeId} (ne : n ≠ m) (r : Request) :
    SameFor n own (s.apply m r).2 t where
  wide_left := wide_apply h.wide_left m r
  wide_right := h.wide_right
  settings := by rw [(s.frame_apply m r).1, h.settings]
  disorder := by rw [disorder_apply, h.disorder]
  level k := by rw [levelOf_apply_of_ne h.wide_left ne, h.level]
  sessions := by
    rw [(s.frame_apply m r).2.1]
    exact h.sessions
  alone k hk l writes := by
    by_cases e : l = m
    · subst e
      rw [state_apply h.wide_left] at writes
      apply h.alone k hk l
      cases change : r.change? with
      | none =>
          rw [change] at writes
          exact writes
      | some p =>
          simp only [change] at writes
          split at writes
          · exact Access.State.levelOf_of_changed_write writes
          · exact writes
    · rw [levelOf_apply_of_ne h.wide_left e] at writes
      exact h.alone k hk l writes
  value k hk := by
    rw [← h.value k hk, store_apply]
    cases r with
    | commit b =>
        obtain ⟨e, eq⟩ | ⟨eq, written⟩ := s.commit_cases m b
        · simp only [eq]
          rfl
        · simp only [eq]
          apply Store.value?_write_of_not_mem
          intro named
          exact ne (h.alone k hk m (written k named)).symm
    | _ => rfl

/-! ### Processing on behalf of sessions -/

def nodeOf (s : Server) (id : SessionId) : Option NodeId :=
  (s.registry.session? id).map Session.node

theorem node_countOutcome (outcome : Outcome) (session : Session) :
    (countOutcome outcome session).node = session.node := by
  simp only [countOutcome]
  split <;> rfl

theorem countOutcome_congr {o p : Outcome} (h : o.withoutRecorded = p.withoutRecorded) :
    countOutcome o = countOutcome p := by
  funext session
  cases o with
  | ok =>
      cases p with
      | ok => rfl
      | error f => cases h
  | error e =>
      cases p with
      | ok => cases h
      | error f => cases e <;> cases f <;> first | rfl | cases h

theorem process_of_session {id : SessionId} {session : Session}
    (present : s.registry.session? id = some session) (r : Request) :
    s.process id r =
      let applied := s.apply session.node r
      let event := eventOf id session r applied.1
      some ({ applied.2 with
          registry := applied.2.registry.modify id (countOutcome applied.1)
          feed := applied.2.feed.publish event },
        ⟨event, applied.1, s.feed.receivers⟩) := by
  rw [process_eq, present]
  rfl

/-- The sequence number of a request and what became of it, without a recorded state. -/
def verdict (p : Processed) : Nat × Outcome :=
  (p.event.sequence, Outcome.withoutRecorded p.outcome)

theorem SameFor.process (h : SameFor n own s t) {id : SessionId} {session : Session}
    (present : s.registry.session? id = some session) (mine : session.node = n) (r : Request) :
    ∃ s' t' p q, s.process id r = some (s', p) ∧ t.process id r = some (t', q) ∧
      verdict p = verdict q ∧ SameFor n own s' t' := by
  have there := (h.sessions id session mine).mp present
  refine ⟨_, _, _, _, process_of_session present r, process_of_session there r, ?_, ?_⟩
  · rw [mine]
    simp only [verdict, eventOf, outcome_congr h r]
  · rw [mine, countOutcome_congr (outcome_congr h r)]
    have applied := h.apply r
    refine { applied with sessions := fun j other hn => ?_ }
    simp only [Registry.session?_modify, (s.frame_apply n r).2.1, (t.frame_apply n r).2.1]
    split
    next e => rw [e, present, there]
    · exact h.sessions j other hn

theorem SameFor.process_other (h : SameFor n own s t) {id : SessionId} {session : Session}
    (present : s.registry.session? id = some session) (other : n ≠ session.node) (r : Request) :
    ∃ s' p, s.process id r = some (s', p) ∧ SameFor n own s' t := by
  refine ⟨_, _, process_of_session present r, ?_⟩
  have applied := h.apply_other other r
  refine { applied with sessions := fun j mine hn => ?_ }
  simp only [Registry.session?_modify, (s.frame_apply session.node r).2.1]
  split
  next e =>
    rw [e, ← h.sessions id mine hn, present]
    simp only [Option.map_some, Option.some.injEq]
    constructor
    · intro same
      subst same
      rw [node_countOutcome] at hn
      exact absurd hn.symm other
    · intro same
      subst same
      exact absurd hn.symm other
  · exact h.sessions j mine hn

theorem nodeOf_process {id : SessionId} {r : Request} {s' : Server} {p : Processed}
    (h : s.process id r = some (s', p)) (j : SessionId) : s'.nodeOf j = s.nodeOf j := by
  cases present : s.registry.session? id with
  | none => simp [process_eq, present] at h
  | some session =>
      rw [process_of_session present] at h
      simp only [Option.some.injEq, Prod.mk.injEq] at h
      rw [← h.1]
      simp only [nodeOf, Registry.session?_modify, (s.frame_apply session.node r).2.1]
      split
      next e =>
        rw [e, present]
        exact congrArg some (node_countOutcome _ _)
      · rfl

/-- Processes requests of sessions one after another; the server then, and what they came to. -/
def serve (s : Server) : List (SessionId × Request) → Server × List (SessionId × Processed)
  | [] => (s, [])
  | (id, r) :: rest =>
      match s.process id r with
      | some (next, p) =>
          let done := next.serve rest
          (done.1, (id, p) :: done.2)
      | none => s.serve rest

/-- What became of the requests of a session, in their order. -/
def verdicts (s : Server) (l : List (SessionId × Request)) (id : SessionId) :
    List (Nat × Outcome) :=
  ((s.serve l).2.filter fun e => e.1 = id).map fun e => verdict e.2

theorem serve_cons {id : SessionId} {r : Request} {next : Server} {p : Processed}
    (h : s.process id r = some (next, p)) (rest : List (SessionId × Request)) :
    s.serve ((id, r) :: rest) = ((next.serve rest).1, (id, p) :: (next.serve rest).2) := by
  simp only [serve, h]

theorem verdicts_cons {id : SessionId} {r : Request} {next : Server} {p : Processed}
    (h : s.process id r = some (next, p)) (rest : List (SessionId × Request)) (j : SessionId) :
    s.verdicts ((id, r) :: rest) j =
      if id = j then verdict p :: next.verdicts rest j else next.verdicts rest j := by
  simp only [verdicts, serve_cons h, List.filter_cons]
  by_cases e : id = j <;> simp [e]

/-- To a node it is as if the requests of others were not there. -/
theorem serve_filter (l : List (SessionId × Request)) (mine : SessionId → Bool) {s t : Server}
    (h : SameFor n own s t) (hm : ∀ j, mine j = true ↔ s.nodeOf j = some n) :
    SameFor n own (s.serve l).1 (t.serve (l.filter fun e => mine e.1)).1 ∧
      ∀ id, mine id = true → s.verdicts l id = t.verdicts (l.filter fun e => mine e.1) id := by
  induction l generalizing s t with
  | nil => exact ⟨h, fun _ _ => rfl⟩
  | cons e rest ih =>
      obtain ⟨id, r⟩ := e
      cases present : s.registry.session? id with
      | none =>
          have skip : s.process id r = none := by simp [process_eq, present]
          have same : s.serve ((id, r) :: rest) = s.serve rest := by simp only [serve, skip]
          have foreign : mine id = false := by
            rw [Bool.eq_false_iff, ne_eq, hm]
            simp [nodeOf, present]
          rw [List.filter_cons_of_neg (by simp [foreign])]
          simp only [verdicts, same]
          exact ih h hm
      | some session =>
          by_cases own_session : session.node = n
          · have own_id : mine id = true := (hm id).mpr (by simp [nodeOf, present, own_session])
            obtain ⟨s', t', p, q, hp, hq, same, after⟩ := h.process present own_session r
            have later := ih after fun j => by rw [nodeOf_process hp, hm]
            rw [List.filter_cons_of_pos (by simpa using own_id), serve_cons hp, serve_cons hq]
            refine ⟨later.1, fun j hj => ?_⟩
            rw [verdicts_cons hp, verdicts_cons hq, same, later.2 j hj]
          · have foreign : mine id = false := by
              rw [Bool.eq_false_iff, ne_eq, hm]
              simp [nodeOf, present, own_session]
            obtain ⟨s', p, hp, after⟩ := h.process_other present (Ne.symm own_session) r
            have later := ih after fun j => by rw [nodeOf_process hp, hm]
            rw [List.filter_cons_of_neg (by simp [foreign]), serve_cons hp]
            refine ⟨later.1, fun j hj => ?_⟩
            have ne : id ≠ j := by
              intro same
              subst same
              rw [foreign] at hj
              cases hj
            rw [verdicts_cons hp, if_neg ne, later.2 j hj]

/-! ### Two interleavings -/

/-- The list has the requests of every session, each session's in order. -/
def Interleaves (requests : SessionId → List Request) (l : List (SessionId × Request)) : Prop :=
  ∀ id, (l.filter fun e => e.1 = id).map Prod.snd = requests id

theorem filter_of_interleaves {requests : SessionId → List Request}
    {l : List (SessionId × Request)} (h : Interleaves requests l) (id : SessionId) :
    (l.filter fun e => e.1 = id) = (requests id).map (Prod.mk id) := by
  rw [← h id, List.map_map]
  conv_lhs => rw [← List.map_id (l.filter fun e => e.1 = id)]
  apply List.map_congr_left
  intro e he
  have eq : e.1 = id := by simpa using (List.mem_filter.mp he).2
  exact Prod.ext eq rfl

theorem requests_ne_nil {requests : SessionId → List Request} {l : List (SessionId × Request)}
    (h : Interleaves requests l) {e : SessionId × Request} (he : e ∈ l) : requests e.1 ≠ [] := by
  rw [← h e.1]
  intro nil
  have member : e ∈ l.filter fun e' => e'.1 = e.1 := List.mem_filter.mpr ⟨he, by simp⟩
  rw [List.map_eq_nil_iff] at nil
  rw [nil] at member
  cases member

/-- The session that is live for a node is known from the node. -/
theorem live_of_isLive {id : SessionId} (h : s.registry.isLive id = true) :
    ∃ m, s.nodeOf id = some m ∧ s.registry.live.get? m = some id := by
  rw [Registry.isLive] at h
  cases present : s.registry.session? id with
  | none => simp [present] at h
  | some session => exact ⟨session.node, by simp [nodeOf, present], by simpa [present] using h⟩

theorem filter_node_eq {requests : SessionId → List Request}
    (live : ∀ id, requests id ≠ [] → s.registry.isLive id = true)
    {l₁ l₂ : List (SessionId × Request)}
    (h₁ : Interleaves requests l₁) (h₂ : Interleaves requests l₂) (n : NodeId) :
    (l₁.filter fun e => decide (s.nodeOf e.1 = some n)) =
      l₂.filter fun e => decide (s.nodeOf e.1 = some n) := by
  by_cases speaks : ∃ id, requests id ≠ [] ∧ s.nodeOf id = some n
  · obtain ⟨id, some_requests, node⟩ := speaks
    have known : s.registry.live.get? n = some id := by
      obtain ⟨m, hm, get⟩ := live_of_isLive (live id some_requests)
      rw [node, Option.some.injEq] at hm
      rw [hm, get]
    have only : ∀ l, Interleaves requests l →
        (l.filter fun e => decide (s.nodeOf e.1 = some n)) = (requests id).map (Prod.mk id) := by
      intro l h
      rw [← filter_of_interleaves h id]
      apply List.filter_congr
      intro e he
      obtain ⟨m, hm, get⟩ := live_of_isLive (live e.1 (requests_ne_nil h he))
      rw [decide_eq_decide, hm, Option.some.injEq]
      constructor
      · intro same
        subst same
        rw [known, Option.some.injEq] at get
        exact get.symm
      · intro eq
        rw [eq, node, Option.some.injEq] at hm
        exact hm.symm
    rw [only l₁ h₁, only l₂ h₂]
  · have nobody : ∀ l, Interleaves requests l →
        (l.filter fun e => decide (s.nodeOf e.1 = some n)) = [] := by
      intro l h
      rw [List.filter_eq_nil_iff]
      intro e he node
      exact speaks ⟨e.1, requests_ne_nil h he, of_decide_eq_true node⟩
    rw [nobody l₁ h₁, nobody l₂ h₂]

theorem serve_eq_after (l : List (SessionId × Request)) (s : Server) :
    (s.serve l).1 = s.after (l.map fun e => .process e.1 e.2) := by
  induction l generalizing s with
  | nil => rfl
  | cons e rest ih =>
      obtain ⟨id, r⟩ := e
      change _ = (s.step (.process id r)).after (rest.map fun e => .process e.1 e.2)
      cases done : s.process id r with
      | none => simp only [serve, step, done, ih, Option.map_none, Option.getD_none]
      | some p => simp only [serve, step, done, ih, Option.map_some, Option.getD_some]

theorem length_verdicts (l : List (SessionId × Request)) {s : Server}
    (present : ∀ e ∈ l, (s.nodeOf e.1).isSome) (id : SessionId) :
    (s.verdicts l id).length = (l.filter fun e => e.1 = id).length := by
  induction l generalizing s with
  | nil => rfl
  | cons e rest ih =>
      obtain ⟨j, r⟩ := e
      obtain ⟨session, there, -⟩ := Option.map_eq_some_iff.mp
        (Option.eq_some_of_isSome (present (j, r) List.mem_cons_self))
      obtain ⟨next, p, done⟩ : ∃ next p, s.process j r = some (next, p) :=
        ⟨_, _, process_of_session there r⟩
      have later := ih fun e he => by
        rw [nodeOf_process done]
        exact present e (List.mem_cons_of_mem _ he)
      rw [verdicts_cons done, List.filter_cons]
      by_cases e : j = id <;> simp [e, later]

theorem SameFor.refl (wide : 0 < s.directory.shards.length)
    (alone : ∀ k, own k → ∀ m, (s.directory.state k).levelOf m = some .write → m = n) :
    SameFor n own s s :=
  ⟨wide, wide, rfl, rfl, fun _ => rfl, fun _ _ _ => Iff.rfl, alone, fun _ _ => rfl⟩

theorem length_verdicts_of_interleaves {requests : SessionId → List Request}
    (live : ∀ id, requests id ≠ [] → s.registry.isLive id = true)
    {l : List (SessionId × Request)} (h : Interleaves requests l) (id : SessionId) :
    (s.verdicts l id).length = (requests id).length := by
  have present : ∀ e ∈ l, (s.nodeOf e.1).isSome := by
    intro e he
    obtain ⟨m, hm, -⟩ := live_of_isLive (live e.1 (requests_ne_nil h he))
    simp [hm]
  rw [length_verdicts l present, ← h id, List.length_map]

section Orders

variable {requests : SessionId → List Request} {l₁ l₂ : List (SessionId × Request)}
  (sound : s.directory.Sound) (live : ∀ id, requests id ≠ [] → s.registry.isLive id = true)
  (h₁ : Interleaves requests l₁) (h₂ : Interleaves requests l₂)

include sound live h₁ h₂

/-- Either order looks to `n` like its own requests processed alone. -/
theorem sameFor_of_interleaves (n : NodeId) (own : Key → Prop)
    (alone : ∀ k, own k → ∀ m, (s.directory.state k).levelOf m = some .write → m = n) :
    ∃ t, SameFor n own (s.serve l₁).1 t ∧ SameFor n own (s.serve l₂).1 t ∧
      ∀ id, s.nodeOf id = some n → s.verdicts l₁ id = s.verdicts l₂ id := by
  have start : SameFor n own s s := SameFor.refl sound.wide alone
  have mine : ∀ j, decide (s.nodeOf j = some n) = true ↔ s.nodeOf j = some n :=
    fun _ => decide_eq_true_iff
  obtain ⟨left, left_verdicts⟩ := serve_filter l₁ _ start mine
  obtain ⟨right, right_verdicts⟩ := serve_filter l₂ _ start mine
  rw [filter_node_eq live h₁ h₂ n] at left left_verdicts
  refine ⟨_, left, right, fun id hid => ?_⟩
  rw [left_verdicts id ((mine id).mpr hid), right_verdicts id ((mine id).mpr hid)]

theorem verdicts_eq_of_interleaves (id : SessionId) : s.verdicts l₁ id = s.verdicts l₂ id := by
  cases node : s.nodeOf id with
  | some n =>
      obtain ⟨t, -, -, same⟩ := sameFor_of_interleaves sound live h₁ h₂ n (fun _ => False)
        fun _ no => no.elim
      exact same id node
  | none =>
      have silent : requests id = [] := by
        by_contra speaks
        obtain ⟨m, hm, -⟩ := live_of_isLive (live id speaks)
        rw [node] at hm
        cases hm
      have none₁ := length_verdicts_of_interleaves live h₁ id
      have none₂ := length_verdicts_of_interleaves live h₂ id
      rw [silent, List.length_nil, List.length_eq_zero_iff] at none₁ none₂
      rw [none₁, none₂]

theorem session?_eq_of_interleaves (id : SessionId) :
    (s.serve l₁).1.registry.session? id = (s.serve l₂).1.registry.session? id := by
  apply Option.ext
  intro session
  obtain ⟨t, left, right, -⟩ := sameFor_of_interleaves sound live h₁ h₂ session.node
    (fun _ => False) fun _ no => no.elim
  exact (left.sessions id session rfl).trans (right.sessions id session rfl).symm

theorem state_eq_of_interleaves (k : Key) :
    (s.serve l₁).1.directory.state k = (s.serve l₂).1.directory.state k := by
  apply Access.State.ext_of_levelOf
  · rw [serve_eq_after]
    exact (sound_after sound _).coherent k
  · rw [serve_eq_after]
    exact (sound_after sound _).coherent k
  · intro n
    obtain ⟨t, left, right, -⟩ := sameFor_of_interleaves sound live h₁ h₂ n (fun _ => False)
      fun _ no => no.elim
    rw [left.level k, right.level k]

/-- A key has one writer at most, so that it is the requests of one node which decide about its
value. -/
theorem value?_eq_of_interleaves (k : Key) :
    (s.serve l₁).1.store.value? k = (s.serve l₂).1.store.value? k := by
  obtain ⟨n, alone⟩ : ∃ n, ∀ m, (s.directory.state k).levelOf m = some .write → m = n := by
    by_cases written : ∃ n, (s.directory.state k).levelOf n = some .write
    · obtain ⟨n, hn⟩ := written
      refine ⟨n, fun m hm => Access.State.eq_of_levelOf_write hn ?_⟩
      rw [hm]
      exact Option.some_ne_none _
    · exact ⟨0, fun m hm => absurd ⟨m, hm⟩ written⟩
  obtain ⟨t, left, right, -⟩ := sameFor_of_interleaves sound live h₁ h₂ n (fun j => j = k)
    fun j e m hm => alone m (e ▸ hm)
  rw [left.value k rfl, right.value k rfl]

end Orders

/-- However the requests of live sessions are interleaved, each session gets the same verdicts, one
for each of its requests, and the same counters, every key comes to the same access state, and the
store comes to the same values. -/
theorem serve_eq_of_interleaves {s : Server} (reachable : s.Reachable)
    {requests : SessionId → List Request}
    (live : ∀ id, requests id ≠ [] → s.registry.isLive id = true)
    {l₁ l₂ : List (SessionId × Request)}
    (h₁ : Interleaves requests l₁) (h₂ : Interleaves requests l₂) :
    (∀ id, s.verdicts l₁ id = s.verdicts l₂ id ∧
      (s.verdicts l₁ id).length = (requests id).length) ∧
    (∀ id, (s.serve l₁).1.registry.session? id = (s.serve l₂).1.registry.session? id) ∧
    (∀ k, (s.serve l₁).1.directory.state k = (s.serve l₂).1.directory.state k) ∧
    ∀ k, (s.serve l₁).1.store.value? k = (s.serve l₂).1.store.value? k := by
  have sound : s.directory.Sound := sound_of_reachable reachable
  refine ⟨fun id => ⟨?_, ?_⟩, ?_, ?_, ?_⟩
  · exact verdicts_eq_of_interleaves sound live h₁ h₂ id
  · exact length_verdicts_of_interleaves live h₁ id
  · exact session?_eq_of_interleaves sound live h₁ h₂
  · exact state_eq_of_interleaves sound live h₁ h₂
  · exact value?_eq_of_interleaves sound live h₁ h₂

/-- Two nodes that each write one object and share a third, and what each of them then asks for. -/
def twoWriters : List Operation :=
  let a : NodeId := 1
  let b : NodeId := 2
  [.register a, .register b, .directory (.grant (.object 10) a .write),
    .directory (.grant (.object 11) b .write),
    .directory (.grant (.object 12) a .read),
    .directory (.grant (.object 12) b .read)]

def asked : SessionId → List Request
  | 0 => [.commit (.store {} 10 [1]), .evictObject 12,
      .commit (.store {} 11 [2])]
  | 1 => [.evictObject 12, .commit (.store {} 11 [3]),
      .downgradeObject 11]
  | _ => []

theorem serve_eq_of_two_orders :
    let s := after ⟨{ shards := 1, feedCapacity := 1 }, .new Key.place 1, {}, {}, .new 1⟩ twoWriters
    let first := (asked 0).map (Prod.mk 0) ++ (asked 1).map (Prod.mk 1)
    let second := (asked 1).map (Prod.mk 1) ++ (asked 0).map (Prod.mk 0)
    s.verdicts first 0 = s.verdicts second 0 ∧
      (s.serve first).1.registry.session? 1 = (s.serve second).1.registry.session? 1 ∧
      (s.serve first).1.directory.state (.object 12) =
        (s.serve second).1.directory.state (.object 12) ∧
      (s.serve second).1.store.value? (.object 11) = some (.bytes [3]) ∧
      (s.serve first).1.store.value? (.object 11) =
        (s.serve second).1.store.value? (.object 11) := by
  intro s first second
  have reachable : s.Reachable :=
    ⟨_, twoWriters, ⟨{ shards := 1, feedCapacity := 1 }, Key.place, _, rfl, rfl⟩, rfl⟩
  have live : ∀ id, asked id ≠ [] → s.registry.isLive id = true := by
    intro id speaks
    match id with
    | 0 | 1 => decide
    | _ + 2 => exact absurd rfl speaks
  have orders : Interleaves asked first ∧ Interleaves asked second := by
    constructor <;> intro id <;> match id with
      | 0 | 1 | _ + 2 => simp [first, second, asked]
  have same := serve_eq_of_interleaves reachable live orders.1 orders.2
  exact ⟨(same.1 0).1, same.2.1 1, same.2.2.1 _, by decide, same.2.2.2 _⟩

end Server

end CacheCoherence
