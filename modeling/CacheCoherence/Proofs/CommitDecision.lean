import CacheCoherence.Proofs.Requests

/-!
What decides a commit, whatever the step that puts its batch into effect. The
limit is looked at first and the keys of the batch in their order after it. Only
when nothing stands in the way is the step run, once, and then the commit ends
as the step does.
-/

namespace CacheCoherence.Server

variable {σ α : Type}

/-- A commit whose batch any step puts into effect, on whatever that step keeps. -/
def commitBy (s : Server) (n : NodeId) (b : Batch) (apply : StateM σ (Except Error α)) :
    StateM σ (Except Error α) :=
  match s.checkBatch b with
  | .error e => pure (.error (.input e))
  | .ok () => s.directory.commit n b.keys apply

theorem apply_commit_eq (s : Server) (n : NodeId) (b : Batch) :
    s.apply n (.commit b) =
      let r := (s.commitBy n b (applyBatch b)).run s.store
      (r.1, { s with store := r.2 }) := by
  change s.commit n b = _
  rw [commit, commitBy]
  cases s.checkBatch b <;> rfl

/-- A step beside which it is counted how often it is run. -/
def counted (apply : StateM σ (Except Error α)) : StateM (σ × Nat) (Except Error α) := fun state =>
  let r := apply.run state.1
  (r.1, r.2, state.2 + 1)

/-- How often a commit runs the step that applies its batch. -/
def applications (s : Server) (n : NodeId) (b : Batch) (apply : StateM σ (Except Error α))
    (state : σ) : Nat :=
  ((s.commitBy n b (counted apply)).run (state, 0)).2.2

/-- What stands in the way of a commit. -/
def refusal? (s : Server) (n : NodeId) (b : Batch) : Option Error :=
  match s.checkBatch b with
  | .error e => some (.input e)
  | .ok () => (s.directory.firstNotWritten n b.keys).map fun k =>
      .consistency (.commitNotWriter n k (s.directory.state k))

theorem commitBy_eq (s : Server) (n : NodeId) (b : Batch) (apply : StateM σ (Except Error α)) :
    s.commitBy n b apply =
      match s.refusal? n b with
      | some e => pure (.error e)
      | none => apply := by
  rw [commitBy, refusal?]
  cases s.checkBatch b with
  | error e => rfl
  | ok =>
      simp only [Directory.commit_eq]
      cases s.directory.firstNotWritten n b.keys <;> rfl

theorem applications_eq (s : Server) (n : NodeId) (b : Batch) (apply : StateM σ (Except Error α))
    (state : σ) :
    s.applications n b apply state = if (s.refusal? n b).isSome then 0 else 1 := by
  rw [applications, commitBy_eq]
  cases s.refusal? n b <;> rfl

/-- The commit ends with this error, and the step that applies its batch is not run. -/
def Refuses (s : Server) (n : NodeId) (b : Batch) (apply : StateM σ (Except Error α))
    (e : Error) : Prop :=
  s.commitBy n b apply = pure (.error e) ∧ ∀ state, s.applications n b apply state = 0

theorem refuses_of_refusal? {s : Server} {n : NodeId} {b : Batch} {e : Error}
    (refusal : s.refusal? n b = some e) (apply : StateM σ (Except Error α)) :
    s.Refuses n b apply e :=
  ⟨by rw [commitBy_eq, refusal], fun state => by rw [applications_eq, refusal]; rfl⟩

/-- The batch has at most as many objects, and at most as many bindings, as the server takes. -/
def Takes (s : Server) (b : Batch) : Prop :=
  b.objects.length ≤ s.settings.maxBatch ∧ b.bindings.length ≤ s.settings.maxBatch

instance (s : Server) (b : Batch) : Decidable (s.Takes b) :=
  inferInstanceAs (Decidable (_ ∧ _))

theorem checkBatch_eq (s : Server) (b : Batch) :
    s.checkBatch b =
      if s.Takes b then .ok ()
      else .error (.limitExceeded "commit batch" (max b.objects.length b.bindings.length)
        s.settings.maxBatch) := by
  have large : s.settings.maxBatch < max b.objects.length b.bindings.length ↔ ¬s.Takes b := by
    rw [Takes, ← Nat.max_le, Nat.not_le]
  simp only [checkBatch, large, ite_not]

/-- A batch over the limit is refused whatever the directory records. Another one is refused for
the first of its keys, objects before bindings, that its node does not write, and with the state
that the key has. If there is no such key, the batch is applied once, and the commit ends as that
ends. Nothing but the store is touched. -/
theorem commit_decided (s : Server) (n : NodeId) (b : Batch) (apply : StateM σ (Except Error α)) :
    (¬s.Takes b → ∀ directory, Refuses { s with directory } n b apply
      (.input (.limitExceeded "commit batch" (max b.objects.length b.bindings.length)
        s.settings.maxBatch))) ∧
    (s.Takes b →
      let keys : List Key := b.objects.map (.object ·.oid) ++ b.bindings.map (.binding ·.name)
      ((∃ k ∈ keys, s.directory.state k ≠ .exclusive n) →
        ∃ before k behind, keys = before ++ k :: behind ∧
          (∀ j ∈ before, s.directory.state j = .exclusive n) ∧
          s.directory.state k ≠ .exclusive n ∧
          s.Refuses n b apply (.consistency (.commitNotWriter n k (s.directory.state k)))) ∧
      ((∀ k ∈ keys, s.directory.state k = .exclusive n) →
        s.commitBy n b apply = apply ∧ ∀ state, s.applications n b apply state = 1)) ∧
    s.apply n (.commit b) =
      let r := (s.commitBy n b (applyBatch b)).run s.store
      (r.1, { s with store := r.2 }) := by
  refine ⟨fun large directory => refuses_of_refusal? ?_ apply, fun within => ⟨?_, ?_⟩,
    s.apply_commit_eq n b⟩
  · have large : ¬Takes { s with directory } b := large
    rw [refusal?, checkBatch_eq, if_neg large]
  · intro missing
    cases first : s.directory.firstNotWritten n b.keys with
    | none =>
        obtain ⟨k, among, ne⟩ := missing
        exact absurd (Directory.firstNotWritten_eq_none_iff.mp first k among) ne
    | some k =>
        obtain ⟨before, behind, eq, written, ne⟩ := Directory.split_of_firstNotWritten first
        refine ⟨before, k, behind, eq, written, ne, refuses_of_refusal? ?_ apply⟩
        rw [refusal?, checkBatch_eq, if_pos within, first]
        rfl
  · intro written
    have unopposed : s.directory.firstNotWritten n b.keys = none :=
      Directory.firstNotWritten_eq_none_iff.mpr written
    have free : s.refusal? n b = none := by
      rw [refusal?, checkBatch_eq, if_pos within, unopposed]
      rfl
    exact ⟨by rw [commitBy_eq, free], fun state => by rw [applications_eq, free]; rfl⟩

/-- Keys that are written twice and share a shard: a batch that fails at its last name only, the
batch that leaves that name out, and one object too many. -/
theorem commit_decided_shared :
    let directory := (Directory.new Key.place 1).after
      [.grant (.object 1) 1 .write, .grant (.binding "a") 1 .write, .grant (.binding "b") 2 .write]
    let s : Server := ⟨{ maxBatch := 2 }, directory, {}, {}, Feed.new 1⟩
    let owned := (((Batch.mk [] []).store 1 [7]).remove 1).bind "a" 1
    let late := owned.bind "b" 1
    let large := owned.remove 1
    (s.Takes owned ∧ s.commitBy 1 owned (applyBatch owned) = applyBatch owned ∧
      s.applications 1 owned (applyBatch owned) {} = 1) ∧
    (s.Takes late ∧ (∃ e, s.Refuses 1 late (applyBatch late) e) ∧
      (s.apply 1 (.commit late)).1 =
        .error (.consistency (.commitNotWriter 1 (.binding "b") (.exclusive 2)))) ∧
    ¬s.Takes large ∧
      s.Refuses 1 large (applyBatch large) (.input (.limitExceeded "commit batch" 3 2)) := by
  intro directory s owned late large
  have takes : s.Takes owned := by decide
  have takesLate : s.Takes late := by decide
  have takesOver : ¬s.Takes large := by decide
  obtain ⟨-, decided, -⟩ := s.commit_decided 1 owned (applyBatch owned)
  obtain ⟨-, decidedLate, -⟩ := s.commit_decided 1 late (applyBatch late)
  obtain ⟨refused, -, -⟩ := s.commit_decided 1 large (applyBatch large)
  obtain ⟨applied, once⟩ := (decided takes).2 (by decide)
  obtain ⟨_, _, _, _, _, _, refusedLate⟩ :=
    (decidedLate takesLate).1 ⟨.binding "b", by decide, by decide⟩
  exact ⟨⟨takes, applied, once {}⟩, ⟨takesLate, ⟨_, refusedLate⟩, by decide⟩, takesOver,
    refused takesOver directory⟩

end CacheCoherence.Server
