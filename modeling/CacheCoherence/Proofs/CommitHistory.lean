import CacheCoherence.Proofs.DirectoryLevels
import CacheCoherence.Proofs.Except
import CacheCoherence.Proofs.ServerRun

/-!
The store as the history of commits. What a server has stored at any point of a
run comes from the batches of the commits that have succeeded, one after the
other; a request that fails leaves the whole server as it was, but for its
session's counters and the feed.
-/

namespace CacheCoherence

/-- The store after some batches, unless it refuses one of them. -/
def Store.applyAll (s : Store) (batches : List Batch) : Except StoreError Store :=
  batches.foldlM Store.apply s

theorem Store.applyAll_eq {s : Store} (ordered : s.disorder = none) (batches : List Batch) :
    s.applyAll batches = .ok (batches.foldl Store.write s) := by
  induction batches generalizing s with
  | nil => rfl
  | cons b batches ih =>
      have applied : s.apply b = .ok (s.write b) := by rw [Store.apply, ordered]
      rw [Store.applyAll, List.foldlM_cons, applied, List.foldl_cons]
      exact ih (s := s.write b) ordered

namespace Server

/-- The batches of the commits of a run that have succeeded, in the order in which they were
processed. -/
def history (s : Server) : List Operation → List Batch
  | [] => []
  | op :: ops => ((s.committed? op).map Prod.snd).toList ++ (s.step op).history ops

theorem value?_after (s : Server) (ops : List Operation) (k : Key) :
    (s.after ops).store.value? k = ((s.history ops).foldl Store.write s.store).value? k := by
  induction ops generalizing s with
  | nil => rfl
  | cons op ops ih =>
      change ((s.step op).after ops).store.value? k = _
      rw [ih, history, Store.value?_foldl_write, Store.value?_foldl_write, value?_step,
        List.foldl_append]
      cases s.committed? op with
      | none => rfl
      | some p =>
          dsimp only
          rw [Store.value?_write]
          rfl

section Apply

variable (s : Server) (n : NodeId)

theorem apply_of_error {r : Request} {e : Error} (failed : (s.apply n r).1 = .error e) :
    (s.apply n r).2 = s := by
  cases change : r.change? with
  | none =>
      obtain ⟨b, rfl⟩ := Request.commit_of_change?_eq_none change
      change (s.commit n b).1 = _ at failed
      change (s.commit n b).2 = s
      obtain ⟨e', eq⟩ | ⟨eq, -⟩ := s.commit_cases n b
      · rw [eq]
      · rw [eq] at failed
        cases failed
  | some p =>
      rw [s.apply_of_change? n change, changeDirectory_change] at failed ⊢
      cases given : (s.directory.state p.1).change? n p.2 with
      | some t =>
          rw [given] at failed
          cases failed
      | none => rw [Directory.step_of_not_changed given]

theorem directory_of_commit (b : Batch) : (s.apply n (.commit b)).2.directory = s.directory := by
  rw [directory_apply]
  rfl

theorem store_of_ne_commit {r : Request} (other : ∀ b, r ≠ .commit b) :
    (s.apply n r).2.store = s.store := by
  rw [store_apply]
  cases r with
  | commit b => exact absurd rfl (other b)
  | _ => rfl

end Apply

/-- What a server has stored is what the batches of the commits that succeeded write, in the order
of their processing. A commit changes no access, no other request changes the store, and a request
that fails changes neither. -/
theorem store_after_eq_history {settings : Settings} {place : Key → Nat} {s : Server}
    (new : Server.new settings place = .ok s) (ops : List Operation) :
    let t := s.after ops
    (∃ stored, ({} : Store).applyAll (s.history ops) = .ok stored ∧
      t.store.objects = stored.objects ∧ t.store.bindings = stored.bindings) ∧
    ∀ id r after done, t.process id r = some (after, done) →
      ((∃ b, r = .commit b) → after.directory = t.directory) ∧
      ((∀ b, r ≠ .commit b) → after.store = t.store) ∧
      ∀ e, done.outcome = .error e → after.directory = t.directory ∧ after.store = t.store := by
  intro t
  have empty : s.store = {} := by
    rw [Server.new, bind_eq_ok_iff] at new
    obtain ⟨_, -, made⟩ := new
    cases made
    rfl
  refine ⟨⟨_, Store.applyAll_eq rfl _, Store.ext_of_value? fun k => ?_⟩, ?_⟩
  · rw [← empty]
    exact value?_after s ops k
  · intro id r after done processed
    rw [process_eq, Option.map_eq_some_iff] at processed
    obtain ⟨session, -, eq⟩ := processed
    cases eq
    refine ⟨?_, store_of_ne_commit t session.node, ?_⟩
    · rintro ⟨b, rfl⟩
      exact directory_of_commit t session.node b
    · intro e failed
      change (t.apply session.node r).2.directory = t.directory ∧
        (t.apply session.node r).2.store = t.store
      rw [apply_of_error t session.node failed]
      exact ⟨rfl, rfl⟩

/-- Node 1 writes two objects. A batch that also names a key of nobody is refused, as is one that
comes while the store is in disorder; in between one is written, and one more comes by a call. -/
def disturbed : List Operation :=
  [.register 1, .directory (.grant (.object 10) 1 .write),
    .directory (.grant (.object 11) 1 .write),
    .process 0 (.commit ((Batch.store {} 10 [1]).bind "door" 10)),
    .process 0 (.commit ((Batch.store {} 10 [2]).remove 11)), .disorder (some "full"),
    .process 0 (.commit (.store {} 10 [3])), .disorder none,
    .call 1 (.commit (.store {} 11 [4])), .process 0 (.downgradeObject 10)]

theorem store_after_disturbed :
    let s : Server := ⟨{ shards := 1, feedCapacity := 1 }, .new Key.place 1, {}, {}, .new 1⟩
    let t := s.after disturbed
    s.history disturbed = [(Batch.store {} 10 [2]).remove 11, .store {} 11 [4]] ∧
      (∃ stored, ({} : Store).applyAll (s.history disturbed) = .ok stored ∧
        t.store.objects = stored.objects) ∧
      ∀ after done, t.process 0 (.commit (.store {} 10 [5])) = some (after, done) →
        after.directory = t.directory ∧ after.store = t.store := by
  intro s t
  have new : Server.new { shards := 1, feedCapacity := 1 } Key.place = .ok s := rfl
  obtain ⟨⟨stored, applied, objects, -⟩, requests⟩ := store_after_eq_history new disturbed
  refine ⟨by decide, ⟨stored, applied, objects⟩, ?_⟩
  intro after done processed
  have refused : (t.process 0 (.commit (.store {} 10 [5]))).map (fun p => p.2.outcome.isOk) =
      some false := by decide
  rw [processed, Option.map_some, Option.some.injEq] at refused
  cases outcome : done.outcome with
  | ok => simp [outcome, Except.isOk, Except.toBool] at refused
  | error e => exact (requests 0 _ after done processed).2.2 e outcome

end Server

end CacheCoherence
