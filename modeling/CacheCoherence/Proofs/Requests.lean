import CacheCoherence.Proofs.Directory
import CacheCoherence.Proofs.Store
import CacheCoherence.Server.Basic

/-!
What a request does to a server. Either it gives up access to one key, which
changes the state of that key and no value, or it commits a batch, which changes
values and no state. A commit takes effect exactly when its batch is within the
limit, its node writes every key of the batch, and the store is in order.
-/

namespace CacheCoherence

/-- The key and the change of access that a request is for, unless it is a commit. -/
def Request.change? : Request → Option (Key × Access.Change)
  | .commit _ => none
  | .evictObject o => some (.object o, .release)
  | .downgradeObject o => some (.object o, .weaken)
  | .evictBinding k => some (.binding k, .release)
  | .downgradeBinding k => some (.binding k, .weaken)

theorem Request.commit_of_change?_eq_none {r : Request} (h : r.change? = none) :
    ∃ b, r = .commit b := by
  cases r with
  | commit b => exact ⟨b, rfl⟩
  | evictObject _ | downgradeObject _ | evictBinding _ | downgradeBinding _ => cases h

namespace Server

variable (s : Server) (n : NodeId)

theorem apply_of_change? {r : Request} {k : Key} {c : Access.Change} (h : r.change? = some (k, c)) :
    s.apply n r = s.changeDirectory (s.directory.change k n c) := by
  cases r with
  | commit b => cases h
  | evictObject _ | downgradeObject _ | evictBinding _ | downgradeBinding _ =>
      cases h
      rfl

theorem changeDirectory_change (k : Key) (c : Access.Change) :
    s.changeDirectory (s.directory.change k n c) =
      (match (s.directory.state k).change? n c with
        | some _ => .ok ()
        | none => .error (.consistency (c.fault n k (s.directory.state k))),
        { s with directory := s.directory.step (.change k n c) }) := by
  simp only [Directory.step, Directory.change_eq]
  cases (s.directory.state k).change? n c <;> rfl

theorem commit_eq (b : Batch) :
    s.commit n b =
      match s.checkBatch b, s.directory.firstNotWritten n b.keys, s.store.disorder with
      | .error e, _, _ => (.error (.input e), s)
      | .ok (), some k, _ =>
          (.error (.consistency (.commitNotWriter n k (s.directory.state k))), s)
      | .ok (), none, some reason => (.error (.store (.applyFailed reason)), s)
      | .ok (), none, none => (.ok (), { s with store := s.store.write b }) := by
  rw [commit]
  cases s.checkBatch b with
  | error e => rfl
  | ok =>
      simp only [Directory.commit_eq]
      cases s.directory.firstNotWritten n b.keys with
      | some k => rfl
      | none =>
          cases disorder : s.store.disorder <;>
            simp [applyBatch, Store.apply, disorder, StateT.run]

theorem writer_of_firstNotWritten_eq_none {d : Directory} {n : NodeId} {keys : List Key}
    (h : d.firstNotWritten n keys = none) {k : Key} (hk : k ∈ keys) :
    (d.state k).levelOf n = some .write := by
  rw [Access.State.levelOf_eq_write_iff]
  exact Directory.firstNotWritten_eq_none_iff.mp h k hk

/-- A commit is refused and changes nothing, or it writes its batch for the writer of every key. -/
theorem commit_cases (b : Batch) :
    (∃ e, s.commit n b = (.error e, s)) ∨
      s.commit n b = (.ok (), { s with store := s.store.write b }) ∧
        ∀ k ∈ b.keys, (s.directory.state k).levelOf n = some .write := by
  rw [commit_eq]
  cases s.checkBatch b with
  | error e => exact .inl ⟨_, rfl⟩
  | ok =>
      cases written : s.directory.firstNotWritten n b.keys with
      | some k => exact .inl ⟨_, rfl⟩
      | none =>
          cases s.store.disorder with
          | some reason => exact .inl ⟨_, rfl⟩
          | none => exact .inr ⟨rfl, fun k hk => writer_of_firstNotWritten_eq_none written hk⟩

theorem directory_apply (r : Request) :
    (s.apply n r).2.directory =
      match r.change? with
      | some (k, c) => s.directory.step (.change k n c)
      | none => s.directory := by
  cases change : r.change? with
  | some p => rw [s.apply_of_change? n change, changeDirectory_change]
  | none =>
      obtain ⟨b, rfl⟩ := Request.commit_of_change?_eq_none change
      change (s.commit n b).2.directory = s.directory
      obtain ⟨e, eq⟩ | ⟨eq, -⟩ := s.commit_cases n b <;> rw [eq]

theorem state_apply {s : Server} (wide : 0 < s.directory.shards.length) (n : NodeId) (r : Request)
    (k : Key) :
    (s.apply n r).2.directory.state k =
      match r.change? with
      | some (j, c) => if k = j then (s.directory.state k).changed n c else s.directory.state k
      | none => s.directory.state k := by
  rw [directory_apply]
  cases r.change? with
  | none => rfl
  | some p =>
      dsimp only
      rw [Directory.state_change wide]
      by_cases e : k = p.1
      · rw [if_pos e, if_pos e, e]
      · rw [if_neg e, if_neg e]

theorem store_apply (r : Request) :
    (s.apply n r).2.store =
      match r with
      | .commit b => if (s.commit n b).1.isOk then s.store.write b else s.store
      | _ => s.store := by
  cases change : r.change? with
  | some p =>
      rw [s.apply_of_change? n change, changeDirectory_change]
      cases r with
      | commit b => cases change
      | _ => rfl
  | none =>
      obtain ⟨b, rfl⟩ := Request.commit_of_change?_eq_none change
      change (s.commit n b).2.store = if (s.commit n b).1.isOk then s.store.write b else s.store
      obtain ⟨e, eq⟩ | ⟨eq, -⟩ := s.commit_cases n b <;> rw [eq] <;> rfl

/-- A request touches neither the settings nor the registrations nor the feed. -/
theorem frame_apply (r : Request) :
    (s.apply n r).2.settings = s.settings ∧ (s.apply n r).2.registry = s.registry ∧
      (s.apply n r).2.feed = s.feed := by
  cases change : r.change? with
  | some p =>
      rw [s.apply_of_change? n change, changeDirectory_change]
      exact ⟨rfl, rfl, rfl⟩
  | none =>
      obtain ⟨b, rfl⟩ := Request.commit_of_change?_eq_none change
      change (s.commit n b).2.settings = s.settings ∧ (s.commit n b).2.registry = s.registry ∧
        (s.commit n b).2.feed = s.feed
      obtain ⟨e, eq⟩ | ⟨eq, -⟩ := s.commit_cases n b <;> rw [eq] <;> exact ⟨rfl, rfl, rfl⟩

end Server

end CacheCoherence
