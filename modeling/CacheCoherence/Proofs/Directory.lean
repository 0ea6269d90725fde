import CacheCoherence.Directory
import CacheCoherence.Proofs.Access
import CacheCoherence.Proofs.SortedMap
import Mathlib.Data.List.Find

/-!
Runs of a directory. Each operation is known from what it does to the state of
every key; the shards show only in that there must be one. A directory that
started empty is sound after any operations, accepted or refused.
-/

namespace CacheCoherence

/-- The fault of a node that gives up what it does not have. -/
def Access.Change.fault : Change → NodeId → Key → State → ConsistencyFault
  | .release => .notHeld
  | .weaken => .notWriter

namespace Directory

def change (d : Directory) (k : Key) (n : NodeId) :
    Access.Change → Except ConsistencyFault Directory
  | .release => d.evict k n
  | .weaken => d.downgrade k n

/-- What may be done to a directory. A commit is not among it, since it changes no access. -/
inductive Operation where
  | grant (k : Key) (n : NodeId) (level : Access.Level)
  | change (k : Key) (n : NodeId) (c : Access.Change)
  | releaseNode (n : NodeId)

def step (d : Directory) : Operation → Directory
  | .grant k n level => (d.grant k n level).toOption.getD d
  | .change k n c => (d.change k n c).toOption.getD d
  | .releaseNode n => (d.releaseNode n).1

def after (d : Directory) (ops : List Operation) : Directory :=
  ops.foldl step d

theorem after_append (d : Directory) (ops more : List Operation) :
    d.after (ops ++ more) = (d.after ops).after more :=
  List.foldl_append

theorem change_eq (d : Directory) (k : Key) (n : NodeId) (c : Access.Change) :
    d.change k n c =
      match (d.state k).change? n c with
      | some s => .ok (d.record k s)
      | none => .error (c.fault n k (d.state k)) := by
  cases c <;> rfl

theorem get?_lockedShards (d : Directory) {keys : List Key} {k : Key} (hk : k ∈ keys) :
    (d.lockedShards keys).get? (d.shardIndex k) = some (d.shard (d.shardIndex k)) := by
  have among : d.shardIndex k ∈ (SortedSet.ofList (keys.map d.shardIndex)).toList :=
    SortedSet.mem_ofList.mpr (List.mem_map_of_mem hk)
  refine (SortedMap.get?_foldl_alter id (fun i => some (d.shard i)) _ _ _).trans ?_
  cases last : (SortedSet.ofList (keys.map d.shardIndex)).toList.reverse.find? fun i =>
      id i = d.shardIndex k with
  | none => simpa using List.find?_eq_none.mp last _ (List.mem_reverse.mpr among)
  | some i =>
      have same : i = d.shardIndex k := by simpa using List.find?_some last
      rw [same]

/-- The locked shards tell as much of their keys as all shards. -/
theorem lockedState_eq (d : Directory) {keys : List Key} {k : Key} (hk : k ∈ keys) :
    d.lockedState (d.lockedShards keys) k = d.state k := by
  rw [lockedState, d.get?_lockedShards hk, Option.bind_some, state]

def firstNotWritten (d : Directory) (n : NodeId) (keys : List Key) : Option Key :=
  keys.find? fun k => (d.state k).writer? ≠ some n

theorem firstNotWritten_eq_none_iff {d : Directory} {n : NodeId} {keys : List Key} :
    d.firstNotWritten n keys = none ↔ ∀ k ∈ keys, d.state k = .exclusive n := by
  simp only [firstNotWritten, List.find?_eq_none, decide_eq_true_eq, Decidable.not_not,
    Access.State.writer?_eq_some_iff_eq]

theorem split_of_firstNotWritten {d : Directory} {n : NodeId} {keys : List Key} {k : Key}
    (found : d.firstNotWritten n keys = some k) :
    ∃ before behind, keys = before ++ k :: behind ∧ (∀ j ∈ before, d.state j = .exclusive n) ∧
      d.state k ≠ .exclusive n := by
  obtain ⟨missing, before, behind, eq, written⟩ := List.find?_eq_some_iff_append.mp found
  refine ⟨before, behind, eq, fun j among => ?_, ?_⟩
  · rw [← Access.State.writer?_eq_some_iff_eq]
    simpa using written j among
  · rw [ne_eq, ← Access.State.writer?_eq_some_iff_eq]
    simpa using missing

theorem commit_eq {σ α : Type} (d : Directory) (n : NodeId) (keys : List Key)
    (apply : StateM σ (Except Error α)) :
    d.commit n keys apply =
      match d.firstNotWritten n keys with
      | some k => pure (.error (.consistency (.commitNotWriter n k (d.state k))))
      | none => apply := by
  have first : (keys.find? fun k => (d.lockedState (d.lockedShards keys) k).writer? ≠ some n) =
      d.firstNotWritten n keys :=
    List.find?_congr fun k hk => by rw [d.lockedState_eq hk]
  simp only [commit, first]
  cases found : d.firstNotWritten n keys with
  | none => rfl
  | some k =>
      dsimp only
      rw [d.lockedState_eq (List.mem_of_find?_eq_some found)]

theorem length_shards_record (d : Directory) (k : Key) (s : Access.State) :
    (d.record k s).shards.length = d.shards.length := by
  simp [record]

theorem length_shards_step (d : Directory) (op : Operation) :
    (d.step op).shards.length = d.shards.length := by
  cases op with
  | grant k n level =>
      simp only [step, grant]
      cases (d.state k).allow n level with
      | ok s => exact length_shards_record d k s
      | error holder => rfl
  | change k n c =>
      simp only [step, change_eq]
      cases (d.state k).change? n c with
      | some s => exact length_shards_record d k s
      | none => rfl
  | releaseNode n => simp [step, releaseNode]

theorem length_shards_after (d : Directory) (ops : List Operation) :
    (d.after ops).shards.length = d.shards.length := by
  induction ops generalizing d with
  | nil => rfl
  | cons op ops ih => exact (ih (d.step op)).trans (d.length_shards_step op)

theorem state_record {d : Directory} (wide : 0 < d.shards.length) (k : Key) (s : Access.State)
    (j : Key) : (d.record k s).state j = if j = k then s else d.state j := by
  have index : (d.record k s).shardIndex j = d.shardIndex j := by
    simp [shardIndex, record]
  have inside : d.shardIndex j < d.shards.length := Nat.mod_lt _ wide
  have entry : ((if s.isUnheld then none else some s).getD .unheld) = s := by
    cases s <;> rfl
  rw [state, index]
  by_cases same : d.shardIndex k = d.shardIndex j
  · have shard : (d.record k s).shard (d.shardIndex j) =
        (d.shard (d.shardIndex k)).alter k (if s.isUnheld then none else some s) := by
      simp [Directory.shard, record, same, inside]
    rw [shard, SortedMap.get?_alter]
    split
    · exact entry
    · rw [same]
      rfl
  · have shard : (d.record k s).shard (d.shardIndex j) = d.shard (d.shardIndex j) := by
      simp [Directory.shard, record, List.getElem?_set_ne same]
    have ne : j ≠ k := fun e => same (by rw [e])
    rw [shard, if_neg ne]
    rfl

theorem state_change {d : Directory} (wide : 0 < d.shards.length) (k : Key) (n : NodeId)
    (c : Access.Change) (j : Key) :
    (d.step (.change k n c)).state j =
      if j = k then (d.state k).changed n c else d.state j := by
  simp only [step, change_eq, Access.State.changed]
  cases (d.state k).change? n c with
  | some s => exact state_record wide k s j
  | none =>
      by_cases e : j = k
      · rw [if_pos e, e]
        rfl
      · rw [if_neg e]
        rfl

theorem state_releaseNode (d : Directory) (n : NodeId) (k : Key) :
    (d.releaseNode n).1.state k = (d.state k).changed n .release := by
  have index : (d.releaseNode n).1.shardIndex k = d.shardIndex k := by
    simp [shardIndex, releaseNode]
  have shard : (d.releaseNode n).1.shard (d.shardIndex k) =
      (d.shard (d.shardIndex k)).filterMapValues (withoutNode n) := by
    simp only [Directory.shard, releaseNode, List.getElem?_map]
    cases d.shards[d.shardIndex k]? <;> rfl
  rw [state, index, shard, SortedMap.get?_filterMapValues, state]
  cases (d.shard (d.shardIndex k)).get? k with
  | none => rfl
  | some s =>
      simp only [Option.bind_some, Option.getD_some, withoutNode, Access.State.changed,
        Access.State.change?]
      cases s.release? n with
      | none => rfl
      | some left => cases left <;> rfl

/-- There is a shard for every key, and no key is shared by nobody. -/
structure Sound (d : Directory) : Prop where
  wide : 0 < d.shards.length
  coherent : ∀ k, (d.state k).isCoherent = true

theorem state_new (place : Key → Nat) (shards : Nat) (k : Key) :
    (new place shards).state k = .unheld := by
  simp only [state, Directory.shard, new, List.getElem?_replicate]
  split <;> rfl

theorem sound_new (place : Key → Nat) (shards : Nat) : (new place shards).Sound where
  wide := by
    simp only [new, List.length_replicate]
    omega
  coherent k := by
    rw [state_new]
    rfl

theorem Sound.step {d : Directory} (h : d.Sound) (op : Operation) : (d.step op).Sound := by
  refine ⟨by rw [length_shards_step]; exact h.wide, fun j => ?_⟩
  cases op with
  | grant k n level =>
      simp only [Directory.step, grant]
      cases allowed : (d.state k).allow n level with
      | ok s =>
          simp only [Except.toOption, Option.getD_some, state_record h.wide]
          split
          · exact Access.State.isCoherent_of_allow allowed
          · exact h.coherent j
      | error holder => exact h.coherent j
  | change k n c =>
      rw [state_change h.wide]
      split
      · exact Access.State.isCoherent_changed (h.coherent k) n c
      · exact h.coherent j
  | releaseNode n =>
      rw [Directory.step, state_releaseNode]
      exact Access.State.isCoherent_changed (h.coherent j) n .release

theorem Sound.after {d : Directory} (h : d.Sound) (ops : List Operation) : (d.after ops).Sound := by
  induction ops generalizing d with
  | nil => exact h
  | cons op ops ih => exact ih (h.step op)

end Directory

end CacheCoherence
