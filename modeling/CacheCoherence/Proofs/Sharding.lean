import CacheCoherence.Proofs.DirectoryLevels

/-!
A directory against one map of all held keys. The two give the same answers to
whatever they are asked, so neither the number of shards nor the placement of
the keys can be told from the answers of a directory.
-/

namespace CacheCoherence

/-- Every held key with its state, in one map. -/
structure Table where
  held : SortedMap Key Access.State

namespace Table

def empty : Table := ⟨.empty⟩

def state (t : Table) (k : Key) : Access.State :=
  (t.held.get? k).getD .unheld

def holders (t : Table) (k : Key) : List NodeId :=
  (t.state k).holders

def record (t : Table) (k : Key) (s : Access.State) : Table :=
  ⟨t.held.alter k (if s.isUnheld then none else some s)⟩

def grant (t : Table) (k : Key) (n : NodeId) (level : Access.Level) :
    Except DirectoryError Table :=
  match (t.state k).allow n level with
  | .ok s => .ok (t.record k s)
  | .error holder => .error (.accessConflict k level n holder)

def change (t : Table) (k : Key) (n : NodeId) (c : Access.Change) :
    Except ConsistencyFault Table :=
  match (t.state k).change? n c with
  | some s => .ok (t.record k s)
  | none => .error (c.fault n k (t.state k))

def releaseNode (t : Table) (n : NodeId) : Table × Nat :=
  (⟨t.held.filterMapValues (Directory.withoutNode n)⟩,
    (t.held.entries.filter fun e => e.2.holds n).length)

def commit {σ α : Type} (t : Table) (n : NodeId) (keys : List Key)
    (apply : StateM σ (Except Error α)) : StateM σ (Except Error α) :=
  match keys.find? fun k => (t.state k).writer? ≠ some n with
  | some k => pure (.error (.consistency (.commitNotWriter n k (t.state k))))
  | none => apply

end Table

namespace Directory

/-- What may be asked of a directory, or of a table in its place. A commit brings what is to be done
with other state. -/
inductive Inquiry (σ α : Type) where
  | state (k : Key)
  | holders (k : Key)
  | entryCount
  | entries
  | grant (k : Key) (n : NodeId) (level : Access.Level)
  | change (k : Key) (n : NodeId) (c : Access.Change)
  | releaseNode (n : NodeId)
  | commit (n : NodeId) (keys : List Key) (apply : StateM σ (Except Error α))

inductive Answer (α : Type) where
  | state (s : Access.State)
  | holders (nodes : List NodeId)
  | entryCount (n : Nat)
  | entries (held : List (Key × Access.State))
  | granted (result : Except DirectoryError Unit)
  | changed (result : Except ConsistencyFault Unit)
  | released (n : Nat)
  | committed (result : Except Error α)

/-- What answers inquiries, whatever it keeps. -/
structure Service (δ : Type) where
  state : δ → Key → Access.State
  holders : δ → Key → List NodeId
  entryCount : δ → Nat
  entries : δ → List (Key × Access.State)
  grant : δ → Key → NodeId → Access.Level → Except DirectoryError δ
  change : δ → Key → NodeId → Access.Change → Except ConsistencyFault δ
  releaseNode : δ → NodeId → δ × Nat
  commit : {σ α : Type} → δ → NodeId → List Key → StateM σ (Except Error α) →
    StateM σ (Except Error α)

def sharded : Service Directory where
  state := Directory.state
  holders := Directory.holders
  entryCount := Directory.entryCount
  entries := Directory.entries
  grant := Directory.grant
  change := Directory.change
  releaseNode := Directory.releaseNode
  commit := Directory.commit

def flat : Service Table where
  state := Table.state
  holders := Table.holders
  entryCount t := t.held.size
  entries t := t.held.entries
  grant := Table.grant
  change := Table.change
  releaseNode := Table.releaseNode
  commit := Table.commit

section Service

variable {δ σ α : Type}

/-- The answer to an inquiry, and what is left behind it: all as it was where an operation is
refused. -/
def Service.ask (service : Service δ) (x : δ × σ) : Inquiry σ α → Answer α × δ × σ
  | .state k => (.state (service.state x.1 k), x)
  | .holders k => (.holders (service.holders x.1 k), x)
  | .entryCount => (.entryCount (service.entryCount x.1), x)
  | .entries => (.entries (service.entries x.1), x)
  | .grant k n level =>
    match service.grant x.1 k n level with
    | .ok d => (.granted (.ok ()), d, x.2)
    | .error e => (.granted (.error e), x)
  | .change k n c =>
    match service.change x.1 k n c with
    | .ok d => (.changed (.ok ()), d, x.2)
    | .error e => (.changed (.error e), x)
  | .releaseNode n =>
    let (d, count) := service.releaseNode x.1 n
    (.released count, d, x.2)
  | .commit n keys apply =>
    let (result, y) := (service.commit x.1 n keys apply).run x.2
    (.committed result, x.1, y)

/-- The answers to some inquiries, each with the other state as it was left behind it. -/
def Service.transcript (service : Service δ) (x : δ × σ) :
    List (Inquiry σ α) → List (Answer α × σ)
  | [] => []
  | inquiry :: later =>
    let (answer, y) := service.ask x inquiry
    (answer, y.2) :: service.transcript y later

end Service

/-- The shards of `d` hold together what `t` holds. -/
structure Shards (d : Directory) (t : Table) : Prop where
  kept : d.Kept
  same : ∀ k, (d.shard (d.shardIndex k)).get? k = t.held.get? k

theorem shards_new (place : Key → Nat) (shards : Nat) : (new place shards).Shards .empty where
  kept := kept_new place shards
  same k := by
    cases found : ((new place shards).shard ((new place shards).shardIndex k)).get? k with
    | none => rfl
    | some s =>
        have unheld := ((kept_new place shards).get?_shard_eq_some_iff _ k s).mp found
        exact absurd ((state_new place shards k).symm.trans unheld.2.1).symm unheld.2.2

section Shards

variable {d : Directory} {t : Table} (h : d.Shards t)

include h

theorem Shards.state (k : Key) : d.state k = t.state k := by
  rw [Directory.state, Table.state, h.same]

theorem Shards.record (k : Key) {s : Access.State} (coherent : s.isCoherent = true) :
    (d.record k s).Shards (t.record k s) where
  kept := h.kept.record k coherent
  same j := by
    have index : (d.record k s).shardIndex j = d.shardIndex j := by
      simp [shardIndex, Directory.record]
    rw [index, get?_shard_record h.kept.wide, Table.record, SortedMap.get?_alter, h.same]
    by_cases e : j = k
    · rw [if_pos ⟨by rw [e], e⟩, if_pos e]
    · rw [if_neg fun both => e both.2, if_neg e]

theorem Shards.releaseNode (n : NodeId) :
    (d.releaseNode n).1.Shards (t.releaseNode n).1 where
  kept := h.kept.step (.releaseNode n)
  same k := by
    rw [show (d.releaseNode n).1.shardIndex k = d.shardIndex k from
      d.shardIndex_step (.releaseNode n) k]
    rw [get?_shard_releaseNode, Table.releaseNode, SortedMap.get?_filterMapValues, h.same]

/-- The entries of all shards, when they are sorted, are those of one map. -/
theorem Shards.entries : d.entries = t.held.entries := by
  have ascending : d.entries.Pairwise fun a b => compare a.1 b.1 = .lt :=
    h.kept.pairwise_entries.imp (Key.compare_eq_lt_iff _ _).mpr
  refine SortedMap.eq_of_ascending Prod.fst ascending t.held.ascending fun e => ?_
  rw [h.kept.mem_entries_iff e.1 e.2, ← SortedMap.get?_eq_some_iff, ← h.same,
    h.kept.get?_shard_eq_some_iff]
  exact (and_iff_right rfl).symm

theorem Shards.commit {σ α : Type} (n : NodeId) (keys : List Key)
    (apply : StateM σ (Except Error α)) : d.commit n keys apply = t.commit n keys apply := by
  have first : d.firstNotWritten n keys = keys.find? fun k => (t.state k).writer? ≠ some n := by
    simp only [firstNotWritten, h.state]
  rw [commit_eq, first]
  unfold Table.commit
  cases keys.find? fun k => (t.state k).writer? ≠ some n with
  | none => rfl
  | some k =>
      dsimp only
      rw [h.state]

/-- An inquiry has one answer from both, and leaves them holding the same. -/
theorem Shards.ask {σ α : Type} (x : σ) (inquiry : Inquiry σ α) :
    ∃ answer d' t' y, sharded.ask (d, x) inquiry = (answer, d', y) ∧
      flat.ask (t, x) inquiry = (answer, t', y) ∧ d'.Shards t' := by
  cases inquiry with
  | state k =>
      refine ⟨.state (t.state k), d, t, x, ?_, rfl, h⟩
      rw [← h.state]
      rfl
  | holders k =>
      refine ⟨.holders (t.holders k), d, t, x, ?_, rfl, h⟩
      rw [Table.holders, ← h.state]
      rfl
  | entryCount =>
      refine ⟨.entryCount t.held.size, d, t, x, ?_, rfl, h⟩
      rw [SortedMap.size, ← h.entries, ← d.entryCount_eq]
      rfl
  | entries =>
      refine ⟨.entries t.held.entries, d, t, x, ?_, rfl, h⟩
      rw [← h.entries]
      rfl
  | grant k n level =>
      simp only [Service.ask, sharded, flat, Directory.grant, Table.grant, h.state]
      cases allowed : (t.state k).allow n level with
      | ok s =>
          have coherent := Access.State.isCoherent_of_allow allowed
          exact ⟨_, _, _, _, rfl, rfl, h.record k coherent⟩
      | error holder => exact ⟨_, _, _, _, rfl, rfl, h⟩
  | change k n c =>
      simp only [Service.ask, sharded, flat, change_eq, Table.change, h.state]
      cases given : (t.state k).change? n c with
      | some s =>
          have coherent := Access.State.isCoherent_of_change? given
          exact ⟨_, _, _, _, rfl, rfl, h.record k coherent⟩
      | none => exact ⟨_, _, _, _, rfl, rfl, h⟩
  | releaseNode n =>
      refine ⟨.released (t.releaseNode n).2, _, _, x, ?_, rfl, h.releaseNode n⟩
      rw [Table.releaseNode, ← h.entries, ← List.length_map Prod.fst, ← keysOf, ← releaseNode_snd]
      rfl
  | commit n keys apply =>
      refine ⟨.committed ((t.commit n keys apply).run x).1, d, t,
        ((t.commit n keys apply).run x).2, ?_, rfl, h⟩
      rw [← h.commit]
      rfl

theorem Shards.transcript {σ α : Type} (x : σ) (inquiries : List (Inquiry σ α)) :
    sharded.transcript (d, x) inquiries = flat.transcript (t, x) inquiries := by
  induction inquiries generalizing d t x with
  | nil => rfl
  | cons inquiry later ih =>
      obtain ⟨answer, d', t', y, left, right, next⟩ := h.ask x inquiry
      rw [Service.transcript, Service.transcript, left, right]
      exact congrArg _ (ih next y)

end Shards

/-- However many shards there are and wherever the keys are placed, a directory that starts empty
answers like one map of the held keys, and what commits do to other state is the same. -/
theorem transcript_eq_of_sharding {σ α : Type} (place place' : Key → Nat) (shards shards' : Nat)
    (x : σ) (inquiries : List (Inquiry σ α)) :
    sharded.transcript (new place shards, x) inquiries = flat.transcript (.empty, x) inquiries ∧
    sharded.transcript (new place shards, x) inquiries =
      sharded.transcript (new place' shards', x) inquiries := by
  have one := (shards_new place shards).transcript x inquiries
  exact ⟨one, one.trans ((shards_new place' shards').transcript x inquiries).symm⟩

end Directory

end CacheCoherence
