import CacheCoherence.Proofs.Directory

/-!
The table behind a directory. An entry lies in the shard of its key, and is
there only while somebody holds the key; so the shards together list what the
look-up of a single key reports, each key once, however many shards there are.
-/

namespace CacheCoherence

namespace Key

/-- Objects come first, by their identifiers, then names in the order of texts, then the upper
bound. -/
def Before : Key → Key → Prop
  | .object a, .object b => a.value < b.value
  | .object _, .binding _ => True
  | .binding (.name a), .binding (.name b) => a < b
  | .binding (.name _), .binding .upper => True
  | .binding _, _ => False

theorem compare_eq_lt_iff (a b : Key) : compare a b = .lt ↔ a.Before b := by
  cases a with
  | object o =>
      cases b with
      | object p => exact Nat.compare_eq_lt
      | binding k => exact iff_of_true rfl trivial
  | binding k =>
      cases b with
      | object p => cases k <;> exact iff_of_false nofun not_false
      | binding l =>
          cases k with
          | name s =>
              cases l with
              | name t => exact compareOfLessAndEq_eq_lt
              | upper => exact iff_of_true rfl trivial
          | upper => cases l <;> exact iff_of_false nofun not_false

end Key

namespace Directory

/-- What the look-up in a shard finds is an entry for a key of that shard, which somebody holds. -/
structure Kept (d : Directory) : Prop where
  wide : 0 < d.shards.length
  placed : ∀ {i k s}, (d.shard i).get? k = some s → d.shardIndex k = i
  held : ∀ {i k s}, (d.shard i).get? k = some s → s.isUnheld = false ∧ s.isCoherent = true

theorem get?_shard_record {d : Directory} (wide : 0 < d.shards.length) (k : Key) (s : Access.State)
    (i : Nat) (j : Key) :
    ((d.record k s).shard i).get? j =
      if i = d.shardIndex k ∧ j = k then (if s.isUnheld then none else some s)
      else (d.shard i).get? j := by
  by_cases same : i = d.shardIndex k
  · subst same
    have inside : d.shardIndex k < d.shards.length := Nat.mod_lt _ wide
    have shard : (d.record k s).shard (d.shardIndex k) =
        (d.shard (d.shardIndex k)).alter k (if s.isUnheld then none else some s) := by
      simp [Directory.shard, record, inside]
    rw [shard, SortedMap.get?_alter]
    simp only [true_and]
  · have shard : (d.record k s).shard i = d.shard i := by
      simp [Directory.shard, record, List.getElem?_set_ne (Ne.symm same)]
    rw [shard, if_neg fun h => same h.1]

theorem get?_shard_releaseNode (d : Directory) (n : NodeId) (i : Nat) (k : Key) :
    ((d.releaseNode n).1.shard i).get? k = ((d.shard i).get? k).bind (withoutNode n) := by
  have shard : (d.releaseNode n).1.shard i = (d.shard i).filterMapValues (withoutNode n) := by
    simp only [Directory.shard, releaseNode, List.getElem?_map]
    cases d.shards[i]? <;> rfl
  rw [shard, SortedMap.get?_filterMapValues]

theorem shardIndex_step (d : Directory) (op : Operation) (k : Key) :
    (d.step op).shardIndex k = d.shardIndex k := by
  have place : (d.step op).place = d.place := by
    cases op with
    | grant j n level =>
        simp only [step, grant]
        cases (d.state j).allow n level <;> rfl
    | change j n c =>
        simp only [step, change_eq]
        cases (d.state j).change? n c <;> rfl
    | releaseNode n => rfl
  rw [shardIndex, shardIndex, place, length_shards_step]

theorem kept_new (place : Key → Nat) (shards : Nat) : (new place shards).Kept := by
  have empty : ∀ i k, ((new place shards).shard i).get? k = none := by
    intro i k
    simp only [Directory.shard, new, List.getElem?_replicate]
    split <;> rfl
  refine ⟨(sound_new place shards).wide, ?_, ?_⟩ <;>
  · intro i k s found
    rw [empty] at found
    cases found

theorem withoutNode_eq_some {n : NodeId} {s t : Access.State} (h : withoutNode n s = some t)
    (held : s.isUnheld = false ∧ s.isCoherent = true) :
    t.isUnheld = false ∧ t.isCoherent = true := by
  rw [withoutNode] at h
  cases released : s.release? n with
  | none =>
      rw [released] at h
      cases h
      exact held
  | some left =>
      rw [released] at h
      dsimp only at h
      split at h
      · cases h
      next someone =>
        cases h
        exact ⟨by simpa using someone, Access.State.isCoherent_of_change? (c := .release) released⟩

section Step

variable {d : Directory} (h : d.Kept)

include h

theorem Kept.record (k : Key) {s : Access.State} (coherent : s.isCoherent = true) :
    (d.record k s).Kept := by
  have index : ∀ j, (d.record k s).shardIndex j = d.shardIndex j := by
    simp [shardIndex, Directory.record]
  refine ⟨by rw [length_shards_record]; exact h.wide, ?_, ?_⟩ <;> intro i j t found <;>
    rw [get?_shard_record h.wide] at found
  · rw [index]
    split at found
    next here => rw [here.1, here.2]
    · exact h.placed found
  · split at found
    · split at found
      · cases found
      next someone =>
        cases found
        exact ⟨by simpa using someone, coherent⟩
    · exact h.held found

theorem Kept.step (op : Operation) : (d.step op).Kept := by
  cases op with
  | grant k n level =>
      simp only [Directory.step, grant]
      cases allowed : (d.state k).allow n level with
      | ok s => exact h.record k (Access.State.isCoherent_of_allow allowed)
      | error holder => exact h
  | change k n c =>
      simp only [Directory.step, change_eq]
      cases given : (d.state k).change? n c with
      | some s => exact h.record k (Access.State.isCoherent_of_change? given)
      | none => exact h
  | releaseNode n =>
      refine ⟨by rw [length_shards_step]; exact h.wide, ?_, ?_⟩ <;> intro i k t found
      · rw [shardIndex_step]
        rw [Directory.step, get?_shard_releaseNode, Option.bind_eq_some_iff] at found
        obtain ⟨s, before, -⟩ := found
        exact h.placed before
      · rw [Directory.step, get?_shard_releaseNode, Option.bind_eq_some_iff] at found
        obtain ⟨s, before, left⟩ := found
        exact withoutNode_eq_some left (h.held before)

theorem Kept.sound : d.Sound where
  wide := h.wide
  coherent k := by
    rw [state]
    cases found : (d.shard (d.shardIndex k)).get? k with
    | none => rfl
    | some s => exact (h.held found).2

end Step

section Entries

variable {d : Directory} (h : d.Kept)

include h

theorem Kept.get?_shard_eq_some_iff (i : Nat) (k : Key) (s : Access.State) :
    (d.shard i).get? k = some s ↔ i = d.shardIndex k ∧ d.state k = s ∧ s ≠ .unheld := by
  constructor
  · intro found
    obtain rfl := h.placed found
    refine ⟨rfl, by rw [state, found, Option.getD_some], ?_⟩
    rintro rfl
    cases (h.held found).1
  · rintro ⟨rfl, rfl, someone⟩
    rw [state] at someone ⊢
    cases found : (d.shard (d.shardIndex k)).get? k with
    | none =>
        rw [found] at someone
        exact absurd rfl someone
    | some s => rw [Option.getD_some]

theorem Kept.mem_entries_iff (k : Key) (s : Access.State) :
    (k, s) ∈ d.entries ↔ d.state k = s ∧ s ≠ .unheld := by
  rw [entries, List.mem_mergeSort, List.mem_flatMap]
  constructor
  · rintro ⟨m, hm, here⟩
    obtain ⟨i, hi⟩ := List.mem_iff_getElem?.mp hm
    have found : (d.shard i).get? k = some s := by
      rw [Directory.shard, hi]
      exact SortedMap.get?_eq_some_iff.mpr here
    exact ((h.get?_shard_eq_some_iff i k s).mp found).2
  · intro given
    have inside : d.shardIndex k < d.shards.length := Nat.mod_lt _ h.wide
    have found := (h.get?_shard_eq_some_iff (d.shardIndex k) k s).mpr ⟨rfl, given⟩
    rw [Directory.shard, List.getElem?_eq_getElem inside] at found
    exact ⟨_, List.getElem_mem inside, SortedMap.get?_eq_some_iff.mp found⟩

/-- Entries of one shard have different keys since it is a map, those of different shards since each
key has its shard. -/
theorem Kept.pairwise_ne_flatMap :
    (d.shards.flatMap SortedMap.entries).Pairwise fun a b => a.1 ≠ b.1 := by
  refine List.pairwise_flatMap.mpr ⟨fun m _ => m.ascending.imp ?_, ?_⟩
  · intro a b lt same
    rw [same, Std.compare_self] at lt
    cases lt
  · refine List.pairwise_iff_getElem.mpr fun i j hi hj lt a ha b hb same => ?_
    have index : ∀ i (hi : i < d.shards.length), ∀ e ∈ d.shards[i].entries,
        d.shardIndex e.1 = i := by
      intro i hi e he
      refine h.placed (s := e.2) ?_
      rw [Directory.shard, List.getElem?_eq_getElem hi]
      exact SortedMap.get?_eq_some_iff.mpr he
    have eq : i = j := by rw [← index i hi a ha, ← index j hj b hb, same]
    omega

theorem Kept.pairwise_entries : d.entries.Pairwise fun a b => a.1.Before b.1 := by
  have total : ∀ a b : Key, ((compare a b).isLE || (compare b a).isLE) = true := by
    intro a b
    rw [Std.OrientedOrd.eq_swap (a := b)]
    cases compare a b <;> rfl
  have sorted : d.entries.Pairwise fun a b => (compare a.1 b.1).isLE = true :=
    @List.pairwise_mergeSort _ (fun a b : Key × Access.State => (compare a.1 b.1).isLE)
      (fun _ _ _ => Std.TransOrd.isLE_trans) (fun a b => total a.1 b.1) _
  have distinct : d.entries.Pairwise fun a b => a.1 ≠ b.1 :=
    (List.mergeSort_perm _ _).symm.pairwise h.pairwise_ne_flatMap Ne.symm
  refine (sorted.and distinct).imp fun {a b} both => ?_
  rw [← Key.compare_eq_lt_iff]
  cases order : compare a.1 b.1 with
  | lt => rfl
  | eq => exact absurd (Std.LawfulEqOrd.eq_of_compare order) both.2
  | gt =>
      rw [order] at both
      cases both.1

theorem Kept.count_entries (k : Key) (s : Access.State) :
    d.entries.count (k, s) = if d.state k = s ∧ s ≠ .unheld then 1 else 0 := by
  have distinct : d.entries.Nodup := h.pairwise_entries.imp fun {a b} before same => by
    rw [same, ← Key.compare_eq_lt_iff, Std.compare_self] at before
    cases before
  rw [distinct.count]
  exact if_congr (h.mem_entries_iff k s) rfl rfl

end Entries

theorem entryCount_eq (d : Directory) : d.entryCount = d.entries.length := by
  have key : ∀ (shards : List (SortedMap Key Access.State)) (n : Nat),
      shards.foldl (fun n m => n + m.size) n = n + (shards.flatMap SortedMap.entries).length := by
    intro shards
    induction shards with
    | nil => intro n; rfl
    | cons m shards ih =>
        intro n
        rw [List.foldl_cons, ih, List.flatMap_cons, List.length_append, SortedMap.size,
          Nat.add_assoc]
  rw [entryCount, key, entries, List.length_mergeSort, Nat.zero_add]

/-- What may be asked of a directory. A commit brings the keys that it writes, and what is to be
done with other state if its node is found to write them. -/
inductive Call (σ α : Type) where
  | operate (op : Operation)
  | commit (n : NodeId) (keys : List Key) (apply : StateM σ (Except Error α))

variable {σ α : Type}

/-- The directory and the other state after a call, which may have been refused. -/
def serve (x : Directory × σ) : Call σ α → Directory × σ
  | .operate op => (x.1.step op, x.2)
  | .commit n keys apply => (x.1, ((x.1.commit n keys apply).run x.2).2)

def serveAll (x : Directory × σ) (calls : List (Call σ α)) : Directory × σ :=
  calls.foldl serve x

theorem Kept.serveAll {x : Directory × σ} (h : x.1.Kept) (calls : List (Call σ α)) :
    (serveAll x calls).1.Kept := by
  induction calls generalizing x with
  | nil => exact h
  | cons call calls ih =>
      refine ih (x := serve x call) ?_
      cases call with
      | operate op => exact h.step op
      | commit n keys apply => exact h

/-- Whatever has been asked of a directory that started empty, a writer of a key is its only holder,
no entry stands for a key that nobody holds, and the list of entries has every held key once, with
its state, in the order of keys. -/
theorem count_entries_serveAll (place : Key → Nat) (shards : Nat) (x : σ)
    (calls : List (Call σ α)) :
    let d := (serveAll (new place shards, x) calls).1
    (∀ k n m, (d.state k).levelOf n = some .write → (d.state k).levelOf m ≠ none → m = n) ∧
    (∀ m ∈ d.shards, ∀ e ∈ m.entries,
      e.2 ≠ .unheld ∧ ∀ readers, e.2 = .shared readers → readers.toList ≠ []) ∧
    (∀ k s, d.entries.count (k, s) = if d.state k = s ∧ s ≠ .unheld then 1 else 0) ∧
    d.entries.Pairwise (fun a b => a.1.Before b.1) ∧
    d.entryCount = d.entries.length := by
  intro d
  have h : d.Kept := (kept_new place shards).serveAll calls
  refine ⟨?_, ?_, h.count_entries, h.pairwise_entries, d.entryCount_eq⟩
  · intro k n m writes holds
    exact Access.State.eq_of_levelOf_write writes holds
  · intro m hm e he
    obtain ⟨i, hi⟩ := List.mem_iff_getElem?.mp hm
    have found : (d.shard i).get? e.1 = some e.2 := by
      rw [Directory.shard, hi]
      exact SortedMap.get?_eq_some_iff.mpr he
    obtain ⟨someone, coherent⟩ := h.held found
    refine ⟨?_, ?_⟩
    · intro unheld
      rw [unheld] at someone
      cases someone
    · intro readers shared none
      rw [shared, Access.State.isCoherent, none] at coherent
      cases coherent

end Directory

end CacheCoherence
