import CacheCoherence.Proofs.DirectoryTable

/-!
What each operation on a directory does to the levels that nodes have. It comes
about exactly when the levels of the others, or the node's own, allow it; then
it changes the level of its node on its key, and no other level.
-/

namespace CacheCoherence

namespace Access.State

theorem allowReader_cases (s : State) (n : NodeId) :
    match s.allowReader n with
    | .ok t => (∀ m, m ≠ n → s.levelOf m ≠ some .write) ∧
        ∀ m, t.levelOf m =
          if m = n then some (if s.levelOf n = some .write then .write else .read) else s.levelOf m
    | .error holder => holder ≠ n ∧ s.levelOf holder = some .write := by
  cases s with
  | unheld =>
      refine ⟨fun m _ => nofun, fun m => ?_⟩
      by_cases e : m = n <;> simp [levelOf, e]
  | shared readers =>
      refine ⟨fun m _ => ?_, fun m => ?_⟩
      · simp [levelOf]
      · have joined : (readers.insert n).contains m = (decide (m = n) || readers.contains m) := by
          rw [Bool.eq_iff_iff, SortedSet.contains_iff, SortedSet.mem_insert, Bool.or_eq_true,
            decide_eq_true_iff, SortedSet.contains_iff]
        simp only [levelOf, joined]
        by_cases e : m = n <;> simp [e]
  | exclusive writer =>
      by_cases own : writer = n
      · subst own
        simp only [allowReader, if_true]
        refine ⟨fun m ne => ?_, fun m => ?_⟩
        · simp [levelOf, Ne.symm ne]
        · by_cases e : m = writer <;> simp [levelOf, e]
      · simp [allowReader, levelOf, own]

theorem allowWriter_cases (s : State) (n : NodeId) :
    match s.allowWriter n with
    | .ok t => (∀ m, m ≠ n → s.levelOf m = none) ∧
        ∀ m, t.levelOf m = if m = n then some .write else s.levelOf m
    | .error holder => holder ≠ n ∧ s.levelOf holder ≠ none := by
  have alone : (∀ m, m ≠ n → s.levelOf m = none) → ∀ m,
      (exclusive n).levelOf m = if m = n then some .write else s.levelOf m := by
    intro none m
    by_cases e : m = n
    · simp [levelOf, e]
    · rw [if_neg e, none m e]
      exact if_neg (Ne.symm e)
  cases s with
  | unheld => exact ⟨fun m _ => rfl, alone fun m _ => rfl⟩
  | shared readers =>
      rw [allowWriter]
      cases found : readers.toList.find? (· ≠ n) with
      | some other =>
          have ne : other ≠ n := by simpa using List.find?_some found
          have reads : readers.contains other = true :=
            List.contains_iff_mem.mpr (List.mem_of_find?_eq_some found)
          exact ⟨ne, by simp [levelOf, reads]⟩
      | none =>
          have others : ∀ m, m ≠ n → (shared readers).levelOf m = none := by
            intro m ne
            have absent : m ∉ readers.toList := fun member => by
              simpa [ne] using List.find?_eq_none.mp found m member
            simp [levelOf, SortedSet.contains, absent]
          exact ⟨others, alone others⟩
  | exclusive writer =>
      by_cases own : writer = n
      · subst own
        simp only [allowWriter, if_true]
        refine ⟨fun m ne => ?_, fun m => ?_⟩
        · simp [levelOf, Ne.symm ne]
        · by_cases e : m = writer <;> simp [levelOf, e]
      · simp [allowWriter, levelOf, own]

/-- The level with which `n` leaves, and how it comes to leave, are known from the change. -/
theorem change?_cases (s : State) (n : NodeId) (c : Change) :
    match s.change? n c with
    | some t => (match c with
          | .release => s.levelOf n ≠ none
          | .weaken => s.levelOf n = some .write) ∧
        ∀ m, t.levelOf m = if m = n then c.level else s.levelOf m
    | none => match c with
        | .release => s.levelOf n = none
        | .weaken => s.levelOf n ≠ some .write := by
  have refused := change?_eq_none_iff s n c
  cases given : s.change? n c with
  | none => exact refused.mp given
  | some t =>
      refine ⟨?_, fun m => levelOf_of_change? given m⟩
      have not := mt refused.mpr (by simp [given])
      cases c with
      | release => exact not
      | weaken => exact Classical.not_not.mp not

end Access.State

namespace Directory

/-- A directory that has come about from an empty one by calls, accepted or refused. -/
def Reachable (d : Directory) : Prop :=
  ∃ (σ α : Type) (place : Key → Nat) (shards : Nat) (x : σ) (calls : List (Call σ α)),
    d = (serveAll (new place shards, x) calls).1

theorem Reachable.kept {d : Directory} (h : d.Reachable) : d.Kept := by
  obtain ⟨σ, α, place, shards, x, calls, rfl⟩ := h
  exact (kept_new place shards).serveAll calls

/-- In `d'` the node `n` has the level given for `k`, and all else is as in `d`. -/
def Relevels (d d' : Directory) (k : Key) (n : NodeId) (level : Option Access.Level) : Prop :=
  ∀ j m, (d'.state j).levelOf m = if j = k ∧ m = n then level else (d.state j).levelOf m

theorem step_of_not_allowed {d : Directory} {k : Key} {n holder : NodeId} {level : Access.Level}
    (refused : (d.state k).allow n level = .error holder) : d.step (.grant k n level) = d := by
  simp only [step, grant, refused]
  rfl

theorem step_of_not_changed {d : Directory} {k : Key} {n : NodeId} {c : Access.Change}
    (refused : (d.state k).change? n c = none) : d.step (.change k n c) = d := by
  simp only [step, change_eq, refused]
  rfl

section Levels

variable {d : Directory} (h : d.Kept) (n : NodeId) (k : Key)

include h in
theorem Kept.relevels_record {s : Access.State} {level : Option Access.Level}
    (levels : ∀ m, s.levelOf m = if m = n then level else (d.state k).levelOf m) :
    d.Relevels (d.record k s) k n level := by
  intro j m
  rw [state_record h.wide]
  by_cases e : j = k
  · rw [if_pos e, levels, e]
    simp
  · rw [if_neg e, if_neg fun both => e both.1]

include h in
theorem Kept.grantRead_cases :
    match d.grant k n .read with
    | .ok d' => (∀ m, m ≠ n → (d.state k).levelOf m ≠ some .write) ∧
        d.Relevels d' k n
          (some (if (d.state k).levelOf n = some .write then .write else .read))
    | .error e => d.step (.grant k n .read) = d ∧
        ∃ holder, holder ≠ n ∧ (d.state k).levelOf holder = some .write ∧
          e = .accessConflict k .read n holder := by
  have cases := (d.state k).allowReader_cases n
  rw [grant, Access.State.allow]
  cases allowed : (d.state k).allowReader n with
  | ok s =>
      rw [allowed] at cases
      exact ⟨cases.1, h.relevels_record n k cases.2⟩
  | error holder =>
      rw [allowed] at cases
      exact ⟨step_of_not_allowed allowed, holder, cases.1, cases.2, rfl⟩

include h in
theorem Kept.grantWrite_cases :
    match d.grant k n .write with
    | .ok d' => (∀ m, m ≠ n → (d.state k).levelOf m = none) ∧ d.Relevels d' k n (some .write)
    | .error e => d.step (.grant k n .write) = d ∧
        ∃ holder, holder ≠ n ∧ (d.state k).levelOf holder ≠ none ∧
          e = .accessConflict k .write n holder := by
  have cases := (d.state k).allowWriter_cases n
  rw [grant, Access.State.allow]
  cases allowed : (d.state k).allowWriter n with
  | ok s =>
      rw [allowed] at cases
      exact ⟨cases.1, h.relevels_record n k cases.2⟩
  | error holder =>
      rw [allowed] at cases
      exact ⟨step_of_not_allowed allowed, holder, cases.1, cases.2, rfl⟩

include h in
theorem Kept.evict_cases :
    match d.evict k n with
    | .ok d' => (d.state k).levelOf n ≠ none ∧ d.Relevels d' k n none
    | .error f => d.step (.change k n .release) = d ∧
        (d.state k).levelOf n = none ∧ f = .notHeld n k (d.state k) := by
  have cases := (d.state k).change?_cases n .release
  rw [Access.State.change?] at cases
  rw [evict]
  cases given : (d.state k).release? n with
  | some s =>
      rw [given] at cases
      exact ⟨cases.1, h.relevels_record n k cases.2⟩
  | none =>
      rw [given] at cases
      exact ⟨step_of_not_changed given, cases, rfl⟩

include h in
theorem Kept.downgrade_cases :
    match d.downgrade k n with
    | .ok d' => (d.state k).levelOf n = some .write ∧ d.Relevels d' k n (some .read)
    | .error f => d.step (.change k n .weaken) = d ∧
        (d.state k).levelOf n ≠ some .write ∧ f = .notWriter n k (d.state k) := by
  have cases := (d.state k).change?_cases n .weaken
  rw [Access.State.change?] at cases
  rw [downgrade]
  cases given : (d.state k).weaken? n with
  | some s =>
      rw [given] at cases
      exact ⟨cases.1, h.relevels_record n k cases.2⟩
  | none =>
      rw [given] at cases
      exact ⟨step_of_not_changed given, cases, rfl⟩

theorem levelOf_releaseNode (m : NodeId) :
    ((d.releaseNode n).1.state k).levelOf m =
      if m = n then none else (d.state k).levelOf m := by
  rw [state_releaseNode, Access.State.levelOf_changed]
  rfl

/-- The keys that `n` holds, by the entries of the table. -/
def keysOf (d : Directory) (n : NodeId) : List Key :=
  (d.entries.filter fun e => e.2.holds n).map Prod.fst

include h in
theorem Kept.mem_keysOf_iff : k ∈ d.keysOf n ↔ (d.state k).levelOf n ≠ none := by
  rw [keysOf, List.mem_map]
  constructor
  · rintro ⟨⟨j, s⟩, here, rfl⟩
    obtain ⟨here, holds⟩ := List.mem_filter.mp here
    rw [((h.mem_entries_iff j s).mp here).1]
    exact (Access.State.holds_iff s n).mp holds
  · intro holds
    refine ⟨(k, d.state k), List.mem_filter.mpr ⟨?_, (Access.State.holds_iff _ n).mpr holds⟩, rfl⟩
    refine (h.mem_entries_iff k _).mpr ⟨rfl, fun unheld => ?_⟩
    rw [unheld] at holds
    exact holds rfl

include h in
theorem Kept.nodup_keysOf : (d.keysOf n).Nodup := by
  have distinct : (d.entries.map Prod.fst).Nodup :=
    List.pairwise_map.mpr <| h.pairwise_entries.imp fun {a b} before same => by
      rw [same, ← Key.compare_eq_lt_iff, Std.compare_self] at before
      cases before
  exact distinct.sublist (List.filter_sublist.map Prod.fst)

theorem releaseNode_snd (d : Directory) : (d.releaseNode n).2 = (d.keysOf n).length := by
  have key : ∀ (shards : List (SortedMap Key Access.State)) (total : Nat),
      shards.foldl (fun total m => total + (m.entries.filter fun e => e.2.holds n).length) total =
        total + ((shards.flatMap SortedMap.entries).filter fun e => e.2.holds n).length := by
    intro shards
    induction shards with
    | nil => intro total; rfl
    | cons m shards ih =>
        intro total
        rw [List.foldl_cons, ih, List.flatMap_cons, List.filter_append, List.length_append,
          Nat.add_assoc]
  have perm : d.entries.Perm (d.shards.flatMap SortedMap.entries) := List.mergeSort_perm _ _
  rw [releaseNode, key, Nat.zero_add, keysOf, List.length_map]
  exact (perm.filter _).length_eq.symm

variable {σ α : Type} (keys : List Key) (apply : StateM σ (Except Error α)) (x : σ)

theorem commit_cases :
    ((∀ j ∈ keys, (d.state j).levelOf n = some .write) ∧
      (d.commit n keys apply).run x = apply.run x) ∨
    ∃ j ∈ keys, (d.state j).levelOf n ≠ some .write ∧
      (d.commit n keys apply).run x =
        (.error (.consistency (.commitNotWriter n j (d.state j))), x) := by
  rw [commit_eq]
  cases found : d.firstNotWritten n keys with
  | none =>
      refine .inl ⟨fun j hj => ?_, rfl⟩
      rw [Access.State.levelOf_eq_write_iff]
      exact firstNotWritten_eq_none_iff.mp found j hj
  | some j =>
      obtain ⟨before, behind, rfl, -, ne⟩ := split_of_firstNotWritten found
      refine .inr ⟨j, List.mem_append_right before List.mem_cons_self, ?_, rfl⟩
      rwa [Ne, Access.State.levelOf_eq_write_iff]

end Levels

/-- An operation comes about exactly when the levels on its key allow it, gives its node the level
that it is for, and leaves every other level alone. A refused one leaves the directory as it is and
tells the recorded state, or another node that stands in its way. -/
theorem levels_of_operations {d : Directory} (reachable : d.Reachable) (n : NodeId) (k : Key) :
    (match d.grant k n .read with
      | .ok d' => (∀ m, m ≠ n → (d.state k).levelOf m ≠ some .write) ∧
          d.Relevels d' k n
            (some (if (d.state k).levelOf n = some .write then .write else .read))
      | .error e => d.step (.grant k n .read) = d ∧
          ∃ holder, holder ≠ n ∧ (d.state k).levelOf holder = some .write ∧
            e = .accessConflict k .read n holder) ∧
    (match d.grant k n .write with
      | .ok d' => (∀ m, m ≠ n → (d.state k).levelOf m = none) ∧ d.Relevels d' k n (some .write)
      | .error e => d.step (.grant k n .write) = d ∧
          ∃ holder, holder ≠ n ∧ (d.state k).levelOf holder ≠ none ∧
            e = .accessConflict k .write n holder) ∧
    (match d.evict k n with
      | .ok d' => (d.state k).levelOf n ≠ none ∧ d.Relevels d' k n none
      | .error f => d.step (.change k n .release) = d ∧
          (d.state k).levelOf n = none ∧ f = .notHeld n k (d.state k)) ∧
    (match d.downgrade k n with
      | .ok d' => (d.state k).levelOf n = some .write ∧ d.Relevels d' k n (some .read)
      | .error f => d.step (.change k n .weaken) = d ∧
          (d.state k).levelOf n ≠ some .write ∧ f = .notWriter n k (d.state k)) ∧
    ((∀ j m, ((d.releaseNode n).1.state j).levelOf m =
        if m = n then none else (d.state j).levelOf m) ∧
      ∃ held : List Key, held.Nodup ∧ (∀ j, j ∈ held ↔ (d.state j).levelOf n ≠ none) ∧
        (d.releaseNode n).2 = held.length) ∧
    ∀ {σ α : Type} (keys : List Key) (apply : StateM σ (Except Error α)) (x : σ),
      (serve (d, x) (.commit n keys apply)).1 = d ∧
      ((∀ j ∈ keys, (d.state j).levelOf n = some .write) ∧
          (d.commit n keys apply).run x = apply.run x ∨
        ∃ j ∈ keys, (d.state j).levelOf n ≠ some .write ∧
          (d.commit n keys apply).run x =
            (.error (.consistency (.commitNotWriter n j (d.state j))), x)) := by
  have h : d.Kept := reachable.kept
  refine ⟨h.grantRead_cases n k, h.grantWrite_cases n k, h.evict_cases n k, h.downgrade_cases n k,
    ⟨fun j m => levelOf_releaseNode n j m, ?_⟩, ?_⟩
  · exact ⟨d.keysOf n, h.nodup_keysOf n, h.mem_keysOf_iff n, releaseNode_snd n d⟩
  · intro σ α keys apply x
    exact ⟨rfl, commit_cases n keys apply x⟩

/-- Node 1 reads one object alone and comes to write it, shares another one with node 2, and reads a
binding; a commit and an eviction that is refused change nothing. -/
def spread : List (Call Unit Unit) :=
  [.operate (.grant (.object 1) 1 .read), .operate (.grant (.object 1) 1 .write),
    .operate (.grant (.object 2) 1 .read), .operate (.grant (.object 2) 2 .read),
    .operate (.grant (.binding "door") 1 .read), .commit 1 [.object 1] (pure (.ok ())),
    .operate (.change (.object 1) 2 .release)]

theorem levels_of_spread :
    let d := (serveAll (new Key.place 2, ()) spread).1
    (∃ holder, holder ≠ 2 ∧ (d.state (.object 1)).levelOf holder = some .write ∧
      d.grant (.object 1) 2 .read = .error (.accessConflict (.object 1) .read 2 holder)) ∧
    (∃ d', d.evict (.object 2) 2 = .ok d' ∧ (d'.state (.object 2)).levelOf 1 = some .read ∧
      (d'.state (.object 2)).levelOf 2 = none) ∧
    ∃ held : List Key, held.Nodup ∧ (∀ j, j ∈ held ↔ (d.state j).levelOf 1 ≠ none) ∧
      held.length = 3 := by
  intro d
  have reachable : d.Reachable := ⟨Unit, Unit, Key.place, 2, (), spread, rfl⟩
  refine ⟨?_, ?_, ?_⟩
  · have read := (levels_of_operations reachable 2 (.object 1)).1
    have written : (d.state (.object 1)).levelOf 1 = some .write := by decide
    cases granted : d.grant (.object 1) 2 .read with
    | ok d' =>
        rw [granted] at read
        exact absurd written (read.1 1 (by decide))
    | error e =>
        rw [granted] at read
        obtain ⟨-, holder, other, writes, rfl⟩ := read
        exact ⟨holder, other, writes, rfl⟩
  · have evict := (levels_of_operations reachable 2 (.object 2)).2.2.1
    have shared : (d.state (.object 2)).levelOf 2 = some .read := by decide
    cases given : d.evict (.object 2) 2 with
    | ok d' =>
        rw [given] at evict
        refine ⟨d', rfl, ?_, ?_⟩
        · rw [evict.2, if_neg (by decide)]
          decide
        · rw [evict.2, if_pos ⟨rfl, rfl⟩]
    | error f =>
        rw [given] at evict
        rw [evict.2.1] at shared
        cases shared
  · obtain ⟨held, distinct, members, count⟩ :=
      (levels_of_operations reachable 1 (.object 1)).2.2.2.2.1.2
    exact ⟨held, distinct, members, count.symm.trans (by decide)⟩

end Directory

end CacheCoherence
