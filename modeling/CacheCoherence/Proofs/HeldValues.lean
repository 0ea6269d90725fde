import CacheCoherence.Proofs.ServerRun

/-!
A held value never goes stale. While a node holds a key nobody else writes it,
and a commit needs the writer of each of its keys; so the value that the store
has for the key changes by the node's own commits only.
-/

namespace CacheCoherence.Server

theorem value?_step_of_holds {s : Server} {op : Operation} {m : NodeId} {k : Key}
    (held : (s.directory.state k).holds m = true)
    (quiet : ∀ b, s.committed? op = some (m, b) → k ∉ b.keys) :
    (s.step op).store.value? k = s.store.value? k := by
  rw [value?_step]
  cases committed : s.committed? op with
  | none => rfl
  | some p =>
      obtain ⟨n, b⟩ := p
      apply Store.value?_write_of_not_mem
      intro named
      have writes := levelOf_of_committed? committed named
      have self := Access.State.eq_of_levelOf_write writes ((Access.State.holds_iff _ _).mp held)
      subst self
      exact quiet b committed named

/-- Between two points of a run at which, and between which, a node holds a key, only commits of the
node itself change the key's value. Nothing is asked of the state in which the run starts, so it may
be a new server with any store. -/
theorem value?_eq_while_held (s : Server) (ops : List Operation) (m : NodeId) (k : Key) {i j : Nat}
    (order : i ≤ j)
    (held : ∀ l, i ≤ l → l ≤ j → ((s.after (ops.take l)).directory.state k).holds m = true)
    (quiet : ∀ l op b, i ≤ l → l < j → ops[l]? = some op →
      (s.after (ops.take l)).committed? op = some (m, b) → k ∉ b.keys) :
    (s.after (ops.take j)).store.value? k = (s.after (ops.take i)).store.value? k := by
  induction j, order using Nat.le_induction with
  | base => rfl
  | succ j order ih =>
      have before := ih (fun l hi hj => held l hi (by omega))
        (fun l op b hi hj => quiet l op b hi (by omega))
      rw [← before, List.take_add_one]
      cases next : ops[j]? with
      | none => simp
      | some op =>
          rw [Option.toList_some, after_concat]
          exact value?_step_of_holds (held j order (by omega))
            (fun b => quiet j op b order (by omega) next)

/-- Two nodes and two objects: node 1 writes both objects, and from the sixth operation on node 2
tries to write the first one, node 1 writes the other one and then shares the first. -/
def contested : List Operation :=
  let a : NodeId := 1
  let b : NodeId := 2
  let x : ObjectId := 10
  let y : ObjectId := 11
  [.register a, .register b,
    .directory (.grant (.object x) a .write), .directory (.grant (.object y) a .write),
    .process 0 (.commit (.store {} x [7])),
    .process 1 (.commit (.store {} x [9])), .call a (.commit (.store {} y [8])),
    .process 0 (.downgradeObject x), .directory (.grant (.object x) b .read),
    .process 1 (.evictObject x)]

theorem value?_eq_while_contested :
    let s : Server := ⟨{}, .new Key.place 1, {}, {}, .new 1⟩
    let m : NodeId := 1
    let k : Key := .object 10
    (s.after (contested.take 5)).store.value? k = some (.bytes [7]) ∧
      ((s.after (contested.take 10)).directory.state k).levelOf m = some .read ∧
      (s.after (contested.take 10)).store.value? k =
        (s.after (contested.take 5)).store.value? k := by
  intro s m k
  refine ⟨by decide, by decide, value?_eq_while_held s contested m k (by decide) ?_ ?_⟩
  · intro l from5 to10
    have check : ∀ l < 11, 5 ≤ l →
        ((s.after (contested.take l)).directory.state k).holds m = true := by decide
    exact check l (by omega) from5
  · intro l op b from5 to10 here committed named
    have check : ∀ l < 10, 5 ≤ l → ((contested[l]?).bind
        (s.after (contested.take l)).committed?).all
          (fun p => decide (p.1 = m → k ∉ p.2.keys)) = true := by decide
    have quiet := check l to10 from5
    simp only [here, committed, Option.bind_some, Option.all_some, decide_eq_true_iff] at quiet
    exact quiet trivial named

end CacheCoherence.Server
