import CacheCoherence.Proofs.BindingWalk
import CacheCoherence.Proofs.CommitHistory

/-!
Scans over the bindings from the beginning. The empty name is the least binding
key, and a scan that starts there meets every other bound name. A step leads to
names that stand strictly behind the key it starts from, so the empty name
itself is never met, even while it is bound.
-/

namespace CacheCoherence

theorem BindingKey.before_of_ne_empty {k : BindingKey} (other : k ≠ .name "") :
    BindingKey.Before (.name "") k := by
  cases k with
  | upper => trivial
  | name text =>
      refine (Text.Utf8.encode_lt_iff "" text).mpr (String.lt_iff.mpr ?_)
      cases chars : text.toList with
      | nil =>
          have empty : text = "" := String.toList_inj.mp chars
          exact absurd (congrArg BindingKey.name empty) other
      | cons c rest => exact List.nil_lt_cons c rest

namespace Store

/-- A scan from the empty name meets the bound names other than the empty one. -/
theorem met_iff (s : Store) (text : String) :
    (∃ i, s.nextBinding^[i + 1] (.name "") = .name text) ↔
      (s.binding text).isSome = true ∧ text ≠ "" := by
  have met : ∀ i, s.nextBinding^[i + 1] (.name "") = .name text ↔
      (s.namesAfter (.name ""))[i]? = some text := by
    intro i
    rw [iterate_nextBinding]
    cases (s.namesAfter (.name ""))[i]? <;> simp
  simp only [met, ← List.mem_iff_getElem?, mem_namesAfter_iff]
  refine and_congr_right fun _ => ⟨fun before empty => ?_, fun other => ?_⟩
  · rw [empty] at before
    exact List.lt_irrefl _ before
  · exact BindingKey.before_of_ne_empty fun same => other (BindingKey.name.inj same)

theorem bindings_foldl_write (s : Store) (batches : List Batch) :
    (batches.foldl write s).bindings =
      (batches.flatMap Batch.bindings).foldl (fun m w => m.alter w.name w.target) s.bindings := by
  induction batches generalizing s with
  | nil => rfl
  | cons b batches ih =>
      rw [List.foldl_cons, ih, List.flatMap_cons, List.foldl_append]
      rfl

end Store

namespace Server

/-- What a name is bound to is decided by the last write to it of all commits that succeeded. -/
theorem binding_after {settings : Settings} {place : Key → Nat} {s : Server}
    (new : Server.new settings place = .ok s) (ops : List Operation) (text : String) :
    (s.after ops).store.binding text =
      (((s.history ops).flatMap Batch.bindings).reverse.find? fun w => w.name = text).bind
        BindingWrite.target := by
  have value := s.value?_after ops (.binding (.name text))
  have same := Option.map_injective (fun _ _ => Value.target.inj) value
  have empty : s.store = {} := congrArg Server.store (eq_of_new new)
  rw [same, Store.binding, Store.bindings_foldl_write, SortedMap.get?_foldl_alter, empty]
  cases ((s.history ops).flatMap Batch.bindings).reverse.find? fun w => w.name = text <;> rfl

/-- At any point of a run a scan that starts at the least binding key reaches the upper bound, and
on the way it meets exactly the names that the last commit naming them has bound, but for the empty
name. -/
theorem scan_misses_only_empty {settings : Settings} {place : Key → Nat} {s : Server}
    (new : Server.new settings place = .ok s) (ops : List Operation) :
    let t := (s.after ops).store
    (∀ k : BindingKey, k ≠ .name "" → BindingKey.Before (.name "") k) ∧
    (∃ calls ≤ t.bindings.size + 1, t.nextBinding^[calls] (.name "") = .upper) ∧
    (∀ text, t.binding text =
      (((s.history ops).flatMap Batch.bindings).reverse.find? fun w => w.name = text).bind
        BindingWrite.target) ∧
    ∀ text, (∃ i, t.nextBinding^[i + 1] (.name "") = .name text) ↔
      (t.binding text).isSome = true ∧ text ≠ "" := by
  intro t
  refine ⟨fun k => BindingKey.before_of_ne_empty, ⟨_, Nat.le_refl _, ?_⟩, binding_after new ops,
    t.met_iff⟩
  rw [Store.iterate_nextBinding, List.getElem?_eq_none (t.length_namesAfter_le _)]
  rfl

/-- Node 1 binds the empty name and two others, and unbinds one of them again. -/
def scanned : List Operation :=
  [.register 1, .directory (.grant (.binding "") 1 .write),
    .directory (.grant (.binding "a") 1 .write), .directory (.grant (.binding "b") 1 .write),
    .process 0 (.commit (((Batch.bind {} "b" 1).bind "" 1).bind "a" 2)),
    .process 0 (.commit (.unbind {} "b"))]

theorem scan_misses_only_empty_scanned :
    let s : Server := ⟨{ shards := 1, feedCapacity := 1 }, .new Key.place 1, {}, {}, .new 1⟩
    let t := (s.after scanned).store
    Server.new { shards := 1, feedCapacity := 1 } Key.place = .ok s ∧
      t.binding "a" = some 2 ∧ t.binding "b" = none ∧ (t.binding "").isSome = true ∧
      (∃ i, t.nextBinding^[i + 1] (.name "") = .name "a") ∧
      ¬∃ i, t.nextBinding^[i + 1] (.name "") = .name "" := by
  intro s t
  have new : Server.new { shards := 1, feedCapacity := 1 } Key.place = .ok s := rfl
  obtain ⟨-, -, bound, met⟩ := scan_misses_only_empty new scanned
  have history : s.history scanned =
      [((Batch.bind {} "b" 1).bind "" 1).bind "a" 2, .unbind {} "b"] := by decide
  rw [history] at bound
  have a : t.binding "a" = some 2 := bound "a"
  refine ⟨new, a, bound "b", ?_, (met "a").mpr ⟨?_, by decide⟩, fun seen => ?_⟩
  · exact congrArg Option.isSome (bound "")
  · exact congrArg Option.isSome a
  · exact ((met "").mp seen).2 rfl

/-- A binding of the empty name is read from its frame and committed, and no scan shows it. -/
theorem empty_name_unseen :
    let s : Server := ⟨{ shards := 1, feedCapacity := 1 }, .new Key.place 1, {}, {}, .new 1⟩
    let b := Batch.bind {} "" 1
    let ops : List Operation :=
      [.register 1, .directory (.grant (.binding "") 1 .write), .process 0 (.commit b)]
    let t := (s.after ops).store
    Server.new { shards := 1, feedCapacity := 1 } Key.place = .ok s ∧
      (Request.read s.settings.limits).attempt (Request.commit b).frame =
        (.ok (some (.commit b)), []) ∧
      s.history ops = [b] ∧
      ¬∀ text, (t.binding text).isSome = true →
        ∃ i, t.nextBinding^[i + 1] (.name "") = .name text := by
  intro s b ops t
  refine ⟨rfl, by decide, by decide, fun all => ?_⟩
  exact ((t.met_iff "").mp (all "" (by decide))).2 rfl

end Server

end CacheCoherence
