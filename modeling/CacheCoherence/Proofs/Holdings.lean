import CacheCoherence.Proofs.Requests
import CacheCoherence.Queue.Basic

/-!
The levels in a node's own record. A node gives up access in it in the same way
as in the directory: it is left with nothing, or with no more than read access.
In its own record it does so when it asks, in the directory when the request is
processed.
-/

namespace CacheCoherence

namespace Holdings

def changed (h : Holdings) (k : Key) : Access.Change → Holdings
  | .release => h.evicted k
  | .weaken => h.downgraded k

theorem level?_empty (k : Key) : ({} : Holdings).level? k = none :=
  SortedMap.get?_empty k

theorem level?_granted (h : Holdings) (k : Key) (level : Access.Level) (j : Key) :
    (h.granted k level).level? j = if j = k then some level else h.level? j :=
  SortedMap.get?_insert ..

theorem level?_changed (h : Holdings) (k : Key) (c : Access.Change) (j : Key) :
    (h.changed k c).level? j = if j = k then c.leaves (h.level? k) else h.level? j := by
  cases c with
  | release => exact SortedMap.get?_erase ..
  | weaken =>
      rw [changed, downgraded, mayWrite]
      split
      next writes =>
        rw [decide_eq_true_eq] at writes
        rw [writes]
        exact SortedMap.get?_insert ..
      next unwritten =>
        rw [decide_eq_true_eq] at unwritten
        rw [Access.Change.leaves_weaken unwritten]
        split
        next own => rw [own]
        next => rfl

end Holdings

/-- The key and the change of access of a request that is handed in as the giving up of a key. -/
def Ask.gives? : Ask → Option (Key × Access.Change)
  | .enqueue _ => none
  | .evict k => some (k, .release)
  | .downgrade k => some (k, .weaken)

/-- What is given up is what the request asks the server to take. -/
theorem Ask.change?_request {a : Ask} {p : Key × Access.Change} (h : a.gives? = some p) :
    a.request.change? = some p := by
  cases a with
  | enqueue r => cases h
  | evict k | downgrade k => cases k <;> exact h

theorem UpdateQueue.forgo_eq (q : UpdateQueue) (a : Ask) :
    q.forgo a =
      match a.gives? with
      | some (k, c) => { q with holdings := q.holdings.changed k c }
      | none => q := by
  cases a <;> rfl

end CacheCoherence
