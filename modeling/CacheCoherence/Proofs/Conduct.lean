import CacheCoherence.Proofs.Holdings
import CacheCoherence.Proofs.QueueFailure

/-!
Completions that keep to a conduct: they ask only what they may, change the
record of what the node holds only by what they ask, and fail the queue only if
they may. One that asks for nothing to be given up leaves the record as it is.
So what a refused release has changed in the record is what the release itself
gave up before it was refused.
-/

namespace CacheCoherence

/-- What completions may do to the queue that runs them, besides letting go of it. -/
structure Conduct where
  asks : Ask → Bool
  /-- Whether they may shut the queue down, or panic. -/
  fails : Bool

/-- They give up no key, and do not fail the queue. -/
def Conduct.quiet : Conduct :=
  ⟨fun a => a.gives?.isNone, false⟩

def Completion.keepsTo (w : Conduct) : Completion → Bool
  | .ignore | .notify _ => true
  | .callback _ panics => w.fails || !panics
  | .asking a c later => w.asks a && c.keepsTo w && later.keepsTo w
  | .closing later => w.fails && later.keepsTo w
  | .releasing later => later.keepsTo w
  | .recording _ _ => false

namespace UpdateQueue

theorem refusal?_forgo (q : UpdateQueue) (a : Ask) (r : Request) :
    (q.forgo a).refusal? r = q.refusal? r := by
  cases a <;> rfl

/-- An assertion withstands a completion that keeps to a conduct if it withstands what the conduct
allows. -/
theorem react_of_keepsTo {w : Conduct} {P : UpdateQueue → Prop}
    {fail : UpdateQueue → ChannelError → UpdateQueue}
    (accept : ∀ {q} a c, P q → w.asks a = true → c.keepsTo w = true →
      q.refusal? a.request = none → P ((q.forgo a).accept a.request c))
    (refuse : ∀ {q} a c e, P q → w.asks a = true → c.keepsTo w = true →
      q.refusal? a.request = some e → P ((q.forgo a).refuse a.request c e))
    (release : ∀ {q}, P q → P q.release)
    (failed : w.fails = true → ∀ {q} e, P q → P (fail q e))
    (c : Completion) (keeps : c.keepsTo w = true) (q : UpdateQueue) (n : Nat) (h : P q) :
    P (react fail n c q) := by
  induction c generalizing q n with
  | ignore | notify _ => exact h
  | callback name panics =>
      rw [react]
      split
      next panicking =>
        rw [Completion.keepsTo, panicking, Bool.not_true, Bool.or_false] at keeps
        exact failed keeps _ h
      next => exact h
  | asking a c later ihc ih =>
      simp only [Completion.keepsTo, Bool.and_eq_true] at keeps
      obtain ⟨⟨allowed, now⟩, afterwards⟩ := keeps
      rw [react]
      split
      · refine ih afterwards _ _ ?_
        rw [q.refusal?_forgo]
        cases found : q.refusal? a.request with
        | none => exact accept a c h allowed now found
        | some e => exact ihc now _ _ (refuse a c e h allowed now found)
      · exact ih afterwards _ _ h
  | closing later ih =>
      rw [Completion.keepsTo, Bool.and_eq_true] at keeps
      rw [react]
      refine ih keeps.2 _ _ ?_
      split
      · exact failed keeps.1 _ h
      · exact h
  | releasing later ih => exact ih keeps _ _ (release h)
  | recording holdings later ih => cases keeps

/-- What a quiet completion leaves of a queue: more requests may wait behind those that did. -/
structure Undisturbed (q₀ q : UpdateQueue) : Prop where
  holdings : q.holdings = q₀.holdings
  sent : q.sent = q₀.sent
  inFlight : q.inFlight = q₀.inFlight
  issued : q₀.issued ≤ q.issued
  waiting : ∃ later, q.waiting = q₀.waiting ++ later ∧ ∀ s ∈ later, q₀.issued < s.sequence

theorem undisturbed_refl (q : UpdateQueue) : q.Undisturbed q where
  holdings := rfl
  sent := rfl
  inFlight := rfl
  issued := Nat.le_refl _
  waiting := ⟨[], (List.append_nil _).symm, nofun⟩

theorem forgo_of_gives?_eq_none {q : UpdateQueue} {a : Ask} (h : a.gives? = none) :
    q.forgo a = q := by
  rw [forgo_eq, h]

theorem Undisturbed.react {q₀ q : UpdateQueue} (h : q₀.Undisturbed q) {c : Completion}
    (quiet : c.keepsTo .quiet = true) (fail : UpdateQueue → ChannelError → UpdateQueue) (n : Nat) :
    q₀.Undisturbed (UpdateQueue.react fail n c q) := by
  refine react_of_keepsTo (w := .quiet) ?_ ?_ ?_ (fun fails => ?_) c quiet q n h
  · intro q a c h asks _ _
    obtain ⟨later, waiting, sequences⟩ := h.waiting
    rw [forgo_of_gives?_eq_none (Option.isNone_iff_eq_none.mp asks)]
    refine ⟨h.holdings, h.sent, h.inFlight, Nat.le_succ_of_le h.issued, ?_⟩
    refine ⟨later ++ [⟨q.issued + 1, a.request, c⟩], ?_, fun s hs => ?_⟩
    · rw [← List.append_assoc, ← waiting]
      rfl
    · rw [List.mem_append, List.mem_singleton] at hs
      cases hs with
      | inl old => exact sequences s old
      | inr new => exact new ▸ Nat.lt_succ_of_le h.issued
  · intro q a c e h asks _ _
    rw [forgo_of_gives?_eq_none (Option.isNone_iff_eq_none.mp asks)]
    exact ⟨h.holdings, h.sent, h.inFlight, Nat.le_succ_of_le h.issued, h.waiting⟩
  · intro q h
    exact ⟨h.holdings, h.sent, h.inFlight, h.issued, h.waiting⟩
  · cases fails

theorem enqueue_eq_error {q q' : UpdateQueue} {r : Request} {c : Completion} {e : Error}
    (refused : q.enqueue r c = (q', .error e)) :
    q.refusal? r = some e ∧ q' = UpdateQueue.react fail (q.issued + 1) c (q.refuse r c e) := by
  rw [enqueue] at refused
  cases found : q.refusal? r with
  | none =>
      rw [found] at refused
      cases refused
  | some e' =>
      rw [found] at refused
      cases refused
      exact ⟨rfl, rfl⟩

/-- A release that is refused is not queued, but in the node's own record the key is given up as if
it had been. No other level changes, and that of the key does not if the node had no more than it
would have been left with. -/
theorem level?_of_refused {q q' : UpdateQueue} {a : Ask} {k : Key} {change : Access.Change}
    {c : Completion} {e : Error} (gives : a.gives? = some (k, change))
    (quiet : c.keepsTo .quiet = true) (refused : q.ask a c = (q', .error e)) :
    q.refusal? a.request = some e ∧
    (∃ later, q'.waiting = q.waiting ++ later ∧ ∀ s ∈ later, q.issued + 1 < s.sequence) ∧
    q'.sent = q.sent ∧ q'.inFlight = q.inFlight ∧
    (∀ j, q'.holdings.level? j =
      if j = k then change.leaves (q.holdings.level? k) else q.holdings.level? j) ∧
    (q'.holdings.level? k = q.holdings.level? k ↔
      Access.strength (q.holdings.level? k) ≤ Access.strength change.level) := by
  obtain ⟨why, eq⟩ := enqueue_eq_error refused
  have given : q.forgo a = { q with holdings := q.holdings.changed k change } := by
    rw [forgo_eq, gives]
  rw [refusal?_forgo] at why
  rw [given] at eq
  have left := (undisturbed_refl _).react quiet fail (q.issued + 1)
    (q := refuse { q with holdings := q.holdings.changed k change } a.request c e)
  rw [← eq] at left
  have levels : ∀ j, q'.holdings.level? j =
      if j = k then change.leaves (q.holdings.level? k) else q.holdings.level? j := by
    intro j
    rw [left.holdings]
    exact q.holdings.level?_changed k change j
  refine ⟨why, left.waiting, left.sent, left.inFlight, levels, ?_⟩
  rw [levels k, if_pos rfl]
  exact change.leaves_eq_self_iff _

/-- A node that writes a binding whose name is longer than its own limits allow. -/
def recorded : UpdateQueue :=
  { node := 1
    limits := ⟨8, 8, 4⟩
    holdings := (({} : Holdings).granted (.object 10) .read).granted (.binding (.name "room1"))
      .write }

/-- The completion hands in a commit, which waits. -/
theorem level?_of_refused_recorded :
    let k : Key := .binding (.name "room1")
    let c : Completion := .asking (.enqueue (.commit (.store {} 10 [7]))) .ignore .ignore
    let q' := (recorded.ask (.downgrade k) c).1
    c.keepsTo .quiet = true ∧
      (recorded.ask (.downgrade k) c).2 = .error (.input (.limitExceeded "name" 5 4)) ∧
      q'.waiting.map Submission.sequence = [2] ∧
      q'.holdings.level? k = some .read ∧ q'.holdings.level? (.object 10) = some .read := by
  intro k c q'
  have quiet : c.keepsTo .quiet = true := by decide
  have refused : (recorded.ask (.downgrade k) c).2 =
      .error (.input (.limitExceeded "name" 5 4)) := by decide
  obtain ⟨-, -, -, -, levels, -⟩ := level?_of_refused (q := recorded) (a := .downgrade k)
    rfl quiet (Prod.ext rfl refused)
  exact ⟨quiet, refused, by decide, levels k, levels (.object 10)⟩

/-- A refused release can cost the node its record of write access, though nothing is queued. -/
theorem released_though_refused :
    let k : Key := .binding (.name "room1")
    ∃ e, (recorded.evict k .ignore).2 = .error e ∧
      (recorded.evict k .ignore).1.waiting = [] ∧
      recorded.holdings.level? k = some .write ∧
      (recorded.evict k .ignore).1.holdings.level? k = none :=
  ⟨.input (.limitExceeded "name" 5 4), by decide, by decide, by decide, by decide⟩

end UpdateQueue

end CacheCoherence
