import CacheCoherence.Queue.Basic

/-!
What completions can bring about. An invoked completion may call the queue that
runs it, be refused, and so run further completions, fail the queue and run all
that was in flight. An assertion that withstands each single change withstands
all of it, whatever the completions do.
-/

namespace CacheCoherence.UpdateQueue

open Logging

/-- The changes that an assertion about a queue has to withstand. The list is of the requests that
have been taken out of the queue to be completed. -/
structure Keeps (P : List InFlight → UpdateQueue → Prop) : Prop where
  accept : ∀ {l q} (r : Request) (c : Completion), P l q → q.refusal? r = none →
    P l (q.accept r c)
  refuse : ∀ {l q} (r : Request) (c : Completion) (e : Error), P l q → q.refusal? r = some e →
    P l (q.refuse r c e)
  complete : ∀ {l q} (f : InFlight) (o : Outcome), P (f :: l) q →
    (∀ e, q.failure = some e → o = .error (.channel e)) →
    P l (q.invoke f.sequence f.completion o)
  close : ∀ {l q} (e : ChannelError), P l q → q.failure = none → P (q.inFlight ++ l) (q.close e)
  report : ∀ {l q} (events : List Event), P l q → P l (q.report events)
  record : ∀ {l q} (h : Holdings), P l q → P l { q with holdings := h }
  release : ∀ {l q}, P l q → P l q.release

/-- Whatever completions do comes down to a few changes of the queue that runs them. A queue fails
on their account only when it is shut down or one of them panics. -/
theorem react_induction {P : UpdateQueue → Prop} {fail : UpdateQueue → ChannelError → UpdateQueue}
    (accept : ∀ {q} r c, P q → q.refusal? r = none → P (q.accept r c))
    (refuse : ∀ {q} r c e, P q → q.refusal? r = some e → P (q.refuse r c e))
    (record : ∀ {q} (holdings : Holdings), P q → P { q with holdings })
    (release : ∀ {q}, P q → P q.release)
    (closed : ∀ {q}, P q → P (fail q shutDownByNode))
    (panicked : ∀ {q} n, P q → P (fail q (.completionPanicked n)))
    (c : Completion) (q : UpdateQueue) (n : Nat) (h : P q) : P (react fail n c q) := by
  induction c generalizing q n with
  | ignore | notify _ => exact h
  | callback name panics =>
      rw [react]
      split
      · exact panicked n h
      · exact h
  | asking a c later ihc ih =>
      rw [react]
      split
      · have given : P (q.forgo a) := by
          cases a with
          | enqueue r => exact h
          | evict k | downgrade k => exact record _ h
        refine ih _ _ ?_
        cases found : (q.forgo a).refusal? a.request with
        | none => exact accept _ c given found
        | some e => exact ihc _ _ (refuse _ c e given found)
      · exact ih _ _ h
  | closing later ih =>
      rw [react]
      refine ih _ _ ?_
      split
      · exact closed h
      · exact h
  | releasing later ih => exact ih _ _ (release h)
  | recording holdings later ih =>
      rw [react]
      refine ih _ _ ?_
      split
      · exact record _ h
      · exact h

variable {P : List InFlight → UpdateQueue → Prop}

theorem Keeps.and {Q : List InFlight → UpdateQueue → Prop} (k : Keeps P) (k' : Keeps Q) :
    Keeps fun l q => P l q ∧ Q l q where
  accept r c h accepted := ⟨k.accept r c h.1 accepted, k'.accept r c h.2 accepted⟩
  refuse r c e h refused := ⟨k.refuse r c e h.1 refused, k'.refuse r c e h.2 refused⟩
  complete f o h known := ⟨k.complete f o h.1 known, k'.complete f o h.2 known⟩
  close e h live := ⟨k.close e h.1 live, k'.close e h.2 live⟩
  report events h := ⟨k.report events h.1, k'.report events h.2⟩
  record holdings h := ⟨k.record holdings h.1, k'.record holdings h.2⟩
  release h := ⟨k.release h.1, k'.release h.2⟩

theorem Keeps.forgo (k : Keeps P) {l : List InFlight} {q : UpdateQueue} (a : Ask) (h : P l q) :
    P l (q.forgo a) := by
  cases a with
  | enqueue r => exact h
  | evict key => exact k.record _ h
  | downgrade key => exact k.record _ h

theorem Keeps.react (k : Keeps P) {fail : UpdateQueue → ChannelError → UpdateQueue}
    (hf : ∀ l q e, P l q → P l (fail q e)) (c : Completion) (l : List InFlight) (q : UpdateQueue)
    (n : Nat) (h : P l q) : P l (react fail n c q) :=
  react_induction k.accept k.refuse k.record k.release (hf l _ _) (fun _ => hf l _ _) c q n h

theorem keeps_failure (e : ChannelError) : Keeps fun _ q => q.failure = some e where
  accept _ _ h _ := h
  refuse _ _ _ h _ := h
  complete _ _ h _ := h
  close _ h none := by rw [h] at none; cases none
  report _ h := h
  record _ h := h
  release h := h

theorem Keeps.abandon (k : Keeps P) {l : List InFlight} {q : UpdateQueue} {e : ChannelError}
    (f : InFlight) (h : P (f :: l) q) (failed : q.failure = some e) : P l (q.abandon e f) := by
  have completed : P l (q.invoke f.sequence f.completion (.error (.channel e))) := by
    refine k.complete f _ h fun e' he => ?_
    rw [failed] at he
    cases he
    rfl
  have reacted := k.react (fun _ _ _ h => h) f.completion l _ f.sequence completed
  rw [UpdateQueue.abandon]
  split
  · exact k.report _ reacted
  · exact reacted

theorem Keeps.abandonAll (k : Keeps P) {e : ChannelError} (pending l : List InFlight)
    (q : UpdateQueue) (h : P (pending ++ l) q) (failed : q.failure = some e) :
    P l (pending.foldl (UpdateQueue.abandon e) q) ∧
      (pending.foldl (UpdateQueue.abandon e) q).failure = some e := by
  induction pending generalizing q with
  | nil => exact ⟨h, failed⟩
  | cons f rest ih =>
      refine ih (q.abandon e f) (k.abandon f h failed) ?_
      exact (keeps_failure e).abandon (l := []) f failed failed

theorem Keeps.fail (k : Keeps P) (l : List InFlight) (q : UpdateQueue) (e : ChannelError)
    (h : P l q) : P l (q.fail e) := by
  rw [UpdateQueue.fail]
  cases found : q.failure with
  | some _ => exact h
  | none => exact (k.abandonAll q.inFlight l _ (k.close e h found) rfl).1

theorem failure_fail (q : UpdateQueue) (e : ChannelError) :
    (q.fail e).failure = some (q.failure.getD e) := by
  rw [UpdateQueue.fail]
  cases found : q.failure with
  | some _ => exact found
  | none => exact ((keeps_failure e).abandonAll q.inFlight [] _ rfl rfl).2

theorem Keeps.deliver (k : Keeps P) {l : List InFlight} {q : UpdateQueue} (f : InFlight)
    (o : Outcome) (h : P (f :: l) q) (ho : ∀ e, q.failure = some e → o = .error (.channel e)) :
    P l (q.deliver f.sequence f.completion o) :=
  k.react k.fail f.completion l _ f.sequence (k.complete f o h ho)

theorem Keeps.enqueue (k : Keeps P) {l : List InFlight} {q : UpdateQueue} (r : Request)
    (c : Completion) (h : P l q) : P l (q.enqueue r c).1 := by
  rw [UpdateQueue.enqueue]
  cases found : q.refusal? r with
  | none => exact k.accept r c h found
  | some e => exact k.react k.fail c l _ _ (k.refuse r c e h found)

theorem Keeps.ask (k : Keeps P) {l : List InFlight} {q : UpdateQueue} (a : Ask) (c : Completion)
    (h : P l q) : P l (q.ask a c).1 :=
  k.enqueue a.request c (k.forgo a h)

theorem Keeps.submit (k : Keeps P) {l : List InFlight} {q : UpdateQueue} (r : Request)
    (caller : Nat) (h : P l q) : P l (q.submit r caller) := by
  have entered := k.enqueue r (.notify caller) h
  rw [UpdateQueue.submit]
  cases found : q.enqueue r (.notify caller) with
  | mk q' answer =>
      rw [found] at entered
      cases answer with
      | ok n => exact entered
      | error e => exact k.report _ entered

theorem Keeps.deliverAll (k : Keeps P) {e : ChannelError} (unsent : List Submission)
    (l : List InFlight) (q : UpdateQueue) (h : P (unsent.map Submission.toInFlight ++ l) q)
    (failed : q.failure = some e) :
    P l (unsent.foldl
      (fun q s => q.deliver s.sequence s.completion (.error (.channel e))) q) := by
  induction unsent generalizing q with
  | nil => exact h
  | cons s rest ih =>
      have outcome : ∀ e', q.failure = some e' →
          (Except.error (.channel e) : Outcome) = .error (.channel e') := by
        intro e' he
        rw [failed] at he
        cases he
        rfl
      refine ih _ (k.deliver s.toInFlight _ h outcome) ?_
      exact (keeps_failure e).deliver (l := []) s.toInFlight _ failed outcome

end CacheCoherence.UpdateQueue
