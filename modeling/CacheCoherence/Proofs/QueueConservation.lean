import CacheCoherence.Proofs.QueueRun
import Mathlib.Data.List.Nodup

/-!
No request is lost in a queue, and none is completed twice. A request is known
by its number and its completion; how often the two are found in the places of
a queue adds up to how often they have been handed in, which is once.
-/

namespace CacheCoherence

/-- What stays with a request on its way through a queue. -/
abbrev Ticket := Nat × Completion

def Enqueued.ticket (c : Enqueued) : Ticket := (c.sequence, c.completion)

def Submission.ticket (s : Submission) : Ticket := (s.sequence, s.completion)

def InFlight.ticket (f : InFlight) : Ticket := (f.sequence, f.completion)

def Delivery.ticket (d : Delivery) : Ticket := (d.sequence, d.completion)

/-- A request that waits or has been sent, as it was handed in. -/
def Submission.accepted (s : Submission) : Enqueued :=
  ⟨s.sequence, s.request, s.completion, .ok s.sequence⟩

namespace UpdateQueue

inductive Place where
  | waiting
  | inFlight
  | completed

/-- How often a ticket is found in a place. -/
def countIn (q : UpdateQueue) (t : Ticket) : Place → Nat
  | .waiting => (q.waiting.map Submission.ticket).count t
  | .inFlight => (q.inFlight.map InFlight.ticket).count t
  | .completed => (q.completed.map Delivery.ticket).count t

/-- How often a ticket is found in all places, and among requests taken out of them. -/
def countOf (l : List InFlight) (q : UpdateQueue) (t : Ticket) : Nat :=
  q.countIn t .waiting + q.countIn t .inFlight + q.countIn t .completed +
    (l.map InFlight.ticket).count t

/-- Every request handed in is in one of the places, or among those that are about to be completed;
one that was refused is completed. -/
structure Conserved (l : List InFlight) (q : UpdateQueue) : Prop where
  numbered : q.calls.map Enqueued.sequence = List.range' 1 q.issued
  placed : ∀ t, countOf l q t = (q.calls.map Enqueued.ticket).count t
  waiting : ∀ s ∈ q.waiting, s.accepted ∈ q.calls
  flying : ∀ f ∈ q.inFlight ++ l, ∃ c ∈ q.calls, f = ⟨c.sequence, c.request.kind, c.completion⟩
  sent : ∀ s ∈ q.sent, s.accepted ∈ q.calls
  refused : ∀ c ∈ q.calls, ∀ e, c.answer = .error e →
    ⟨c.sequence, c.completion, .error e⟩ ∈ q.completed

theorem conserved_new (node : NodeId) (limits : Limits) : Conserved [] { node, limits } where
  numbered := rfl
  placed _ := rfl
  waiting s h := by cases h
  flying f h := by cases h
  sent s h := by cases h
  refused c h := by cases h

theorem countOf_accept (l : List InFlight) (q : UpdateQueue) (r : Request) (c : Completion)
    (t : Ticket) : countOf l (q.accept r c) t = countOf l q t + [(q.issued + 1, c)].count t := by
  simp only [countOf, countIn, accept, issue, report, Submission.ticket, List.map_append,
    List.count_append, List.map_cons, List.map_nil]
  omega

theorem countOf_refuse (l : List InFlight) (q : UpdateQueue) (r : Request) (c : Completion)
    (e : Error) (t : Ticket) :
    countOf l (q.refuse r c e) t = countOf l q t + [(q.issued + 1, c)].count t := by
  simp only [countOf, countIn, refuse, issue, invoke, Delivery.ticket, List.map_append,
    List.count_append, List.map_cons, List.map_nil]
  omega

theorem countOf_invoke (l : List InFlight) (q : UpdateQueue) (f : InFlight) (o : Outcome)
    (t : Ticket) : countOf l (q.invoke f.sequence f.completion o) t = countOf (f :: l) q t := by
  simp only [countOf, countIn, invoke, Delivery.ticket, InFlight.ticket, List.map_append,
    List.count_append, List.map_cons, List.map_nil, List.count_cons, List.count_nil]
  omega

theorem countOf_close (l : List InFlight) (q : UpdateQueue) (e : ChannelError) (t : Ticket) :
    countOf (q.inFlight ++ l) (q.close e) t = countOf l q t := by
  simp only [countOf, countIn, close, report, List.map_append, List.count_append, List.map_nil,
    List.count_nil]
  omega

theorem Conserved.issue {l : List InFlight} {q q' : UpdateQueue} {r : Request} {c : Completion}
    {answer : Except Error Nat} (h : Conserved l q) (issued : q'.issued = q.issued + 1)
    (calls : q'.calls = q.calls ++ [⟨q.issued + 1, r, c, answer⟩])
    (count : ∀ t, countOf l q' t = countOf l q t + [(q.issued + 1, c)].count t)
    (waiting : ∀ s ∈ q'.waiting, s ∈ q.waiting ∨ s.accepted = ⟨q.issued + 1, r, c, answer⟩)
    (inFlight : q'.inFlight = q.inFlight) (sent : q'.sent = q.sent)
    (completed : ∀ d ∈ q.completed, d ∈ q'.completed)
    (refused : ∀ e, answer = .error e → ⟨q.issued + 1, c, .error e⟩ ∈ q'.completed) :
    Conserved l q' where
  numbered := by
    rw [calls, issued, List.map_append, h.numbered, List.range'_1_concat, Nat.add_comm 1]
    rfl
  placed t := by
    rw [count, h.placed, calls, List.map_append, List.count_append]
    rfl
  waiting s hs := by
    rw [calls, List.mem_append, List.mem_singleton]
    exact (waiting s hs).imp_left (h.waiting s)
  flying f hf := by
    rw [inFlight] at hf
    obtain ⟨c', hc, eq⟩ := h.flying f hf
    exact ⟨c', calls ▸ List.mem_append_left _ hc, eq⟩
  sent s hs := by
    rw [sent] at hs
    exact calls ▸ List.mem_append_left _ (h.sent s hs)
  refused c' hc e he := by
    rw [calls, List.mem_append, List.mem_singleton] at hc
    cases hc with
    | inl old => exact completed _ (h.refused c' old e he)
    | inr new =>
        subst new
        exact refused e he

theorem keeps_conserved : Keeps Conserved where
  accept {l q} r c h _ := by
    refine h.issue rfl rfl (countOf_accept l q r c) ?_ rfl rfl (fun _ hd => hd) ?_
    · intro s hs
      change s ∈ q.waiting ++ [_] at hs
      rw [List.mem_append, List.mem_singleton] at hs
      exact hs.imp_right (congrArg Submission.accepted)
    · intro e accepted
      cases accepted
  refuse {l q} r c e h _ := by
    refine h.issue rfl rfl (countOf_refuse l q r c e) ?_ rfl rfl ?_ ?_
    · intro s hs
      exact .inl hs
    · intro d hd
      exact List.mem_append_left _ hd
    · intro e' refused
      cases refused
      exact List.mem_append_right _ List.mem_cons_self
  complete {l q} f o h _ := by
    refine ⟨h.numbered, ?_, h.waiting, ?_, h.sent, ?_⟩
    · intro t
      rw [countOf_invoke]
      exact h.placed t
    · intro f' hf
      refine h.flying f' ?_
      rw [List.mem_append] at hf ⊢
      exact hf.imp_right (List.mem_cons_of_mem f)
    · intro c hc e he
      exact List.mem_append_left _ (h.refused c hc e he)
  close {l q} e h _ := by
    refine ⟨h.numbered, ?_, h.waiting, h.flying, h.sent, h.refused⟩
    intro t
    rw [countOf_close]
    exact h.placed t
  report _ h := ⟨h.numbered, h.placed, h.waiting, h.flying, h.sent, h.refused⟩
  record _ h := ⟨h.numbered, h.placed, h.waiting, h.flying, h.sent, h.refused⟩
  release h := ⟨h.numbered, h.placed, h.waiting, h.flying, h.sent, h.refused⟩

theorem Conserved.leave {q : UpdateQueue} (h : Conserved [] q) (buffered : List UInt8)
    (ended : q.failure = none → q.waiting = []) : Conserved [] (q.leave buffered) := by
  let emptied : UpdateQueue := { q with waiting := [], sending := .closing buffered }
  have opened : Conserved (q.waiting.map Submission.toInFlight ++ []) emptied := by
    refine ⟨h.numbered, ?_, ?_, ?_, h.sent, h.refused⟩
    · intro t
      rw [← h.placed t]
      have same : (q.waiting.map Submission.toInFlight).map InFlight.ticket =
          q.waiting.map Submission.ticket := List.map_map
      simp only [countOf, countIn, emptied, List.append_nil, same, List.map_nil, List.count_nil]
      omega
    · intro s hs
      cases hs
    · intro f hf
      rw [List.append_nil, List.mem_append, List.mem_map] at hf
      cases hf with
      | inl flying => exact h.flying f (List.mem_append_left _ flying)
      | inr waiting =>
          obtain ⟨s, hs, eq⟩ := waiting
          exact ⟨s.accepted, h.waiting s hs, eq.symm⟩
  exact keeps_conserved.leave buffered opened ended

theorem Conserved.sendStep {q q' : UpdateQueue} (h : Conserved [] q) (step : SendStep q q') :
    Conserved [] q' := by
  cases step with
  | launch s waiting sending idle live first taking =>
      have waits : ∀ s' ∈ s :: waiting, s'.accepted ∈ q.calls := first ▸ h.waiting
      refine ⟨h.numbered, ?_, ?_, ?_, ?_, h.refused⟩
      · intro t
        have placed := h.placed t
        rw [← placed]
        simp only [countOf, countIn, first, List.map_append, List.count_append, List.map_cons,
          List.map_nil, List.count_cons, List.count_nil]
        have same : s.toInFlight.ticket = s.ticket := rfl
        rw [same]
        omega
      · intro s' hs
        exact waits s' (List.mem_cons_of_mem s hs)
      · intro f hf
        rw [List.append_nil, List.mem_append, List.mem_singleton] at hf
        cases hf with
        | inl old => exact h.flying f (List.mem_append_left _ old)
        | inr new => exact ⟨s.accepted, waits s List.mem_cons_self, new⟩
      · intro s' hs
        rw [List.mem_append, List.mem_singleton] at hs
        cases hs with
        | inl old => exact h.sent s' old
        | inr new => exact new ▸ waits s List.mem_cons_self
  | leave e failed => exact h.leave [] fun live => by simp [failed] at live
  | drain released live rest =>
      have draining : Conserved [] { q with draining := true } :=
        ⟨h.numbered, h.placed, h.waiting, h.flying, h.sent, h.refused⟩
      exact draining.leave [] fun _ => rest
  | fail f buffered =>
      exact (keeps_conserved.fail [] q _ h).leave buffered fun live => by
        simp [failure_fail] at live
  | write sending taking => exact ⟨h.numbered, h.placed, h.waiting, h.flying, h.sent, h.refused⟩
  | stop fault left =>
      have stopped : Conserved [] { q with sending := .stopped } :=
        ⟨h.numbered, h.placed, h.waiting, h.flying, h.sent, h.refused⟩
      cases fault with
      | none => exact stopped
      | some f => exact keeps_conserved.report _ stopped

theorem Conserved.receiveStep {q q' : UpdateQueue} (h : Conserved [] q) (step : ReceiveStep q q') :
    Conserved [] q' := by
  cases step with
  | wait receiving => exact ⟨h.numbered, h.placed, h.waiting, h.flying, h.sent, h.refused⟩
  | fail e outer =>
      have failed := keeps_conserved.fail [] q e h
      exact ⟨failed.numbered, failed.placed, failed.waiting, failed.flying, failed.sent,
        failed.refused⟩
  | answer f inFlight r rest live oldest =>
      have opened : Conserved [f] { q with inFlight, receiving := .running rest } := by
        refine ⟨h.numbered, ?_, h.waiting, ?_, h.sent, h.refused⟩
        · intro t
          rw [← h.placed t]
          simp only [countOf, countIn, oldest, List.map_cons, List.map_nil, List.count_cons,
            List.count_nil]
          omega
        · intro f' hf
          refine h.flying f' ?_
          rw [oldest, List.append_nil]
          rw [List.mem_append, List.mem_singleton] at hf
          cases hf with
          | inl later => exact List.mem_cons_of_mem f later
          | inr same => exact same ▸ List.mem_cons_self
      refine keeps_conserved.deliver f _ (keeps_conserved.report _ opened) fun e failed => ?_
      change q.failure = some e at failed
      rw [live] at failed
      cases failed

/-- Whether a request that has been handed in is in a place. -/
def IsIn (q : UpdateQueue) (c : Enqueued) : Place → Prop
  | .waiting => ⟨c.sequence, c.request, c.completion⟩ ∈ q.waiting
  | .inFlight => ⟨c.sequence, c.request.kind, c.completion⟩ ∈ q.inFlight
  | .completed => ∃ o, ⟨c.sequence, c.completion, o⟩ ∈ q.completed

/-- How often completions have been invoked for a request. -/
def invocations (q : UpdateQueue) (c : Enqueued) : Nat :=
  q.completed.countP fun d => d.sequence = c.sequence

section Places

variable {q : UpdateQueue} {c : Enqueued}

theorem Conserved.eq_of_sequence (h : Conserved [] q) (hc : c ∈ q.calls) {c' : Enqueued}
    (hc' : c' ∈ q.calls) (same : c'.sequence = c.sequence) : c' = c := by
  have distinct : (q.calls.map Enqueued.sequence).Nodup := h.numbered ▸ List.nodup_range'
  exact List.inj_on_of_nodup_map distinct hc' hc same

theorem Conserved.countOf_eq_one (h : Conserved [] q) (hc : c ∈ q.calls) :
    countOf [] q c.ticket = 1 := by
  have distinct : ((q.calls.map Enqueued.ticket).map Prod.fst).Nodup := by
    rw [List.map_map]
    exact h.numbered ▸ List.nodup_range'
  rw [h.placed]
  exact List.count_eq_one_of_mem (List.Nodup.of_map Prod.fst distinct) (List.mem_map_of_mem hc)

theorem Conserved.isIn_iff (h : Conserved [] q) (hc : c ∈ q.calls) (p : Place) :
    q.IsIn c p ↔ 0 < q.countIn c.ticket p := by
  cases p with
  | waiting =>
      rw [countIn, List.count_pos_iff, List.mem_map]
      constructor
      · intro waits
        exact ⟨_, waits, rfl⟩
      · intro given
        obtain ⟨s, hs, eq⟩ := given
        have same := h.eq_of_sequence hc (h.waiting s hs) (congrArg Prod.fst eq)
        subst same
        exact hs
  | inFlight =>
      rw [countIn, List.count_pos_iff, List.mem_map]
      constructor
      · intro flying
        exact ⟨_, flying, rfl⟩
      · intro given
        obtain ⟨f, hf, eq⟩ := given
        obtain ⟨c', hc', shape⟩ := h.flying f (List.mem_append_left _ hf)
        subst shape
        have same := h.eq_of_sequence hc hc' (congrArg Prod.fst eq)
        subst same
        exact hf
  | completed =>
      rw [countIn, List.count_pos_iff, List.mem_map]
      constructor
      · intro given
        obtain ⟨o, done⟩ := given
        exact ⟨_, done, rfl⟩
      · intro given
        obtain ⟨d, hd, eq⟩ := given
        obtain ⟨sequence, completion, outcome⟩ := d
        cases eq
        exact ⟨outcome, hd⟩

theorem Conserved.invocations_eq (h : Conserved [] q) (hc : c ∈ q.calls) :
    q.invocations c = q.countIn c.ticket .completed := by
  rw [invocations, countIn, List.count, List.countP_map]
  refine List.countP_congr fun d hd => ?_
  have known : d.ticket ∈ q.calls.map Enqueued.ticket := by
    have found : 0 < (q.completed.map Delivery.ticket).count d.ticket :=
      List.count_pos_iff.mpr (List.mem_map_of_mem hd)
    have placed := h.placed d.ticket
    simp only [countOf, countIn] at placed
    exact List.count_pos_iff.mp (by omega)
  obtain ⟨c', hc', eq⟩ := List.mem_map.mp known
  rw [decide_eq_true_eq, Function.comp_apply, beq_iff_eq]
  constructor
  · intro same
    have number : c'.sequence = c.sequence := (congrArg Prod.fst eq).trans same
    rw [← eq, h.eq_of_sequence hc hc' number]
  · intro same
    exact congrArg Prod.fst same

theorem existsUnique_place_of_sum {f : Place → Nat}
    (one : f .waiting + f .inFlight + f .completed = 1) : ∃! p, 0 < f p := by
  rcases Nat.eq_zero_or_pos (f .waiting) with hw | hw
  · rcases Nat.eq_zero_or_pos (f .inFlight) with hi | hi
    · have hc : 0 < f .completed := by omega
      refine ⟨.completed, hc, fun p hp => ?_⟩
      cases p with
      | completed => rfl
      | waiting | inFlight => omega
    · refine ⟨.inFlight, hi, fun p hp => ?_⟩
      cases p with
      | inFlight => rfl
      | waiting | completed => omega
  · refine ⟨.waiting, hw, fun p hp => ?_⟩
    cases p with
    | waiting => rfl
    | inFlight | completed => omega

theorem Conserved.existsUnique_isIn (h : Conserved [] q) (hc : c ∈ q.calls) :
    ∃! p, q.IsIn c p := by
  have one : countOf [] q c.ticket = 1 := h.countOf_eq_one hc
  simp only [h.isIn_iff hc]
  exact existsUnique_place_of_sum one

theorem Conserved.not_sent (h : Conserved [] q) (hc : c ∈ q.calls) {e : Error}
    (refused : c.answer = .error e) : ∀ s ∈ q.sent, s.sequence ≠ c.sequence := by
  intro s hs same
  have accepted := h.eq_of_sequence hc (h.sent s hs) same
  rw [← accepted] at refused
  cases refused

end Places

theorem keeps_called (c : Enqueued) : Keeps fun _ q => c ∈ q.calls where
  accept _ _ h _ := List.mem_append_left _ h
  refuse _ _ _ h _ := List.mem_append_left _ h
  complete _ _ h _ := h
  close _ h _ := h
  report _ h := h
  record _ h := h
  release h := h

theorem mem_calls_enqueue (q : UpdateQueue) (r : Request) (c : Completion) :
    ⟨q.issued + 1, r, c, (q.enqueue r c).2⟩ ∈ (q.enqueue r c).1.calls := by
  rw [enqueue]
  cases found : q.refusal? r with
  | none => exact List.mem_append_right _ List.mem_cons_self
  | some e =>
      refine (keeps_called _).react (keeps_called _).fail c [] _ _ ?_
      exact List.mem_append_right _ List.mem_cons_self

end UpdateQueue

namespace Exchange

open UpdateQueue

theorem conserved_after (node : NodeId) (limits : Limits) (stream : Endpoint) (run : List Action) :
    Conserved [] ((start node limits stream).after run).queue :=
  after_keeps keeps_conserved Conserved.sendStep Conserved.receiveStep run
    (conserved_new node limits)

/-- Every request that has been handed in has a number of its own and is in exactly one place; its
completion has been invoked once if it is completed and never if it is not. A request that was
refused is completed with the error that the caller was told, and is never sent. -/
theorem existsUnique_place (node : NodeId) (limits : Limits) (stream : Endpoint)
    (run : List Action) :
    let q := ((start node limits stream).after run).queue
    q.calls.map Enqueued.sequence = List.range' 1 q.issued ∧
    (∀ r c, ⟨q.issued + 1, r, c, (q.enqueue r c).2⟩ ∈ (q.enqueue r c).1.calls) ∧
    ∀ c ∈ q.calls, (∃! p, q.IsIn c p) ∧
      (q.IsIn c .completed → q.invocations c = 1) ∧
      (¬q.IsIn c .completed → q.invocations c = 0) ∧
      ∀ e, c.answer = .error e →
        ⟨c.sequence, c.completion, .error e⟩ ∈ q.completed ∧
          ∀ s ∈ q.sent, s.sequence ≠ c.sequence := by
  intro q
  have h : Conserved [] q := conserved_after node limits stream run
  refine ⟨h.numbered, mem_calls_enqueue q, fun c hc => ⟨h.existsUnique_isIn hc, ?_, ?_, ?_⟩⟩
  · intro completed
    have one : countOf [] q c.ticket = 1 := h.countOf_eq_one hc
    rw [h.isIn_iff hc] at completed
    rw [countOf] at one
    rw [h.invocations_eq hc]
    omega
  · intro pending
    rw [h.isIn_iff hc] at pending
    rw [h.invocations_eq hc]
    omega
  · intro e refused
    exact ⟨h.refused c hc e refused, h.not_sent hc refused⟩

/-- While a request is in flight, one with too long a name is refused, and its callback panics. The
first one's callback then hands in a third, whose callback panics as it does itself. -/
def refusals : List Action :=
  [.enqueue (.evictObject 1)
      (.asking (.evict (.object 2)) (.callback "inner" true) (.callback "outer" true)),
    .send, .evict (.binding "name") (.callback "refused" true)]

def third : Enqueued :=
  ⟨3, .evictObject 2, .callback "inner" true,
    .error (.channel (.completionPanicked 2))⟩

theorem existsUnique_place_of_third :
    let stream : Endpoint :=
      { incoming := ⟨64, {}, false⟩, outgoing := ⟨64, {}, false⟩, allowance := 8 }
    let q := ((start 7 ⟨4, 4, 3⟩ stream).after refusals).queue
    third ∈ q.calls ∧ (∃! p, q.IsIn third p) ∧ q.invocations third = 1 ∧
      ⟨3, third.completion, .error (.channel (.completionPanicked 2))⟩ ∈ q.completed ∧
        ∀ s ∈ q.sent, s.sequence ≠ 3 := by
  intro stream q
  have called : third ∈ q.calls :=
    List.mem_cons_of_mem _ (List.mem_cons_of_mem _ List.mem_cons_self)
  obtain ⟨place, once, -, refused⟩ :=
    (existsUnique_place 7 ⟨4, 4, 3⟩ stream refusals).2.2 third called
  obtain ⟨completed, unsent⟩ := refused _ rfl
  exact ⟨called, place, once ⟨_, completed⟩, completed, unsent⟩

end Exchange

end CacheCoherence
