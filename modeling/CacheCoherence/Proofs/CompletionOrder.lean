import CacheCoherence.Proofs.QueueFailure
import CacheCoherence.Proofs.QueueHandover

/-!
The order in which the accepted requests of a queue are completed when each of
its parties takes its steps in one piece, which is the order in which they were
accepted. What has been completed, what is in flight and what waits follow one
another in it. A failure then completes what is in flight before anything that
waits, and a task that stops completes what waits in order.
-/

namespace CacheCoherence

namespace UpdateQueue

/-- Accepted requests whose completions have been invoked, in the order of the invocations. -/
def finished (q : UpdateQueue) : List Ticket :=
  (q.completed.map Delivery.ticket).filter (· ∈ q.accepted.map Submission.ticket)

/-- Requests taken out of a queue to be completed stand behind those that are completed, and those
that wait come last. -/
structure Lined (l : List InFlight) (q : UpdateQueue) : Prop where
  accepted : ∀ s ∈ q.accepted, s.sequence ≤ q.issued
  told : ∀ d ∈ q.completed, d.sequence ≤ q.issued
  live : q.failure = none → l = []
  line : q.finished ++ (l.map InFlight.ticket ++ (q.inFlight.map InFlight.ticket ++
    q.waiting.map Submission.ticket)) = q.accepted.map Submission.ticket

theorem lined_new (node : NodeId) (limits : Limits) : Lined [] { node, limits } where
  accepted _ h := by cases h
  told _ h := by cases h
  live _ := rfl
  line := rfl

theorem finished_accept {q : UpdateQueue} (told : ∀ d ∈ q.completed, d.sequence ≤ q.issued)
    (r : Request) (c : Completion) : (q.accept r c).finished = q.finished := by
  refine List.filter_congr fun t ht => ?_
  obtain ⟨d, hd, rfl⟩ := List.mem_map.mp ht
  have new : d.ticket ≠ (q.issued + 1, c) := by
    intro same
    have number : d.sequence = q.issued + 1 := congrArg Prod.fst same
    have known := told d hd
    omega
  rw [accepted_accept, List.map_append, decide_eq_decide, List.mem_append]
  exact or_iff_left fun last => new (List.mem_singleton.mp last)

section Invoke

variable {q : UpdateQueue} {n : Nat} {c : Completion}

theorem finished_invoke (h : (n, c) ∈ q.accepted.map Submission.ticket) (o : Outcome) :
    (q.invoke n c o).finished = q.finished ++ [(n, c)] := by
  change ((q.completed ++ [_]).map Delivery.ticket).filter _ = _
  rw [List.map_append, List.filter_append]
  exact congrArg (q.finished ++ ·) (List.filter_cons_of_pos (decide_eq_true h))

theorem finished_invoke_of_not_accepted (h : (n, c) ∉ q.accepted.map Submission.ticket)
    (o : Outcome) : (q.invoke n c o).finished = q.finished := by
  change ((q.completed ++ [_]).map Delivery.ticket).filter _ = _
  rw [List.map_append, List.filter_append]
  have dropped : [(n, c)].filter (· ∈ q.accepted.map Submission.ticket) = [] :=
    List.filter_cons_of_neg (ne_true_of_eq_false (decide_eq_false h))
  exact (congrArg (q.finished ++ ·) dropped).trans (List.append_nil _)

end Invoke

theorem not_accepted {q : UpdateQueue} (accepted : ∀ s ∈ q.accepted, s.sequence ≤ q.issued)
    (c : Completion) : (q.issued + 1, c) ∉ q.accepted.map Submission.ticket := by
  intro found
  obtain ⟨s, hs, same⟩ := List.mem_map.mp found
  have number : s.sequence = q.issued + 1 := congrArg Prod.fst same
  have known := accepted s hs
  omega

/-- The invocation for an accepted request bears its number. -/
theorem told_invoke {q : UpdateQueue} (accepted : ∀ s ∈ q.accepted, s.sequence ≤ q.issued)
    (told : ∀ d ∈ q.completed, d.sequence ≤ q.issued) {n : Nat} {c : Completion}
    (mem : (n, c) ∈ q.accepted.map Submission.ticket) (o : Outcome) :
    ∀ d ∈ (q.invoke n c o).completed, d.sequence ≤ q.issued := by
  intro d hd
  rcases List.mem_append.mp hd with old | new
  · exact told d old
  · obtain ⟨s, hs, same⟩ := List.mem_map.mp mem
    rw [List.mem_singleton.mp new]
    exact Nat.le_trans (Nat.le_of_eq (congrArg Prod.fst same).symm) (accepted s hs)

theorem keeps_lined : Keeps Lined where
  accept {l q} r c h _ := by
    refine ⟨fun s hs => ?_, fun d hd => Nat.le_succ_of_le (h.told d hd), h.live, ?_⟩
    · rw [accepted_accept, List.mem_append, List.mem_singleton] at hs
      cases hs with
      | inl old => exact Nat.le_succ_of_le (h.accepted s old)
      | inr new => exact new ▸ Nat.le_refl _
    · rw [finished_accept h.told, accepted_accept, List.map_append, ← h.line]
      change _ ++ (_ ++ (q.inFlight.map _ ++ (q.waiting ++ [_]).map _)) = _
      simp only [List.map_append, List.append_assoc]
  refuse {l q} r c e h _ := by
    have same := accepted_refuse q r c e
    have unlisted := not_accepted h.accepted c
    refine ⟨fun s hs => ?_, fun d hd => ?_, h.live, ?_⟩
    · rw [same] at hs
      exact Nat.le_succ_of_le (h.accepted s hs)
    · rcases List.mem_append.mp hd with old | new
      · exact Nat.le_succ_of_le (h.told d old)
      · rw [List.mem_singleton.mp new]
        exact Nat.le_refl _
    · have finished : (q.refuse r c e).finished = q.finished := by
        rw [refuse, finished_invoke_of_not_accepted (same ▸ unlisted)]
        exact congrArg (fun a => (q.completed.map Delivery.ticket).filter
          (· ∈ a.map Submission.ticket)) same
      rw [finished, same]
      exact h.line
  complete {l q} f o h failed := by
    have mem : f.ticket ∈ q.accepted.map Submission.ticket := by
      rw [← h.line]
      simp
    refine ⟨h.accepted, told_invoke h.accepted h.told mem o, fun live => ?_, ?_⟩
    · cases h.live live
    · rw [finished_invoke mem, List.append_assoc]
      exact h.line
  close {l q} e h live := by
    refine ⟨h.accepted, h.told, fun live => absurd live (Option.some_ne_none e), ?_⟩
    rw [h.live live, List.append_nil]
    have line := h.line
    rw [h.live live] at line
    exact line
  report _ h := ⟨h.accepted, h.told, h.live, h.line⟩
  record _ h := ⟨h.accepted, h.told, h.live, h.line⟩
  release h := ⟨h.accepted, h.told, h.live, h.line⟩

/-- A task that stops has nothing before what waits, since nothing is in flight any more. -/
theorem Lined.leave {q : UpdateQueue} (h : Lined [] q) (settled : q.Settled)
    (buffered : List UInt8) (ended : q.failure = none → q.waiting = []) :
    Lined [] (q.leave buffered) := by
  refine keeps_lined.leave buffered ⟨h.accepted, h.told, fun live => ?_, ?_⟩ ended
  · rw [ended live]
    rfl
  · have same : (q.waiting.map Submission.toInFlight ++ []).map InFlight.ticket =
        q.waiting.map Submission.ticket := by
      rw [List.append_nil, List.map_map]
      rfl
    have line := h.line
    rw [same]
    change q.finished ++ (_ ++ (q.inFlight.map _ ++ [])) = _
    cases failed : q.failure with
    | none =>
        rw [ended failed] at line ⊢
        exact line
    | some e =>
        rw [settled.flying e failed] at line ⊢
        rw [List.map_nil, List.append_nil, List.append_nil]
        exact line

theorem Lined.sendStep {q q' : UpdateQueue} (h : Lined [] q) (settled : q.Settled)
    (step : SendStep q q') : Lined [] q' := by
  cases step with
  | launch s waiting sending idle live first taking =>
      refine ⟨h.accepted, h.told, h.live, ?_⟩
      have line := h.line
      rw [first] at line
      rw [List.map_append, List.append_assoc]
      exact line
  | leave e failed =>
      exact h.leave settled [] fun live => absurd (live.symm.trans failed) nofun
  | drain released live rest =>
      have draining : Lined [] { q with draining := true } := ⟨h.accepted, h.told, h.live, h.line⟩
      exact draining.leave ⟨settled.flying, settled.waiting, settled.taking⟩ [] fun _ => rest
  | fail f buffered =>
      have failed := keeps_lined.fail [] q (f.toError "frame") h
      refine failed.leave (keeps_settled.fail [] q _ settled) buffered fun live => ?_
      simp [failure_fail] at live
  | write sending taking => exact ⟨h.accepted, h.told, h.live, h.line⟩
  | stop fault left => cases fault <;> exact ⟨h.accepted, h.told, h.live, h.line⟩

/-- The request that a response completes is the first one that is not completed. -/
theorem Lined.receiveStep {q q' : UpdateQueue} (h : Lined [] q) (step : ReceiveStep q q') :
    Lined [] q' := by
  cases step with
  | wait receiving => exact ⟨h.accepted, h.told, h.live, h.line⟩
  | fail e outer =>
      have failed := keeps_lined.fail [] q e h
      exact ⟨failed.accepted, failed.told, failed.live, failed.line⟩
  | answer f inFlight r rest live oldest =>
      have line := h.line
      rw [oldest] at line
      have mem : f.ticket ∈ q.accepted.map Submission.ticket := by
        rw [← line]
        simp
      let q₁ : UpdateQueue :=
        { q with inFlight, receiving := .running rest }.report [q.answeredLog f]
      have answered : Lined [] (q₁.invoke f.sequence f.completion r.toOutcome) := by
        refine ⟨h.accepted, told_invoke (q := q₁) h.accepted h.told mem _, fun _ => rfl, ?_⟩
        rw [finished_invoke (q := q₁) mem, List.append_assoc]
        exact line
      exact keeps_lined.react keeps_lined.fail f.completion [] _ f.sequence answered

/-- When all accepted requests but those in flight and those that wait are answered, the others are
not completed otherwise. -/
theorem isAnswer_of_accepted {q : UpdateQueue} (lined : Lined [] q) (o : q.Ordered)
    (count : q.accepted.length ≤ q.answers.length + (q.inFlight.length + q.waiting.length)) :
    ∀ d ∈ q.completed, d.ticket ∈ q.accepted.map Submission.ticket →
      Outcome.isAnswer d.outcome = true := by
  let own := q.completed.filter fun d => d.ticket ∈ q.accepted.map Submission.ticket
  have answered : q.answers = own.filter fun d => Outcome.isAnswer d.outcome := by
    rw [List.filter_filter]
    refine List.filter_congr fun d hd => ?_
    cases answer : Outcome.isAnswer d.outcome with
    | false => rfl
    | true =>
        have among : d.ticket ∈ q.answers.map Delivery.ticket :=
          List.mem_map_of_mem (List.mem_filter.mpr ⟨hd, answer⟩)
        have accepted : d.ticket ∈ q.accepted.map Submission.ticket :=
          (o.sent.map Submission.ticket).subset (o.answered.subset among)
        exact (decide_eq_true accepted).symm
  have finished : q.finished.length = own.length := by
    rw [UpdateQueue.finished, List.filter_map, List.length_map]
    rfl
  have line := congrArg List.length lined.line
  simp only [List.length_append, List.length_map, List.map_nil, List.length_nil] at line
  have all : (own.filter fun d => Outcome.isAnswer d.outcome).length = own.length := by
    refine Nat.le_antisymm (List.length_filter_le ..) ?_
    rw [← answered]
    omega
  intro d hd accepted
  exact List.length_filter_eq_length_iff.mp all d
    (List.mem_filter.mpr ⟨hd, decide_eq_true accepted⟩)

end UpdateQueue

namespace Exchange

open UpdateQueue

theorem lined_after (node : NodeId) (limits : Limits) (stream : Endpoint) (run : List Action) :
    Lined [] ((start node limits stream).after run).queue := by
  have both := after_keeps (P := fun l q => Lined l q ∧ q.Settled) (keeps_lined.and keeps_settled)
    (fun h step => ⟨h.1.sendStep h.2 step, h.2.sendStep step⟩)
    (fun h step => ⟨h.1.receiveStep step, h.2.receiveStep step⟩) run
    (x := start node limits stream) ⟨lined_new node limits, settled_new node limits⟩
  exact both.1

end Exchange

theorem Handover.lined_after (node : NodeId) (limits : Limits) (stream : Endpoint)
    (run : List Action) :
    UpdateQueue.Lined [] ((start node limits stream).after run).view.queue := by
  rw [view_after (poised_start node limits stream)]
  exact Exchange.lined_after node limits stream _

end CacheCoherence
