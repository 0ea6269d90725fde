import CacheCoherence.Proofs.ThreadStreams

/-!
The failure of a queue among its threads. A step is one access of one thread, so
the failure may come between any two of them: between the taking of a request
and its admission, between the admission and the first octet of the frame,
between the finding of a request for a response and the word to its completion,
and between the completions that are told of the failure itself.
-/

namespace CacheCoherence

namespace Threads

section Written

variable {w w' : Threads}

theorem written_grows (s : w.Step w') : w.written <+: w'.written := by
  have same : w.written <+: w.written := List.prefix_rfl
  cases s with
  | wait | call _ | peer _ | act _ _ _ _ => exact same
  | send free s =>
      cases s with
      | write _ _ _ _ _ _ _ | fault _ _ _ _ _ _ _ _ | conclude _ _ _ _ _ _ _ =>
          exact List.prefix_append _ _
      | _ => exact same
  | receive free s =>
      cases s with
      | read _ _ _ reading _ _ _ => cases reading <;> exact List.prefix_append _ _
      | _ => exact same

end Written

/-- What has come of a queue that has failed with `e`. A frame that had not been begun is not begun
any more, except the one of the last request that was admitted; a completion hears of the failure,
or that its request is too long, except the one whose request had been found for a response. -/
structure Aftermath (w : Threads) (e : ChannelError) (w' : Threads) : Prop where
  failure : w'.queue.failure = some e
  inFlight : w'.queue.inFlight = []
  sent : w'.queue.sent = w.queue.sent
  settled : w'.settled = w.settled
  before : w.queue.sent.dropLast.flatMap (fun s => s.request.frame) <+: w.written
  later : w.written <+: w'.written
  frames : w'.written <+: w.queue.sent.flatMap fun s => s.request.frame
  told : ∃ told, w'.queue.completed = w.queue.completed ++ told ∧
    told.filter (fun d => Outcome.isAnswer d.outcome) ++ w'.inHand = w.inHand ∧
    ∀ d ∈ told, d ∈ w.inHand ∨ d.outcome = .error (.channel e) ∨ w'.queue.Overlong d

section Aftermath

variable {w w₁ w₂ : Threads} {e : ChannelError}

theorem aftermath_refl (h : w.Faithful) (failed : w.queue.failure = some e) : w.Aftermath e w where
  failure := failed
  inFlight := h.explained.flying (failed ▸ Option.some_ne_none e)
  sent := rfl
  settled := rfl
  before := h.posted.before
  later := List.prefix_rfl
  frames := h.posted.prefix_frames
  told := ⟨[], (List.append_nil _).symm, rfl, List.forall_mem_nil _⟩

/-- What a failed queue sends and answers: no more than it had. -/
theorem sent_settled_of_failed (h : w.Faithful) (failed : w.queue.failure = some e)
    (s : w.Step w₁) : w₁.queue.sent = w.queue.sent ∧ w₁.settled = w.settled := by
  have flying := h.explained.flying (failed ▸ Option.some_ne_none e)
  cases s with
  | wait | call _ | peer _ => exact ⟨rfl, rfl⟩
  | act t a rest due => exact ⟨(w.queue.tasks_perform a).1, settled_act h.explained due⟩
  | send free s =>
      refine ⟨?_, s.settled⟩
      cases s with
      | note s taken live => cases live.symm.trans failed
      | conclude fault _ _ _ _ _ _ => cases fault <;> rfl
      | _ => rfl
  | receive free s =>
      refine ⟨by rw [s.kept.2], (s.settled_eq_or h.explained).resolve_right ?_⟩
      rintro ⟨f, inFlight, r, -, oldest, -⟩
      cases flying.symm.trans oldest

/-- Who tells a completion something: a thread that has a reason, or the receiving task. -/
theorem told_of_step (h : w.Faithful) (s : w.Step w₁) :
    ∃ told, w₁.queue.completed = w.queue.completed ++ told ∧ ∀ d ∈ told,
      d ∈ w.inHand ∨ (∃ e, w.queue.failure = some e ∧ d.outcome = .error (.channel e)) ∨
        w₁.queue.Overlong d := by
  have none : w.queue.completed = w.queue.completed ++ [] := (List.append_nil _).symm
  cases s with
  | wait | call _ | peer _ => exact ⟨[], none, List.forall_mem_nil _⟩
  | act t a rest due =>
      refine ⟨a.told?.toList, w.queue.completed_perform a, fun d hd => .inr ?_⟩
      have fits := h.explained.justified.fits t a (due ▸ List.mem_cons_self)
      exact (UpdateQueue.told_of_fits fits (Option.mem_toList.mp hd)).2.symm
  | send free s => exact ⟨[], s.apart.2.2.2.trans none, List.forall_mem_nil _⟩
  | receive free s =>
      cases s with
      | answer f outcome answering =>
          refine ⟨[⟨f.sequence, f.completion, outcome⟩], rfl, fun d hd => .inl ?_⟩
          rw [inHand, answering]
          exact hd
      | read _ _ _ reading _ _ _ =>
          cases reading <;> exact ⟨[], none, List.forall_mem_nil _⟩
      | _ => exact ⟨[], none, List.forall_mem_nil _⟩

theorem Aftermath.step (a : w.Aftermath e w₁) (h : w₁.Faithful) (h' : w₂.Faithful)
    (s : w₁.Step w₂) : w.Aftermath e w₂ := by
  obtain ⟨sent, settled⟩ := sent_settled_of_failed h a.failure s
  have failure := s.grows.failure e a.failure
  have settled := settled.trans a.settled
  refine ⟨failure, h'.explained.flying (failure ▸ Option.some_ne_none e), sent.trans a.sent,
    settled, a.before, a.later.trans (written_grows s), ?_, ?_⟩
  · rw [← a.sent, ← sent]
    exact h'.posted.prefix_frames
  · obtain ⟨told, completed, answers, known⟩ := a.told
    obtain ⟨new, more, reasons⟩ := told_of_step h s
    have completed' : w₂.queue.completed = w.queue.completed ++ (told ++ new) := by
      rw [more, completed, List.append_assoc]
    refine ⟨told ++ new, completed', ?_, fun d hd => ?_⟩
    · rw [Threads.settled, UpdateQueue.answers, completed', List.filter_append,
        List.append_assoc] at settled
      exact List.append_cancel_left settled
    · obtain old | now := List.mem_append.mp hd
      · exact (known d old).imp_right (·.imp_right s.grows.overlong)
      · refine (reasons d now).imp (fun held => ?_) fun reason => reason.imp_left ?_
        · rw [← answers]
          exact List.mem_append_right _ held
        · rintro ⟨e', failed, outcome⟩
          cases a.failure.symm.trans failed
          exact outcome

theorem aftermath_after (h : w.Faithful) (failed : w.queue.failure = some e) (run : List Event) :
    w.Aftermath e (w.after run) := by
  have both : (w.after run).Faithful ∧ w.Aftermath e (w.after run) := by
    refine after_induction (P := fun w₁ => w₁.Faithful ∧ w.Aftermath e w₁)
      ⟨h, aftermath_refl h failed⟩ (fun both event => ?_) run
    have next := both.1.step event
    exact ⟨next, both.2.step both.1 next (step_step both.1.explained.tidy event)⟩
  exact both.2

end Aftermath

/-- The first cause of a failure is the failure of the queue for good, whatever order its threads go
on in; each step of a run is one access of one thread. A live queue has told no completion of a
failure, and a completion whose panic is the cause has heard its own outcome before. A request that
is too long is told so at any time. -/
theorem failure_lasts (node : NodeId) (limits : Limits) (stream : Endpoint)
    (before later : List Event) :
    let w := (start node limits stream).after before
    let q := w.queue
    (q.failure = none → ∀ d ∈ q.completed, q.Own d) ∧
    (∀ n, q.failure = some (.completionPanicked n) →
      ∃ d ∈ q.completed, d.sequence = n ∧ d.completion.panics = true ∧ q.Own d) ∧
    (∀ c ∈ q.calls, ∀ e, c.request.check q.limits = .error e →
      ⟨c.sequence, c.completion, .error (.input e)⟩ ∈ q.completed) ∧
    ∀ e, q.failure = some e →
      w.Aftermath e ((start node limits stream).after (before ++ later)) := by
  intro w q
  have h : w.Faithful := faithful_after node limits stream before
  refine ⟨h.explained.own, h.explained.blamed, h.explained.refused, fun e failed => ?_⟩
  rw [after_append]
  exact aftermath_after h failed later

/-- A stream that is open on both sides, with nothing on its way. -/
def quiet : Endpoint :=
  ⟨⟨64, .ofList [], false⟩, ⟨64, .ofList [], false⟩, {}, 8⟩

/-- Two requests are handed in. The callback of the first one panics when the sending task has taken
the second one. -/
def panicking : List Event :=
  let handing (n : Nat) : List Event := List.replicate 5 (.go (.caller n))
  [.call (.ask (.enqueue (.evictObject 1)) (.callback "first" true)),
    .call (.ask (.enqueue (.evictObject 2)) (.callback "second" true))] ++
  handing 0 ++ handing 1 ++ List.replicate 6 (.go .sender) ++
  [.peer ⟨⟨64, .ofList [0], true⟩, ⟨64, .ofList [], false⟩, {}, 8⟩] ++
  List.replicate 5 (.go .receiver)

/-- A request is refused whose callback panics, the queue is shut down, and only then does the
sending task go on. -/
def furtherCauses : List Event :=
  [.call (.ask (.evict (.binding "name")) (.callback "third" true)), .call .shutdown] ++
  List.replicate 4 (.go (.caller 2)) ++ List.replicate 2 (.go (.caller 3)) ++
  List.replicate 3 (.go .sender)

theorem failure_lasts_after_panic :
    let w := (start 7 ⟨4, 4, 3⟩ quiet).after panicking
    let w' := (start 7 ⟨4, 4, 3⟩ quiet).after (panicking ++ furtherCauses)
    w.queue.failure = some (.completionPanicked 1) ∧ w.Aftermath (.completionPanicked 1) w' ∧
      w'.queue.completed.map Delivery.outcome =
        [.ok (), .error (.input (.limitExceeded "name" 4 3)),
          .error (.channel (.completionPanicked 1))] := by
  have failed : ((start 7 ⟨4, 4, 3⟩ quiet).after panicking).queue.failure =
      some (.completionPanicked 1) := by decide +kernel
  obtain ⟨-, -, -, lasts⟩ := failure_lasts 7 ⟨4, 4, 3⟩ quiet panicking furtherCauses
  exact ⟨failed, lasts _ failed, by decide +kernel⟩

/-- The queue is shut down when a request has been found for a response, and no octet of the frame
has been written. -/
def overtaken : List Event :=
  [.call (.ask (.enqueue (.evictObject 1)) (.callback "first" false)), .call .shutdown] ++
  List.replicate 5 (.go (.caller 0)) ++ List.replicate 3 (.go .sender) ++
  [.peer ⟨⟨64, .ofList [0], false⟩, ⟨64, .ofList [], false⟩, {}, 8⟩] ++
  List.replicate 3 (.go .receiver) ++ List.replicate 2 (.go (.caller 1))

/-- The completion still hears of the response, and the frame is still begun. -/
theorem answered_and_begun_after_failure :
    let w := (start 7 ⟨4, 4, 3⟩ quiet).after overtaken
    let w' := w.after [.go .receiver, .go .sender]
    w.queue.failure = some UpdateQueue.shutDownByNode ∧ w.queue.completed.isEmpty = true ∧
      w.written = [] ∧ w'.queue.completed.map Delivery.outcome = [.ok ()] ∧ w'.written ≠ [] := by
  decide +kernel

end Threads

end CacheCoherence
