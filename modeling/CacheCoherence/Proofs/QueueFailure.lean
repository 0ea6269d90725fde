import CacheCoherence.Proofs.QueueOrder

/-!
The failure of a queue. It stays, and from then on nothing is in flight; what
waits is still there only until the sending task has met the failure.
-/

namespace CacheCoherence

namespace UpdateQueue

/-- Nothing is in flight in a queue that has failed, nothing waits for a sending task that takes no
more, and such a task has met a failure or has been let go of. -/
structure Settled (q : UpdateQueue) : Prop where
  flying : ∀ e, q.failure = some e → q.inFlight = []
  waiting : q.isTaking = false → q.waiting = []
  taking : q.failure = none → q.held = true → q.isTaking = true

theorem keeps_settled : Keeps fun _ => Settled where
  accept r c h accepted := by
    refine ⟨h.flying, fun stopped => ?_, h.taking⟩
    exact absurd ((refusal?_eq_none accepted).2.2.symm.trans stopped) (by decide)
  refuse _ _ _ h _ := ⟨h.flying, h.waiting, h.taking⟩
  complete _ _ h _ := ⟨h.flying, h.waiting, h.taking⟩
  close _ h _ := ⟨fun _ _ => rfl, h.waiting, nofun⟩
  report _ h := ⟨h.flying, h.waiting, h.taking⟩
  record _ h := ⟨h.flying, h.waiting, h.taking⟩
  release h := ⟨h.flying, h.waiting, nofun⟩

theorem settled_new (node : NodeId) (limits : Limits) : Settled { node, limits } where
  flying _ := nofun
  waiting := nofun
  taking _ _ := rfl

theorem Settled.leave {q : UpdateQueue} (h : q.Settled) (buffered : List UInt8)
    (ended : q.failure = none → q.held = false ∧ q.waiting = []) : (q.leave buffered).Settled := by
  refine keeps_settled.leave (l := []) buffered ⟨h.flying, fun _ => rfl, ?_⟩ fun live =>
    (ended live).2
  intro live held
  exact absurd (held.symm.trans (ended live).1) (by decide)

theorem Settled.sendStep {q q' : UpdateQueue} (h : q.Settled) (step : SendStep q q') :
    q'.Settled := by
  cases step with
  | launch s waiting sending idle live first taking =>
      refine ⟨fun e failed => ?_, fun stopped => ?_, fun _ _ => taking⟩
      · exact absurd (live.symm.trans failed) nofun
      · exact absurd (taking.symm.trans stopped) (by decide)
  | leave e failed => exact h.leave [] fun live => absurd (live.symm.trans failed) nofun
  | drain released live rest =>
      have draining : Settled { q with draining := true } := ⟨h.flying, h.waiting, h.taking⟩
      exact draining.leave [] fun _ => ⟨released, rest⟩
  | fail f buffered =>
      refine (keeps_settled.fail [] q _ h).leave buffered fun live => ?_
      simp [failure_fail] at live
  | write sending taking =>
      refine ⟨h.flying, fun stopped => h.waiting (taking ▸ stopped), fun live held => ?_⟩
      exact taking.trans (h.taking live held)
  | stop fault left =>
      have stopped : Settled { q with sending := .stopped } := by
        refine ⟨h.flying, fun _ => h.waiting left, fun live held => ?_⟩
        exact absurd ((h.taking live held).symm.trans left) (by decide)
      cases fault with
      | none => exact stopped
      | some f => exact keeps_settled.report (l := []) _ stopped

theorem Settled.receiveStep {q q' : UpdateQueue} (h : q.Settled) (step : ReceiveStep q q') :
    q'.Settled := by
  cases step with
  | wait receiving => exact ⟨h.flying, h.waiting, h.taking⟩
  | fail e outer =>
      have failed := keeps_settled.fail [] q e h
      exact ⟨failed.flying, failed.waiting, failed.taking⟩
  | answer f inFlight r rest live oldest =>
      have opened : Settled { q with inFlight, receiving := .running rest } := by
        refine ⟨fun e failed => ?_, h.waiting, h.taking⟩
        exact absurd (live.symm.trans failed) nofun
      refine keeps_settled.deliver (l := []) f _ (keeps_settled.report (l := []) _ opened) ?_
      intro e failed
      exact absurd (live.symm.trans failed) nofun

/-- What stays of a queue `q₀` that has failed with `e`. -/
structure Lasts (q₀ : UpdateQueue) (e : ChannelError) (q : UpdateQueue) : Prop where
  failure : q.failure = some e
  calls : q₀.calls ⊆ q.calls

theorem keeps_lasts (q₀ : UpdateQueue) (e : ChannelError) : Keeps fun _ => q₀.Lasts e where
  accept _ _ h _ := ⟨h.failure, List.Subset.trans h.calls (List.subset_append_left ..)⟩
  refuse _ _ _ h _ := ⟨h.failure, List.Subset.trans h.calls (List.subset_append_left ..)⟩
  complete _ _ h _ := ⟨h.failure, h.calls⟩
  close _ h live := absurd (h.failure.symm.trans live) nofun
  report _ h := ⟨h.failure, h.calls⟩
  record _ h := ⟨h.failure, h.calls⟩
  release h := ⟨h.failure, h.calls⟩

theorem Lasts.leave {q₀ q : UpdateQueue} {e : ChannelError} (h : q₀.Lasts e q)
    (buffered : List UInt8) : q₀.Lasts e (q.leave buffered) :=
  (keeps_lasts q₀ e).leave (l := []) buffered ⟨h.failure, h.calls⟩ fun live =>
    absurd (live.symm.trans h.failure) nofun

theorem Lasts.sendStep {q₀ q q' : UpdateQueue} {e : ChannelError} (h : q₀.Lasts e q)
    (step : SendStep q q') : q₀.Lasts e q' := by
  cases step with
  | launch s waiting sending idle live first taking =>
      exact absurd (live.symm.trans h.failure) nofun
  | leave e' failed => exact h.leave []
  | drain released live rest => exact absurd (live.symm.trans h.failure) nofun
  | fail f buffered => exact ((keeps_lasts q₀ e).fail [] q _ h).leave buffered
  | write sending taking => exact ⟨h.failure, h.calls⟩
  | stop fault left => cases fault <;> exact ⟨h.failure, h.calls⟩

theorem Lasts.receiveStep {q₀ q q' : UpdateQueue} {e : ChannelError} (h : q₀.Lasts e q)
    (step : ReceiveStep q q') : q₀.Lasts e q' := by
  cases step with
  | wait receiving => exact ⟨h.failure, h.calls⟩
  | fail e' outer =>
      have failed := (keeps_lasts q₀ e).fail [] q e' h
      exact ⟨failed.failure, failed.calls⟩
  | answer f inFlight r rest live oldest => exact absurd (live.symm.trans h.failure) nofun

end UpdateQueue

namespace Exchange

open UpdateQueue

theorem settled_after {x : Exchange} (h : x.queue.Settled) (run : List Action) :
    (x.after run).queue.Settled :=
  after_keeps (P := fun _ => Settled) keeps_settled Settled.sendStep Settled.receiveStep run h

theorem lasts_after {x : Exchange} {e : ChannelError} (failed : x.queue.failure = some e)
    (run : List Action) : x.queue.Lasts e (x.after run).queue :=
  after_keeps (P := fun _ => x.queue.Lasts e) (keeps_lasts x.queue e) Lasts.sendStep
    Lasts.receiveStep run ⟨failed, List.Subset.refl _⟩

end Exchange

end CacheCoherence
