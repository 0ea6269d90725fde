import CacheCoherence.Proofs.ThreadSteps

/-!
Why a thread has to do what it has to do. What justifies an act is something that
only grows, so it withstands whatever the other threads do before the act is
done. A caller that finds the channel closed finds a failure as well: without
one the channel is closed only when nobody has the queue and nobody is in the
middle of a call.
-/

namespace CacheCoherence

namespace UpdateQueue

/-- The delivery tells of a request that is longer than the node's own limits allow. -/
def Overlong (q : UpdateQueue) (d : Delivery) : Prop :=
  ∃ c ∈ q.calls, c.ticket = d.ticket ∧
    ∃ e, Request.IsLimit e ∧ c.request.check q.limits = .error e ∧ d.outcome = .error (.input e)

/-- A completion of this number that panics has been invoked. -/
def Ran (n : Nat) (q : UpdateQueue) : Prop :=
  ∃ d ∈ q.completed, d.sequence = n ∧ d.completion.panics = true

theorem ran_invoke (q : UpdateQueue) (n : Nat) {c : Completion} (panics : c.panics = true)
    (o : Outcome) : Ran n (q.invoke n c o) :=
  ⟨_, List.mem_append_right _ List.mem_cons_self, rfl, panics⟩

/-- The delivery is no word of a failure: the server has answered, or the request is too long. -/
def Own (q : UpdateQueue) (d : Delivery) : Prop :=
  Outcome.isAnswer d.outcome = true ∨ q.Overlong d

/-- What justifies an act that a thread has to do. -/
def Fits (q : UpdateQueue) : Act → Prop
  | .look s | .hand s => s.request.check q.limits = .ok ()
  | .excuse s => s.request.check q.limits = .ok () ∧ q.failure ≠ none
  | .refuse s e =>
    (∃ e', s.request.check q.limits = .error e' ∧ e = .input e') ∨
      s.request.check q.limits = .ok () ∧ ∃ e', q.failure = some e' ∧ e = .channel e'
  | .signal => q.failure ≠ none
  | .fail e => ∀ n, e = .completionPanicked n → q.Ran n
  | .abandon e _ | .tell e _ _ => q.failure = some e
  | .ask _ _ | .number _ _ | .shutdown | .release | .record _ | .clear | .report _ => True

section Grows

variable {q q' : UpdateQueue} (g : q.Grows q')

include g

theorem Grows.overlong {d : Delivery} (h : q.Overlong d) : q'.Overlong d := by
  obtain ⟨c, hc, ticket, e, limit, check, outcome⟩ := h
  exact ⟨c, g.calls.subset hc, ticket, e, limit, g.limits ▸ check, outcome⟩

theorem Grows.own {d : Delivery} (h : q.Own d) : q'.Own d :=
  h.imp_right g.overlong

theorem Grows.failed (h : q.failure ≠ none) : q'.failure ≠ none := by
  obtain ⟨e, failed⟩ := Option.ne_none_iff_exists'.mp h
  rw [g.failure e failed]
  exact Option.some_ne_none e

theorem Grows.live (h : q'.failure = none) : q.failure = none := by
  by_contra failed
  exact g.failed failed h

theorem Grows.ran {n : Nat} (h : q.Ran n) : q'.Ran n := by
  obtain ⟨d, hd, blamed⟩ := h
  exact ⟨d, g.completed.subset hd, blamed⟩

theorem Grows.fits {a : Act} (h : q.Fits a) : q'.Fits a := by
  cases a with
  | look s | hand s =>
      rw [Fits, g.limits]
      exact h
  | excuse s =>
      rw [Fits, g.limits]
      exact h.imp_right g.failed
  | refuse s e =>
      rw [Fits, g.limits]
      refine h.imp_right fun ⟨check, e', failed, same⟩ => ?_
      exact ⟨check, e', g.failure e' failed, same⟩
  | signal => exact g.failed h
  | fail e => exact fun n same => g.ran (h n same)
  | abandon e _ | tell e _ _ => exact g.failure e h
  | ask _ _ | number _ _ | shutdown | release | record _ | clear | report _ => trivial

end Grows

theorem fits_calls (q : UpdateQueue) {c : Completion} {a : Act} (h : a ∈ c.calls) :
    q.Fits a ∧ a.isCall = false := by
  obtain ⟨_, _, rfl⟩ | rfl | rfl | ⟨_, rfl⟩ := Completion.mem_calls h <;> exact ⟨trivial, rfl⟩

/-- What follows an invocation. -/
theorem fits_acts (q : UpdateQueue) (n : Nat) (c : Completion) (o : Outcome) :
    ∀ a ∈ c.acts n, (q.invoke n c o).Fits a ∧ a.isCall = false := by
  intro a ha
  obtain call | ⟨panics, rfl⟩ := Completion.mem_acts ha
  · exact fits_calls _ call
  · refine ⟨fun m same => ?_, rfl⟩
    cases same
    exact ran_invoke q n panics o

section Follows

variable {q : UpdateQueue} {a b : Act}

theorem fits_of_follows (h : q.Fits a)
    (stopped : a.isCall = true → q.isTaking = false → q.failure ≠ none) (next : q.Follows a b) :
    (q.perform a).1.Fits b := by
  cases next with
  | begin a c held | clear e live | report a events => trivial
  | long r c e check => exact .inl ⟨e, check, rfl⟩
  | fit r c check => exact check
  | late s e failed => exact .inr ⟨h, e, failed, rfl⟩
  | hand s live => exact h
  | excuse s closed =>
      rw [perform, if_neg (Bool.eq_false_iff.mp closed)]
      exact ⟨h, stopped rfl closed⟩
  | excused s =>
      obtain ⟨e, failed⟩ := Option.ne_none_iff_exists'.mp h.2
      refine .inr ⟨h.1, e, failed, ?_⟩
      rw [failed]
      rfl
  | shutdown held =>
      intro n same
      cases same
  | signal e live =>
      rw [perform, live]
      exact Option.some_ne_none e
  | abandon e f live flying =>
      rw [perform, live]
      rfl
  | call d told member => exact (fits_calls _ member).1
  | panic d told panics =>
      intro m same
      cases same
      rw [Ran, completed_perform, told]
      exact ⟨d, List.mem_append_right _ List.mem_cons_self, rfl, panics⟩

/-- Calls begin only while somebody has the queue. -/
theorem isCall_of_follows (released : q.held = false) (uncalled : a.isCall = false)
    (next : q.Follows a b) : b.isCall = false := by
  cases next with
  | begin a c held => exact absurd (released.symm.trans held) (by decide)
  | long _ _ _ _ | fit _ _ _ | late _ _ _ | hand _ _ | excuse _ _ | excused _ => cases uncalled
  | call d told member => exact (fits_calls q member).2
  | shutdown _ | signal _ _ | clear _ _ | abandon _ _ _ _ | report _ _ | panic _ _ _ => rfl

end Follows

/-- Nothing is put into the channel but by a call. -/
theorem waiting_perform (q : UpdateQueue) {a : Act} (uncalled : a.isCall = false) :
    (q.perform a).1.waiting = q.waiting := by
  obtain ⟨-, same⟩ | ⟨s, rfl, -⟩ | ⟨s, e, rfl, same, -⟩ := q.calls_perform a
  · exact same
  · cases uncalled
  · exact same

/-- The acts leave alone how far the two tasks are. -/
theorem tasks_perform (q : UpdateQueue) (a : Act) :
    (q.perform a).1.sent = q.sent ∧ (q.perform a).1.sending = q.sending ∧
      (q.perform a).1.receiving = q.receiving := by
  cases a with
  | ask a c =>
      rw [perform]
      split
      · cases a <;> exact ⟨rfl, rfl, rfl⟩
      · exact ⟨rfl, rfl, rfl⟩
  | hand s =>
      rw [perform]
      split <;> exact ⟨rfl, rfl, rfl⟩
  | record h =>
      rw [perform]
      dsimp only
      split <;> exact ⟨rfl, rfl, rfl⟩
  | fail e =>
      rw [perform]
      split <;> exact ⟨rfl, rfl, rfl⟩
  | number _ _ | look _ | excuse _ | refuse _ _ | tell _ _ _ | shutdown | release | signal | clear
  | abandon _ _ | report _ => exact ⟨rfl, rfl, rfl⟩

theorem isTaking_perform (q : UpdateQueue) (a : Act) : (q.perform a).1.isTaking = q.isTaking := by
  rw [isTaking, isTaking, (q.tasks_perform a).2.1]

/-- A live queue fails by the act that does so, and nothing is in flight any more. -/
theorem failure_perform (q : UpdateQueue) (a : Act) :
    (q.perform a).1.failure = q.failure ∧ (q.perform a).1.inFlight = q.inFlight ∨
      ∃ e, a = .fail e ∧ q.failure = none ∧ (q.perform a).1.failure = some e ∧
        (q.perform a).1.inFlight = [] := by
  cases a with
  | fail e =>
      rw [perform]
      split
      · exact .inl ⟨rfl, rfl⟩
      · next live => exact .inr ⟨e, rfl, live, rfl, rfl⟩
  | ask a c =>
      rw [perform]
      split
      · cases a <;> exact .inl ⟨rfl, rfl⟩
      · exact .inl ⟨rfl, rfl⟩
  | hand _ | record _ =>
      rw [perform]
      split <;> exact .inl ⟨rfl, rfl⟩
  | number _ _ | look _ | excuse _ | refuse _ _ | tell _ _ _ | shutdown | release | signal | clear
  | abandon _ _ | report _ => exact .inl ⟨rfl, rfl⟩

theorem failure_perform_fail (q : UpdateQueue) (e : ChannelError) :
    (q.perform (.fail e)).1.failure = some (q.failure.getD e) := by
  rw [perform]
  split
  · next first failed =>
    rw [failed]
    rfl
  · next live =>
    rw [live]
    rfl

theorem failed_perform_fail (q : UpdateQueue) (e : ChannelError) :
    (q.perform (.fail e)).1.failure ≠ none :=
  failure_perform_fail q e ▸ Option.some_ne_none _

/-- What an act tells a completion is no answer: the request is too long, or the queue has
failed. -/
theorem told_of_fits {q : UpdateQueue} {a : Act} {d : Delivery} (h : q.Fits a)
    (told : a.told? = some d) : Outcome.isAnswer d.outcome = false ∧
      ((q.perform a).1.Overlong d ∨ ∃ e, q.failure = some e ∧ d.outcome = .error (.channel e)) := by
  cases a with
  | refuse s e =>
      cases told
      obtain ⟨e', check, rfl⟩ | ⟨-, e', failed, rfl⟩ := h
      · have limit := Request.isLimit_of_check check
        refine ⟨?_, .inl ⟨_, List.mem_append_right _ List.mem_cons_self, rfl, e', limit, check,
          rfl⟩⟩
        obtain ⟨field, length, bound, rfl⟩ := limit
        rfl
      · exact ⟨rfl, .inr ⟨e', failed, rfl⟩⟩
  | abandon e f | tell e n c =>
      cases told
      exact ⟨rfl, .inr ⟨e, h, rfl⟩⟩
  | ask _ _ | number _ _ | look _ | hand _ | excuse _ | shutdown | release | record _ | fail _
  | signal | clear | report _ => cases told

/-- A request that is too long is told so when it is handed in. -/
theorem refused_perform {q : UpdateQueue} {a : Act}
    (known : ∀ c ∈ q.calls, ∀ e, c.request.check q.limits = .error e →
      ⟨c.sequence, c.completion, .error (.input e)⟩ ∈ q.completed) (h : q.Fits a) :
    ∀ c ∈ (q.perform a).1.calls, ∀ e, c.request.check (q.perform a).1.limits = .error e →
      ⟨c.sequence, c.completion, .error (.input e)⟩ ∈ (q.perform a).1.completed := by
  intro c hc e check
  have g := q.grows_perform a
  rw [g.limits] at check
  obtain ⟨calls, -⟩ | ⟨s, rfl, calls, -⟩ | ⟨s, e', rfl, -, calls⟩ := q.calls_perform a
  · rw [calls] at hc
    exact g.completed.subset (known c hc e check)
  · rw [calls] at hc
    obtain old | new := List.mem_append.mp hc
    · exact g.completed.subset (known c old e check)
    · cases List.mem_singleton.mp new
      cases check.symm.trans h
  · rw [calls] at hc
    obtain old | new := List.mem_append.mp hc
    · exact g.completed.subset (known c old e check)
    · cases List.mem_singleton.mp new
      obtain ⟨e'', long, rfl⟩ | ⟨fit, -⟩ := h
      · cases check.symm.trans long
        exact List.mem_append_right _ List.mem_cons_self
      · cases check.symm.trans fit

theorem answers_perform {q : UpdateQueue} {a : Act} (h : q.Fits a) :
    (q.perform a).1.answers = q.answers := by
  rw [answers, completed_perform, List.filter_append]
  cases told : a.told? with
  | none => exact List.append_nil _
  | some d =>
      refine (congrArg (q.answers ++ ·) (List.filter_eq_nil_iff.mpr ?_)).trans (List.append_nil _)
      intro d' hd
      rw [Option.toList_some, List.mem_singleton] at hd
      rw [hd, (told_of_fits h told).1]
      decide

end UpdateQueue

namespace Threads

/-- Nobody has the queue, nothing waits, and nobody is in the middle of a call. -/
structure Dry (w : Threads) : Prop where
  released : w.queue.held = false
  waiting : w.queue.waiting = []
  uncalled : ∀ t, ∀ a ∈ w.work t, a.isCall = false

section Act

variable {w : Threads} {t u : Thread} {a b : Act} {rest : List Act} (due : w.work t = a :: rest)

include due

/-- What a thread has to do after an act it had to do before, or the act has led to it. -/
theorem follows_or_mem (h : b ∈ (w.act t a rest).work u) : w.queue.Follows a b ∨ b ∈ w.work u := by
  obtain ⟨rfl, now⟩ | ⟨-, old⟩ := mem_work_assign h
  · rw [List.mem_append] at now
    refine now.imp UpdateQueue.follows_perform fun later => ?_
    rw [due]
    exact List.mem_cons_of_mem a later
  · exact .inr old

/-- An act is done, and nothing else that a thread has to do. -/
theorem eq_or_mem_work_act (h : b ∈ w.work u) : b = a ∨ b ∈ (w.act t a rest).work u := by
  by_cases same : u = t
  · subst same
    rw [due] at h
    refine (List.mem_cons.mp h).imp_right fun later => ?_
    rw [act, work_assign, if_pos rfl]
    exact List.mem_append_right _ later
  · rw [act, work_assign, if_neg same]
    exact .inr h

theorem Dry.act (h : w.Dry) : (w.act t a rest).Dry := by
  have uncalled : a.isCall = false := h.uncalled t a (due ▸ List.mem_cons_self)
  refine ⟨?_, ?_, fun u b hb => ?_⟩
  · refine Bool.eq_false_iff.mpr fun held => ?_
    exact absurd (h.released.symm.trans ((w.queue.grows_perform a).held held)) (by decide)
  · exact (w.queue.waiting_perform uncalled).trans h.waiting
  · obtain next | old := follows_or_mem due hb
    · exact UpdateQueue.isCall_of_follows h.released uncalled next
    · exact h.uncalled u b old

end Act

/-- A change in which nobody gets the queue back and nobody begins a call. -/
theorem Dry.change {w w' : Threads} (h : w.Dry) (held : w'.queue.held = w.queue.held)
    (waiting : w'.queue.waiting = w.queue.waiting)
    (work : ∀ t, ∀ a ∈ w'.work t, a ∈ w.work t ∨ a.isCall = false) : w'.Dry where
  released := held.trans h.released
  waiting := waiting.trans h.waiting
  uncalled t a ha := (work t a ha).elim (h.uncalled t a) id

/-- Why the sending task takes no more requests: for a failure, or because the queue has run dry. A
failure that it has met itself may still have to be noted. -/
def Due (w : Threads) : Sender → Prop
  | .leaving => (w.queue.failure ≠ none ∨ w.Dry) ∨ ∃ e, .fail e ∈ w.work .sender
  | .deserted | .closed => w.queue.failure ≠ none ∨ w.Dry
  | .refusing e => w.queue.failure = some e ∨ w.Dry
  | .ready | .polling | .taken _ => True

/-- What a thread has to do is justified, and so is where the sending task stands. -/
structure Justified (w : Threads) : Prop where
  fits : ∀ t, ∀ a ∈ w.work t, w.queue.Fits a
  absent : ∀ n, w.callers ≤ n → w.work (.caller n) = []
  signalled : w.signalled = true → w.queue.failure ≠ none
  due : w.Due w.sender
  closed : w.queue.isTaking = false → w.queue.failure ≠ none ∨ w.Dry

theorem justified_start (node : NodeId) (limits : Limits) (stream : Endpoint) :
    (start node limits stream).Justified where
  fits _ _ h := by cases h
  absent _ _ := rfl
  signalled h := by cases h
  due := trivial
  closed h := by cases h

/-- The reason stays as long as nobody undoes it. -/
theorem Due.mono {w w' : Threads} {sender : Sender} (h : w.Due sender)
    (g : w.queue.Grows w'.queue) (still : w.Dry → w'.Dry)
    (failing : ∀ e, .fail e ∈ w.work .sender →
      .fail e ∈ w'.work .sender ∨ w'.queue.failure ≠ none) : w'.Due sender := by
  cases sender with
  | leaving =>
      obtain why | ⟨e, due⟩ := h
      · exact .inl (why.imp g.failed still)
      · exact (failing e due).elim (fun due => .inr ⟨e, due⟩) fun failed => .inl (.inl failed)
  | deserted | closed => exact Or.imp g.failed still h
  | refusing e => exact Or.imp (g.failure e) still h
  | ready | polling | taken _ => trivial

section Justified

variable {w w' : Threads} (h : w.Justified)

include h

/-- Nobody is in the middle of a call if none of those who have called are. -/
theorem Justified.uncalled (none : w.isCalled = false) :
    ∀ t, ∀ a ∈ w.work t, a.isCall = false := by
  intro t a ha
  rw [isCalled, List.any_eq_false] at none
  have some : t ∈ w.threads := by
    cases t with
    | sender => exact List.mem_cons_self
    | receiver => exact List.mem_cons_of_mem _ List.mem_cons_self
    | caller n =>
        by_cases below : n < w.callers
        · refine List.mem_cons_of_mem _ (List.mem_cons_of_mem _ ?_)
          exact List.mem_map_of_mem (List.mem_range.mpr below)
        · rw [h.absent n (Nat.le_of_not_lt below)] at ha
          cases ha
  have free := none t some
  rw [List.any_eq_true] at free
  exact Bool.eq_false_iff.mpr fun calls => free ⟨a, ha, calls⟩

/-- A caller finds the channel closed only after a failure. -/
theorem Justified.stopped {t : Thread} {a : Act} (member : a ∈ w.work t) (calls : a.isCall = true)
    (closed : w.queue.isTaking = false) : w.queue.failure ≠ none := by
  refine (h.closed closed).resolve_right fun dry => ?_
  exact absurd (calls.symm.trans (dry.uncalled t a member)) (by decide)

theorem Justified.act {t : Thread} {a : Act} {rest : List Act} (due : w.work t = a :: rest) :
    (w.act t a rest).Justified := by
  have g : w.queue.Grows (w.act t a rest).queue := w.queue.grows_perform a
  have member : a ∈ w.work t := due ▸ List.mem_cons_self
  refine ⟨fun u b hb => ?_, fun n outside => ?_, fun signalled => ?_, ?_, fun closed => ?_⟩
  · obtain next | old := follows_or_mem due hb
    · exact UpdateQueue.fits_of_follows (h.fits t a member) (h.stopped member) next
    · exact g.fits (h.fits u b old)
  · have free := h.absent n outside
    by_cases same : .caller n = t
    · rw [same, due] at free
      cases free
    · rw [Threads.act, work_assign, if_neg same]
      exact free
  · obtain before | signal := Bool.or_eq_true_iff.mp signalled
    · exact g.failed (h.signalled before)
    · have fits := h.fits t a member
      cases a <;> cases signal
      exact g.failed fits
  · refine h.due.mono g (fun dry => dry.act due) fun e failing => ?_
    obtain rfl | still := eq_or_mem_work_act due failing
    · exact .inr (w.queue.failed_perform_fail e)
    · exact .inl still
  · have before : w.queue.isTaking = false := (w.queue.isTaking_perform a).symm.trans closed
    exact (h.closed before).imp g.failed fun dry => dry.act due

/-- A step of one of the tasks, which leaves the other threads alone. -/
theorem Justified.task {t : Thread} (aside : Aside t w w') (inside : ∀ n, t ≠ .caller n)
    (g : w.queue.Grows w'.queue) (own : ∀ a ∈ w'.work t, w'.queue.Fits a)
    (due : w'.Due w'.sender) (closed : w'.queue.isTaking = false →
      w'.queue.failure ≠ none ∨ w'.Dry) : w'.Justified := by
  refine ⟨fun u a ha => ?_, fun n outside => ?_, fun now => ?_, due, closed⟩
  · by_cases same : u = t
    · exact own a (same ▸ ha)
    · rw [aside.work u same] at ha
      exact g.fits (h.fits u a ha)
  · rw [aside.work _ (inside n).symm]
    exact h.absent n (aside.callers ▸ outside)
  · exact g.failed (h.signalled (aside.signalled ▸ now))

theorem Justified.receive (free : w.work .receiver = []) (s : w.ReceiverStep w') :
    w'.Justified := by
  have own : ∀ a ∈ w'.work .receiver, w'.queue.Fits a ∧ a.isCall = false := by
    intro a ha
    obtain ⟨e, rfl, outer⟩ | ⟨f, o, invoked, later⟩ := s.mem_work free ha
    · exact ⟨fun n same => absurd same (outer n), rfl⟩
    · rw [invoked]
      exact UpdateQueue.fits_acts _ _ _ o a later
  obtain ⟨sender, queue⟩ := s.kept
  have still : w.Dry → w'.Dry := by
    intro dry
    refine dry.change (by rw [queue]) (by rw [queue]) fun t a ha => ?_
    by_cases same : t = .receiver
    · exact .inr (own a (same ▸ ha)).2
    · rw [s.aside.work t same] at ha
      exact .inl ha
  refine h.task s.aside nofun s.grows (fun a ha => (own a ha).1) ?_ fun closed => ?_
  · rw [sender]
    refine h.due.mono s.grows still fun e failing => .inl ?_
    rwa [s.aside.work .sender nofun]
  · have before : w.queue.isTaking = false := by
      rw [queue] at closed
      exact closed
    exact (h.closed before).imp s.grows.failed still

/-- A step of the sending task, which takes away from what waits at most. -/
theorem Justified.sender (s : w.SenderStep w')
    (waiting : w.queue.waiting = [] → w'.queue.waiting = [])
    (own : ∀ a ∈ w'.work .sender, w'.queue.Fits a ∧ a.isCall = false)
    (due : (w.Dry → w'.Dry) → w'.Due w'.sender)
    (closed : w'.queue.isTaking = false → w.queue.failure ≠ none ∨ w.Dry) : w'.Justified := by
  have still : w.Dry → w'.Dry := by
    intro dry
    refine ⟨(congrArg UpdateQueue.held s.kept).trans dry.released, waiting dry.waiting, ?_⟩
    intro t a ha
    by_cases same : t = .sender
    · exact (own a (same ▸ ha)).2
    · rw [s.aside.work t same] at ha
      exact dry.uncalled t a ha
  exact h.task s.aside nofun s.grows (fun a ha => (own a ha).1) (due still) fun now =>
    (closed now).imp s.grows.failed still

theorem Justified.send (free : w.work .sender = []) (s : w.SenderStep w') : w'.Justified := by
  have none : ∀ a ∈ w.work .sender, ∀ q : UpdateQueue, q.Fits a ∧ a.isCall = false := by
    rw [free]
    exact List.forall_mem_nil _
  have told : ∀ {w₁ : Threads} {a : Act}, w₁.queue.Fits a → a.isCall = false →
      ∀ b ∈ (w₁.assign .sender [a]).work .sender, w₁.queue.Fits b ∧ b.isCall = false := by
    intro w₁ a fits calm b hb
    rw [work_assign, if_pos rfl] at hb
    rw [List.mem_singleton.mp hb]
    exact ⟨fits, calm⟩
  have due := h.due
  have step := h.sender s
  cases s with
  | wait => exact h
  | turn sender before idle =>
      refine step id (fun a ha => none a ha _) (fun _ => ?_) h.closed
      obtain rfl | ⟨rfl, -⟩ := idle <;> trivial
  | stop ready signalled =>
      exact step id (fun a ha => none a ha _) (fun _ => .inl (.inl (h.signalled signalled)))
        h.closed
  | take s waiting polling first =>
      exact step (fun empty => nomatch first.symm.trans empty) (fun a ha => none a ha _)
        (fun _ => trivial) h.closed
  | desert polling empty released uncalled =>
      exact step id (fun a ha => none a ha _)
        (fun still => .inr (still ⟨released, empty, h.uncalled uncalled⟩)) h.closed
  | note s taken live =>
      refine step id (fun a ha => none a ha _) (fun _ => trivial) fun closed => ?_
      exact absurd ((Sending.isTaking_beginning w.queue s).symm.trans closed) (by decide)
  | meet s e taken failed =>
      let ended : Threads := { w with sender := .leaving }
      have still : ended.queue.Fits (.tell e s.sequence s.completion) := failed
      have known : w.queue.failure ≠ Option.none := failed ▸ Option.some_ne_none e
      exact step id (told still rfl) (fun _ => .inl (.inl known)) h.closed
  | drain deserted =>
      rw [deserted] at due
      exact step id (fun a ha => none a ha _) (fun still => .inl (due.imp_right still)) h.closed
  | close leaving =>
      rw [leaving] at due
      have why : w.queue.failure ≠ Option.none ∨ w.Dry := by
        refine due.resolve_right fun ⟨e, failing⟩ => ?_
        rw [free] at failing
        cases failing
      exact step id (fun a ha => none a ha _) (fun still => why.imp_right still) fun _ => why
  | explain closed =>
      rw [closed] at due
      refine step id (fun a ha => none a ha _) (fun still => ?_) h.closed
      refine due.imp (fun failed => ?_) still
      obtain ⟨e, known⟩ := Option.ne_none_iff_exists'.mp failed
      rw [UpdateQueue.unsentError, known]
      rfl
  | tell e s waiting refusing first =>
      have failed : w.queue.failure = some e := by
        rw [refusing] at due
        refine due.resolve_right fun dry => ?_
        cases first.symm.trans dry.waiting
      let emptied : Threads := { w with queue := { w.queue with waiting } }
      have still : emptied.queue.Fits (.tell e s.sequence s.completion) := failed
      refine step (fun empty => nomatch first.symm.trans empty) (told still rfl) (fun _ => ?_)
        h.closed
      change Due _ w.sender
      rw [refusing]
      exact .inl failed
  | write sending given stream ready taking tidy octets =>
      refine step id (fun a ha => none a ha _) (fun _ => ?_) fun closed =>
        h.closed (taking.symm.trans closed)
      change Due _ w.sender
      rw [ready]
      trivial
  | fault f sending given stream ready taking tidy octets =>
      let passed : Threads := { w with queue := { w.queue with sending } }.pass stream given []
      let ended : Threads := { passed with sender := .leaving }
      have outer : ended.queue.Fits (.fail (f.toError "frame")) := fun n same =>
        absurd same (f.toError_ne_completionPanicked "frame" n)
      exact step id (told outer rfl) (fun _ => .inr ⟨_, List.mem_singleton.mpr rfl⟩)
        fun closed => h.closed (taking.symm.trans closed)
  | conclude fault given lost stream ready left octets =>
      have kept : (w.queue.stopSending fault).waiting = w.queue.waiting := by cases fault <;> rfl
      refine step (fun empty => kept.trans empty) (fun a ha => none a ha _) (fun _ => ?_)
        fun _ => h.closed left
      change Due _ w.sender
      rw [ready]
      trivial

theorem Justified.call (c : Call) :
    ({ w with callers := w.callers + 1 }.assign (.caller w.callers) [c.act]).Justified := by
  have new : ∀ t, ∀ a ∈ ({ w with callers := w.callers + 1 }.assign (.caller w.callers)
      [c.act]).work t, a ∈ w.work t ∨ w.queue.Fits a ∧ a.isCall = false := by
    intro t a ha
    obtain ⟨-, now⟩ | ⟨-, old⟩ := mem_work_assign ha
    · rw [List.mem_singleton.mp now]
      cases c <;> exact .inr ⟨trivial, rfl⟩
    · exact .inl old
  have still : w.Dry → ({ w with callers := w.callers + 1 }.assign (.caller w.callers)
      [c.act]).Dry := fun dry =>
    dry.change rfl rfl fun t a ha => (new t a ha).imp_right And.right
  refine ⟨fun t a ha => ?_, fun n outside => ?_, h.signalled, ?_, fun closed =>
    (h.closed closed).imp_right still⟩
  · exact (new t a ha).elim (h.fits t a) And.left
  · have fresh : Thread.caller n ≠ .caller w.callers := by
      rintro ⟨⟩
      exact absurd outside (Nat.not_succ_le_self _)
    rw [work_assign, if_neg fresh]
    exact h.absent n (Nat.le_of_succ_le outside)
  · refine h.due.mono w.queue.grows_refl still fun e failing => .inl ?_
    rw [work_assign, if_neg nofun]
    exact failing

theorem Justified.step (s : w.Step w') : w'.Justified := by
  cases s with
  | wait => exact h
  | call c => exact h.call c
  | peer stream =>
      have still : w.Dry → Dry { w with stream } := fun dry =>
        ⟨dry.released, dry.waiting, dry.uncalled⟩
      exact ⟨h.fits, h.absent, h.signalled,
        h.due.mono w.queue.grows_refl still fun _ failing => .inl failing,
        fun closed => (h.closed closed).imp_right still⟩
  | act t a rest due => exact h.act due
  | send free s => exact h.send free s
  | receive free s => exact h.receive free s

end Justified

/-- Why completions have been told what they were told. Only the completion of a request that a
response is for gets an answer, and a live queue has told of no failure. -/
structure Explained (w : Threads) : Prop where
  justified : w.Justified
  tidy : w.queue.sending.Tidy
  flying : w.queue.failure ≠ none → w.queue.inFlight = []
  answering : ∀ f o, w.receiver = .answering f o → Outcome.isAnswer o = true
  own : w.queue.failure = none → ∀ d ∈ w.queue.completed, w.queue.Own d
  blamed : ∀ n, w.queue.failure = some (.completionPanicked n) →
    ∃ d ∈ w.queue.completed, d.sequence = n ∧ d.completion.panics = true ∧ w.queue.Own d
  refused : ∀ c ∈ w.queue.calls, ∀ e, c.request.check w.queue.limits = .error e →
    ⟨c.sequence, c.completion, .error (.input e)⟩ ∈ w.queue.completed

theorem explained_start (node : NodeId) (limits : Limits) (stream : Endpoint) :
    (start node limits stream).Explained where
  justified := justified_start node limits stream
  tidy := trivial
  flying _ := rfl
  answering _ _ h := by cases h
  own _ _ h := by cases h
  blamed _ h := by cases h
  refused _ h := by cases h

section Explained

variable {w w' : Threads} (h : w.Explained)

include h

theorem Explained.act {t : Thread} {a : Act} {rest : List Act} (due : w.work t = a :: rest) :
    (w.act t a rest).Explained := by
  have g := w.queue.grows_perform a
  have fits := h.justified.fits t a (due ▸ List.mem_cons_self)
  have tidy : (w.queue.perform a).1.sending.Tidy := (w.queue.tasks_perform a).2.1.symm ▸ h.tidy
  refine ⟨h.justified.act due, tidy, ?_, h.answering, fun live d hd => ?_, fun n failed => ?_,
    UpdateQueue.refused_perform h.refused fits⟩
  · obtain ⟨failure, flying⟩ | ⟨e, -, -, -, flying⟩ := w.queue.failure_perform a
    · intro failed
      exact flying.trans (h.flying (failure ▸ failed))
    · exact fun _ => flying
  · have before := g.live live
    have known : d ∈ w.queue.completed ++ a.told?.toList := w.queue.completed_perform a ▸ hd
    obtain old | new := List.mem_append.mp known
    · exact g.own (h.own before d old)
    · obtain ⟨-, long | ⟨e, failed, -⟩⟩ := UpdateQueue.told_of_fits fits (Option.mem_toList.mp new)
      · exact .inr long
      · exact absurd (before.symm.trans failed) nofun
  · obtain ⟨failure, -⟩ | ⟨e, rfl, live, failure, -⟩ := w.queue.failure_perform a
    · obtain ⟨d, hd, number, panics, own⟩ := h.blamed n (failure.symm.trans failed)
      exact ⟨d, g.completed.subset hd, number, panics, g.own own⟩
    · cases failure.symm.trans failed
      obtain ⟨d, hd, number, panics⟩ := fits n rfl
      exact ⟨d, g.completed.subset hd, number, panics, g.own (h.own live d hd)⟩

/-- A step of a task, which fails nothing by itself and invokes no completion but with an answer. -/
theorem Explained.task (justified : w'.Justified) (g : w.queue.Grows w'.queue)
    (calls : w'.queue.calls = w.queue.calls) (tidy : w'.queue.sending.Tidy)
    (failure : w'.queue.failure = w.queue.failure)
    (flying : w.queue.failure ≠ none → w'.queue.inFlight = [])
    (answering : ∀ f o, w'.receiver = .answering f o → Outcome.isAnswer o = true)
    (told : ∀ d ∈ w'.queue.completed,
      d ∈ w.queue.completed ∨ Outcome.isAnswer d.outcome = true) : w'.Explained where
  justified := justified
  tidy := tidy
  flying failed := flying (failure ▸ failed)
  answering := answering
  own live d hd := (told d hd).elim (fun old => g.own (h.own (failure ▸ live) d old)) .inl
  blamed n failed := by
    obtain ⟨d, hd, number, panics, own⟩ := h.blamed n (failure ▸ failed)
    exact ⟨d, g.completed.subset hd, number, panics, g.own own⟩
  refused c hc e check := by
    rw [calls] at hc
    rw [g.limits] at check
    exact g.completed.subset (h.refused c hc e check)

theorem Explained.send (free : w.work .sender = []) (s : w.SenderStep w') : w'.Explained := by
  refine h.task (h.justified.send free s) s.grows (by rw [s.kept]) (s.tidy h.tidy) (by rw [s.kept])
    ?_ ?_ ?_
  · intro failed
    cases s with
    | note s taken live => exact absurd live failed
    | conclude fault _ _ _ _ _ _ => cases fault <;> exact h.flying failed
    | _ => exact h.flying failed
  · rw [s.apart.1]
    exact h.answering
  · rw [s.kept]
    exact fun d hd => .inl hd

theorem Explained.receive (free : w.work .receiver = []) (s : w.ReceiverStep w') :
    w'.Explained := by
  have tidy : w'.queue.sending.Tidy := by
    rw [s.kept.2]
    exact h.tidy
  refine h.task (h.justified.receive free s) s.grows (by rw [s.kept.2]) tidy (by rw [s.kept.2])
    ?_ ?_ ?_
  · intro failed
    cases s with
    | read _ _ _ reading _ _ _ => cases reading <;> exact h.flying failed
    | pop f inFlight r matching oldest => cases oldest.symm.trans (h.flying failed)
    | _ => exact h.flying failed
  · intro f o now
    cases s with
    | wait => exact h.answering f o now
    | turn receiver running before idle =>
        obtain rfl | rfl | rfl := idle <;> cases now
    | read _ _ _ reading _ _ _ =>
        cases reading <;> cases now
    | pop _ _ r _ _ =>
        cases now
        exact r.isAnswer_toOutcome
    | surplus _ _ _ | answer _ _ _ | bare _ _ | cut _ _ _ | halt _ => cases now
  · intro d hd
    cases s with
    | read _ _ _ reading _ _ _ => cases reading <;> exact .inl hd
    | answer f o answering =>
        refine (List.mem_append.mp hd).imp_right fun new => ?_
        rw [List.mem_singleton.mp new]
        exact h.answering f o answering
    | _ => exact .inl hd

theorem Explained.step (s : w.Step w') : w'.Explained := by
  have justified := h.justified.step s
  cases s with
  | wait => exact h
  | call c | peer stream =>
      exact ⟨justified, h.tidy, h.flying, h.answering, h.own, h.blamed, h.refused⟩
  | act t a rest due => exact h.act due
  | send free s => exact h.send free s
  | receive free s => exact h.receive free s

end Explained

end Threads

end CacheCoherence
