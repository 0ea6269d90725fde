import CacheCoherence.Proofs.CompletionOrder
import CacheCoherence.Proofs.ThreadNumbers

/-!
Where the accepted requests of a queue are, in the order in which they were
accepted. Those that responses have been found for come first, then those that
the drain of the failure completes, those in flight, those that the sending task
completes because they will not be sent, the one that it has taken, and those
that wait. The drain and the sending task may go on at the same time, so the
order of the completions is the order of the requests for each of them only.
-/

namespace CacheCoherence

/-- A request that was in flight, whose completion is to be told of the failure. -/
def Act.abandoned? : Act → Option Ticket
  | .abandon _ f => some f.ticket
  | _ => none

/-- A request that is not sent, whose completion is to be told of the failure. -/
def Act.unsent? : Act → Option Ticket
  | .tell _ sequence c => some (sequence, c)
  | _ => none

instance : LawfulBEq Ticket :=
  inferInstance

namespace UpdateQueue

/-- Accepted requests whose completions have heard of the failure, in the order of the
invocations. -/
def told (q : UpdateQueue) : List Ticket :=
  ((q.completed.filter fun d => !Outcome.isAnswer d.outcome).map Delivery.ticket).filter
    (· ∈ q.accepted.map Submission.ticket)

/-- Those of them that were sent. -/
def toldSent (q : UpdateQueue) : List Ticket :=
  q.told.filter (· ∈ q.sent.map Submission.ticket)

/-- Those of them that were not sent. -/
def toldUnsent (q : UpdateQueue) : List Ticket :=
  q.told.filter (· ∉ q.sent.map Submission.ticket)

section Told

variable {q q' : UpdateQueue} {d : Delivery}

theorem told_congr (completed : q'.completed = q.completed) (accepted : q'.accepted = q.accepted) :
    q'.told = q.told := by
  rw [told, told, completed, accepted]

theorem told_answer (completed : q'.completed = q.completed ++ [d])
    (accepted : q'.accepted = q.accepted) (answer : Outcome.isAnswer d.outcome = true) :
    q'.told = q.told := by
  have none : [d].filter (fun d => !Outcome.isAnswer d.outcome) = [] := by
    refine List.filter_cons_of_neg ?_
    rw [answer]
    decide
  rw [told, told, completed, accepted, List.filter_append, none, List.append_nil]

theorem told_concat (completed : q'.completed = q.completed ++ [d])
    (accepted : q'.accepted = q.accepted) (word : Outcome.isAnswer d.outcome = false) :
    q'.told = q.told ++ [d.ticket].filter (· ∈ q.accepted.map Submission.ticket) := by
  have some : [d].filter (fun d => !Outcome.isAnswer d.outcome) = [d] := by
    refine List.filter_cons_of_pos ?_
    rw [word]
    rfl
  rw [told, told, completed, accepted, List.filter_append, some, List.map_append,
    List.filter_append]
  rfl

/-- A request that is accepted has not been completed before. -/
theorem told_accept {s : Submission} (completed : q'.completed = q.completed)
    (accepted : q'.accepted = q.accepted ++ [s])
    (fresh : ∀ d ∈ q.completed, d.sequence ≠ s.sequence) : q'.told = q.told := by
  rw [told, told, completed, accepted]
  refine List.filter_congr fun t ht => ?_
  obtain ⟨d, hd, rfl⟩ := List.mem_map.mp ht
  have new : d.ticket ≠ s.ticket := fun same =>
    fresh d (List.mem_of_mem_filter hd) (congrArg Prod.fst same)
  rw [decide_eq_decide, List.map_append, List.mem_append]
  exact or_iff_left fun last => new (List.mem_singleton.mp last)

end Told

section Follows

variable {q : UpdateQueue} {a b : Act}

/-- Only the sending task itself finds requests that are not sent. -/
theorem unsent_of_follows (next : q.Follows a b) : b.unsent? = none := by
  cases next with
  | call d told member =>
      obtain ⟨_, _, rfl⟩ | rfl | rfl | ⟨_, rfl⟩ := Completion.mem_calls member <;> rfl
  | _ => rfl

/-- Only a queue that fails takes out what is in flight. -/
theorem abandoned_of_follows (next : q.Follows a b) (still : ∀ e, a = .fail e → q.failure ≠ none) :
    b.abandoned? = none := by
  cases next with
  | call d told member =>
      obtain ⟨_, _, rfl⟩ | rfl | rfl | ⟨_, rfl⟩ := Completion.mem_calls member <;> rfl
  | abandon e f live flying => exact absurd live (still e rfl)
  | _ => rfl

end Follows

/-- What a call puts into the channel is what is accepted. -/
theorem accepted_perform (q : UpdateQueue) (a : Act) :
    (q.perform a).1.accepted = q.accepted ∧ (q.perform a).1.waiting = q.waiting ∨
      ∃ s, a = .hand s ∧ (q.perform a).1.accepted = q.accepted ++ [s] ∧
        (q.perform a).1.waiting = q.waiting ++ [s] := by
  obtain ⟨calls, waiting⟩ | ⟨s, rfl, calls, waiting⟩ | ⟨s, e, rfl, waiting, calls⟩ :=
    q.calls_perform a
  · exact .inl ⟨congrArg (List.filterMap Enqueued.submission?) calls, waiting⟩
  · refine .inr ⟨s, rfl, ?_, waiting⟩
    rw [accepted, calls, List.filterMap_append]
    rfl
  · refine .inl ⟨?_, waiting⟩
    rw [accepted, calls, List.filterMap_append]
    exact List.append_nil _

theorem accepted_perform_of_ne {q : UpdateQueue} {a : Act} (other : ∀ s, a ≠ .hand s) :
    (q.perform a).1.accepted = q.accepted := by
  obtain ⟨accepted, -⟩ | ⟨s, same, -⟩ := q.accepted_perform a
  · exact accepted
  · exact absurd same (other s)

end UpdateQueue

namespace Threads

/-- The request that the sending task has taken. -/
def between (w : Threads) : List Submission :=
  match w.sender with
  | .taken s => [s]
  | _ => []

/-- The accepted requests. Only one thread, the one that has failed the queue, has completions of
requests that were in flight to tell of it. -/
structure Ledger (w : Threads) : Prop where
  known : ∀ d ∈ w.queue.completed, ∃ c ∈ w.queue.calls, c.sequence = d.sequence
  live : w.queue.failure = none → w.queue.told = []
  own : ∀ t, t ≠ .sender → (w.work t).filterMap Act.unsent? = []
  sent : ∃ t, (∀ u, u ≠ t → (w.work u).filterMap Act.abandoned? = []) ∧
    w.queue.sent.map Submission.ticket = w.settled.map Delivery.ticket ++ (w.queue.toldSent ++
      ((w.work t).filterMap Act.abandoned? ++ w.queue.inFlight.map InFlight.ticket))
  accepted : ∃ passed,
    w.queue.accepted = w.queue.sent ++ (passed ++ (w.between ++ w.queue.waiting)) ∧
    passed.map Submission.ticket = w.queue.toldUnsent ++ (w.work .sender).filterMap Act.unsent?

theorem ledger_start (node : NodeId) (limits : Limits) (stream : Endpoint) :
    (start node limits stream).Ledger where
  known _ h := by cases h
  live _ := rfl
  own _ _ := rfl
  sent := ⟨.sender, fun _ _ => rfl, rfl⟩
  accepted := ⟨[], rfl, rfl⟩

section Ledger

variable {w w' : Threads}

/-- Acts of a kind that only one thread has to do, and that no act leads to. -/
theorem filterMap_work_act {t : Thread} {a : Act} {rest : List Act} (due : w.work t = a :: rest)
    {f : Act → Option Ticket} (new : (w.queue.perform a).2.filterMap f = []) {t' : Thread}
    (others : ∀ u, u ≠ t' → (w.work u).filterMap f = []) :
    (∀ u, u ≠ t' → ((w.act t a rest).work u).filterMap f = []) ∧
      (w.work t').filterMap f = (f a).toList ++ ((w.act t a rest).work t').filterMap f := by
  have before : (w.work t).filterMap f = (f a).toList ++ rest.filterMap f := by
    rw [due]
    cases found : f a with
    | none => exact List.filterMap_cons_none found
    | some x => exact List.filterMap_cons_some found
  have mine : ((w.act t a rest).work t).filterMap f = rest.filterMap f := by
    rw [act, work_assign, if_pos rfl, List.filterMap_append, new]
    rfl
  have same : ∀ u, u ≠ t → (w.act t a rest).work u = w.work u := fun u other => if_neg other
  refine ⟨fun u other => ?_, ?_⟩
  · by_cases self : u = t
    · rw [self, mine]
      rw [self] at other
      exact (List.append_eq_nil_iff.mp (before.symm.trans (others t other))).2
    · rw [same u self]
      exact others u other
  · by_cases self : t' = t
    · rw [self, mine, before]
    · have none := List.append_eq_nil_iff.mp (before.symm.trans (others t (Ne.symm self)))
      rw [same t' self, none.1]
      rfl

theorem filterMap_perform_unsent (q : UpdateQueue) (a : Act) :
    (q.perform a).2.filterMap Act.unsent? = [] :=
  List.filterMap_eq_nil_iff.mpr fun _ hb =>
    UpdateQueue.unsent_of_follows (UpdateQueue.follows_perform hb)

theorem filterMap_perform_abandoned {q : UpdateQueue} {a : Act}
    (still : ∀ e, a = .fail e → q.failure ≠ none) :
    (q.perform a).2.filterMap Act.abandoned? = [] :=
  List.filterMap_eq_nil_iff.mpr fun _ hb =>
    UpdateQueue.abandoned_of_follows (UpdateQueue.follows_perform hb) still

variable (h : w.Ledger)

include h

omit h in
theorem exists_call_of_accepted {q : UpdateQueue} {x : Ticket}
    (hx : x ∈ q.accepted.map Submission.ticket) : ∃ c ∈ q.calls, c.sequence = x.1 := by
  obtain ⟨s, hs, rfl⟩ := List.mem_map.mp hx
  obtain ⟨c, hc, same⟩ := List.mem_filterMap.mp hs
  exact ⟨c, hc, (UpdateQueue.sequence_of_submission? same).symm⟩

theorem Ledger.sent_begins : w.queue.sent <+: w.queue.accepted := by
  obtain ⟨passed, accepted, -⟩ := h.accepted
  exact ⟨_, accepted.symm⟩

theorem Ledger.sent_subset :
    w.queue.sent.map Submission.ticket ⊆ w.queue.accepted.map Submission.ticket :=
  (h.sent_begins.map _).subset

theorem Ledger.mem_sent {t : Thread} {a : Act} (member : a ∈ w.work t) {x : Ticket}
    (abandoned : a.abandoned? = some x) : x ∈ w.queue.sent.map Submission.ticket := by
  obtain ⟨t', others, sent⟩ := h.sent
  have among : x ∈ (w.work t).filterMap Act.abandoned? :=
    List.mem_filterMap.mpr ⟨a, member, abandoned⟩
  by_cases same : t = t'
  · rw [sent]
    refine List.mem_append_right _ (List.mem_append_right _ (List.mem_append_left _ ?_))
    exact same ▸ among
  · rw [others t same] at among
    cases among

theorem Ledger.mem_accepted (numbered : w.Numbered) {t : Thread} {a : Act} (member : a ∈ w.work t)
    {x : Ticket} (unsent : a.unsent? = some x) :
    x ∈ w.queue.accepted.map Submission.ticket ∧ x ∉ w.queue.sent.map Submission.ticket := by
  have among : x ∈ (w.work t).filterMap Act.unsent? := List.mem_filterMap.mpr ⟨a, member, unsent⟩
  have here : t = .sender := by
    by_contra other
    rw [h.own t other] at among
    cases among
  obtain ⟨passed, accepted, unsent⟩ := h.accepted
  have behind : x ∈ (passed ++ (w.between ++ w.queue.waiting)).map Submission.ticket := by
    rw [List.map_append, unsent]
    exact List.mem_append_left _ (List.mem_append_right _ (here ▸ among))
  have distinct : (w.queue.accepted.map Submission.ticket).Nodup := by
    refine List.Nodup.of_map Prod.fst ?_
    rw [List.map_map]
    exact UpdateQueue.nodup_accepted numbered.distinct
  rw [accepted, List.map_append] at distinct ⊢
  exact ⟨List.mem_append_right _ behind, fun sent =>
    (List.nodup_append.mp distinct).2.2 x sent x behind rfl⟩

/-- In a live queue nothing has been taken out of what is in flight but for a response. -/
theorem Ledger.sent_of_live (faithful : w.Faithful) (live : w.queue.failure = none) :
    (∀ u, (w.work u).filterMap Act.abandoned? = []) ∧
      w.queue.sent.map Submission.ticket =
        w.settled.map Delivery.ticket ++ w.queue.inFlight.map InFlight.ticket := by
  have none : ∀ u, (w.work u).filterMap Act.abandoned? = [] := by
    refine fun u => List.filterMap_eq_nil_iff.mpr fun a ha => ?_
    have fits := faithful.explained.justified.fits u a ha
    cases a with
    | abandon e f => cases live.symm.trans fits
    | _ => rfl
  obtain ⟨t, -, sent⟩ := h.sent
  refine ⟨none, ?_⟩
  rw [sent, none t, UpdateQueue.toldSent, h.live live]
  rfl

section Act

variable {t : Thread} {a : Act} {rest : List Act} (numbered : w.Numbered) (faithful : w.Faithful)
  (due : w.work t = a :: rest)

include numbered faithful due

/-- What an act adds to the accepted requests that have heard of the failure. -/
theorem Ledger.told_act : (w.act t a rest).queue.told =
    w.queue.told ++ (a.abandoned?.toList ++ a.unsent?.toList) := by
  have member : a ∈ w.work t := due ▸ List.mem_cons_self
  have fits := faithful.explained.justified.fits t a member
  have completed := w.queue.completed_perform a
  have concat : ∀ d, a.told? = some d → (w.queue.perform a).1.accepted = w.queue.accepted →
      (w.act t a rest).queue.told = w.queue.told ++
        [d.ticket].filter (· ∈ w.queue.accepted.map Submission.ticket) := by
    intro d told accepted
    rw [told] at completed
    exact UpdateQueue.told_concat completed accepted (UpdateQueue.told_of_fits fits told).1
  have listed : ∀ {x : Ticket}, x ∈ w.queue.accepted.map Submission.ticket →
      [x].filter (· ∈ w.queue.accepted.map Submission.ticket) = [x] := fun known =>
    List.filter_cons_of_pos (decide_eq_true known)
  cases a with
  | refuse s e =>
      have unlisted : s.ticket ∉ w.queue.accepted.map Submission.ticket := by
        intro known
        obtain ⟨c, hc, same⟩ := exists_call_of_accepted known
        exact (numbered.fresh t _ member _ rfl).2 c hc same
      rw [concat _ rfl (UpdateQueue.accepted_perform_of_ne fun _ same => by cases same)]
      exact congrArg (w.queue.told ++ ·)
        (List.filter_cons_of_neg (ne_true_of_eq_false (decide_eq_false unlisted)))
  | abandon e f =>
      rw [concat _ rfl rfl]
      exact congrArg (w.queue.told ++ ·) (listed (h.sent_subset (h.mem_sent member rfl)))
  | tell e n c =>
      rw [concat _ rfl rfl]
      exact congrArg (w.queue.told ++ ·) (listed (h.mem_accepted numbered member rfl).1)
  | hand s =>
      refine Eq.trans ?_ (List.append_nil _).symm
      have same : (w.queue.perform (.hand s)).1.completed = w.queue.completed :=
        completed.trans (List.append_nil _)
      obtain ⟨accepted, -⟩ | ⟨s', now, accepted, -⟩ := w.queue.accepted_perform (.hand s)
      · exact UpdateQueue.told_congr same accepted
      · cases now
        refine UpdateQueue.told_accept same accepted fun d hd number => ?_
        obtain ⟨c, hc, known⟩ := h.known d hd
        exact (numbered.fresh t _ member _ rfl).2 c hc (known.trans number)
  | ask _ _ | number _ _ | look _ | excuse _ | shutdown | release | record _ | fail _ | signal
  | clear | report _ =>
      refine Eq.trans ?_ (List.append_nil _).symm
      refine UpdateQueue.told_congr (completed.trans (List.append_nil _)) ?_
      exact UpdateQueue.accepted_perform_of_ne fun _ same => by cases same

theorem Ledger.toldSent_act :
    (w.act t a rest).queue.toldSent = w.queue.toldSent ++ a.abandoned?.toList ∧
      (w.act t a rest).queue.toldUnsent = w.queue.toldUnsent ++ a.unsent?.toList := by
  have member : a ∈ w.work t := due ▸ List.mem_cons_self
  have sent : (w.act t a rest).queue.sent = w.queue.sent := (w.queue.tasks_perform a).1
  have mine : ∀ x ∈ a.abandoned?.toList, x ∈ w.queue.sent.map Submission.ticket := fun x hx =>
    h.mem_sent member (Option.mem_toList.mp hx)
  have others : ∀ x ∈ a.unsent?.toList, x ∉ w.queue.sent.map Submission.ticket := fun x hx =>
    (h.mem_accepted numbered member (Option.mem_toList.mp hx)).2
  rw [UpdateQueue.toldSent, UpdateQueue.toldUnsent, h.told_act numbered faithful due, sent]
  constructor
  · rw [List.filter_append, List.filter_append,
      List.filter_eq_self.mpr fun x hx => decide_eq_true (mine x hx),
      List.filter_eq_nil_iff.mpr fun x hx known => others x hx (of_decide_eq_true known),
      List.append_nil]
    rfl
  · rw [List.filter_append, List.filter_append,
      List.filter_eq_nil_iff.mpr fun x hx new => (of_decide_eq_true new : ¬_) (mine x hx),
      List.filter_eq_self.mpr fun x hx => decide_eq_true (others x hx)]
    rfl

theorem Ledger.sent_act : ∃ t', (∀ u, u ≠ t' →
      ((w.act t a rest).work u).filterMap Act.abandoned? = []) ∧
    (w.act t a rest).queue.sent.map Submission.ticket =
      (w.act t a rest).settled.map Delivery.ticket ++ ((w.act t a rest).queue.toldSent ++
        (((w.act t a rest).work t').filterMap Act.abandoned? ++
          (w.act t a rest).queue.inFlight.map InFlight.ticket)) := by
  have sent : (w.act t a rest).queue.sent = w.queue.sent := (w.queue.tasks_perform a).1
  have told := (h.toldSent_act numbered faithful due).1
  rw [sent, settled_act faithful.explained due, told]
  obtain ⟨failure, flying⟩ | ⟨e, rfl, live, -, flying⟩ := w.queue.failure_perform a
  · have still : ∀ e, a = .fail e → w.queue.failure ≠ none := by
      rintro e rfl live
      exact w.queue.failed_perform_fail e (failure.trans live)
    obtain ⟨t', others, all⟩ := h.sent
    obtain ⟨others, mine⟩ :=
      filterMap_work_act due (filterMap_perform_abandoned still) others
    refine ⟨t', others, ?_⟩
    rw [all, mine, show (w.act t a rest).queue.inFlight = w.queue.inFlight from flying]
    simp only [List.append_assoc]
  · obtain ⟨none, all⟩ := h.sent_of_live faithful live
    have drained : (w.queue.perform (.fail e)).2.filterMap Act.abandoned? =
        w.queue.inFlight.map InFlight.ticket := by
      rw [UpdateQueue.perform, live]
      dsimp only
      rw [List.filterMap_append, List.filterMap_map]
      exact congrFun List.filterMap_eq_map w.queue.inFlight
    have nothing : w.queue.toldSent = [] := by
      rw [UpdateQueue.toldSent, h.live live]
      rfl
    have later : rest.filterMap Act.abandoned? = [] := by
      have before := none t
      rw [due] at before
      exact before
    refine ⟨t, fun u other => ?_, ?_⟩
    · rw [Threads.act, work_assign, if_neg other]
      exact none u
    · rw [all, nothing, show (w.act t (.fail e) rest).queue.inFlight = [] from flying,
        Threads.act, work_assign, if_pos rfl, List.filterMap_append, drained, later]
      simp only [List.append_nil, List.map_nil]
      rfl

theorem Ledger.accepted_act : ∃ passed, (w.act t a rest).queue.accepted =
      (w.act t a rest).queue.sent ++ (passed ++ ((w.act t a rest).between ++
        (w.act t a rest).queue.waiting)) ∧
    passed.map Submission.ticket = (w.act t a rest).queue.toldUnsent ++
      ((w.act t a rest).work .sender).filterMap Act.unsent? := by
  have sent : (w.act t a rest).queue.sent = w.queue.sent := (w.queue.tasks_perform a).1
  have told := (h.toldSent_act numbered faithful due).2
  obtain ⟨-, mine⟩ := filterMap_work_act due (filterMap_perform_unsent w.queue a) h.own
  obtain ⟨passed, all, unsent⟩ := h.accepted
  refine ⟨passed, ?_, ?_⟩
  · rw [sent]
    obtain ⟨accepted, waiting⟩ | ⟨s, -, accepted, waiting⟩ := w.queue.accepted_perform a
    · rw [show (w.act t a rest).queue.accepted = _ from accepted,
        show (w.act t a rest).queue.waiting = _ from waiting]
      exact all
    · rw [show (w.act t a rest).queue.accepted = _ from accepted,
        show (w.act t a rest).queue.waiting = _ from waiting, all]
      simp only [List.append_assoc]
      rfl
  · rw [unsent, told, mine, List.append_assoc]

theorem Ledger.act : (w.act t a rest).Ledger := by
  have member : a ∈ w.work t := due ▸ List.mem_cons_self
  have fits := faithful.explained.justified.fits t a member
  have g := w.queue.grows_perform a
  have listed : ∀ {x : Ticket}, x ∈ w.queue.accepted.map Submission.ticket →
      ∃ c ∈ (w.queue.perform a).1.calls, c.sequence = x.1 := by
    intro x known
    obtain ⟨c, hc, same⟩ := exists_call_of_accepted known
    exact ⟨c, g.calls.subset hc, same⟩
  refine ⟨fun d hd => ?_, fun live => ?_, ?_, h.sent_act numbered faithful due,
    h.accepted_act numbered faithful due⟩
  · have completed : d ∈ w.queue.completed ++ a.told?.toList := w.queue.completed_perform a ▸ hd
    obtain old | new := List.mem_append.mp completed
    · obtain ⟨c, hc, same⟩ := h.known d old
      exact ⟨c, g.calls.subset hc, same⟩
    · have told := Option.mem_toList.mp new
      cases a with
      | refuse s e =>
          cases told
          exact ⟨_, List.mem_append_right _ List.mem_cons_self, rfl⟩
      | abandon e f =>
          cases told
          exact listed (h.sent_subset (h.mem_sent member rfl))
      | tell e n c =>
          cases told
          exact listed (h.mem_accepted numbered member rfl).1
      | _ => cases told
  · have before := g.live live
    rw [h.told_act numbered faithful due, h.live before]
    cases a with
    | abandon e f | tell e n c => cases before.symm.trans fits
    | _ => rfl
  · exact (filterMap_work_act due (filterMap_perform_unsent w.queue a) h.own).1

end Act

/-- A step of a task that leaves every accepted request where it is, or takes it further only on
the way between the channel and the word of the failure. -/
theorem Ledger.task {t : Thread} (aside : Aside t w w')
    (known : ∀ d ∈ w'.queue.completed, ∃ c ∈ w'.queue.calls, c.sequence = d.sequence)
    (calls : w'.queue.calls = w.queue.calls) (failure : w'.queue.failure = w.queue.failure)
    (told : w'.queue.told = w.queue.told) (sent : w'.queue.sent = w.queue.sent)
    (settled : w'.settled = w.settled) (inFlight : w'.queue.inFlight = w.queue.inFlight)
    (own : t ≠ .sender → (w'.work t).filterMap Act.unsent? = [])
    (abandoned : (w'.work t).filterMap Act.abandoned? = (w.work t).filterMap Act.abandoned?)
    (line : ∃ more, w.between ++ w.queue.waiting = more ++ (w'.between ++ w'.queue.waiting) ∧
      (w'.work .sender).filterMap Act.unsent? =
        (w.work .sender).filterMap Act.unsent? ++ more.map Submission.ticket) : w'.Ledger := by
  have same : ∀ u, (w'.work u).filterMap Act.abandoned? = (w.work u).filterMap Act.abandoned? := by
    intro u
    by_cases self : u = t
    · rw [self, abandoned]
    · rw [aside.work u self]
  refine ⟨known, fun live => ?_, fun u other => ?_, ?_, ?_⟩
  · rw [told]
    exact h.live (failure ▸ live)
  · by_cases self : u = t
    · rw [self]
      exact own (self ▸ other)
    · rw [aside.work u self]
      exact h.own u other
  · obtain ⟨t', others, all⟩ := h.sent
    refine ⟨t', fun u other => (same u).trans (others u other), ?_⟩
    rw [UpdateQueue.toldSent, same t', told, sent, settled, inFlight]
    exact all
  · obtain ⟨passed, all, unsent⟩ := h.accepted
    obtain ⟨more, rest, further⟩ := line
    have accepted : w'.queue.accepted = w.queue.accepted := congrArg (List.filterMap _) calls
    refine ⟨passed ++ more, ?_, ?_⟩
    · rw [accepted, sent, all, rest]
      simp only [List.append_assoc]
    · rw [UpdateQueue.toldUnsent, told, sent, further, List.map_append, unsent, List.append_assoc]
      rfl

/-- A request that has been taken is sent by a live queue. -/
theorem Ledger.note (faithful : w.Faithful) {s : Submission} (free : w.work .sender = [])
    (taken : w.sender = .taken s) (live : w.queue.failure = none) :
    Ledger { w with
      queue :=
        { w.queue with
          inFlight := w.queue.inFlight ++ [s.toInFlight]
          sent := w.queue.sent ++ [s]
          sending := .beginning s }
      sender := .ready } := by
  obtain ⟨none, sent⟩ := h.sent_of_live faithful live
  have told := h.live live
  obtain ⟨passed, accepted, unsent⟩ := h.accepted
  rw [UpdateQueue.toldUnsent, told, free] at unsent
  rw [List.map_eq_nil_iff.mp unsent, between, taken] at accepted
  refine ⟨h.known, fun _ => told, h.own, ⟨.sender, fun u _ => none u, ?_⟩, ?_⟩
  · change (w.queue.sent ++ [s]).map _ = w.settled.map _ ++ (w.queue.told.filter _ ++
      ((w.work .sender).filterMap _ ++ (w.queue.inFlight ++ [s.toInFlight]).map _))
    rw [told, free, List.map_append, List.map_append, sent, List.append_assoc]
    rfl
  · refine ⟨[], accepted.trans (List.append_assoc _ [s] _).symm, ?_⟩
    change [] = w.queue.told.filter _ ++ (w.work .sender).filterMap _
    rw [told, free]
    rfl

theorem Ledger.send (faithful : w.Faithful) (free : w.work .sender = []) (s : w.SenderStep w') :
    w'.Ledger := by
  have calls : w'.queue.calls = w.queue.calls := by rw [s.kept]
  have completed : w'.queue.completed = w.queue.completed := by rw [s.kept]
  have told := UpdateQueue.told_congr completed (congrArg (List.filterMap _) calls)
  have known : ∀ d ∈ w'.queue.completed, ∃ c ∈ w'.queue.calls, c.sequence = d.sequence := by
    rw [calls, completed]
    exact h.known
  have abandoned : (w'.work .sender).filterMap Act.abandoned? =
      (w.work .sender).filterMap Act.abandoned? := by
    rw [free]
    refine List.filterMap_eq_nil_iff.mpr fun a ha => ?_
    obtain ⟨e, s', rfl⟩ | ⟨e, rfl⟩ := s.mem_work free ha <;> rfl
  have step := fun sent inFlight => h.task s.aside known calls (by rw [s.kept]) told sent s.settled
    inFlight (absurd rfl) abandoned
  have still : w'.queue.sent = w.queue.sent → w'.queue.inFlight = w.queue.inFlight →
      (w'.work .sender).filterMap Act.unsent? = [] → w'.between = [] → w.between = [] →
      w'.queue.waiting = w.queue.waiting → w'.Ledger := by
    intro sent inFlight none nothing before waiting
    refine step sent inFlight ⟨[], ?_, ?_⟩
    · rw [nothing, before, waiting]
      rfl
    · rw [none, free]
      rfl
  have unmoved : (w.work .sender).filterMap Act.unsent? = [] := by
    rw [free]
    rfl
  cases s with
  | wait => exact h
  | note s taken live => exact h.note faithful free taken live
  | turn sender before idle =>
      refine still rfl rfl unmoved ?_ ?_ rfl
      · obtain rfl | ⟨rfl, -⟩ := idle <;> rfl
      · rw [between]
        split
        · next s taken => exact absurd taken (before s)
        · rfl
  | stop ready _ => exact still rfl rfl unmoved rfl (by rw [between, ready]) rfl
  | desert polling _ _ _ => exact still rfl rfl unmoved rfl (by rw [between, polling]) rfl
  | drain deserted => exact still rfl rfl unmoved rfl (by rw [between, deserted]) rfl
  | close leaving => exact still rfl rfl unmoved rfl (by rw [between, leaving]) rfl
  | explain closed => exact still rfl rfl unmoved rfl (by rw [between, closed]) rfl
  | write _ _ _ ready _ _ _ =>
      have none : w.between = [] := by rw [between, ready]
      exact still rfl rfl unmoved none none rfl
  | fault _ _ _ _ ready _ _ _ => exact still rfl rfl rfl rfl (by rw [between, ready]) rfl
  | conclude fault _ _ _ ready _ _ =>
      have none : w.between = [] := by rw [between, ready]
      cases fault <;> exact still rfl rfl unmoved none none rfl
  | take s waiting polling first =>
      refine step rfl rfl ⟨[], ?_, (List.append_nil _).symm⟩
      rw [between, between, polling, first]
      rfl
  | meet s e taken failed =>
      refine step rfl rfl ⟨[s], ?_, ?_⟩
      · rw [between, between, taken]
        rfl
      · rw [free]
        rfl
  | tell e s waiting refusing first =>
      have none : w.between = [] := by rw [between, refusing]
      refine step rfl rfl ⟨[s], ?_, ?_⟩
      · change w.between ++ _ = [s] ++ (w.between ++ waiting)
        rw [none, first]
        rfl
      · rw [free]
        rfl

/-- The oldest request in flight is the one that a response is for. -/
theorem Ledger.pop (faithful : w.Faithful) {f : InFlight} {inFlight : List InFlight} {r : Response}
    (matching : w.receiver = .matching r) (oldest : w.queue.inFlight = f :: inFlight) :
    Ledger { w with
      queue := { w.queue with inFlight }.report [w.queue.answeredLog f]
      receiver := .answering f r.toOutcome } := by
  have live : w.queue.failure = none := by
    by_contra failed
    cases oldest.symm.trans (faithful.explained.flying failed)
  obtain ⟨none, sent⟩ := h.sent_of_live faithful live
  have told := h.live live
  refine ⟨h.known, fun _ => told, h.own, ⟨.sender, fun u _ => none u, ?_⟩, h.accepted⟩
  change w.queue.sent.map _ = (w.queue.answers ++ [_]).map _ ++ (w.queue.told.filter _ ++
    ((w.work .sender).filterMap _ ++ inFlight.map _))
  rw [sent, settled, inHand, matching, told, none, oldest, List.append_nil, List.map_append,
    List.append_assoc]
  rfl

theorem Ledger.receive (faithful : w.Faithful) (free : w.work .receiver = [])
    (s : w.ReceiverStep w') : w'.Ledger := by
  obtain ⟨sender, queue⟩ := s.kept
  have others := s.aside.work
  have calls : w'.queue.calls = w.queue.calls := by rw [queue]
  have none : ∀ a ∈ w'.work .receiver, a.unsent? = none ∧ a.abandoned? = none := by
    intro a ha
    obtain ⟨e, rfl, -⟩ | ⟨f, o, -, later⟩ := s.mem_work free ha
    · exact ⟨rfl, rfl⟩
    · obtain call | ⟨-, rfl⟩ := Completion.mem_acts later
      · obtain ⟨_, _, rfl⟩ | rfl | rfl | ⟨_, rfl⟩ := Completion.mem_calls call <;> exact ⟨rfl, rfl⟩
      · exact ⟨rfl, rfl⟩
  have line : ∃ more, w.between ++ w.queue.waiting = more ++ (w'.between ++ w'.queue.waiting) ∧
      (w'.work .sender).filterMap Act.unsent? =
        (w.work .sender).filterMap Act.unsent? ++ more.map Submission.ticket := by
    refine ⟨[], ?_, ?_⟩
    · rw [between, between, sender, queue]
      rfl
    · rw [others .sender nofun]
      exact (List.append_nil _).symm
  have abandoned : (w'.work .receiver).filterMap Act.abandoned? =
      (w.work .receiver).filterMap Act.abandoned? := by
    rw [free]
    exact List.filterMap_eq_nil_iff.mpr fun a ha => (none a ha).2
  have own : (w'.work .receiver).filterMap Act.unsent? = [] :=
    List.filterMap_eq_nil_iff.mpr fun a ha => (none a ha).1
  have step := fun known told inFlight => h.task s.aside known calls (by rw [queue]) told
    (by rw [queue]) (s.settled_eq faithful.explained inFlight) inFlight (fun _ => own) abandoned
    line
  cases s with
  | wait => exact h
  | pop f inFlight r matching oldest => exact h.pop faithful matching oldest
  | answer f outcome answering =>
      have answer := faithful.explained.answering f outcome answering
      refine step (fun d hd => ?_) (UpdateQueue.told_answer rfl rfl answer) rfl
      obtain old | new := List.mem_append.mp hd
      · exact h.known d old
      · have held : f.ticket ∈ w.settled.map Delivery.ticket := by
          rw [settled, inHand, answering]
          exact List.mem_map_of_mem (List.mem_append_right _ List.mem_cons_self)
        obtain ⟨t, -, sent⟩ := h.sent
        have listed : f.ticket ∈ w.queue.sent.map Submission.ticket := by
          rw [sent]
          exact List.mem_append_left _ held
        rw [List.mem_singleton.mp new]
        exact exists_call_of_accepted (h.sent_subset listed)
  | read received bytes stream reading polling running sound =>
      cases reading <;> exact step h.known rfl rfl
  | turn _ _ _ _ | surplus _ _ _ | cut _ _ _ | bare _ _ | halt _ => exact step h.known rfl rfl

theorem Ledger.step (numbered : w.Numbered) (faithful : w.Faithful) (s : w.Step w') :
    w'.Ledger := by
  cases s with
  | wait => exact h
  | peer stream => exact ⟨h.known, h.live, h.own, h.sent, h.accepted⟩
  | call c =>
      have free := faithful.explained.justified.absent w.callers (Nat.le_refl _)
      let called : Threads := { w with callers := w.callers + 1 }
      have same : ∀ f : Act → Option Ticket, f c.act = none → ∀ u,
          ((called.assign (.caller w.callers) [c.act]).work u).filterMap f =
            (w.work u).filterMap f := by
        intro f none u
        rw [work_assign]
        split
        · next here =>
          rw [here, free]
          exact List.filterMap_cons_none none
        · rfl
      have unsent := same Act.unsent? (by cases c <;> rfl)
      have abandoned := same Act.abandoned? (by cases c <;> rfl)
      refine ⟨h.known, h.live, fun u other => (unsent u).trans (h.own u other), ?_, ?_⟩
      · obtain ⟨t', others, all⟩ := h.sent
        refine ⟨t', fun u other => (abandoned u).trans (others u other), ?_⟩
        rw [abandoned t']
        exact all
      · rw [unsent .sender]
        exact h.accepted
  | act t a rest due => exact h.act numbered faithful due
  | send free s => exact h.send faithful free s
  | receive free s => exact h.receive faithful free s

end Ledger

/-- The requests of a queue after a run of its threads. -/
theorem ledger_after (node : NodeId) (limits : Limits) (stream : Endpoint) (run : List Event) :
    ((start node limits stream).after run).Faithful ∧
      ((start node limits stream).after run).Ledger := by
  have all : ((start node limits stream).after run).Faithful ∧
      ((start node limits stream).after run).Numbered ∧
      ((start node limits stream).after run).Ledger := by
    refine after_induction (P := fun w => w.Faithful ∧ w.Numbered ∧ w.Ledger)
      ⟨faithful_after node limits stream [], numbered_start node limits stream,
        ledger_start node limits stream⟩ (fun ⟨h, numbered, ledger⟩ e => ?_) run
    have s := step_step h.explained.tidy e
    exact ⟨h.step e, numbered.step s, ledger.step numbered h s⟩
  exact ⟨all.1, all.2.2⟩

end Threads

end CacheCoherence
