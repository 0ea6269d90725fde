import CacheCoherence.Proofs.QueueTranscript
import CacheCoherence.Proofs.ThreadReasons

/-!
What the two tasks of a queue do with its stream while the other threads go on.
The octets written are the frames of the requests sent, one behind the other. A
response belongs to a request from the moment at which the receiving task finds
it, which is before the completion hears of it.
-/

namespace CacheCoherence

/-- The sending task is between two frames: it looks for a request, or has one that is not noted
yet. -/
def Sender.IsBetween : Sender → Prop
  | .polling | .taken _ => True
  | .ready | .deserted | .leaving | .closed | .refusing _ => False

namespace Threads

/-- The answer that the receiving task has for a request, and has not told its completion yet. -/
def inHand (w : Threads) : List Delivery :=
  match w.receiver with
  | .answering f outcome => [⟨f.sequence, f.completion, outcome⟩]
  | _ => []

/-- What has been answered, in order, whether the completions have heard of it or not. -/
def settled (w : Threads) : List Delivery :=
  w.queue.answers ++ w.inHand

/-- A response that no request has been found for yet. -/
def unmatched (w : Threads) : List Response :=
  match w.receiver with
  | .matching r => [r]
  | _ => []

/-- Whether the receiving task still makes responses of the octets that it has. -/
def IsReading (w : Threads) : Prop :=
  match w.receiver with
  | .ready | .polling | .matching _ | .answering _ _ => True
  | .ended | .bare | .halting => False

/-- A step of the receiving task finds the request for a response, or answers none. -/
theorem ReceiverStep.settled_eq_or {w w' : Threads} (explained : w.Explained)
    (s : w.ReceiverStep w') : w'.settled = w.settled ∨
      ∃ (f : InFlight) (inFlight : List InFlight) (r : Response), w.receiver = .matching r ∧
        w.queue.inFlight = f :: inFlight ∧ w'.queue.inFlight = inFlight ∧
        w'.settled = w.settled ++ [⟨f.sequence, f.completion, r.toOutcome⟩] := by
  have still : ∀ {w₁ : Threads}, w₁.queue.completed = w.queue.completed → w₁.inHand = [] →
      w.inHand = [] → w₁.settled = w.settled := by
    intro w₁ completed none empty
    rw [settled, settled, UpdateQueue.answers, completed, none, empty]
    rfl
  cases s with
  | wait => exact .inl rfl
  | turn receiver running before idle =>
      refine .inl (still rfl ?_ ?_)
      · obtain rfl | rfl | rfl := idle <;> rfl
      · rw [inHand]
        obtain same | same := before <;> rw [same]
  | read received bytes stream reading polling running sound =>
      refine .inl ?_
      cases reading <;> exact still rfl rfl (by rw [inHand, polling])
  | surplus r matching empty => exact .inl (still rfl rfl (by rw [inHand, matching]))
  | cut e ended outer =>
      refine .inl (still rfl rfl ?_)
      rw [inHand]
      obtain same | same := ended <;> rw [same]
  | bare ended empty => exact .inl (still rfl rfl (by rw [inHand, ended]))
  | halt halting => exact .inl (still rfl rfl (by rw [inHand, halting]))
  | pop f inFlight r matching oldest =>
      refine .inr ⟨f, inFlight, r, matching, oldest, rfl, ?_⟩
      rw [settled, settled, inHand, inHand, matching, List.append_nil]
      rfl
  | answer f outcome answering =>
      refine .inl ?_
      have answers := UpdateQueue.answers_invoke w.queue f.completion f.sequence outcome
      rw [explained.answering f outcome answering] at answers
      rw [settled, settled, inHand, inHand, answering]
      exact (List.append_nil _).trans answers

/-- As long as nothing is taken out of what is in flight, nothing is answered. -/
theorem ReceiverStep.settled_eq {w w' : Threads} (explained : w.Explained) (s : w.ReceiverStep w')
    (same : w'.queue.inFlight = w.queue.inFlight) : w'.settled = w.settled := by
  refine (s.settled_eq_or explained).resolve_right ?_
  rintro ⟨f, inFlight, r, -, oldest, rest, -⟩
  exact List.cons_ne_self f inFlight (oldest.symm.trans (same.symm.trans rest))

/-- What a step of another thread answers. -/
theorem settled_act {w : Threads} (explained : w.Explained) {t : Thread} {a : Act} {rest : List Act}
    (due : w.work t = a :: rest) : (w.act t a rest).settled = w.settled := by
  have fits := explained.justified.fits t a (due ▸ List.mem_cons_self)
  exact congrArg (· ++ w.inHand) (UpdateQueue.answers_perform fits)

theorem SenderStep.settled {w w' : Threads} (s : w.SenderStep w') : w'.settled = w.settled := by
  obtain ⟨receiver, -, -, completed⟩ := s.apart
  rw [Threads.settled, Threads.settled, inHand, inHand, UpdateQueue.answers, completed, receiver]
  rfl

/-- The octets written, and those that are still on their way or given up. -/
structure Posted (w : Threads) : Prop where
  idle : w.sender.IsBetween → w.queue.sending = .idle
  /-- What will never be written is known only once the sending task takes no more requests. -/
  octets : ∃ unsent, w.queue.sent.flatMap (fun s => s.request.frame) =
    w.written ++ (w.queue.sending.pending ++ unsent) ∧ (w.queue.isTaking = true → unsent = [])
  /-- All frames but the last one have been written. -/
  before : w.queue.sent.dropLast.flatMap (fun s => s.request.frame) <+: w.written

theorem posted_start (node : NodeId) (limits : Limits) (stream : Endpoint) :
    (start node limits stream).Posted where
  idle _ := rfl
  octets := ⟨[], rfl, fun _ => rfl⟩
  before := List.prefix_rfl

section Posted

variable {w w' : Threads} (h : w.Posted)

include h

/-- Nothing but the sending task makes a difference. -/
theorem Posted.congr (sender : w'.sender = w.sender) (sent : w'.queue.sent = w.queue.sent)
    (sending : w'.queue.sending = w.queue.sending) (written : w'.written = w.written) :
    w'.Posted := by
  refine ⟨?_, ?_, ?_⟩
  · rw [sender, sending]
    exact h.idle
  · rw [UpdateQueue.isTaking, sent, sending, written]
    exact h.octets
  · rw [sent, written]
    exact h.before

theorem Posted.prefix_frames : w.written <+: w.queue.sent.flatMap fun s => s.request.frame := by
  obtain ⟨unsent, octets, -⟩ := h.octets
  exact ⟨_, octets.symm⟩

/-- Octets are written, and others may be given up. -/
theorem Posted.write (given lost : List UInt8)
    (octets : w.queue.sending.pending = given ++ (w'.queue.sending.pending ++ lost))
    (taking : w'.queue.isTaking = true → w.queue.isTaking = true ∧ lost = [])
    (sent : w'.queue.sent = w.queue.sent) (written : w'.written = w.written ++ given)
    (busy : ¬w'.sender.IsBetween) : w'.Posted := by
  obtain ⟨unsent, whole, none⟩ := h.octets
  refine ⟨fun between => absurd between busy, ⟨lost ++ unsent, ?_, fun still => ?_⟩, ?_⟩
  · rw [sent, whole, written, octets]
    simp only [List.append_assoc]
  · obtain ⟨before, nothing⟩ := taking still
    rw [nothing, none before, List.append_nil]
  · rw [sent, written]
    exact h.before.trans (List.prefix_append _ _)

/-- The frame of the next request is begun once the one before it is written. -/
theorem Posted.note {s : Submission} (taken : w.sender = .taken s)
    (sent : w'.queue.sent = w.queue.sent ++ [s]) (sending : w'.queue.sending = .beginning s)
    (written : w'.written = w.written) (ready : w'.sender = .ready) : w'.Posted := by
  have between : w.sender.IsBetween := by
    rw [taken]
    trivial
  have idle := h.idle between
  have taking : w.queue.isTaking = true := by rw [UpdateQueue.isTaking, idle]
  obtain ⟨unsent, whole, none⟩ := h.octets
  have frames : w.queue.sent.flatMap (fun s => s.request.frame) = w.written := by
    rw [whole, idle, none taking]
    exact List.append_nil _
  refine ⟨fun now => ?_, ⟨[], ?_, fun _ => rfl⟩, ?_⟩
  · rw [ready] at now
    exact now.elim
  · rw [sent, written, sending, Sending.pending_beginning, List.flatMap_append, frames,
      List.flatMap_singleton, List.append_nil]
  · rw [sent, written, List.dropLast_concat]
    exact ⟨[], (List.append_nil _).trans frames⟩

theorem Posted.send (tidy : w.queue.sending.Tidy) (s : w.SenderStep w') : w'.Posted := by
  have kept : ∀ {w₁ : Threads}, w₁.queue.sent = w.queue.sent →
      w₁.queue.sending = w.queue.sending → w₁.written = w.written →
      (w₁.sender.IsBetween → w.queue.sending = .idle) → w₁.Posted := by
    intro w₁ sent sending written idle
    refine ⟨fun between => sending.trans (idle between), ?_, ?_⟩
    · rw [UpdateQueue.isTaking, sent, sending, written]
      exact h.octets
    · rw [sent, written]
      exact h.before
  have busy : w.sender = .ready → ¬w.sender.IsBetween := by
    intro ready
    rw [ready]
    exact id
  cases s with
  | wait => exact h
  | turn sender before idle =>
      refine kept rfl rfl rfl fun between => ?_
      obtain rfl | ⟨rfl, idle⟩ := idle
      · exact between.elim
      · exact idle
  | take s waiting polling first =>
      refine kept rfl rfl rfl fun _ => h.idle ?_
      rw [polling]
      trivial
  | tell e s waiting refusing first => exact h.congr rfl rfl rfl rfl
  | stop _ _ | desert _ _ _ _ | meet _ _ _ _ | drain _ | explain _ =>
      exact kept rfl rfl rfl False.elim
  | note s taken live => exact h.note taken rfl rfl rfl rfl
  | close leaving =>
      obtain ⟨lost, octets⟩ : ∃ lost, w.queue.sending.pending =
          w.queue.sending.buffer ++ lost := by
        cases sending : w.queue.sending with
        | writing rest buffered =>
            rw [sending] at tidy
            obtain rfl | rfl := tidy
            · exact ⟨[], (List.append_nil _).symm⟩
            · exact ⟨rest, List.append_nil _⟩
        | idle | stopped => exact ⟨[], rfl⟩
        | closing buffered => exact ⟨[], (List.append_nil _).symm⟩
      exact h.write [] lost octets (fun still => absurd still Bool.false_ne_true) rfl
        (List.append_nil _).symm id
  | write sending given stream ready taking tidy octets =>
      refine h.write given [] ?_ (fun still => ⟨taking ▸ still, rfl⟩) rfl rfl (busy ready)
      rw [List.append_nil]
      exact octets
  | fault f sending given stream ready taking tidy octets =>
      refine h.write given [] ?_ (fun still => ⟨taking ▸ still, rfl⟩) rfl rfl id
      rw [List.append_nil]
      exact octets
  | conclude fault given lost stream ready left octets =>
      cases fault with
      | none | some f =>
          exact h.write given lost octets (fun still => absurd still Bool.false_ne_true) rfl rfl
            (busy ready)

theorem Posted.step (tidy : w.queue.sending.Tidy) (s : w.Step w') : w'.Posted := by
  cases s with
  | wait => exact h
  | call c | peer stream => exact h.congr rfl rfl rfl rfl
  | act t a rest due =>
      obtain ⟨sent, sending, -⟩ := w.queue.tasks_perform a
      exact h.congr rfl sent sending rfl
  | send free s => exact h.send tidy s
  | receive free s =>
      obtain ⟨sender, queue⟩ := s.kept
      have written : w'.written = w.written := by
        cases s with
        | read _ _ _ reading _ _ _ => cases reading <;> exact List.append_nil _
        | _ => rfl
      exact h.congr sender (by rw [queue]) (by rw [queue]) written

end Posted

/-- The responses taken, and what has become of them. -/
structure Matched (w : Threads) : Prop where
  running : w.receiver ≠ .ready → w.queue.receiving ≠ .stopped
  free : w.receiver ≠ .ready → w.receiver ≠ .halting → w.work .receiver = []
  outcomes : w.settled.map Delivery.outcome <+:
    (Response.readAll w.taken).map Response.toOutcome
  /-- As long as the task reads, all responses are answers but those among the octets that it still
  has, and the one that it looks for a request for. -/
  consumed : ∀ received, w.queue.receiving = .running received → w.IsReading →
    ∃ done, done.map Response.toOutcome = w.settled.map Delivery.outcome ∧
      ∀ more, Response.readAll (w.taken ++ more) =
        done ++ (w.unmatched ++ Response.readAll (received ++ more))

theorem matched_start (node : NodeId) (limits : Limits) (stream : Endpoint) :
    (start node limits stream).Matched where
  running h := absurd rfl h
  free _ _ := rfl
  outcomes := List.nil_prefix
  consumed received running _ := by
    cases running
    exact ⟨[], rfl, fun _ => rfl⟩

section Matched

variable {w w' : Threads} (h : w.Matched)

include h

/-- Only what has been taken and answered makes a difference, and how far the task is. -/
theorem Matched.congr (running : w'.receiver ≠ .ready → w'.queue.receiving ≠ .stopped)
    (free : w'.receiver ≠ .ready → w'.receiver ≠ .halting → w'.work .receiver = [])
    (settled : w'.settled = w.settled) (taken : w'.taken = w.taken)
    (reading : ∀ received, w'.queue.receiving = .running received → w'.IsReading →
      w.queue.receiving = .running received ∧ w.IsReading ∧ w'.unmatched = w.unmatched) :
    w'.Matched := by
  refine ⟨running, free, ?_, fun received now still => ?_⟩
  · rw [settled, taken]
    exact h.outcomes
  · obtain ⟨before, read, unmatched⟩ := reading received now still
    rw [settled, taken, unmatched]
    exact h.consumed received before read

/-- The acts of the threads tell completions of failures, and answer none. -/
theorem Matched.act (explained : w.Explained) {t : Thread} {a : Act} {rest : List Act}
    (due : w.work t = a :: rest) : (w.act t a rest).Matched := by
  have receiving : (w.queue.perform a).1.receiving = w.queue.receiving :=
    (w.queue.tasks_perform a).2.2
  refine h.congr (fun busy => receiving ▸ h.running busy) (fun busy going => ?_)
    (settled_act explained due) rfl fun received now reading => ⟨receiving ▸ now, reading, rfl⟩
  have free := h.free busy going
  by_cases same : Thread.receiver = t
  · rw [same, due] at free
    cases free
  · rw [Threads.act, work_assign, if_neg same]
    exact free

/-- Octets make responses together with those that were there before. -/
theorem Matched.digest {received bytes : List UInt8} {stream : Endpoint} {reading : Reading}
    (free : w.work .receiver = []) (polling : w.receiver = .polling)
    (running : w.queue.receiving = .running received)
    (sound : reading.Sound (received ++ bytes)) :
    ((w.pass stream [] bytes).digest reading).Matched := by
  have here : w.inHand = [] ∧ w.unmatched = [] ∧ w.IsReading := by
    rw [inHand, unmatched, IsReading, polling]
    exact ⟨rfl, rfl, trivial⟩
  obtain ⟨done, outcomes, all⟩ := h.consumed received running here.2.2
  rw [settled, here.1, List.append_nil] at outcomes
  rw [here.2.1] at all
  have whole : ∀ more, Response.readAll (w.taken ++ bytes ++ more) =
      done ++ Response.readAll (received ++ bytes ++ more) := by
    intro more
    rw [List.append_assoc, all, List.append_assoc]
    rfl
  have prefixed : (w.queue.answers ++ []).map Delivery.outcome <+:
      (Response.readAll (w.taken ++ bytes)).map Response.toOutcome := by
    have now := whole []
    rw [List.append_nil] at now
    rw [List.append_nil, now, List.map_append, outcomes]
    exact List.prefix_append _ _
  have told : done.map Response.toOutcome = (w.queue.answers ++ []).map Delivery.outcome := by
    rw [outcomes, List.append_nil]
  cases reading with
  | more received' =>
      refine ⟨fun busy => absurd rfl busy, fun _ _ => free, prefixed, fun received₁ now _ => ?_⟩
      cases now
      refine ⟨done, told, fun more => ?_⟩
      rw [sound]
      exact whole more
  | response r rest =>
      have next : ∀ more, Response.readAll (received ++ bytes ++ more) =
          r :: Response.readAll (rest ++ more) := fun more =>
        congrArg Prod.fst (Response.divides.readAll_frame sound more)
      refine ⟨fun _ => nofun, fun _ _ => free, prefixed, fun received₁ now _ => ?_⟩
      cases now
      exact ⟨done, told, fun more => (whole more).trans (congrArg (done ++ ·) (next more))⟩
  | ended =>
      refine ⟨fun _ => ?_, fun _ _ => free, prefixed, fun _ _ reading => reading.elim⟩
      change w.queue.receiving ≠ _
      rw [running]
      nofun
  | failed e =>
      refine ⟨fun _ => ?_, fun _ going => absurd rfl going, prefixed, fun _ _ reading =>
        reading.elim⟩
      change w.queue.receiving ≠ _
      rw [running]
      nofun

/-- A response is for the oldest request in flight. -/
theorem Matched.pop {f : InFlight} {inFlight : List InFlight} {r : Response}
    (matching : w.receiver = .matching r) (free : w.work .receiver = []) :
    Matched { w with
      queue := { w.queue with inFlight }.report [w.queue.answeredLog f]
      receiver := .answering f r.toOutcome } := by
  have here : w.inHand = [] ∧ w.unmatched = [r] ∧ w.IsReading := by
    rw [inHand, unmatched, IsReading, matching]
    exact ⟨rfl, rfl, trivial⟩
  have busy : w.receiver ≠ .ready := by
    rw [matching]
    nofun
  obtain ⟨received, running⟩ : ∃ received, w.queue.receiving = .running received := by
    cases found : w.queue.receiving with
    | running received => exact ⟨received, rfl⟩
    | stopped => exact absurd found (h.running busy)
  obtain ⟨done, outcomes, all⟩ := h.consumed received running here.2.2
  rw [settled, here.1, List.append_nil] at outcomes
  rw [here.2.1] at all
  let told : Delivery := ⟨f.sequence, f.completion, r.toOutcome⟩
  have outcomes : (done ++ [r]).map Response.toOutcome =
      (w.queue.answers ++ [told]).map Delivery.outcome := by
    rw [List.map_append, List.map_append, outcomes]
    rfl
  have whole : ∀ more, Response.readAll (w.taken ++ more) =
      (done ++ [r]) ++ Response.readAll (received ++ more) := by
    intro more
    rw [all, List.append_assoc]
  refine ⟨fun _ => h.running busy, fun _ _ => free, ?_, fun received₁ now _ => ?_⟩
  · have now := whole []
    rw [List.append_nil, List.append_nil] at now
    rw [now, List.map_append, outcomes]
    exact List.prefix_append _ _
  · cases running.symm.trans now
    exact ⟨done ++ [r], outcomes, whole⟩

theorem Matched.receive (explained : w.Explained) (free : w.work .receiver = [])
    (s : w.ReceiverStep w') : w'.Matched := by
  have settled := s.settled_eq explained
  have off : ∀ e, w.receiver ≠ .ready → (w.breakOff e).settled = w.settled →
      (w.breakOff e).Matched := fun e busy settled =>
    h.congr (fun _ => h.running busy) (fun _ going => absurd rfl going) settled rfl
      fun _ _ (reading : False) => reading.elim
  cases s with
  | wait => exact h
  | read received bytes stream reading polling running sound =>
      exact h.digest free polling running sound
  | pop f inFlight r matching oldest => exact h.pop matching free
  | turn receiver running before idle =>
      have here : w.unmatched = [] ∧ w.IsReading := by
        rw [unmatched, IsReading]
        obtain same | same := before <;> rw [same] <;> exact ⟨rfl, trivial⟩
      refine h.congr (fun _ => running) (fun _ _ => free) (settled rfl) rfl
        fun received now reading => ⟨now, here.2, ?_⟩
      rw [here.1]
      obtain rfl | rfl | rfl := idle <;> rfl
  | surplus r matching empty =>
      refine off _ ?_ (settled rfl)
      rw [matching]
      nofun
  | cut e ended outer =>
      refine off _ ?_ (settled rfl)
      obtain now | now := ended <;> rw [now] <;> nofun
  | answer f outcome answering =>
      have here : w.unmatched = [] ∧ w.IsReading := by
        rw [unmatched, IsReading, answering]
        exact ⟨rfl, trivial⟩
      exact h.congr (fun busy => absurd rfl busy) (fun busy => absurd rfl busy) (settled rfl) rfl
        fun received now _ => ⟨now, here.2, here.1.symm⟩
  | bare ended empty =>
      have busy : w.receiver ≠ .ready := by
        rw [ended]
        nofun
      exact h.congr (fun _ => h.running busy) (fun _ _ => free) (settled rfl) rfl
        fun _ _ (reading : False) => reading.elim
  | halt halting =>
      exact h.congr (fun busy => absurd rfl busy) (fun busy => absurd rfl busy) (settled rfl) rfl
        fun _ now _ => nomatch now

theorem Matched.step (explained : w.Explained) (s : w.Step w') : w'.Matched := by
  cases s with
  | wait => exact h
  | call c | peer stream =>
      exact h.congr h.running h.free rfl rfl fun _ now reading => ⟨now, reading, rfl⟩
  | act t a rest due => exact h.act explained due
  | send free s =>
      obtain ⟨receiver, taken, receiving, -⟩ := s.apart
      have work := s.aside.work .receiver nofun
      refine h.congr ?_ ?_ s.settled taken fun received now reading => ?_
      · rw [receiver, receiving]
        exact h.running
      · rw [receiver, work]
        exact h.free
      · rw [IsReading, receiver] at reading
        rw [unmatched, unmatched, receiver]
        exact ⟨receiving ▸ now, reading, rfl⟩
  | receive free s => exact h.receive explained free s

end Matched

/-- The state of a queue among its threads against what has passed over its stream. -/
structure Faithful (w : Threads) : Prop where
  explained : w.Explained
  posted : w.Posted
  matched : w.Matched

theorem Faithful.step {w : Threads} (h : w.Faithful) (e : Event) : (w.step e).Faithful := by
  have s := step_step h.explained.tidy e
  exact ⟨h.explained.step s, h.posted.step h.explained.tidy s, h.matched.step h.explained s⟩

theorem faithful_after (node : NodeId) (limits : Limits) (stream : Endpoint) (run : List Event) :
    ((start node limits stream).after run).Faithful :=
  after_induction ⟨explained_start node limits stream, posted_start node limits stream,
    matched_start node limits stream⟩ Faithful.step run

end Threads

end CacheCoherence
