import CacheCoherence.Proofs.Conduct

/-!
The record of what a node holds, and the releases that are on their way. A key is
given up in the record when its release is handed in, so as long as the release
is not processed the record says no more of the key than the release leaves.
Nothing that the queue does makes it say more.
-/

namespace CacheCoherence

open Access

theorem Holdings.strength_changed (h : Holdings) (k : Key) (c : Change) (j : Key) :
    strength ((h.changed k c).level? j) ≤ strength (h.level? j) := by
  rw [level?_changed]
  split
  next own =>
    rw [own, Change.strength_leaves]
    exact Nat.min_le_left _ _
  next => exact Nat.le_refl _

/-- Keys are given up by the calls that are for it, and the record is changed by nothing else. -/
def Conduct.plain : Conduct :=
  ⟨fun a => a.gives?.isSome || a.request.change?.isNone, true⟩

namespace UpdateQueue

/-- The requests of a queue that are still to be processed when the first ones of those that have
been sent are, so many of them. -/
def underway (q : UpdateQueue) (processed : Nat) : List Request :=
  (q.sent.drop processed ++ q.waiting).map Submission.request

/-- The record says no more than these levels, and of a key no more than what the releases that are
underway leave of it. -/
structure Modest (q : UpdateQueue) (levels : Key → Option Level) (processed : Nat) : Prop where
  sent : processed ≤ q.sent.length
  within : ∀ k, strength (q.holdings.level? k) ≤ strength (levels k)
  released : ∀ r ∈ q.underway processed, ∀ k c, r.change? = some (k, c) →
    strength (q.holdings.level? k) ≤ strength c.level
  waiting : ∀ s ∈ q.waiting, s.completion.keepsTo .plain = true
  flying : ∀ f ∈ q.inFlight, f.completion.keepsTo .plain = true

theorem modest_new (levels : Key → Option Level) (node : NodeId) (limits : Limits) :
    Modest { node, limits } levels 0 where
  sent := Nat.le_refl 0
  within k := by
    rw [Holdings.level?_empty]
    exact Nat.zero_le _
  released _ among := absurd among List.not_mem_nil
  waiting _ among := absurd among List.not_mem_nil
  flying _ among := absurd among List.not_mem_nil

variable {levels : Key → Option Level} {processed : Nat} {q : UpdateQueue}

/-- A change of the queue in what the record and the requests that are underway do not tell. -/
theorem Modest.congr (h : Modest q levels processed) {q' : UpdateQueue}
    (holdings : q'.holdings = q.holdings) (sent : q'.sent = q.sent)
    (waiting : q'.waiting = q.waiting)
    (flying : ∀ f ∈ q'.inFlight, f.completion.keepsTo .plain = true) :
    Modest q' levels processed := by
  refine ⟨sent ▸ h.sent, holdings ▸ h.within, ?_, waiting ▸ h.waiting, flying⟩
  rw [underway, sent, waiting, holdings]
  exact h.released

theorem Modest.self (h : Modest q levels processed) :
    Modest q q.holdings.level? processed :=
  ⟨h.sent, fun _ => Nat.le_refl _, h.released, h.waiting, h.flying⟩

/-- The record says less, or no more. -/
theorem Modest.lessen (h : Modest q levels processed) {holdings : Holdings}
    (less : ∀ k, strength (holdings.level? k) ≤ strength (q.holdings.level? k)) :
    Modest { q with holdings } levels processed :=
  ⟨h.sent, fun k => (less k).trans (h.within k),
    fun r among k c change => (less k).trans (h.released r among k c change), h.waiting, h.flying⟩

theorem Modest.forgo (h : Modest q levels processed) (a : Ask) :
    Modest (q.forgo a) levels processed := by
  rw [forgo_eq]
  cases a.gives? with
  | none => exact h
  | some p => exact h.lessen (q.holdings.strength_changed p.1 p.2)

/-- What is asked for is given up in the record already. -/
theorem released_of_forgo (q : UpdateQueue) {a : Ask} (plain : Conduct.plain.asks a = true)
    {k : Key} {c : Change} (change : a.request.change? = some (k, c)) :
    strength ((q.forgo a).holdings.level? k) ≤ strength c.level := by
  cases gives : a.gives? with
  | none => simp [Conduct.plain, gives, change] at plain
  | some p =>
      obtain rfl := Option.some.inj ((Ask.change?_request gives).symm.trans change)
      rw [forgo_eq, gives]
      dsimp only
      rw [Holdings.level?_changed, if_pos rfl, Change.strength_leaves]
      exact Nat.min_le_right _ _

theorem Modest.accept (h : Modest q levels processed) {r : Request} {c : Completion}
    (keeps : c.keepsTo .plain = true)
    (released : ∀ k change, r.change? = some (k, change) →
      strength (q.holdings.level? k) ≤ strength change.level) :
    Modest (q.accept r c) levels processed := by
  have underway : (q.accept r c).underway processed = q.underway processed ++ [r] := by
    simp [UpdateQueue.underway, UpdateQueue.accept, report, issue]
  refine ⟨h.sent, h.within, ?_, ?_, h.flying⟩
  · rw [underway, List.forall_mem_append]
    exact ⟨h.released, List.forall_mem_singleton.mpr released⟩
  · exact List.forall_mem_append.mpr ⟨h.waiting, List.forall_mem_singleton.mpr keeps⟩

theorem Modest.react (h : Modest q levels processed)
    (fail : UpdateQueue → ChannelError → UpdateQueue)
    (failed : ∀ {q} e, Modest q levels processed → Modest (fail q e) levels processed)
    {c : Completion} (keeps : c.keepsTo .plain = true) (n : Nat) :
    Modest (UpdateQueue.react fail n c q) levels processed := by
  refine react_of_keepsTo (P := fun q => q.Modest levels processed) ?_ ?_ ?_ (fun _ => failed) c
    keeps q n h
  · intro q a c h plain keeps _
    exact (h.forgo a).accept keeps fun k change => q.released_of_forgo plain
  · intro q a c e h _ _ _
    exact (h.forgo a).congr rfl rfl rfl (h.forgo a).flying
  · intro q h
    exact h.congr rfl rfl rfl h.flying

theorem Modest.abandon (h : Modest q levels processed) {f : InFlight}
    (keeps : f.completion.keepsTo .plain = true) (e : ChannelError) :
    Modest (q.abandon e f) levels processed := by
  have invoked : Modest (q.invoke f.sequence f.completion (.error (.channel e))) levels
      processed :=
    h.congr rfl rfl rfl h.flying
  have reacted := invoked.react (fun q _ => q) (fun _ h => h) keeps f.sequence
  rw [UpdateQueue.abandon]
  split
  · exact reacted.congr rfl rfl rfl reacted.flying
  · exact reacted

theorem Modest.abandonAll (h : Modest q levels processed) {flying : List InFlight}
    (keeps : ∀ f ∈ flying, f.completion.keepsTo .plain = true) (e : ChannelError) :
    Modest (flying.foldl (UpdateQueue.abandon e) q) levels processed := by
  induction flying generalizing q with
  | nil => exact h
  | cons f flying ih =>
      obtain ⟨here, later⟩ := List.forall_mem_cons.mp keeps
      exact ih (h.abandon here e) later

/-- A queue that fails forgets what the node holds. -/
theorem Modest.close (h : Modest q levels processed) (e : ChannelError) :
    Modest (q.close e) levels processed := by
  have emptied : Modest { q with holdings := {} } levels processed := h.lessen fun k => by
    rw [Holdings.level?_empty]
    exact Nat.zero_le _
  exact emptied.congr rfl rfl rfl fun _ among => absurd among List.not_mem_nil

theorem Modest.fail (h : Modest q levels processed) (e : ChannelError) :
    Modest (q.fail e) levels processed := by
  rw [UpdateQueue.fail]
  cases q.failure with
  | some _ => exact h
  | none => exact (h.close e).abandonAll h.flying e

theorem Modest.deliver (h : Modest q levels processed) {c : Completion}
    (keeps : c.keepsTo .plain = true) (n : Nat) (o : Outcome) :
    Modest (q.deliver n c o) levels processed := by
  have invoked : Modest (q.invoke n c o) levels processed := h.congr rfl rfl rfl h.flying
  exact invoked.react UpdateQueue.fail (fun e h => h.fail e) keeps n

theorem Modest.deliverAll (h : Modest q levels processed) {unsent : List Submission}
    (keeps : ∀ s ∈ unsent, s.completion.keepsTo .plain = true) (o : Outcome) :
    Modest (unsent.foldl (fun q s => q.deliver s.sequence s.completion o) q) levels
      processed := by
  induction unsent generalizing q with
  | nil => exact h
  | cons s unsent ih =>
      obtain ⟨here, later⟩ := List.forall_mem_cons.mp keeps
      exact ih (h.deliver here s.sequence o) later

/-- What waits and is never sent is not underway any more. -/
theorem Modest.leave (h : Modest q levels processed) (buffered : List UInt8) :
    Modest (q.leave buffered) levels processed := by
  have emptied : Modest { q with waiting := [], sending := .closing buffered } levels
      processed := by
    refine ⟨h.sent, h.within, fun r among => h.released r ?_,
      fun _ among => absurd among List.not_mem_nil, h.flying⟩
    rw [underway, List.append_nil] at among
    rw [underway, List.map_append]
    exact List.mem_append_left _ among
  exact emptied.deliverAll h.waiting _

theorem Modest.sendStep (h : Modest q levels processed) {q' : UpdateQueue} (step : SendStep q q') :
    Modest q' levels processed := by
  cases step with
  | launch s waiting sending idle live first taking =>
      obtain ⟨here, later⟩ := List.forall_mem_cons.mp (first ▸ h.waiting)
      refine ⟨?_, h.within, ?_, later, ?_⟩
      · rw [List.length_append]
        exact Nat.le_add_right_of_le h.sent
      · have moved : (q.sent ++ [s]).drop processed ++ waiting =
            q.sent.drop processed ++ q.waiting := by
          rw [List.drop_append_of_le_length h.sent, first, List.append_assoc]
          rfl
        rw [underway, moved]
        exact h.released
      · exact List.forall_mem_append.mpr ⟨h.flying, List.forall_mem_singleton.mpr here⟩
  | leave e failed => exact h.leave []
  | drain released live rest =>
      exact Modest.leave (q := { q with draining := true }) (h.congr rfl rfl rfl h.flying) []
  | fail f buffered => exact (h.fail _).leave buffered
  | write sending taking => exact h.congr rfl rfl rfl h.flying
  | stop fault left => cases fault <;> exact h.congr rfl rfl rfl h.flying

theorem Modest.receiveStep (h : Modest q levels processed) {q' : UpdateQueue}
    (step : ReceiveStep q q') : Modest q' levels processed := by
  cases step with
  | wait receiving => exact h.congr rfl rfl rfl h.flying
  | fail e outer =>
      have failed := h.fail e
      exact failed.congr rfl rfl rfl failed.flying
  | answer f inFlight r rest live oldest =>
      obtain ⟨here, later⟩ := List.forall_mem_cons.mp (oldest ▸ h.flying)
      refine Modest.deliver ?_ here f.sequence r.toOutcome
      exact h.congr rfl rfl rfl later

/-- A key of which no release is underway may be granted. -/
theorem Modest.grant (h : Modest q levels processed) {k : Key}
    (free : ∀ r ∈ q.underway processed, ∀ c, r.change? ≠ some (k, c)) (level : Level) :
    Modest { q with holdings := q.holdings.granted k level }
      (fun j => if j = k then some level else levels j) processed := by
  refine ⟨h.sent, fun j => ?_, fun r among j c change => ?_, h.waiting, h.flying⟩
  · dsimp only
    rw [Holdings.level?_granted]
    split
    · exact Nat.le_refl _
    · exact h.within j
  · have other : j ≠ k := by
      rintro rfl
      exact free r among c change
    dsimp only
    rw [Holdings.level?_granted, if_neg other]
    exact h.released r among j c change

theorem underway_eq_cons {r : Request}
    (next : (q.sent.map Submission.request)[processed]? = some r) :
    q.underway processed = r :: q.underway (processed + 1) := by
  obtain ⟨inside, rfl⟩ := List.getElem?_eq_some_iff.mp next
  rw [List.length_map] at inside
  rw [underway, underway, List.drop_eq_getElem_cons inside, List.getElem_map]
  rfl

/-- A request that is processed is not underway any more. -/
theorem Modest.process (h : Modest q levels processed) {r : Request}
    (next : (q.sent.map Submission.request)[processed]? = some r) :
    Modest q levels (processed + 1) ∧
      ∀ k c, r.change? = some (k, c) → strength (q.holdings.level? k) ≤ strength c.level := by
  have inside := (List.getElem?_eq_some_iff.mp next).1
  rw [List.length_map] at inside
  have released := h.released
  rw [underway_eq_cons next] at released
  obtain ⟨here, later⟩ := List.forall_mem_cons.mp released
  exact ⟨⟨inside, h.within, later, h.waiting, h.flying⟩, here⟩

end UpdateQueue

namespace Exchange

open UpdateQueue

theorem modest_step {levels : Key → Option Level} {processed : Nat} {x : Exchange}
    (h : x.queue.Modest levels processed) {a : Action}
    (plain : ∀ c ∈ a.callback?, c.keepsTo .plain = true) :
    (x.step a).queue.Modest levels processed := by
  have called : ∀ c, a.callback? = some c → (x.step a).queue.Modest levels processed := by
    intro c callback
    obtain ⟨log, eq⟩ := exists_step_eq callback x
    have reacted := h.react UpdateQueue.fail (fun e h => h.fail e) (plain c callback) 0
    rw [eq]
    exact reacted.congr rfl rfl rfl reacted.flying
  cases a with
  | enqueue _ _ | submit _ _ | evict _ _ | downgrade _ _ | shutdown | release =>
      exact called _ rfl
  | peer stream => exact h
  | send =>
      rw [step, advance]
      cases sent : x.queue.send x.stream with
      | none => exact h
      | some result => exact h.sendStep (sendStep_of_send sent)
  | receive =>
      rw [step, advance]
      cases received : x.queue.receive x.stream with
      | none => exact h
      | some result => exact h.receiveStep (receiveStep_of_receive received)

end Exchange

end CacheCoherence
