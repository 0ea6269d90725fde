import CacheCoherence.Proofs.ThreadStreams

/-!
The numbers of the requests. A caller gets a number by one access and hands the
request in by a later one, so the numbers in the channel need not be in order.
They are different all the same, and that of a call which is still underway is
none of a call that is over.
-/

namespace CacheCoherence

/-- The number of a request whose call is still underway. -/
def Act.numbered? : Act → Option Nat
  | .look s | .hand s | .excuse s | .refuse s _ => some s.sequence
  | _ => none

theorem Completion.numbered_of_mem_calls {c : Completion} {a : Act} (h : a ∈ c.calls) :
    a.numbered? = none := by
  obtain ⟨_, _, rfl⟩ | rfl | rfl | ⟨_, rfl⟩ := Completion.mem_calls h <;> rfl

theorem Completion.numbered_of_mem_acts {c : Completion} {n : Nat} {a : Act} (h : a ∈ c.acts n) :
    a.numbered? = none := by
  obtain call | ⟨-, rfl⟩ := Completion.mem_acts h
  · exact numbered_of_mem_calls call
  · rfl

namespace UpdateQueue

variable {q : UpdateQueue} {a b : Act}

theorem issued_perform (q : UpdateQueue) (a : Act) : q.issued ≤ (q.perform a).1.issued := by
  cases a with
  | number r c => exact Nat.le_succ _
  | ask a c =>
      rw [perform]
      split
      · cases a <;> exact Nat.le_refl _
      · exact Nat.le_refl _
  | hand _ | record _ | fail _ =>
      rw [perform]
      split <;> exact Nat.le_refl _
  | look _ | excuse _ | refuse _ _ | shutdown | release | signal | clear | abandon _ _ | tell _ _ _
  | report _ => exact Nat.le_refl _

/-- A number comes from the counter, or the call has had it before. -/
theorem numbered_of_follows (next : q.Follows a b) {n : Nat} (h : b.numbered? = some n) :
    (q.perform a).1.calls = q.calls ∧
      (n = q.issued + 1 ∧ (q.perform a).1.issued = n ∨ a.numbered? = some n) := by
  cases next with
  | long r c e check | fit r c check =>
      cases h
      exact ⟨rfl, .inl ⟨rfl, rfl⟩⟩
  | late s e failed | hand s live | excused s =>
      cases h
      exact ⟨rfl, .inr rfl⟩
  | excuse s closed =>
      cases h
      rw [perform, if_neg (Bool.eq_false_iff.mp closed)]
      exact ⟨rfl, .inr rfl⟩
  | call d told member => cases (Completion.numbered_of_mem_calls member).symm.trans h
  | begin _ _ _ | shutdown _ | signal _ _ | clear _ _ | abandon _ _ _ _ | report _ _
  | panic _ _ _ => cases h

/-- Only the first of the acts that an act leads to belongs to a call that is underway. -/
theorem numbered_tail_perform (q : UpdateQueue) (a : Act) :
    ∀ b ∈ (q.perform a).2.tail, b.numbered? = none := by
  have single : ∀ c : Act, ∀ b ∈ [c].tail, b.numbered? = none := fun _ => List.forall_mem_nil _
  have several : ∀ (c : Completion) (n : Nat), ∀ b ∈ (c.acts n).tail, b.numbered? = none :=
    fun c n b hb => Completion.numbered_of_mem_acts (List.mem_of_mem_tail hb)
  cases a with
  | ask a c =>
      rw [perform]
      split
      · exact single _
      · exact List.forall_mem_nil _
  | hand s =>
      rw [perform]
      split <;> exact single _
  | shutdown =>
      rw [perform]
      dsimp only
      split
      · exact single _
      · exact List.forall_mem_nil _
  | number _ _ | look _ =>
      rw [perform]
      dsimp only
      split <;> exact single _
  | excuse s => exact single _
  | refuse s e => exact several _ _
  | tell e n c => exact several _ _
  | fail e =>
      rw [perform]
      split
      · exact List.forall_mem_nil _
      · intro b hb
        simp only [List.cons_append, List.nil_append, List.tail_cons, List.mem_cons,
          List.mem_map] at hb
        obtain rfl | rfl | ⟨f, -, rfl⟩ := hb <;> rfl
  | abandon e f =>
      intro b hb
      rw [perform] at hb
      obtain call | last := List.mem_append.mp (List.mem_of_mem_tail hb)
      · exact Completion.numbered_of_mem_calls call
      · split at last
        · rw [List.mem_singleton.mp last]
          rfl
        · cases last
  | release | record _ | signal | clear | report _ => exact List.forall_mem_nil _

/-- A call that is over had a number while it was underway. -/
theorem over_perform (q : UpdateQueue) (a : Act) : (q.perform a).1.calls = q.calls ∨
    ∃ c, a.numbered? = some c.sequence ∧ (q.perform a).1.calls = q.calls ++ [c] := by
  obtain ⟨calls, -⟩ | ⟨s, rfl, calls, -⟩ | ⟨s, e, rfl, -, calls⟩ := q.calls_perform a
  · exact .inl calls
  · exact .inr ⟨_, rfl, calls⟩
  · exact .inr ⟨_, rfl, calls⟩

end UpdateQueue

namespace Threads

/-- The numbers given so far, to calls that are over and to calls that are underway. -/
structure Numbered (w : Threads) : Prop where
  distinct : (w.queue.calls.map Enqueued.sequence).Nodup
  issued : ∀ c ∈ w.queue.calls, c.sequence ≤ w.queue.issued
  /-- A thread is in the middle of one call at most. -/
  head : ∀ t, ∀ a ∈ (w.work t).tail, a.numbered? = none
  fresh : ∀ t, ∀ a ∈ w.work t, ∀ n, a.numbered? = some n →
    n ≤ w.queue.issued ∧ ∀ c ∈ w.queue.calls, c.sequence ≠ n
  apart : ∀ t u, t ≠ u → ∀ a ∈ w.work t, ∀ b ∈ w.work u, ∀ n, a.numbered? = some n →
    b.numbered? ≠ some n

theorem numbered_start (node : NodeId) (limits : Limits) (stream : Endpoint) :
    (start node limits stream).Numbered where
  distinct := List.nodup_nil
  issued _ h := by cases h
  head _ _ h := by cases h
  fresh _ _ h := by cases h
  apart _ _ _ _ h := by cases h

section Numbered

variable {w w' : Threads} (h : w.Numbered)

include h

/-- A change in which no call gets any further. -/
theorem Numbered.congr (calls : w'.queue.calls = w.queue.calls)
    (issued : w'.queue.issued = w.queue.issued)
    (work : ∀ t, w'.work t = w.work t ∨ ∀ a ∈ w'.work t, a.numbered? = none) : w'.Numbered := by
  have old : ∀ t, ∀ a ∈ w'.work t, ∀ n, a.numbered? = some n → a ∈ w.work t := by
    intro t a ha n number
    obtain same | new := work t
    · exact same ▸ ha
    · cases (new a ha).symm.trans number
  refine ⟨calls ▸ h.distinct, ?_, fun t a ha => ?_, fun t a ha n number => ?_, ?_⟩
  · rw [calls, issued]
    exact h.issued
  · obtain same | new := work t
    · exact h.head t a (same ▸ ha)
    · exact new a (List.mem_of_mem_tail ha)
  · rw [calls, issued]
    exact h.fresh t a (old t a ha n number) n number
  · intro t u other a ha b hb n number same
    exact h.apart t u other a (old t a ha n number) b (old u b hb n same) n number same

theorem Numbered.act {t : Thread} {a : Act} {rest : List Act} (due : w.work t = a :: rest) :
    (w.act t a rest).Numbered := by
  have member : a ∈ w.work t := due ▸ List.mem_cons_self
  have later : ∀ b ∈ rest, b.numbered? = none := fun b hb => h.head t b (due ▸ hb)
  have issued := w.queue.issued_perform a
  have known : ∀ c ∈ (w.act t a rest).queue.calls,
      c ∈ w.queue.calls ∨ a.numbered? = some c.sequence := by
    intro c hc
    obtain calls | ⟨c', number, calls⟩ := w.queue.over_perform a
    · exact .inl (calls ▸ hc)
    · refine (List.mem_append.mp (calls ▸ hc)).imp_right fun now => ?_
      rw [List.mem_singleton.mp now]
      exact number
  -- a number has just been given, or its call had it before
  have origin : ∀ u, ∀ b ∈ (w.act t a rest).work u, ∀ n, b.numbered? = some n →
      u ≠ t ∧ b ∈ w.work u ∨ u = t ∧ (w.act t a rest).queue.calls = w.queue.calls ∧
        (n = w.queue.issued + 1 ∧ (w.act t a rest).queue.issued = n ∨ a.numbered? = some n) := by
    intro u b hb n given
    obtain ⟨same, now⟩ | old := mem_work_assign hb
    · obtain new | old := List.mem_append.mp now
      · exact .inr ⟨same, UpdateQueue.numbered_of_follows (UpdateQueue.follows_perform new) given⟩
      · cases (later b old).symm.trans given
    · exact .inl old
  have apart : ∀ u, u ≠ t → ∀ b ∈ (w.act t a rest).work t, ∀ c ∈ w.work u, ∀ n,
      b.numbered? = some n → c.numbered? ≠ some n := by
    intro u other b hb c hc n given same
    obtain ⟨self, -⟩ | ⟨-, -, ⟨new, -⟩ | old⟩ := origin t b hb n given
    · exact self rfl
    · have bound := (h.fresh u c hc n same).1
      omega
    · exact h.apart t u other.symm a member c hc n old same
  refine ⟨?_, fun c hc => ?_, fun u b hb => ?_, fun u b hb n given => ?_, ?_⟩
  · obtain calls | ⟨c, number, calls⟩ := w.queue.over_perform a
    · exact calls ▸ h.distinct
    · have fresh := (h.fresh t a member _ number).2
      have new : ∀ n ∈ w.queue.calls.map Enqueued.sequence, n ≠ c.sequence := by
        intro n hn
        obtain ⟨c', hc, rfl⟩ := List.mem_map.mp hn
        exact fresh c' hc
      have both : (w.queue.calls.map Enqueued.sequence ++ [c.sequence]).Nodup := by
        refine List.nodup_append.mpr ⟨h.distinct, List.nodup_singleton _, fun n hn m hm => ?_⟩
        rw [List.mem_singleton.mp hm]
        exact new n hn
      rw [show (w.act t a rest).queue.calls = _ from calls, List.map_append]
      exact both
  · obtain old | number := known c hc
    · exact Nat.le_trans (h.issued c old) issued
    · exact Nat.le_trans (h.fresh t a member _ number).1 issued
  · rw [Threads.act, work_assign] at hb
    split at hb
    · have tail : b ∈ (w.queue.perform a).2.tail ∨ b ∈ rest := by
        cases acts : (w.queue.perform a).2 with
        | nil =>
            rw [acts] at hb
            exact .inr (List.mem_of_mem_tail hb)
        | cons first others =>
            rw [acts] at hb
            exact List.mem_append.mp hb
      exact tail.elim (w.queue.numbered_tail_perform a b) (later b)
    · exact h.head u b hb
  · obtain ⟨other, old⟩ | ⟨rfl, calls, new⟩ := origin u b hb n given
    · obtain ⟨bound, fresh⟩ := h.fresh u b old n given
      refine ⟨Nat.le_trans bound issued, fun c hc same => ?_⟩
      obtain before | number := known c hc
      · exact fresh c before same
      · exact h.apart t u other.symm a member b old n (same ▸ number) given
    · rw [calls]
      obtain ⟨new, now⟩ | old := new
      · refine ⟨Nat.le_of_eq now.symm, fun c hc same => ?_⟩
        have bound := h.issued c hc
        omega
      · obtain ⟨bound, fresh⟩ := h.fresh u a member n old
        exact ⟨Nat.le_trans bound issued, fresh⟩
  · intro u v other b hb c hc n given same
    obtain ⟨away, old⟩ | ⟨rfl, -⟩ := origin u b hb n given
    · obtain ⟨-, old'⟩ | ⟨rfl, -⟩ := origin v c hc n same
      · exact h.apart u v other b old c old' n given same
      · exact apart u away c hc b old n same given
    · obtain ⟨away, old⟩ | ⟨same, -⟩ := origin v c hc n same
      · exact apart v away b hb c old n given same
      · exact other same.symm

theorem Numbered.step (s : w.Step w') : w'.Numbered := by
  have calm : ∀ {t : Thread} {acts : List Act}, (∀ a ∈ acts, a.numbered? = none) → ∀ u,
      (w.assign t acts).work u = w.work u ∨
        ∀ a ∈ (w.assign t acts).work u, a.numbered? = none := by
    intro t acts none u
    rw [work_assign]
    split
    · exact .inr none
    · exact .inl rfl
  cases s with
  | wait => exact h
  | peer stream => exact h.congr rfl rfl fun _ => .inl rfl
  | call c =>
      refine h.congr rfl rfl (calm fun a ha => ?_)
      rw [List.mem_singleton.mp ha]
      cases c <;> rfl
  | act t a rest due => exact h.act due
  | send free s =>
      refine h.congr (by rw [s.kept]) (by rw [s.kept]) fun t => ?_
      by_cases same : t = .sender
      · refine .inr fun a ha => ?_
        obtain ⟨e, s', rfl⟩ | ⟨e, rfl⟩ := s.mem_work free (same ▸ ha) <;> rfl
      · exact .inl (s.aside.work t same)
  | receive free s =>
      obtain ⟨-, queue⟩ := s.kept
      refine h.congr (by rw [queue]) (by rw [queue]) fun t => ?_
      by_cases same : t = .receiver
      · refine .inr fun a ha => ?_
        obtain ⟨e, rfl, -⟩ | ⟨f, o, -, later⟩ := s.mem_work free (same ▸ ha)
        · rfl
        · exact Completion.numbered_of_mem_acts later
      · exact .inl (s.aside.work t same)

end Numbered

end Threads

end CacheCoherence
