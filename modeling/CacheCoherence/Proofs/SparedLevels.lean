import CacheCoherence.Proofs.Holdings
import CacheCoherence.Proofs.SessionCourse

/-!
What is left to a node in the directory, whatever is done to the server. Grants to
others take nothing from it, nor do requests of others and the ends of their
sessions. A release of its own takes no more than what the release is for. All
this holds as long as its session is live; a session that has ended is not live
again.
-/

namespace CacheCoherence

open Access

namespace Directory

def Operation.node : Operation → NodeId
  | .grant _ n _ | .change _ n _ | .releaseNode n => n

variable {d : Directory} (h : d.Kept)

include h

theorem Kept.levelOf_change (k : Key) (m : NodeId) (c : Change) (j : Key) (n : NodeId) :
    ((d.step (.change k m c)).state j).levelOf n =
      if j = k ∧ n = m then c.leaves ((d.state k).levelOf m) else (d.state j).levelOf n := by
  rw [state_change h.wide]
  by_cases own : j = k
  · rw [if_pos own, State.levelOf_changed, own]
    simp only [true_and]
  · rw [if_neg own, if_neg fun both => own both.1]

/-- A grant that is given leaves its node with no less than what it is for, and all other levels as
they are. -/
theorem Kept.relevels_grant {k : Key} {n : NodeId} {level : Level} {d' : Directory}
    (given : d.grant k n level = .ok d') :
    ∃ now, strength (some level) ≤ strength now ∧ d.Relevels d' k n now := by
  cases level with
  | read =>
      have cases := h.grantRead_cases n k
      rw [given] at cases
      refine ⟨_, ?_, cases.2⟩
      split <;> decide
  | write =>
      have cases := h.grantWrite_cases n k
      rw [given] at cases
      exact ⟨_, Nat.le_refl _, cases.2⟩

/-- What is done for another node leaves a node what it has. -/
theorem Kept.levelOf_step {op : Operation} {n : NodeId} (other : op.node ≠ n) (j : Key) :
    ((d.step op).state j).levelOf n = (d.state j).levelOf n := by
  cases op with
  | grant k m level =>
      rw [Directory.step]
      cases given : d.grant k m level with
      | error e => rfl
      | ok d' =>
          obtain ⟨now, -, relevels⟩ := h.relevels_grant given
          exact (relevels j n).trans (if_neg fun both => other both.2.symm)
  | change k m c =>
      rw [h.levelOf_change, if_neg fun both => other both.2.symm]
  | releaseNode m =>
      rw [Directory.step, levelOf_releaseNode, if_neg fun same => other same.symm]

end Directory

namespace Server

/-- While the session is live, its node has no less in the directory than these levels. -/
structure Backed (id : SessionId) (n : NodeId) (levels : Key → Option Level) (r : Registry)
    (d : Directory) : Prop where
  sound : r.Sound
  kept : d.Kept
  own : (r.session? id).map Session.node = some n
  backed : r.isLive id = true → ∀ k, strength (levels k) ≤ strength ((d.state k).levelOf n)

section Backed

variable {id : SessionId} {n : NodeId} {levels : Key → Option Level}

theorem Backed.live {r : Registry} {d : Directory} (h : Backed id n levels r d)
    (live : r.isLive id = true) : r.live.get? n = some id := by
  obtain ⟨session, present, own⟩ := Option.map_eq_some_iff.mp h.own
  rw [Registry.isLive, present] at live
  rw [← own]
  exact of_decide_eq_true live

theorem backed_of_reachable {s : Server} (reachable : s.Reachable) (own : s.nodeOf id = some n) :
    Backed id n (fun _ => none) s.registry s.directory := by
  have fenced := fenced_of_reachable reachable n
  exact ⟨fenced.sound, fenced.kept, own, fun _ _ => Nat.zero_le _⟩

theorem Backed.mono {r : Registry} {d : Directory} (h : Backed id n levels r d)
    {less : Key → Option Level} (le : ∀ k, strength (less k) ≤ strength (levels k)) :
    Backed id n less r d :=
  ⟨h.sound, h.kept, h.own, fun live k => Nat.le_trans (le k) (h.backed live k)⟩

/-- What is asked for another node takes nothing, and a release that leaves enough may be asked. -/
theorem Backed.change {r : Registry} {d : Directory} (h : Backed id n levels r d) {k : Key}
    {m : NodeId} {c : Change} (enough : m = n → strength (levels k) ≤ strength c.level) :
    Backed id n levels r (d.step (.change k m c)) := by
  refine ⟨h.sound, h.kept.step _, h.own, fun live j => ?_⟩
  rw [h.kept.levelOf_change]
  split
  next same =>
    obtain ⟨rfl, rfl⟩ := same
    rw [Change.strength_leaves]
    exact Nat.le_min.mpr ⟨h.backed live j, enough rfl⟩
  next => exact h.backed live j

theorem Backed.other {r : Registry} {d : Directory} (h : Backed id n levels r d)
    {op : Directory.Operation} (other : op.node ≠ n) : Backed id n levels r (d.step op) := by
  refine ⟨h.sound, h.kept.step op, h.own, fun live j => ?_⟩
  rw [h.kept.levelOf_step other]
  exact h.backed live j

/-- A grant that is given backs what it is for. -/
theorem Backed.grant {r : Registry} {d d' : Directory} (h : Backed id n levels r d) {k : Key}
    {level : Level} (given : d.grant k n level = .ok d') :
    Backed id n (fun j => if j = k then some level else levels j) r d' := by
  have stepped : d.step (.grant k n level) = d' := by
    rw [Directory.step, given]
    rfl
  refine ⟨h.sound, stepped ▸ h.kept.step _, h.own, fun live j => ?_⟩
  obtain ⟨now, more, relevels⟩ := h.kept.relevels_grant given
  rw [relevels]
  by_cases e : j = k
  · rw [if_pos e, if_pos ⟨e, rfl⟩]
    exact more
  · rw [if_neg e, if_neg fun both => e both.1]
    exact h.backed live j

/-- A session that ends takes what its node has, and no other session that is live is of that
node. -/
theorem keeps_backed (id : SessionId) (n : NodeId) (levels : Key → Option Level) :
    Registry.Keeps (fun _ : Unit => release) fun x => Backed id n levels x.1 x.2.1 where
  enrol {r s m} h absent := by
    have own := (keeps_node id n).enrol (s := s) h.own absent
    refine ⟨h.sound.enrol m, h.kept, own, fun live => h.backed ?_⟩
    obtain ⟨session, present, -⟩ := Option.map_eq_some_iff.mp h.own
    have inside : id < r.sessions.length := (List.getElem?_eq_some_iff.mp present).1
    exact ((h.sound.isLive_enrol absent id).mp live).resolve_left (Nat.ne_of_lt inside)
  modify {r s} j f h node lasting := by
    have own := (keeps_node id n).modify (s := s) j h.own node lasting
    refine ⟨h.sound.modify j node, h.kept, own, fun live => h.backed ?_⟩
    rwa [h.sound.isLive_modify j node] at live
  ended {r s m j} act h live := by
    have own := (keeps_node id n).ended (s := s) act h.own live
    rw [Registry.endSession_eq] at own ⊢
    refine ⟨h.sound.strike m j, kept_release h.kept, own, fun still k => ?_⟩
    obtain ⟨other, before⟩ := (h.sound.isLive_strike live id).mp still
    obtain ⟨session, present, rfl⟩ := h.sound m j live
    have apart : n ≠ session.node := by
      rintro rfl
      rw [h.live before] at live
      exact other (Option.some.inj live)
    simp only [release, Registry.session?_shutDown_self present, Directory.levelOf_releaseNode,
      if_neg apart]
    exact h.backed before k

/-- The operation takes nothing from the node, unless it ends its session. -/
def Operation.spares (s : Server) (n : NodeId) (op : Operation) : Bool :=
  match op with
  | .directory o => o.node ≠ n
  | op => (s.request? op).all fun p => s.nodeOf p.1 ≠ some n || p.2.change?.isNone

/-- A request on a session of the node has to leave enough, and so has whatever else is done. -/
theorem Backed.request {s : Server} (h : Backed id n levels s.registry s.directory)
    {op : Operation} {j : SessionId} {r : Request} (request : s.request? op = some (j, r))
    (enough : s.nodeOf j = some n → ∀ k c, r.change? = some (k, c) →
      strength (levels k) ≤ strength c.level) :
    Backed id n levels (s.step op).registry (s.step op).directory := by
  refine withstands_request (keeps_backed id n levels) h request fun session k c present given =>
    h.change fun own => enough ?_ k c given
  rw [nodeOf, present, Option.map_some, own]

theorem Backed.step {s : Server} (h : Backed id n levels s.registry s.directory) {op : Operation}
    (spares : op.spares s n = true) :
    Backed id n levels (s.step op).registry (s.step op).directory := by
  cases request : s.request? op with
  | none =>
      refine withstands_other (keeps_backed id n levels) h request ?_
      rintro o rfl
      exact h.other (of_decide_eq_true spares)
  | some p =>
      have spared : (s.request? op).all
          fun p => s.nodeOf p.1 ≠ some n || p.2.change?.isNone := by
        cases op with
        | directory o => cases request
        | _ => exact spares
      rw [request, Option.all_some] at spared
      refine h.request request fun own k c given => ?_
      simp [own, given] at spared

end Backed

end Server

end CacheCoherence
