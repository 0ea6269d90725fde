import CacheCoherence.Proofs.Switchboard

/-!
The sizes of what is stored. A channel processes a request only if every part of
it is within the limits of the server, so what has come by a channel is within
them when it is stored. A call in the server's own process is held to the number
of writes only; the sizes of its values and names are the caller's own.
-/

namespace CacheCoherence

/-- The batch has a write that gives the key this value. -/
def Batch.Writes (b : Batch) : Key → Value → Prop
  | .object oid, .bytes octets => ⟨oid, some octets⟩ ∈ b.objects
  | .binding (.name text), .target oid => ⟨text, some oid⟩ ∈ b.bindings
  | _, _ => False

theorem Batch.writes_of_lastWrite? {b : Batch} {k : Key} {v : Value}
    (last : b.lastWrite? k = some (some v)) : b.Writes k v := by
  cases k with
  | object oid =>
      obtain ⟨w, found, value⟩ := Option.map_eq_some_iff.mp last
      obtain ⟨octets, stored, rfl⟩ := Option.map_eq_some_iff.mp value
      have own : w.oid = oid := by simpa using List.find?_some found
      have among : w ∈ b.objects := List.mem_reverse.mp (List.mem_of_find?_eq_some found)
      change (⟨oid, some octets⟩ : ObjectWrite) ∈ b.objects
      rwa [← own, ← stored]
  | binding key =>
      cases key with
      | upper => cases last
      | name text =>
          obtain ⟨w, found, value⟩ := Option.map_eq_some_iff.mp last
          obtain ⟨oid, bound, rfl⟩ := Option.map_eq_some_iff.mp value
          have own : w.name = text := by simpa using List.find?_some found
          have among : w ∈ b.bindings := List.mem_reverse.mp (List.mem_of_find?_eq_some found)
          change (⟨text, some oid⟩ : BindingWrite) ∈ b.bindings
          rwa [← own, ← bound]

/-- Whether an object is no longer, and a bound name no longer, than the limits say. -/
def Limits.Hold (limits : Limits) : Key → Value → Prop
  | .object _, .bytes octets => octets.length ≤ limits.value
  | .binding (.name text), .target _ => Text.Utf8.size text ≤ limits.name
  | _, _ => True

theorem Batch.Writes.hold {b : Batch} {k : Key} {v : Value} (h : b.Writes k v) {limits : Limits}
    (within : (Request.commit b).Within limits) : limits.Hold k v := by
  obtain ⟨-, -, values, names⟩ := within
  cases k with
  | object oid =>
      cases v with
      | bytes octets => exact (values _ h octets rfl).1
      | target _ => trivial
  | binding key =>
      cases key with
      | upper => trivial
      | name text =>
          cases v with
          | bytes _ => trivial
          | target oid => exact (names _ h).1

/-- A commit that has succeeded, and writes this value. -/
def Record.Stores (e : Record) (k : Key) (v : Value) : Prop :=
  e.done.outcome = .ok () ∧ ∃ b, e.request = .commit b ∧ b.Writes k v

namespace Server

/-- What a commit that succeeds has changed is on record. -/
theorem record?_of_committed? {s : Server} {op : Operation} {n : NodeId} {b : Batch}
    (committed : s.committed? op = some (n, b)) :
    ∃ e, s.record? op = some e ∧ e.request = .commit b ∧ e.done.outcome = .ok () := by
  rw [committed?] at committed
  split at committed
  · next id b' request =>
    obtain ⟨p, processed, done⟩ := Option.bind_eq_some_iff.mp committed
    rw [Option.ite_none_right_eq_some] at done
    obtain ⟨succeeded, same⟩ := done
    cases same
    refine ⟨⟨id, .commit b, p.2⟩, ?_, rfl, ?_⟩
    · rw [record?, request, Option.bind_some, processed]
      rfl
    · cases outcome : p.2.outcome with
      | ok => rfl
      | error e =>
          rw [outcome] at succeeded
          cases succeeded
  · cases committed

/-- A value is one that was there before, or one that has just been committed. -/
theorem stores_of_value?_step {s : Server} {op : Operation} {k : Key} {v : Value}
    (stored : (s.step op).store.value? k = some v) :
    s.store.value? k = some v ∨ ∃ e, s.record? op = some e ∧ e.Stores k v := by
  rw [value?_step] at stored
  split at stored
  · next n b committed =>
    rw [Store.value?_write] at stored
    cases last : b.lastWrite? k with
    | none =>
        rw [last] at stored
        exact .inl stored
    | some written =>
        rw [last, Option.getD_some] at stored
        obtain ⟨e, recorded, request, succeeded⟩ := record?_of_committed? committed
        refine .inr ⟨e, recorded, succeeded, b, request, Batch.writes_of_lastWrite? ?_⟩
        rw [last, stored]
  · exact .inl stored

/-- A commit that succeeds has no more writes than the server takes in one batch. -/
theorem length_le_of_commit {s : Server} {n : NodeId} {b : Batch}
    (succeeded : (s.commit n b).1 = .ok ()) :
    b.objects.length ≤ s.settings.maxBatch ∧ b.bindings.length ≤ s.settings.maxBatch := by
  rw [commit, checkBatch] at succeeded
  by_cases long : s.settings.maxBatch < max b.objects.length b.bindings.length
  · rw [if_pos long] at succeeded
    cases succeeded
  · exact Nat.max_le.mp (Nat.le_of_not_lt long)

theorem request_of_record? {s : Server} {id : SessionId} {r : Request} {e : Record}
    (recorded : s.record? (.process id r) = some e) : e.request = r := by
  obtain ⟨done, -, rfl⟩ := Option.map_eq_some_iff.mp recorded
  rfl

end Server

/-- What a step of a channel has its server process is within the limits. -/
theorem Channel.within_of_deed? {c : Channel} {h : Host}
    {result : Host × (Channel ⊕ ChannelSummary)} (step : c.step h = some result)
    {op : Server.Operation} (deed : c.deed? result.2 = some op) {e : Record}
    (recorded : h.server.record? op = some e) :
    e.request.Within h.server.settings.limits := by
  cases service_of_step step with
  | respond answer given stream answering octets moved =>
      exact absurd ((deed?_of_same rfl).symm.trans deed) nofun
  | finish ending given lost stream why octets moved =>
      cases deed
      cases recorded
  | digest bytes stream answered moved result digested =>
      rw [digest] at digested
      split at digested
      · next r rest arrived =>
        obtain ⟨p, processed, rfl⟩ := Option.map_eq_some_iff.mp digested
        cases (deed?_of_append (p := (r, p.2.outcome)) rfl).symm.trans deed
        rw [Server.request_of_record? recorded]
        exact ((Request.arrival_eq_frame_iff ..).mp arrived).2
      · cases digested
        exact absurd ((deed?_of_same rfl).symm.trans deed) nofun
      · cases digested
        exact absurd ((deed?_of_same rfl).symm.trans deed) nofun
      · cases digested
        cases deed
        cases recorded

namespace Switchboard

/-- Every value that is stored has come by a commit, and what has come by a channel is within the
limits. -/
structure Measured (settings : Settings) (b : Switchboard) : Prop where
  configured : b.server.settings = settings
  framed : ∀ e ∈ b.history, ∀ i, e.1 = some i → e.2.request.Within settings.limits
  counted : ∀ e ∈ b.history, ∀ batch, e.2.request = .commit batch → e.2.done.outcome = .ok () →
    batch.objects.length ≤ settings.maxBatch ∧ batch.bindings.length ≤ settings.maxBatch
  stored : ∀ k v, b.server.store.value? k = some v → ∃ e ∈ b.history, e.2.Stores k v

section Step

variable {settings : Settings} {b : Switchboard} (h : b.Measured settings)

include h

/-- The server has done what a line has asked of it, or a call in its own process. -/
theorem Measured.record (who : Option Nat) (op : Option Server.Operation) {s : Server}
    (done : s = (op.map b.server.step).getD b.server)
    (within : ∀ i, who = some i → ∀ e, op.bind b.server.record? = some e →
      e.request.Within settings.limits) (lines : List Line) :
    Measured settings
      ⟨s, lines, b.history ++ (op.bind b.server.record?).toList.map (who, ·)⟩ := by
  have now : ∀ e ∈ (op.bind b.server.record?).toList.map (who, ·),
      e.1 = who ∧ op.bind b.server.record? = some e.2 := by
    intro e among
    obtain ⟨r, found, rfl⟩ := List.mem_map.mp among
    exact ⟨rfl, Option.mem_toList.mp found⟩
  refine ⟨?_, ?_, ?_, ?_⟩
  · rw [done]
    cases op with
    | none => exact h.configured
    | some op => exact (b.server.settings_step op).trans h.configured
  · intro e among i come
    rcases List.mem_append.mp among with before | new
    · exact h.framed e before i come
    · exact within i ((now e new).1 ▸ come) e.2 (now e new).2
  · intro e among batch commit succeeded
    rcases List.mem_append.mp among with before | new
    · exact h.counted e before batch commit succeeded
    · obtain ⟨op, -, recorded⟩ := Option.bind_eq_some_iff.mp (now e new).2
      obtain ⟨session, processing⟩ := Server.processing_of_record? recorded
      rw [processing.outcome, commit] at succeeded
      rw [← h.configured]
      exact Server.length_le_of_commit succeeded
  · intro k v stored
    have old : b.server.store.value? k = some v ∨
        ∃ e, op.bind b.server.record? = some e ∧ e.Stores k v := by
      rw [done] at stored
      cases op with
      | none => exact .inl stored
      | some op => exact Server.stores_of_value?_step stored
    obtain before | ⟨e, found, stores⟩ := old
    · obtain ⟨e, among, stores⟩ := h.stored k v before
      exact ⟨e, List.mem_append_left _ among, stores⟩
    · refine ⟨(who, e), List.mem_append_right _ ?_, stores⟩
      exact List.mem_map_of_mem (Option.mem_toList.mpr found)

theorem Measured.step (sound : b.Sound) (action : Action) : (b.step action).Measured settings := by
  cases action with
  | operate op => exact h.record none (some op) rfl (by rintro _ ⟨⟩) b.lines
  | attach id stream =>
      rw [Switchboard.step, Switchboard.attach]
      split
      · next host c attached =>
        have claimed := h.record none (some (.attach id)) (Channel.of_attach attached).1
          (by rintro _ ⟨⟩) (b.lines ++ [⟨id, host.stream, .inl c, []⟩])
        rwa [show (some (.attach id)).bind b.server.record? = none from rfl, Option.toList_none,
          List.map_nil, List.append_nil] at claimed
      · exact h
  | serve i =>
      rw [Switchboard.step, Switchboard.serve]
      split
      · next id stream c written found =>
        split
        · next host task step =>
          refine h.record (some i) (c.deed? task) ((sound.lines i _ found).serve rfl step).server
            (fun _ _ e recorded => ?_) _
          obtain ⟨op, deed, recorded⟩ := Option.bind_eq_some_iff.mp recorded
          rw [← h.configured]
          exact Channel.within_of_deed? step deed recorded
        · exact h
      · exact h
  | stream i stream => exact ⟨h.configured, h.framed, h.counted, h.stored⟩

theorem Measured.after (sound : b.Sound) (actions : List Action) :
    (b.after actions).Measured settings := by
  induction actions generalizing b with
  | nil => exact h
  | cons action actions ih => exact ih (h.step sound action) (sound.step action)

end Step

theorem measured_start {settings : Settings} {place : Key → Nat} {start : Server}
    (new : Server.new settings place = .ok start) : Measured settings { server := start } := by
  rw [Server.eq_of_new new]
  refine ⟨rfl, fun _ among => absurd among List.not_mem_nil,
    fun _ among => absurd among List.not_mem_nil, fun k v stored => ?_⟩
  cases k with
  | object oid => cases stored
  | binding key => cases key <;> cases stored

/-- A value is within the limits, or a call in the server's own process has stored it. -/
theorem Measured.hold {settings : Settings} {b : Switchboard} (h : b.Measured settings) {k : Key}
    {v : Value} (stored : b.server.store.value? k = some v) :
    settings.limits.Hold k v ∨ ∃ e ∈ b.history, e.1 = none ∧ e.2.Stores k v := by
  obtain ⟨e, among, stores⟩ := h.stored k v stored
  cases come : e.1 with
  | none => exact .inr ⟨e, among, come, stores⟩
  | some i =>
      obtain ⟨-, batch, commit, writes⟩ := stores
      exact .inl (writes.hold (commit ▸ h.framed e among i come))

end Switchboard

/-- Whatever channels and calls in the server's own process do in turn, a channel has nothing
processed that is not within the limits, and no commit succeeds with more writes than a batch may
have. So an object that is longer than objects may be, or a bound name that is longer than names
may be, has been stored by a call in the server's own process. -/
theorem sizes_within_limits {settings : Settings} {place : Key → Nat} {start : Server}
    (new : Server.new settings place = .ok start) (actions : List Switchboard.Action) :
    let b := Switchboard.after { server := start } actions
    (∀ e ∈ b.history, ∀ i, e.1 = some i → e.2.request.Within settings.limits) ∧
    (∀ e ∈ b.history, ∀ batch, e.2.request = .commit batch → e.2.done.outcome = .ok () →
      batch.objects.length ≤ settings.maxBatch ∧ batch.bindings.length ≤ settings.maxBatch) ∧
    (∀ oid octets, b.server.store.object oid = some octets →
      octets.length ≤ settings.maxValue ∨
        ∃ e ∈ b.history, e.1 = none ∧ e.2.Stores (.object oid) (.bytes octets)) ∧
    ∀ name oid, b.server.store.binding name = some oid →
      Text.Utf8.size name ≤ settings.maxName ∨
        ∃ e ∈ b.history, e.1 = none ∧ e.2.Stores (.binding (.name name)) (.target oid) := by
  intro b
  have started : start.Started := ⟨settings, place, start, new, rfl⟩
  have measured : b.Measured settings :=
    (Switchboard.measured_start new).after (Switchboard.sound_start started) actions
  refine ⟨measured.framed, measured.counted, fun oid octets stored => ?_,
    fun name oid bound => ?_⟩
  · exact measured.hold (k := .object oid) (congrArg (Option.map Value.bytes) stored)
  · exact measured.hold (k := .binding (.name name)) (congrArg (Option.map Value.target) bound)

/-- A server that takes values of two octets, as it starts. -/
def Switchboard.tight : Server :=
  ⟨{ shards := 1, maxValue := 2, feedCapacity := 1 }, .new Key.place 1, {}, {}, .new 1⟩

/-- Node 1 commits a value of two octets by its channel, and one of three octets by a call. -/
def Switchboard.sized : List Switchboard.Action :=
  let sent := (Request.commit (.store {} 10 [1, 2])).frame
  [.operate (.register 1), .operate (.directory (.grant (.object 10) 1 .write)),
    .operate (.directory (.grant (.object 11) 1 .write)),
    .attach 0 ⟨⟨64, .ofList sent, false⟩, ⟨4096, .ofList [], false⟩, {}, 8⟩, .serve 0,
    .operate (.call 1 (.commit (.store {} 11 [1, 2, 3])))]

theorem sizes_within_limits_sized :
    let b := Switchboard.after { server := Switchboard.tight } Switchboard.sized
    Server.new Switchboard.tight.settings Key.place = .ok Switchboard.tight ∧
    b.history.map Prod.fst = [some 0, none] ∧
    (∀ e ∈ b.history, ∀ i, e.1 = some i → e.2.request.Within Switchboard.tight.settings.limits) ∧
    b.server.store.object 10 = some [1, 2] ∧
    ∃ e ∈ b.history, e.1 = none ∧ e.2.Stores (.object 11) (.bytes [1, 2, 3]) := by
  intro b
  have new : Server.new Switchboard.tight.settings Key.place = .ok Switchboard.tight := rfl
  obtain ⟨framed, -, objects, -⟩ := sizes_within_limits new Switchboard.sized
  refine ⟨new, by decide, framed, by decide, ?_⟩
  exact (objects 11 [1, 2, 3] (by decide)).resolve_left (by decide)

/-- A call in the server's own process can store an object that is longer than objects may be. -/
theorem oversized_by_call :
    let b := Switchboard.after { server := Switchboard.tight }
      [.operate (.register 1), .operate (.directory (.grant (.object 10) 1 .write)),
        .operate (.call 1 (.commit (.store {} 10 [0, 0, 0])))]
    Switchboard.tight.settings.check = .ok () ∧
    ∃ octets, b.server.store.object 10 = some octets ∧
      Switchboard.tight.settings.maxValue < octets.length :=
  ⟨by decide, [0, 0, 0], by decide, by decide⟩

end CacheCoherence
