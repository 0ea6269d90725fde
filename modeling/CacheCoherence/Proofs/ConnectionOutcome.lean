import CacheCoherence.Proofs.ConnectionRun

/-!
A connection from its first octet to its return. Without a greeting, or with the
greeting of a node that is registered, it does nothing to the server. With
another greeting it registers a session, serves the octets behind the greeting
as its channel, and closes it.
-/

namespace CacheCoherence

open Server

namespace Admission

/-- The connection has done nothing to the server, and has written nothing. -/
structure Untouched (s : Server) (a : Admission) : Prop where
  server : a.server = s.after (ops a.others)
  written : a.written = []

/-- What a node is told that is registered already. -/
def refusal (n : NodeId) : List UInt8 :=
  (Response.rejected (Error.input (.alreadyRegistered n)).message).frame

/-- How far a connection has come that refuses a node, having written some octets. -/
inductive Refusing (n : NodeId) (written : List UInt8) (found : List Endpoint) :
    Connection ⊕ ConnectionResult → Prop where
  | refusing {rest} (told : written ++ rest = refusal n) :
      Refusing n written found (.inl (.refusing rest (.input (.alreadyRegistered n))))
  | returned (told : written = refusal n) :
      Refusing n written found (.inr (.error (.input (.alreadyRegistered n))))
  /-- The refusal could not be written. -/
  | failed (f : StreamFault) (stream : Endpoint) (among : stream ∈ found)
      (broken : stream.Unwritable f) (told : written <+: refusal n) :
      Refusing n written found (.inr (.error (.channel (f.toError "frame"))))

/-- The connection has done nothing to the server, has taken no octet behind the greeting, and has
written the refusal as far as it got. -/
structure Refused (s : Server) (n : NodeId) (a : Admission) : Prop where
  server : a.server = s.after (ops a.others)
  taken : a.taken = Hello.frame n
  refusing : Refusing n a.written a.found a.task

/-- What a connection comes to, at any time: its greeting is not there yet, or will never be, or it
has been refused, or a session has been registered for it. -/
inductive Course (s : Server) (a : Admission) : Prop where
  | greeting (task : a.task = .inl (.greeting a.taken)) (few : a.taken.length ≤ 8)
      (untouched : Untouched s a)
  | cut (e : ChannelError) (task : a.task = .inr (.error (.channel e))) (stream : Endpoint)
      (among : stream ∈ a.found) (why : Connection.Ungreeted stream a.taken e)
      (none : ∀ n, ¬Hello.frame n <+: a.taken) (untouched : Untouched s a)
  | refused (n : NodeId) (before later : List (Server × Operation))
      (split : a.others = before ++ later)
      (registered : (s.after (ops before)).register n = .error (.alreadyRegistered n))
      (refused : Refused s n a)
  | admitted (n : NodeId) (before later : List (Server × Operation)) (t : Server) (id : SessionId)
      (handled : List (Request × Outcome)) (deeds : List (Operation × Option Outcome))
      (split : a.others = before ++ later)
      (registered : (s.after (ops before)).register n = .ok (t, id))
      (admitted : Admitted t id n later handled deeds a)

section Course

variable {s : Server} {a : Admission}

theorem course_start (s : Server) (stream : Endpoint) : Course s (start s stream) :=
  .greeting rfl (Nat.zero_le 8) ⟨rfl, rfl⟩

theorem after_ops_concat (h : a.server = s.after (ops a.others)) (op : Operation) :
    a.server.step op = s.after (ops (a.others ++ [(a.server, op)])) := by
  rw [ops_concat, after_concat, ← h]

theorem Course.other (h : Course s a) (op : Operation) : Course s (a.step (.other op)) := by
  have split : ∀ {before later}, a.others = before ++ later →
      a.others ++ [(a.server, op)] = before ++ (later ++ [(a.server, op)]) := by
    intro before later split
    rw [split, List.append_assoc]
  cases h with
  | greeting task few untouched =>
      exact .greeting task few ⟨after_ops_concat untouched.server op, untouched.written⟩
  | cut e task stream among why none untouched =>
      exact .cut e task stream among why none
        ⟨after_ops_concat untouched.server op, untouched.written⟩
  | refused n before later others registered refused =>
      exact .refused n before _ (split others) registered
        ⟨after_ops_concat refused.server op, refused.taken, refused.refusing⟩
  | admitted n before later t id handled deeds others registered admitted =>
      exact .admitted n before _ t id handled deeds (split others) registered (admitted.other op)

theorem Course.peer (h : Course s a) (stream : Endpoint) : Course s (a.step (.peer stream)) := by
  cases h with
  | greeting task few untouched => exact .greeting task few ⟨untouched.server, untouched.written⟩
  | cut e task found among why none untouched =>
      exact .cut e task found among why none ⟨untouched.server, untouched.written⟩
  | refused n before later others registered refused =>
      exact .refused n before later others registered
        ⟨refused.server, refused.taken, refused.refusing⟩
  | admitted n before later t id handled deeds others registered admitted =>
      exact .admitted n before later t id handled deeds others registered
        ⟨admitted.greeted, admitted.conduct, admitted.tenure, admitted.standing, admitted.ended⟩

theorem Refused.proceed {n : NodeId} (h : Refused s n a) : Refused s n a.proceed := by
  have refusing := h.refusing
  generalize running : a.task = task at refusing
  cases refusing with
  | returned _ | failed _ _ _ _ _ =>
      rw [proceed_of_returned running]
      exact h
  | refusing told =>
      cases stepped : (Connection.refusing _ _).step a.host with
      | none =>
          rw [proceed_of_idle running stepped]
          exact h
      | some result =>
          cases Connection.move_of_step stepped with
          | refuse given left stream octets moved =>
              rw [proceed_eq running stepped moved, List.append_nil]
              rw [octets, ← List.append_assoc] at told
              exact ⟨h.server, h.taken, .refusing told⟩
          | refused stream moved =>
              rw [proceed_eq running stepped moved.drop, List.append_nil]
              exact ⟨h.server, h.taken, .returned told⟩
          | unrefused f given stream broken octets moved =>
              rw [proceed_eq running stepped moved.drop, List.append_nil]
              obtain ⟨left, rfl⟩ := octets
              rw [← List.append_assoc] at told
              exact ⟨h.server, h.taken, .failed f a.stream a.mem_found broken ⟨left, told⟩⟩

/-- A greeting that is there is all that has been taken. -/
theorem taken_of_greeted {n : NodeId} (few : a.taken.length ≤ 8)
    (whole : Hello.frame n <+: a.taken) : a.taken = Hello.frame n := by
  refine (whole.eq_of_length ?_).symm
  have length := whole.length_le
  rw [Hello.length_frame] at length ⊢
  omega

theorem tenure_of_register {r t : Server} (reachable : r.Reachable) {n : NodeId} {id : SessionId}
    (registered : r.register n = .ok (t, id)) : Tenure t id n [] [] t ∧ t.Up id := by
  obtain ⟨-, rfl, rfl⟩ := register_eq_ok registered
  have there : (r.registry.enrol n).session? r.registry.sessions.length = some { node := n } := by
    rw [Registry.session?_enrol, if_pos rfl]
  have fenced := fenced_of_reachable reachable n
  refine ⟨⟨.refl, ?_, ⟨fenced.sound.enrol n, fenced.kept, fun _ _ => .inl ?_⟩, fun _ _ => ?_⟩,
    _, there, rfl⟩
  · rw [nodeOf, there]
    rfl
  · rw [Registry.mem_nodes_iff, Registry.enrol, SortedMap.get?_insert, if_pos rfl]
    exact ⟨_, rfl⟩
  · exact ⟨_, there, rfl⟩

theorem Course.greet (reachable : s.Reachable) (untouched : Untouched s a) {n : NodeId}
    (taken : a.taken = Hello.frame n) :
    Course s
      { a with
        host := (Connection.welcome a.host n).1
        task := .inl (Connection.welcome a.host n).2
        found := a.found ++ [a.stream] } := by
  rw [Connection.welcome]
  cases registered : a.host.server.register n with
  | error e =>
      dsimp only
      have known : e = .alreadyRegistered n := by
        rw [Server.register, Registry.register_eq] at registered
        cases live : a.host.server.registry.live.get? n <;> rw [live] at registered <;>
          cases registered
        rfl
      subst known
      have told : a.written ++ refusal n = refusal n := by
        rw [untouched.written]
        rfl
      refine .refused n a.others [] (List.append_nil _).symm ?_
        ⟨untouched.server, taken, .refusing told⟩
      rw [← untouched.server]
      exact registered
  | ok given =>
      obtain ⟨t, id⟩ := given
      have reached : a.server.Reachable := by
        rw [untouched.server]
        exact reachable_after reachable _
      have greeted : Hello.frame n <+: a.taken := taken ▸ List.prefix_rfl
      have told : a.written ++ Response.ok.frame = Response.ok.frame := by
        rw [untouched.written]
        rfl
      have none : a.taken.drop 8 = [] := by
        rw [taken]
        exact List.drop_eq_nil_of_le (Nat.le_of_eq (Hello.length_frame n))
      obtain ⟨tenure, up⟩ := tenure_of_register reached registered
      refine .admitted n a.others [] t id [] [] (List.append_nil _).symm ?_
        (admitted_of_running rfl greeted (.welcoming told none) tenure (.inl up))
      rw [← untouched.server]
      exact registered

theorem others_proceed (a : Admission) : a.proceed.others = a.others := by
  rw [Admission.proceed]
  split
  · rfl
  · split <;> rfl

theorem Course.proceed (reachable : s.Reachable) (h : Course s a) : Course s a.proceed := by
  cases h with
  | cut e task stream among why none untouched =>
      rw [proceed_of_returned task]
      exact .cut e task stream among why none untouched
  | refused n before later split registered refused =>
      exact .refused n before later (a.others_proceed.trans split) registered refused.proceed
  | admitted n before later t id handled deeds split registered admitted =>
      obtain ⟨handled, deeds, admitted⟩ := admitted.proceed
      exact .admitted n before later t id handled deeds (a.others_proceed.trans split) registered
        admitted
  | greeting running few untouched =>
      cases stepped : (Connection.greeting a.taken).step a.host with
      | none =>
          rw [proceed_of_idle running stepped]
          exact .greeting running few untouched
      | some result =>
          cases Connection.move_of_step stepped with
          | read bytes stream few moved =>
              rw [proceed_eq running stepped moved, List.append_nil]
              refine .greeting rfl ?_ ⟨untouched.server, untouched.written⟩
              rw [List.length_append]
              exact few
          | cut e why none =>
              rw [proceed_eq running stepped a.stream.moved_refl.drop, List.append_nil,
                List.append_nil]
              exact .cut e rfl a.stream a.mem_found why none
                ⟨untouched.server, untouched.written⟩
          | greeted n whole =>
              have still : a.stream.Moved (Connection.welcome a.host n).1.stream [] [] := by
                rw [Connection.stream_welcome]
                exact a.stream.moved_refl
              rw [proceed_eq running stepped still, List.append_nil, List.append_nil]
              exact .greet reachable untouched (taken_of_greeted few whole)

theorem Course.after (reachable : s.Reachable) (h : Course s a) (run : List Event) :
    Course s (a.after run) := by
  induction run generalizing a with
  | nil => exact h
  | cons e rest ih =>
      apply ih
      cases e with
      | proceed => exact h.proceed reachable
      | peer stream => exact h.peer stream
      | other op => exact h.other op

theorem Course.present (h : Course s a) {c : Connection} (running : a.task = .inl c) :
    ∀ id ∈ c.session?, a.server.registry.session? id ≠ none := by
  cases h with
  | greeting task few untouched =>
      cases running.symm.trans task
      nofun
  | cut e task stream among why none untouched => cases running.symm.trans task
  | refused n before later split registered refused =>
      have refusing := refused.refusing
      rw [running] at refusing
      cases refusing with
      | refusing told => nofun
  | admitted n before later t id handled deeds split registered admitted =>
      obtain ⟨session, there, -⟩ := Option.map_eq_some_iff.mp admitted.tenure.node
      have present : a.server.registry.session? id ≠ none := there ▸ Option.some_ne_none session
      have conduct := admitted.conduct
      rw [running] at conduct
      cases conduct with
      | welcoming told none => nofun
      | starting told none =>
          rintro id ⟨⟩
          exact present
      | serving c orderly =>
          rintro id ⟨⟩
          rw [orderly.session]
          exact present

end Course

/-- A connection whose channel waits for octets to come, though it is its turn, has processed all
requests among those that it has taken. -/
theorem Admitted.caughtUp {t : Server} {id : SessionId} {n : NodeId}
    {later : List (Server × Operation)} {handled : List (Request × Outcome)}
    {deeds : List (Operation × Option Outcome)} {a : Admission}
    (h : Admitted t id n later handled deeds a) {c : Channel}
    (running : a.task = .inl (.serving c)) (answered : c.answer = none)
    (turn : a.stream.allowance ≠ 0) (idle : c.step a.host = none) :
    (t.readAll (a.taken.drop 8)).1 = handled.map Prod.fst := by
  obtain ⟨orderly, rfl, -⟩ := h.orderly running
  obtain ⟨session, there, -⟩ := Option.map_eq_some_iff.mp h.tenure.node
  have present : a.host.server.registry.session? c.session ≠ none := by
    rw [orderly.session]
    exact there ▸ Option.some_ne_none session
  have lacking := Channel.lacking_of_step_none present answered turn idle
  rw [Channel.arrival, show a.host.server.settings = t.settings from h.tenure.became.settings]
    at lacking
  exact orderly.all_of_lacking lacking

/-- Whatever the other side sends, and whatever others do to the server: a connection without a
greeting does nothing to the server and says nothing. With the greeting of a node that is registered
then it takes no more octets, does nothing to the server, and tells the node so. With that of
another node it welcomes the node and serves the octets behind the greeting: where it waits for more
it has processed all requests among them, and when it has returned there is a reason for those that
it has not. Its session is over then, unless somebody else has claimed it, and the node holds a key
only if it is registered again or was granted the key while it was not. Until it returns it waits
for its stream only. -/
theorem untouched_or_undone {s : Server} (reachable : s.Reachable) (stream : Endpoint)
    (run : List Event) :
    let a := (start s stream).after run
    ((∀ n, ¬Hello.frame n <+: a.taken) → Untouched s a ∧
      ∀ result, a.task = .inr result → ∃ e : ChannelError, result = .error (.channel e) ∧
        ∃ stream ∈ a.found, Connection.Ungreeted stream a.taken e) ∧
    (∀ n, Hello.frame n <+: a.taken →
      (a.task = .inl (.greeting (Hello.frame n)) ∧ Untouched s a) ∨
      ∃ before later, a.others = before ++ later ∧
        match (s.after (ops before)).register n with
        | .error e => e = .alreadyRegistered n ∧ Refused s n a
        | .ok (t, id) => ∃ handled deeds,
            Conduct t id n a.written (a.taken.drop 8) a.found later a.task handled deeds ∧
            (∀ c, a.task = .inl (.serving c) → c.answer = none → a.stream.allowance ≠ 0 →
              c.step a.host = none → (t.readAll (a.taken.drop 8)).1 = handled.map Prod.fst) ∧
            t.Became deeds (ops later) a.server ∧
            ∀ result, a.task = .inr result → Uncontested later id →
              a.server.registry.Over id n ∧
              ∀ k, (a.server.directory.state k).holds n = true →
                n ∈ a.server.registry.nodes ∨ Strayed later n k) ∧
    ∀ c, a.task = .inl c → c.step a.host = none → a.stream.Waits := by
  intro a
  have course : Course s a := (course_start s stream).after reachable run
  have same : ∀ {m n}, Hello.frame m <+: a.taken → Hello.frame n <+: a.taken → m = n := by
    intro m n hm hn
    rw [Hello.frame_prefix_iff] at hm hn
    exact Except.ok.inj (hm.symm.trans hn)
  refine ⟨fun none => ?_, fun n greeted => ?_, fun c running idle => ?_⟩
  · cases course with
    | greeting task few untouched => exact ⟨untouched, fun _ returned => nomatch task ▸ returned⟩
    | cut e task stream among why absent untouched =>
        refine ⟨untouched, fun result returned => ⟨e, ?_, stream, among, why⟩⟩
        exact (Sum.inr.inj (task.symm.trans returned)).symm
    | refused n before later split registered refused =>
        exact absurd (refused.taken ▸ List.prefix_rfl) (none n)
    | admitted n before later t id handled deeds split registered admitted =>
        exact absurd admitted.greeted (none n)
  · cases course with
    | greeting task few untouched => exact .inl ⟨taken_of_greeted few greeted ▸ task, untouched⟩
    | cut e task stream among why absent untouched => exact absurd greeted (absent n)
    | refused m before later split registered refused =>
        have whole : Hello.frame m <+: a.taken := refused.taken ▸ List.prefix_rfl
        obtain rfl := same whole greeted
        refine .inr ⟨before, later, split, ?_⟩
        rw [registered]
        exact ⟨rfl, refused⟩
    | admitted m before later t id handled deeds split registered admitted =>
        obtain rfl := same admitted.greeted greeted
        refine .inr ⟨before, later, split, ?_⟩
        rw [registered]
        refine ⟨handled, deeds, admitted.conduct, fun c => admitted.caughtUp,
          admitted.tenure.became, ?_⟩
        intro result returned alone
        refine ⟨admitted.ended result returned alone, fun k holds => ?_⟩
        exact admitted.tenure.fenced.registered k ((Access.State.holds_iff _ m).mp holds)
  · exact Connection.waits_of_step_none (course.present running) idle

/-- A node sends its greeting and a request and closes its side. It is granted two objects as soon
as it is registered. -/
def visited : List Event :=
  let octets := Hello.frame 1 ++ (Request.evictObject 10).frame
  [.peer ⟨⟨64, .ofList octets, true⟩, ⟨64, .ofList [], false⟩, {}, 8⟩, .proceed, .proceed,
    .other (.directory (.grant (.object 10) 1 .write)),
    .other (.directory (.grant (.object 11) 1 .write)), .proceed, .proceed, .proceed, .proceed,
    .proceed]

theorem untouched_or_undone_visited :
    let s : Server := ⟨{ shards := 1, feedCapacity := 1 }, .new Key.place 1, {}, {}, .new 1⟩
    let stream : Endpoint := ⟨⟨64, .ofList [], false⟩, ⟨64, .ofList [], false⟩, {}, 8⟩
    let a := (start s stream).after visited
    a.written = Response.ok.frame ++ Response.ok.frame ∧ a.task = .inr (.ok ⟨1, 1, .closed⟩) ∧
    ∃ t id handled later deeds, handled.map Prod.fst = [.evictObject 10] ∧
      Conduct t id 1 a.written (Request.evictObject 10).frame a.found later a.task handled deeds ∧
      a.server.registry.Over id 1 ∧ ∀ k, (a.server.directory.state k).holds 1 = false := by
  intro s stream a
  have reachable : s.Reachable :=
    ⟨s, [], ⟨{ shards := 1, feedCapacity := 1 }, Key.place, s, rfl, rfl⟩, rfl⟩
  have taken : a.taken = Hello.frame 1 ++ (Request.evictObject 10).frame := by decide +kernel
  have written : a.written = Response.ok.frame ++ Response.ok.frame := by decide +kernel
  have task : a.task.getRight? = some (.ok ⟨1, 1, .closed⟩) := by decide +kernel
  have returned := Sum.getRight?_eq_some_iff.mp task
  have granted : ∀ x ∈ a.others, x.2.grantee? = some 1 ∧ 1 ∈ x.1.registry.nodes := by
    decide +kernel
  have unregistered : a.server.registry.nodes = [] := by decide +kernel
  have main := untouched_or_undone reachable stream visited
  rw [show (start s stream).after visited = a from rfl] at main
  clear_value a
  have greeted : Hello.frame 1 <+: a.taken := taken ▸ List.prefix_append _ _
  obtain ⟨task, -⟩ | ⟨before, later, split, come⟩ := main.2.1 1 greeted
  · cases task.symm.trans returned
  · have all : ∀ x ∈ later, x ∈ a.others := fun x hx => split ▸ List.mem_append_right before hx
    cases decided : (s.after (ops before)).register 1 with
    | error e =>
        rw [decided] at come
        have short := taken.symm.trans come.2.taken
        exact absurd short (by decide)
    | ok given =>
        obtain ⟨t, id⟩ := given
        rw [decided] at come
        obtain ⟨handled, deeds, conduct, -, -, undone⟩ := come
        have alone : Uncontested later id := fun x claimed => nomatch (granted _ (all _ claimed)).1
        obtain ⟨ended, held⟩ := undone _ returned alone
        rw [taken] at conduct
        refine ⟨written, returned, t, id, handled, later, deeds, ?_, conduct, ended, fun k => ?_⟩
        · have settings : t.settings = s.settings := by
            obtain ⟨-, -, rfl⟩ := register_eq_ok decided
            exact s.settings_after (ops before)
          have all := (returned ▸ conduct).all_of_closed
          rw [readAll, settings] at all
          exact (congrArg Prod.fst all).symm.trans (by decide +kernel)
        · rw [Bool.eq_false_iff]
          intro holds
          obtain member | ⟨x, level, stray, absent, -⟩ := held k holds
          · rw [unregistered] at member
            cases member
          · exact absent (granted _ (all _ stray)).2

/-- The registration of the node ends while it is being welcomed, and it is granted an object for
writing after that. -/
def evicted : List Event :=
  [.peer ⟨⟨64, .ofList (Hello.frame 1), false⟩, ⟨64, .ofList [], false⟩, {}, 8⟩, .proceed, .proceed,
    .other (.unregister 1), .other (.directory (.grant (.object 10) 1 .write)), .proceed, .proceed,
    .proceed]

/-- Its connection returns, and the node still holds the object though it is not registered. Grants
do not ask who is registered, and a session is not released for a second time. -/
theorem held_after_return :
    let s : Server := ⟨{ shards := 1, feedCapacity := 1 }, .new Key.place 1, {}, {}, .new 1⟩
    let a := (start s ⟨⟨64, .ofList [], false⟩, ⟨64, .ofList [], false⟩, {}, 8⟩).after evicted
    a.taken = Hello.frame 1 ∧ a.written = Response.ok.frame ∧
      ops a.others = [.unregister 1, .directory (.grant (.object 10) 1 .write)] ∧
      a.task = .inr (.ok ⟨1, 0, .shutDown⟩) ∧ a.server.registry.nodes = [] ∧
      (a.server.directory.state (.object 10)).levelOf 1 = some .write := by
  refine ⟨by decide +kernel, by decide +kernel, rfl, rfl, by decide +kernel, by decide +kernel⟩

end Admission

end CacheCoherence
