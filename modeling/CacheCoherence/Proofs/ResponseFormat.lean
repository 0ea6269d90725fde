import CacheCoherence.Frame.Response
import CacheCoherence.Proofs.FrameSequence

/-!
The response format. A response is read from its frame with its message cut,
which always fits into the length that a reader of responses allows. What the
node is told of an outcome depends on the outcome alone.
-/

namespace CacheCoherence

open CacheCoherence.Frame CacheCoherence.Frame.Reader

namespace Frame.Reader

variable {α β : Type} {p : ChannelError → Prop}

/-- Whatever the reader refuses octets for, `p` holds of it. -/
def RefusesFor (r : Reader α) (p : ChannelError → Prop) : Prop :=
  ∀ bytes e, (r.attempt bytes).1 = .error (.refused e) → p e

theorem refusesFor_pure (x : α) : (pure x : Reader α).RefusesFor p := by
  intro bytes e refused
  cases refused

theorem refusesFor_throw {e : ChannelError} (h : p e) :
    (throw (.refused e) : Reader α).RefusesFor p := by
  intro bytes e' refused
  cases refused
  exact h

theorem refusesFor_octets (context : String) (n : Nat) : (octets context n).RefusesFor p := by
  intro bytes e refused
  change (if isShorter bytes n then _ else _ : Except ReadFailure _ × _).1 = _ at refused
  split at refused <;> cases refused

theorem RefusesFor.bind {r : Reader α} {f : α → Reader β} (h : r.RefusesFor p)
    (hf : ∀ x, (f x).RefusesFor p) : (r >>= f).RefusesFor p := by
  intro bytes e refused
  rw [attempt_bind] at refused
  cases read : r.attempt bytes with
  | mk answer rest =>
      rw [read] at refused
      cases answer with
      | ok x => exact hf x rest e refused
      | error failure =>
          cases refused
          exact h bytes e (by rw [read])

theorem RefusesFor.map {r : Reader α} (f : α → β) (h : r.RefusesFor p) :
    (do return f (← r)).RefusesFor p :=
  h.bind fun x => refusesFor_pure (f x)

theorem RefusesFor.unless {r : Reader α} (h : r.RefusesFor p) {c : Prop} [Decidable c]
    {reason : String} (form : p (.malformed reason)) :
    (if c then malformed reason >>= fun _ : Unit => r else r).RefusesFor p := by
  split
  · exact (refusesFor_throw form).bind fun _ => h
  · exact h

theorem refusesFor_text (context : String) (limit : Nat)
    (form : ∀ reason, p (.malformed reason)) : (text context limit).RefusesFor p := by
  have body : (body context limit).RefusesFor p := by
    refine ((refusesFor_octets context 4).map _).bind fun i => ?_
    split
    · exact refusesFor_pure none
    · have octets := (refusesFor_octets (p := p) context i.toNat).map some
      exact (octets.unless (form _)).unless (form _)
  refine body.bind fun read => ?_
  cases read with
  | none => exact refusesFor_pure none
  | some bytes =>
      dsimp only
      cases Text.Utf8.decode bytes with
      | ok s => exact refusesFor_pure (some s)
      | error fault => exact refusesFor_throw (form _)

end Frame.Reader

/-- What a node is told of an outcome. -/
def Outcome.reply : Outcome → Outcome
  | .ok () => .ok ()
  | .error (.consistency e) => .error (.consistency (.reported (Response.clip e.message)))
  | .error e => .error (.input (.rejected (Response.clip e.message)))

namespace Response

theorem length_clipChars (room : Nat) (chars : List Char) :
    ((clipChars room chars).flatMap String.utf8EncodeChar).length ≤ room := by
  induction chars generalizing room with
  | nil => exact Nat.zero_le room
  | cons c rest ih =>
      rw [clipChars]
      split
      · next fits =>
        have shorter := ih (room - c.utf8Size)
        rw [List.flatMap_cons, List.length_append, String.length_utf8EncodeChar]
        omega
      · exact Nat.zero_le room

theorem size_clip (m : String) : Text.Utf8.size (clip m) ≤ maxMessage := by
  have short := length_clipChars maxMessage m.toList
  rwa [← String.toList_ofList (l := clipChars maxMessage m.toList), ← clip,
    ← Text.Utf8.encode, Text.Utf8.length_encode] at short

theorem length_frame_le (r : Response) : r.frame.length ≤ maxMessage + 5 := by
  have bound : ∀ m, (writeString (some (clip m))).length ≤ maxMessage + 4 := by
    intro m
    have short := size_clip m
    rw [← Text.Utf8.length_encode] at short
    simp only [writeString, writeBlob, writeLength, Option.map_some, List.length_append,
      length_ofNat]
    omega
  cases r with
  | ok => exact Nat.le_add_left 1 _
  | fault m | rejected m => exact Nat.succ_le_succ (bound m)

theorem attempt_readMessage (m : String) (rest : List UInt8) :
    readMessage.attempt (writeString (some (clip m)) ++ rest) = (.ok (clip m), rest) := by
  have fits : ∀ s ∈ some (clip m), Fits maxMessage (Text.Utf8.size s) := by
    intro s hs
    cases hs
    exact ⟨size_clip m, Nat.le_trans (size_clip m) (by decide)⟩
  rw [readMessage, attempt_bind, (exact_text "message" maxMessage ..).mpr ⟨rfl, fits⟩]
  rfl

theorem steady_readMessage : readMessage.Steady :=
  (steady_text "message" maxMessage).map _

/-- The response with its message cut, as a node reads it. -/
def clipped : Response → Response
  | .ok => .ok
  | .fault m => .fault (clip m)
  | .rejected m => .rejected (clip m)

theorem attempt_read_frame (r : Response) (rest : List UInt8) :
    read.attempt (r.frame ++ rest) = (.ok (some r.clipped), rest) := by
  have begun : ∀ status bytes, start.attempt (status :: bytes) = (.ok (some status), bytes) :=
    fun _ _ => rfl
  cases r with
  | ok => rfl
  | fault m | rejected m =>
      simp only [frame, List.cons_append, read, attempt_bind, begun, attempt_readMessage,
        attempt_pure, clipped]

theorem reads : read.Reads frame clipped fun _ => True where
  empty := rfl
  frame r rest _ := attempt_read_frame r rest
  steady status bytes := by
    have begun : start.SteadyOn (status :: bytes) := .inr fun _ => rfl
    refine begun.bind fun first => ?_
    split
    · exact steady_pure none
    · exact steady_pure _
    · exact steady_readMessage.map _
    · exact steady_readMessage.map _
    · exact steady_throw _

theorem length_le_of_readMessage {bytes rest : List UInt8} {m : String}
    (found : readMessage.attempt bytes = (.ok m, rest)) : rest.length ≤ bytes.length := by
  obtain ⟨text, middle, read, given⟩ := (attempt_bind_eq_ok ..).mp found
  cases given
  rw [((exact_text "message" maxMessage _ _ _).mp read).1, List.length_append]
  exact Nat.le_add_left ..

theorem divides : read.Divides where
  empty := rfl
  shorter {bytes rest x} found := by
    cases bytes with
    | nil => cases found
    | cons status bytes =>
        have message : ∀ f : String → Option Response,
            (do return f (← readMessage)).attempt bytes = (.ok (some x), rest) →
              rest.length < (status :: bytes).length := by
          intro f given
          obtain ⟨m, middle, taken, eq⟩ := (attempt_bind_eq_ok ..).mp given
          have same : middle = rest := congrArg Prod.snd eq
          exact Nat.lt_succ_of_le (same ▸ length_le_of_readMessage taken)
        obtain ⟨first, middle, begun, found⟩ := (attempt_bind_eq_ok ..).mp found
        cases begun
        split at found
        · cases found
        · cases found
          exact Nat.lt_succ_self _
        · exact message _ found
        · exact message _ found
        · cases found
  steady := reads.steady

/-- What a response can be refused for: its status, or the form of its message. -/
def isRefusal : ChannelError → Bool
  | .unknownStatus _ | .malformed _ => true
  | _ => false

theorem refusesFor_read : read.RefusesFor (isRefusal · = true) := by
  have message : readMessage.RefusesFor (isRefusal · = true) :=
    (refusesFor_text "message" maxMessage fun _ => rfl).map _
  have begun : start.RefusesFor (isRefusal · = true) := by
    intro bytes e refused
    cases bytes <;> cases refused
  refine begun.bind fun first => ?_
  split
  · exact refusesFor_pure none
  · exact refusesFor_pure _
  · exact message.map _
  · exact message.map _
  · exact refusesFor_throw rfl

theorem isRefusal_of_arrival {bytes : List UInt8} {e : ChannelError}
    (arrived : read.arrival bytes = .refused e) : isRefusal e = true := by
  rw [arrival] at arrived
  split at arrived
  · cases arrived
  · cases arrived
  · cases arrived
  · next found =>
    cases arrived
    exact refusesFor_read bytes e (by rw [found])

theorem toOutcome_clipped (o : Outcome) : (ofOutcome o).clipped.toOutcome = o.reply := by
  cases o with
  | ok => rfl
  | error e => cases e <;> rfl

end Response

end CacheCoherence
