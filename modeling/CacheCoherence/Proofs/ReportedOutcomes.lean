import CacheCoherence.Proofs.CutStream
import CacheCoherence.Proofs.ResponseFormat
import CacheCoherence.Proofs.Utf8Order
import Mathlib.Data.List.Forall2

/-!
Outcomes as a node is told of them. However many there are and whatever their
texts, the responses to them are read back one by one up to a clean end. A text
too long for a response is cut where a character ends, as late as the length
allows; what has been read is short enough and is not cut again.
-/

namespace CacheCoherence

/-- Of the beginnings of a text that end where a character does and take at most `limit` octets,
`cut` is the longest. -/
structure Text.Cut (limit : Nat) (text cut : String) : Prop where
  beginning : Utf8.encode cut <+: Utf8.encode text
  short : (Utf8.encode cut).length ≤ limit
  longest : ∀ other, Utf8.encode other <+: Utf8.encode text →
    (Utf8.encode other).length ≤ limit → Utf8.encode other <+: Utf8.encode cut

/-- A text that is short enough is not cut. -/
theorem Text.Cut.eq_self {limit : Nat} {text cut : String} (h : Cut limit text cut)
    (short : Utf8.size text ≤ limit) : cut = text := by
  rw [← Utf8.length_encode] at short
  have whole := (Utf8.encode_prefix_iff ..).mp (h.longest text List.prefix_rfl short)
  have part := (Utf8.encode_prefix_iff ..).mp h.beginning
  exact String.toList_injective (part.sublist.antisymm whole.sublist)

/-- What a node may be told of an outcome. -/
inductive Outcome.Told : Outcome → Outcome → Prop where
  | ok : Told (.ok ()) (.ok ())
  | fault (e : ConsistencyFault) {m : String} (cut : Text.Cut Response.maxMessage e.message m) :
      Told (.error (.consistency e)) (.error (.consistency (.reported m)))
  | rejected {e : Error} (other : e.isConsistencyFault = false) {m : String}
      (cut : Text.Cut Response.maxMessage e.message m) :
      Told (.error e) (.error (.input (.rejected m)))

namespace Response

open CacheCoherence.Frame CacheCoherence.Frame.Reader

theorem clipChars_prefix (room : Nat) (chars : List Char) : clipChars room chars <+: chars := by
  induction chars generalizing room with
  | nil => exact List.prefix_rfl
  | cons c rest ih =>
      rw [clipChars]
      split
      · exact List.cons_prefix_cons.mpr ⟨rfl, ih _⟩
      · exact List.nil_prefix

theorem prefix_clipChars {room : Nat} {other chars : List Char} (begins : other <+: chars)
    (fits : (other.flatMap String.utf8EncodeChar).length ≤ room) :
    other <+: clipChars room chars := by
  induction chars generalizing room other with
  | nil => exact begins
  | cons c rest ih =>
      cases other with
      | nil => exact List.nil_prefix
      | cons d tail =>
          obtain ⟨rfl, behind⟩ := List.cons_prefix_cons.mp begins
          rw [List.flatMap_cons, List.length_append, String.length_utf8EncodeChar] at fits
          rw [clipChars, if_pos (by omega)]
          exact List.cons_prefix_cons.mpr ⟨rfl, ih behind (by omega)⟩

/-- The accent takes an octet more than is left. -/
example : clipChars 4 "aéé".toList = "aé".toList := by decide

theorem cut_clip (m : String) : Text.Cut maxMessage m (clip m) where
  beginning := by
    rw [Text.Utf8.encode_prefix_iff, clip, String.toList_ofList]
    exact clipChars_prefix maxMessage m.toList
  short := by
    rw [Text.Utf8.length_encode]
    exact size_clip m
  longest other begins fits := by
    rw [Text.Utf8.encode_prefix_iff] at begins ⊢
    rw [clip, String.toList_ofList]
    exact prefix_clipChars begins fits

theorem told_ofOutcome (o : Outcome) : o.Told (ofOutcome o).clipped.toOutcome := by
  cases o with
  | ok => exact .ok
  | error e =>
      cases e with
      | consistency fault => exact .fault fault (cut_clip _)
      | input _ | channel _ | directory _ | store _ | setting _ => exact .rejected rfl (cut_clip _)

/-- The message that is read is as short as one that is written. -/
theorem size_le_of_readMessage {bytes rest : List UInt8} {m : String}
    (found : readMessage.attempt bytes = (.ok m, rest)) : Text.Utf8.size m ≤ maxMessage := by
  obtain ⟨text, middle, read, given⟩ := (attempt_bind_eq_ok ..).mp found
  cases given
  have fits := ((exact_text "message" maxMessage _ _ _).mp read).2
  cases text with
  | none => exact Nat.zero_le _
  | some s => exact (fits s rfl).1

theorem clipped_of_read {bytes rest : List UInt8} {r : Response}
    (found : read.attempt bytes = (.ok (some r), rest)) : r.clipped = r := by
  have message : ∀ f : String → Response, (∀ m, (f m).clipped = f (clip m)) →
      ∀ octets, (do return some (f (← readMessage))).attempt octets = (.ok (some r), rest) →
        r.clipped = r := by
    intro f clips octets given
    obtain ⟨m, middle, taken, eq⟩ := (attempt_bind_eq_ok ..).mp given
    cases eq
    rw [clips, (cut_clip m).eq_self (size_le_of_readMessage taken)]
  obtain ⟨first, middle, -, found⟩ := (attempt_bind_eq_ok ..).mp found
  split at found
  · cases found
  · cases found
    rfl
  · exact message .fault (fun _ => rfl) _ found
  · exact message .rejected (fun _ => rfl) _ found
  · cases found

theorem read_frame_of_read {bytes rest : List UInt8} {r : Response}
    (found : read.on bytes = (.ok (some r), rest)) (more : List UInt8) :
    read.on (r.frame ++ more) = (.ok (some r), more) := by
  have whole := attempt_read_frame r more
  rw [clipped_of_read ((on_eq_ok_iff ..).mp found)] at whole
  exact (on_eq_ok_iff ..).mpr whole

/-- The responses to any outcomes are read as one response for each, in order, and then the end of
the stream. Each tells of its outcome whether it succeeded, was a consistency fault or failed
otherwise, with as much of its text as 4096 octets hold. The limits of requests have no say in
this. No response takes more than 4101 octets, and one that has been read is read from its own
frame. -/
theorem told_of_readAll (outcomes : List Outcome) :
    (∃ responses,
      readAll read (outcomes.flatMap fun o => (ofOutcome o).frame) = (responses, .ok ()) ∧
      List.Forall₂ (fun o r => o.Told r.toOutcome) outcomes responses) ∧
    (∀ r : Response, r.frame.length ≤ 4101) ∧
    ∀ bytes r rest, read.on bytes = (.ok (some r), rest) →
      ∀ more, read.on (r.frame ++ more) = (.ok (some r), more) := by
  refine ⟨⟨(outcomes.map ofOutcome).map clipped, ?_, ?_⟩, length_frame_le, ?_⟩
  · have frames :=
      reads.readAll_flatMap divides fun r (_ : r ∈ outcomes.map ofOutcome) => trivial
    rwa [List.flatMap_map] at frames
  · rw [List.map_map, List.forall₂_map_right_iff, List.forall₂_same]
    exact fun o _ => told_ofOutcome o
  · intro bytes r rest found more
    exact read_frame_of_read found more

/-- Three outcomes, and a fault whose message is absent, which is no message that is written. -/
theorem told_of_readAll_absent :
    let outcomes : List Outcome := [.ok (),
      .error (.consistency (.notHeld 1 (.binding "é") .unheld)), .error (.directory .lockPoisoned)]
    (∃ responses,
      readAll read (outcomes.flatMap fun o => (ofOutcome o).frame) = (responses, .ok ()) ∧
      List.Forall₂ (fun o r => o.Told r.toOutcome) outcomes responses) ∧
    read.on [1, 0xFF, 0xFF, 0xFF, 0xFF, 7] = (.ok (some (.fault "")), [7]) ∧
    read.on ((fault "").frame ++ [2]) = (.ok (some (.fault "")), [2]) := by
  intro outcomes
  have absent : read.on [1, 0xFF, 0xFF, 0xFF, 0xFF, 7] = (.ok (some (.fault "")), [7]) := by decide
  obtain ⟨told, -, again⟩ := told_of_readAll outcomes
  exact ⟨told, absent, again _ _ _ absent [2]⟩

end Response

end CacheCoherence
