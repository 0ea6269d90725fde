import CacheCoherence.Frame.Sequence
import CacheCoherence.Proofs.Arrival

/-!
A stream read to its end, in terms of what has arrived of it. Since a reader's
answer to a frame or to a fault does not change with what comes behind, the
frames of a stream are those that are found one by one while it arrives, and it
breaks off where the first of them cannot be read.
-/

namespace CacheCoherence.Frame

open Reader

variable {α : Type}

/-- A reader that finds a frame or a fault in any octets, unless they run out, and does not look at
what comes behind it. -/
structure Reader.Divides (r : Reader (Option α)) : Prop where
  empty : r.attempt [] = (.ok none, [])
  shorter : ∀ {bytes rest x}, r.attempt bytes = (.ok (some x), rest) → rest.length < bytes.length
  steady : ∀ tag bytes, r.SteadyOn (tag :: bytes)

section Divides

variable {r : Reader (Option α)} (h : r.Divides)

include h

/-- There is always enough fuel, and what has been read comes before what is read. -/
theorem Reader.Divides.readAfter_eq (fuel : Nat) {bytes : List UInt8} (enough : bytes.length < fuel)
    (read : List α) :
    readAfter r read fuel bytes = (read.reverse ++ (readAll r bytes).1, (readAll r bytes).2) := by
  -- Strong induction, since `readAll` starts again with just enough fuel for what is left.
  induction fuel using Nat.strongRecOn generalizing bytes read with
  | ind fuel ih =>
      cases fuel with
      | zero => cases enough
      | succ fuel =>
          rw [readAll, readAfter, readAfter]
          cases found : r.on bytes with
          | mk answer rest =>
              cases answer with
              | error e => simp
              | ok item =>
                  cases item with
                  | none => simp
                  | some x =>
                      have less := h.shorter ((on_eq_ok_iff r bytes rest (some x)).mp found)
                      dsimp only
                      rw [ih fuel (by omega) (by omega)]
                      by_cases same : bytes.length = fuel
                      · rw [same, ih fuel (by omega) (by omega)]
                        simp
                      · rw [ih bytes.length (by omega) less]
                        simp

theorem Reader.Divides.readAll_eq (bytes : List UInt8) :
    readAll r bytes =
      match r.on bytes with
      | (.ok (some x), rest) => (x :: (readAll r rest).1, (readAll r rest).2)
      | (.ok none, _) => ([], .ok ())
      | (.error e, _) => ([], .error e) := by
  rw [readAll, readAfter]
  cases found : r.on bytes with
  | mk answer rest =>
      cases answer with
      | error e => rfl
      | ok item =>
          cases item with
          | none => rfl
          | some x =>
              have less := h.shorter ((on_eq_ok_iff r bytes rest (some x)).mp found)
              exact h.readAfter_eq _ less [x]

/-- What comes behind an item or a fault does not change it. -/
theorem Reader.Divides.attempt_append {bytes rest : List UInt8} {answer : Except ReadFailure _}
    (found : r.attempt bytes = (answer, rest)) (some : answer ≠ .ok none) (whole : ¬RanOut answer)
    (more : List UInt8) : r.attempt (bytes ++ more) = (answer, rest ++ more) := by
  cases bytes with
  | nil =>
      rw [h.empty, Prod.mk.injEq] at found
      exact absurd found.1.symm some
  | cons tag bytes =>
      have steady := h.steady tag bytes
      rw [SteadyOn, found] at steady
      exact steady.resolve_left whole more

theorem Reader.Divides.readAll_frame {bytes rest : List UInt8} {x : α}
    (arrived : r.arrival bytes = .frame x rest) (more : List UInt8) :
    readAll r (bytes ++ more) =
      (x :: (readAll r (rest ++ more)).1, (readAll r (rest ++ more)).2) := by
  rw [arrival] at arrived
  split at arrived
  · next found =>
    cases arrived
    have whole := h.attempt_append found (by rintro ⟨⟩) (by rintro ⟨_, _, ⟨⟩⟩) more
    rw [h.readAll_eq, (on_eq_ok_iff r _ _ _).mpr whole]
  · cases arrived
  · cases arrived
  · cases arrived

theorem Reader.Divides.readAll_refused {bytes : List UInt8} {e : ChannelError}
    (arrived : r.arrival bytes = .refused e) (more : List UInt8) :
    readAll r (bytes ++ more) = ([], .error e) := by
  rw [arrival] at arrived
  split at arrived
  · cases arrived
  · cases arrived
  · cases arrived
  · next found =>
    cases arrived
    have whole := h.attempt_append found (by rintro ⟨⟩) (by rintro ⟨_, _, ⟨⟩⟩) more
    rw [h.readAll_eq, on, whole]
    rfl

theorem Reader.Divides.readAll_begun {bytes : List UInt8} {context : String} {missing : Nat}
    (arrived : r.arrival bytes = .begun context missing) :
    readAll r bytes = ([], .error (.endOfStream context)) := by
  rw [arrival] at arrived
  split at arrived
  · cases arrived
  · cases arrived
  · next found =>
    cases arrived
    rw [h.readAll_eq, on, found]
    rfl
  · cases arrived

theorem Reader.Divides.readAll_nothing {bytes : List UInt8} (arrived : r.arrival bytes = .nothing) :
    readAll r bytes = ([], .ok ()) := by
  rw [arrival] at arrived
  split at arrived
  · cases arrived
  · next found => rw [h.readAll_eq, on, found]; rfl
  · cases arrived
  · cases arrived

theorem Reader.Divides.length_lt_of_arrival {bytes rest : List UInt8} {x : α}
    (arrived : r.arrival bytes = .frame x rest) : rest.length < bytes.length := by
  rw [arrival] at arrived
  split at arrived
  · next found =>
    cases arrived
    exact h.shorter found
  · cases arrived
  · cases arrived
  · cases arrived

end Divides

end CacheCoherence.Frame

namespace CacheCoherence.Request

open CacheCoherence.Frame CacheCoherence.Frame.Reader

theorem divides (limits : Limits) : (read limits).Divides where
  empty := rfl
  shorter found := by
    rw [((attempt_read_eq_some_iff ..).mp found).1]
    simp only [frame, List.cons_append, List.length_cons, List.length_append]
    omega
  steady := (reads limits).steady

/-- Octets are the frames of the requests that are read from them, and behind these what the reader
does not take for a request: nothing, or octets that it refuses. -/
theorem exists_rest_of_readAll (limits : Limits) (bytes : List UInt8) :
    ∃ rest, bytes = (readAll (read limits) bytes).1.flatMap frame ++ rest ∧
      ((read limits).on rest).1 = (readAll (read limits) bytes).2.map fun _ => none := by
  induction size : bytes.length using Nat.strongRecOn generalizing bytes with
  | ind size ih =>
      rw [(divides limits).readAll_eq]
      cases found : (read limits).on bytes with
      | mk answer left =>
          cases answer with
          | error e => exact ⟨bytes, rfl, congrArg Prod.fst found⟩
          | ok item =>
              cases item with
              | none => exact ⟨bytes, rfl, congrArg Prod.fst found⟩
              | some r =>
                  have first := (on_eq_ok_iff ..).mp found
                  have less := (divides limits).shorter first
                  obtain ⟨rest, later, last⟩ := ih left.length (size ▸ less) left rfl
                  refine ⟨rest, ?_, last⟩
                  rw [((attempt_read_eq_some_iff ..).mp first).1, List.flatMap_cons,
                    List.append_assoc, ← later]

end CacheCoherence.Request
