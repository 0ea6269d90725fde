import CacheCoherence.Proofs.Prefixes
import CacheCoherence.Proofs.ServerRun

/-!
What settings that have been accepted are good for. The sizes that the frame
format and the directory depend on are checked, and everything that is computed
from them stays in range. The number of shards and the capacity of the feed are
checked for zero only, so a server comes of the settings exactly if there can be
a table and a ring that large. What may be asked for is taken to be granted.
-/

namespace CacheCoherence

namespace Feed

theorem isPowerOfTwo_powerAbove (n : Nat) : (powerAbove n).isPowerOfTwo := by
  rw [powerAbove]
  split
  · exact ⟨0, rfl⟩
  · exact ⟨_, Nat.one_shiftLeft _⟩

theorem le_powerAbove (n : Nat) : n ≤ powerAbove n := by
  rw [powerAbove, Nat.one_shiftLeft]
  split
  · next small => exact small
  · have above := Nat.lt_log2_self (n := n - 1)
    omega

/-- No power of two between a number and the one above it. -/
theorem powerAbove_le {n power : Nat} (isPower : power.isPowerOfTwo) (h : n ≤ power) :
    powerAbove n ≤ power := by
  obtain ⟨k, rfl⟩ := isPower
  rw [powerAbove, Nat.one_shiftLeft]
  split
  · exact Nat.one_le_two_pow
  · next large =>
    have exponent : (n - 1).log2 < k := (Nat.log2_lt (by omega)).mpr (by omega)
    exact Nat.pow_le_pow_right (by decide) exponent

theorem isRingSize_iff {wanted : Nat} (pos : 0 < wanted) :
    isRingSize (max wanted 1) = true ↔ wanted ≤ Settings.maxSize / 2 := by
  rw [Nat.max_eq_left pos]
  simp [isRingSize, pos]

/-- What a feed keeps is a power of two, not below what is wanted and no more than a size can be. -/
theorem capacity_new {wanted : Nat} (pos : 0 < wanted) (low : wanted ≤ Settings.maxSize / 2) :
    (new wanted).capacity.isPowerOfTwo ∧ wanted ≤ (new wanted).capacity ∧
      (new wanted).capacity ≤ Settings.maxSize := by
  rw [new, Nat.max_eq_left pos]
  refine ⟨isPowerOfTwo_powerAbove wanted, le_powerAbove wanted, ?_⟩
  calc
    powerAbove wanted ≤ Settings.maxSize / 2 + 1 :=
      powerAbove_le ⟨63, by decide⟩ (Nat.le_trans low (Nat.le_succ _))
    _ ≤ Settings.maxSize := by decide

end Feed

theorem Directory.isTableSize_iff {shards : Nat} (pos : 0 < shards) :
    isTableSize (max shards 1) = true ↔ shards * shardSize ≤ Settings.maxSize / 2 := by
  rw [Nat.max_eq_left pos, isTableSize, decide_eq_true_iff]

namespace Server

theorem length_shards_after (s : Server) (ops : List Operation) :
    (s.after ops).directory.shards.length = s.directory.shards.length := by
  induction ops generalizing s with
  | nil => rfl
  | cons op ops ih =>
      obtain ⟨moves, eq⟩ := s.directory_step op
      refine (ih (s.step op)).trans ?_
      rw [eq, Directory.length_shards_after]

theorem exists_new {settings : Settings} (accepted : settings.check = .ok ()) (place : Key → Nat) :
    ∃ s, new settings place = .ok s := by
  rw [new, accepted]
  exact ⟨_, rfl⟩

theorem new?_eq {settings : Settings} {place : Key → Nat} {s : Server}
    (made : new settings place = .ok s) :
    new? settings place =
      if Directory.isTableSize (max settings.shards 1) = true ∧
          Feed.isRingSize (max settings.feedCapacity 1) = true then some (.ok s) else none := by
  rw [new?, made, Directory.new?, Feed.new?, eq_of_new made]
  cases table : Directory.isTableSize (max settings.shards 1) with
  | false => rfl
  | true => cases ring : Feed.isRingSize (max settings.feedCapacity 1) <;> rfl

/-- Settings that are accepted make a server, and every key has its shard whatever is done to that
server, as long as the octets of the table and the capacity of the feed are at most half of the
greatest size; if either is more, the program ends. In the frame of a request that is within the
limits every count and every length is read as it was written, and none is the mark of something
absent. -/
theorem usable_of_check {settings : Settings} (accepted : settings.check = .ok ())
    (place : Key → Nat) :
    (settings.shards * Directory.shardSize ≤ Settings.maxSize / 2 →
      settings.feedCapacity ≤ Settings.maxSize / 2 →
      ∃ s, new? settings place = some (.ok s) ∧
        (s.feed.capacity.isPowerOfTwo ∧ settings.feedCapacity ≤ s.feed.capacity ∧
          s.feed.capacity ≤ Settings.maxSize) ∧
        ∀ ops k, (s.after ops).directory.shards.length = settings.shards ∧
          (s.after ops).directory.shardIndex k < settings.shards) ∧
    (Settings.maxSize / 2 < settings.shards * Directory.shardSize ∨
      Settings.maxSize / 2 < settings.feedCapacity → new? settings place = none) ∧
    ∀ r : Request, r.check settings.limits = .ok () →
      r.frame = r.kind.tag :: r.pieces.flatMap Frame.Piece.write ∧
      ∀ n, Frame.Piece.length n ∈ r.pieces →
        Frame.signed 4 (Frame.toNat (Frame.writeLength n)) = n ∧
          Frame.writeLength n ≠ Frame.absent := by
  have positive := (settings.check_eq_ok_iff.mp accepted).1
  have shards : 0 < settings.shards :=
    positive ("directory_shards", _) (by simp [Settings.sizeFields])
  have feed : 0 < settings.feedCapacity :=
    positive ("applied_feed_capacity", _) (by simp [Settings.sizeFields])
  obtain ⟨s, made⟩ := exists_new accepted place
  rw [new?_eq made]
  have possible := Directory.isTableSize_iff shards
  have holds := Feed.isRingSize_iff feed
  refine ⟨fun narrow low => ⟨s, if_pos ⟨possible.mpr narrow, holds.mpr low⟩, ?_, fun ops k => ?_⟩,
    fun high => if_neg fun both => ?_, fun r checked => ⟨r.frame_eq_pieces, fun n among => ?_⟩⟩
  · rw [eq_of_new made]
    exact Feed.capacity_new feed low
  · have count : (s.after ops).directory.shards.length = settings.shards := by
      rw [length_shards_after, eq_of_new made, Directory.new, List.length_replicate,
        Nat.max_eq_left shards]
    refine ⟨count, ?_⟩
    rw [← count]
    exact Nat.mod_lt _ (by rw [count]; exact shards)
  · have narrow := possible.mp both.1
    have low := holds.mp both.2
    omega
  · have within := (Request.check_eq_ok_iff (Settings.framed_of_check accepted) r).mp checked
    have fits : n ≤ Settings.maxLength := Request.carried_of_within within _ among
    exact ⟨Frame.signed_writeLength fits, Frame.writeLength_ne_absent fits⟩

/-- A feed that is not asked for a power of two, and a name that is longer than its text. -/
theorem usable_of_check_rounded :
    let settings : Settings := { shards := 3, maxBatch := Settings.maxLength, feedCapacity := 1000 }
    let r : Request := .evictBinding "é"
    settings.check = .ok () ∧ settings.shards * Directory.shardSize ≤ Settings.maxSize / 2 ∧
      settings.feedCapacity ≤ Settings.maxSize / 2 ∧
      (∃ s, new? settings Key.place = some (.ok s) ∧
        ∀ ops k, (s.after ops).directory.shardIndex k < 3) ∧
      r.check settings.limits = .ok () ∧ .length 2 ∈ r.pieces ∧
      Frame.signed 4 (Frame.toNat (Frame.writeLength 2)) = 2 := by
  intro settings r
  have accepted : settings.check = .ok () := by decide
  have narrow : settings.shards * Directory.shardSize ≤ Settings.maxSize / 2 := by decide
  have low : settings.feedCapacity ≤ Settings.maxSize / 2 := by decide
  have checked : r.check settings.limits = .ok () := by decide
  have among : Frame.Piece.length 2 ∈ r.pieces := List.mem_cons_self
  obtain ⟨server, -, framed⟩ := usable_of_check accepted Key.place
  obtain ⟨s, made, -, index⟩ := server narrow low
  exact ⟨accepted, narrow, low, ⟨s, made, fun ops k => (index ops k).2⟩, checked, among,
    ((framed r checked).2 2 among).1⟩

/-- The greatest size is accepted as the capacity of the feed, but there can be no such ring, and
no power of two within the sizes is as large. It is accepted as the number of shards as well, but
there can be no such table. -/
theorem accepted_without_ring :
    let settings : Settings := { feedCapacity := Settings.maxSize }
    let wide : Settings := { shards := Settings.maxSize }
    (settings.check = .ok () ∧ new? settings Key.place = none ∧
      ∀ power : Nat, power.isPowerOfTwo → settings.feedCapacity ≤ power →
        Settings.maxSize < power) ∧
    wide.check = .ok () ∧ new? wide Key.place = none := by
  intro settings wide
  have accepted : settings.check = .ok () := by decide
  have acceptedWide : wide.check = .ok () := by decide
  obtain ⟨s, made⟩ := exists_new accepted Key.place
  obtain ⟨s', madeWide⟩ := exists_new acceptedWide Key.place
  refine ⟨⟨accepted, (new?_eq made).trans (if_neg (by decide)), fun power isPower large => ?_⟩,
    acceptedWide, (new?_eq madeWide).trans (if_neg (by decide))⟩
  calc
    Settings.maxSize < Feed.powerAbove Settings.maxSize := by decide
    _ ≤ power := Feed.powerAbove_le isPower large

end Server

end CacheCoherence
