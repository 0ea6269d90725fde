import CacheCoherence.Error
import CacheCoherence.Proofs.Quoted
import Mathlib.Logic.Function.Basic

/-!
Texts of consistency faults. Node, deed, key and recorded state follow one
another, and each is told from what comes after it. So a fault is known from its
text, whatever names the clients have chosen.
-/

namespace CacheCoherence

open Text

def NodeId.chars (n : NodeId) : List Char :=
  (toString n).toList

theorem NodeId.chars_eq (n : NodeId) : n.chars = Nat.toDigits 10 n.value :=
  Nat.toList_repr

theorem NodeId.separates_chars : Separates chars Breaks := by
  intro n m x y hx hy same
  rw [chars_eq, chars_eq] at same
  obtain ⟨number, rest⟩ := separates_decimal hx hy same
  cases n
  cases m
  cases number
  exact ⟨rfl, rest⟩

def BindingKey.chars (b : BindingKey) : List Char :=
  (toString b).toList

/-- The upper bound is written without the quotes that every name has. -/
theorem BindingKey.separates_chars : Separates chars fun _ => True := by
  have apart : ∀ text x y, (name text).chars ++ x ≠ upper.chars ++ y := by
    intro text x y same
    have first := (List.cons.inj ((quoted_append text x).symm.trans same)).1
    exact absurd first (by decide)
  intro b c x y _ _ same
  cases b with
  | name text =>
      cases c with
      | name text' =>
          obtain ⟨rfl, rest⟩ := separates_quoted trivial trivial same
          exact ⟨rfl, rest⟩
      | upper => exact absurd same (apart text x y)
  | upper =>
      cases c with
      | name text => exact absurd same.symm (apart text y x)
      | upper => exact ⟨rfl, List.append_cancel_left same⟩

namespace Key

def chars (k : Key) : List Char :=
  (toString k).toList

theorem chars_object (oid : ObjectId) :
    (Key.object oid).chars = "object ".toList ++ Nat.toDigits 10 oid.value := by
  have text : toString (Key.object oid) = "object " ++ oid.value.repr := rfl
  rw [chars, text, String.toList_append, Nat.toList_repr]

theorem chars_binding (b : BindingKey) :
    (Key.binding b).chars = "binding ".toList ++ b.chars :=
  String.toList_append

theorem separates_chars : Separates chars Breaks := by
  have apart : ∀ oid b x y, (Key.object oid).chars ++ x ≠ (Key.binding b).chars ++ y := by
    intro oid b x y same
    rw [chars_object, chars_binding] at same
    exact absurd (List.cons.inj same).1 (by decide)
  intro j k x y hx hy same
  cases j with
  | object oid =>
      cases k with
      | object oid' =>
          rw [chars_object, chars_object, List.append_assoc, List.append_assoc] at same
          obtain ⟨number, rest⟩ := separates_decimal hx hy (List.append_cancel_left same)
          cases oid
          cases oid'
          cases number
          exact ⟨rfl, rest⟩
      | binding b => exact absurd same (apart oid b x y)
  | binding b =>
      cases k with
      | object oid => exact absurd same.symm (apart oid b y x)
      | binding c =>
          rw [chars_binding, chars_binding, List.append_assoc, List.append_assoc] at same
          obtain ⟨rfl, rest⟩ :=
            BindingKey.separates_chars trivial trivial (List.append_cancel_left same)
          exact ⟨rfl, rest⟩

end Key

namespace Access.State

/-- A reader behind another one. -/
def next (n : NodeId) : List Char :=
  ", ".toList ++ n.chars

/-- The readers of a shared state as they stand between the brackets. -/
def listed : List NodeId → List Char
  | [] => []
  | n :: others => n.chars ++ others.flatMap next

theorem toList_intercalate (readers : List NodeId) :
    (", ".intercalate (readers.map toString)).toList = listed readers := by
  rw [String.toList_intercalate, List.map_map]
  change ", ".toList.intercalate (readers.map NodeId.chars) = listed readers
  induction readers with
  | nil => rfl
  | cons n others ih =>
      cases others with
      | nil => exact List.intercalate_singleton.trans (List.append_nil _).symm
      | cons m others =>
          rw [List.map_cons, List.map_cons, List.intercalate_cons_cons, ← List.map_cons, ih,
            List.append_assoc, listed, listed, List.flatMap_cons, next, List.append_assoc]

theorem separates_listed : Separates listed fun x => ∃ rest, x = ']' :: rest := by
  have more : ∀ n x, Breaks (next n ++ x) := fun n x => breaks_cons (by decide) _
  have closing : ∀ x, (∃ rest, x = ']' :: rest) → Breaks x := by
    intro x last
    obtain ⟨rest, rfl⟩ := last
    exact breaks_cons (by decide) rest
  have item : Separates next Breaks := by
    intro n m x y hx hy same
    rw [next, next, List.append_assoc, List.append_assoc] at same
    exact NodeId.separates_chars hx hy (List.append_cancel_left same)
  have row : Separates (List.flatMap next) fun x => ∃ rest, x = ']' :: rest :=
    Separates.flatMap more closing item fun n x y last same => by
      obtain ⟨rest, rfl⟩ := last
      exact absurd (List.cons.inj same).1 (by decide)
  -- A list without readers ends where another one has its first digit.
  have apart : ∀ n others x y, (∃ rest, x = ']' :: rest) → x ≠ listed (n :: others) ++ y := by
    intro n others x y last same
    have breaks := closing x last
    rw [same, listed, NodeId.chars_eq, List.append_assoc] at breaks
    exact not_breaks_decimal _ _ breaks
  intro ns ms x y hx hy same
  cases ns with
  | nil =>
      cases ms with
      | nil => exact ⟨rfl, same⟩
      | cons m others => exact absurd same (apart m others x y hx)
  | cons n others =>
      cases ms with
      | nil => exact absurd same.symm (apart n others y x hy)
      | cons m others' =>
          rw [listed, listed, List.append_assoc, List.append_assoc] at same
          obtain ⟨rfl, behind⟩ := NodeId.separates_chars (next_flatMap more closing others hx)
            (next_flatMap more closing others' hy) same
          obtain ⟨rfl, rest⟩ := row hx hy behind
          exact ⟨rfl, rest⟩

def chars (s : Access.State) : List Char :=
  (toString s).toList

theorem chars_shared (readers : SortedSet NodeId) :
    (shared readers).chars =
      "read-shared by [".toList ++ (listed readers.toList ++ "]".toList) := by
  have text : toString (shared readers) =
      "read-shared by [" ++ ", ".intercalate (readers.toList.map toString) ++ "]" := rfl
  rw [chars, text, String.toList_append, String.toList_append, toList_intercalate,
    List.append_assoc]

theorem chars_exclusive (w : NodeId) :
    (exclusive w).chars = "write-exclusive by ".toList ++ w.chars :=
  String.toList_append

def initial : Access.State → Char
  | .unheld => 'u'
  | .shared _ => 'r'
  | .exclusive _ => 'w'

theorem head?_chars (s : Access.State) : s.chars.head? = some s.initial := by
  cases s with
  | unheld => rfl
  | shared readers =>
      rw [chars_shared]
      rfl
  | exclusive w =>
      rw [chars_exclusive]
      rfl

theorem chars_injective : Function.Injective chars := by
  intro s t same
  have initial : s.initial = t.initial := by
    rw [← Option.some.injEq, ← head?_chars, ← head?_chars, same]
  cases s with
  | unheld =>
      cases t with
      | unheld => rfl
      | shared _ | exclusive _ => exact absurd initial (by simp [State.initial])
  | shared readers =>
      cases t with
      | shared readers' =>
          rw [chars_shared, chars_shared] at same
          have members :=
            (separates_listed ⟨[], rfl⟩ ⟨[], rfl⟩ (List.append_cancel_left same)).1
          cases readers
          cases readers'
          cases members
          rfl
      | unheld | exclusive _ => exact absurd initial (by simp [State.initial])
  | exclusive w =>
      cases t with
      | exclusive w' =>
          rw [chars_exclusive, chars_exclusive] at same
          rw [NodeId.separates_chars.injective breaks_nil (List.append_cancel_left same)]
      | unheld | shared _ => exact absurd initial (by simp [State.initial])

end Access.State

/-- What a node has done without the access for it. -/
inductive Deed where
  | evicted
  | downgraded
  | committed

namespace Deed

def verb : Deed → String
  | .evicted => " evicted "
  | .downgraded => " downgraded "
  | .committed => " committed "

def finding : Deed → String
  | .evicted => " but the directory records it as "
  | .downgraded | .committed => " without write access; directory records "

def fault : Deed → NodeId → Key → Access.State → ConsistencyFault
  | .evicted => .notHeld
  | .downgraded => .notWriter
  | .committed => .commitNotWriter

/-- The blank is the same in all of them, and the letter behind it is not. -/
theorem separates_verb : Separates (fun d : Deed => d.verb.toList) fun _ => True := by
  refine separates_of_letter 1 (fun d => ?_) fun d e same => ?_
  · cases d <;> decide
  · cases d <;> cases e <;> first | rfl | exact absurd same (by decide)

theorem breaks_verb (d : Deed) (x : List Char) : Breaks (d.verb.toList ++ x) := by
  cases d <;> exact breaks_cons (by decide) _

theorem breaks_finding (d : Deed) (x : List Char) : Breaks (d.finding.toList ++ x) := by
  cases d <;> exact breaks_cons (by decide) _

theorem message_fault (d : Deed) (n : NodeId) (k : Key) (s : Access.State) :
    (d.fault n k s).message =
      "Node " ++ toString n ++ d.verb ++ toString k ++ d.finding ++ toString s := by
  cases d <;> rfl

end Deed

namespace ConsistencyFault

def chars (f : ConsistencyFault) : List Char :=
  f.message.toList

theorem chars_fault (d : Deed) (n : NodeId) (k : Key) (s : Access.State) :
    (d.fault n k s).chars =
      "Node ".toList ++
        (n.chars ++ (d.verb.toList ++ (k.chars ++ (d.finding.toList ++ s.chars)))) := by
  simp only [chars, Deed.message_fault, String.toList_append, List.append_assoc]
  rfl

theorem chars_reported (message : String) :
    (reported message).chars = "Server reported consistency fault: ".toList ++ message.toList :=
  String.toList_append

/-- A fault that the server has found says who has done what, and what is on record. -/
theorem exists_deed (f : ConsistencyFault) :
    (∃ message, f = .reported message) ∨ ∃ d n k s, f = Deed.fault d n k s := by
  cases f with
  | notHeld n k s => exact .inr ⟨.evicted, n, k, s, rfl⟩
  | notWriter n k s => exact .inr ⟨.downgraded, n, k, s, rfl⟩
  | commitNotWriter n k s => exact .inr ⟨.committed, n, k, s, rfl⟩
  | reported message => exact .inl ⟨message, rfl⟩

theorem chars_injective : Function.Injective chars := by
  have apart : ∀ message d n k s, (reported message).chars ≠ (Deed.fault d n k s).chars := by
    intro message d n k s same
    rw [chars_reported, chars_fault] at same
    exact absurd (List.cons.inj same).1 (by decide)
  intro f g same
  obtain ⟨message, rfl⟩ | ⟨d, n, k, s, rfl⟩ := f.exists_deed
  · obtain ⟨message', rfl⟩ | ⟨d', n', k', s', rfl⟩ := g.exists_deed
    · rw [chars_reported, chars_reported] at same
      rw [String.toList_inj.mp (List.append_cancel_left same)]
    · exact absurd same (apart message d' n' k' s')
  · obtain ⟨message, rfl⟩ | ⟨d', n', k', s', rfl⟩ := g.exists_deed
    · exact absurd same.symm (apart message d n k s)
    · rw [chars_fault, chars_fault] at same
      have ended := List.append_cancel_left same
      obtain ⟨rfl, deed⟩ := NodeId.separates_chars (d.breaks_verb _) (d'.breaks_verb _) ended
      obtain ⟨rfl, key⟩ := Deed.separates_verb trivial trivial deed
      obtain ⟨rfl, found⟩ := Key.separates_chars (d.breaks_finding _) (d.breaks_finding _) key
      obtain rfl := Access.State.chars_injective (List.append_cancel_left found)
      rfl

/-- Two faults, or two keys, that are shown alike are the same. -/
theorem identified_by_text :
    Function.Injective message ∧
    Function.Injective (fun f => (Error.consistency f).message) ∧
    Function.Injective (toString : Key → String) := by
  have texts : Function.Injective message := fun f g same =>
    chars_injective (congrArg String.toList same)
  refine ⟨texts, fun f g same => ?_, fun j k same => ?_⟩
  · have written : "Consistency fault: " ++ f.message = "Consistency fault: " ++ g.message := same
    have chars := congrArg String.toList written
    rw [String.toList_append, String.toList_append] at chars
    exact texts (String.toList_inj.mp (List.append_cancel_left chars))
  · exact Key.separates_chars.injective breaks_nil (congrArg String.toList same)

/-- The first name goes on as the message that has the second one does. -/
theorem identified_by_text_imitated :
    message (.notHeld 1 (.binding "a\" but the directory records it as unheld") .unheld) ≠
      message (.notHeld 1 (.binding "a") .unheld) ∧
    (Error.consistency (.notWriter 1 (.object 1) .unheld)).message ≠
      (Error.consistency (.notWriter 1 (.binding "1") .unheld)).message ∧
    toString (Key.binding "<upper>") ≠ toString (Key.binding .upper) := by
  obtain ⟨fault, error, key⟩ := identified_by_text
  exact ⟨fault.ne (by decide), error.ne (by decide), key.ne (by decide)⟩

end ConsistencyFault

end CacheCoherence
