import CacheCoherence.Text.Quoted
import Mathlib.Data.Char

/-!
Numbers and names inside a longer text. The digits of a number are known from
the text if what follows them is no digit, and a name between quotes is known
whatever follows: no character is escaped to something that begins with a
quote, and no two of them to the same.
-/

namespace CacheCoherence.Text

variable {α : Type} {write : α → List Char}

/-- What is written can be told from what follows it, if that begins as `follows` says. -/
def Separates (write : α → List Char) (follows : List Char → Prop) : Prop :=
  ∀ ⦃a b x y⦄, follows x → follows y → write a ++ x = write b ++ y → a = b ∧ x = y

theorem Separates.injective {follows : List Char → Prop} (separates : Separates write follows)
    (ended : follows []) : Function.Injective write := by
  intro a b same
  exact (separates ended ended (congrArg (· ++ []) same)).1

/-- Words that differ in the letter at one place are told from whatever follows them. -/
theorem separates_of_letter (i : Nat) (within : ∀ a, i < (write a).length)
    (letter : ∀ a b, (write a)[i]? = (write b)[i]? → a = b) :
    Separates write fun _ => True := by
  intro a b x y _ _ same
  have place := congrArg (fun chars => chars[i]?) same
  rw [List.getElem?_append_left (within a), List.getElem?_append_left (within b)] at place
  obtain rfl := letter a b place
  exact ⟨rfl, List.append_cancel_left same⟩

section Row

variable {next last : List Char → Prop} (more : ∀ a x, next (write a ++ x))
  (closing : ∀ x, last x → next x)

include more closing

theorem next_flatMap (as : List α) {x : List Char} (hx : last x) :
    next (as.flatMap write ++ x) := by
  cases as with
  | nil => exact closing x hx
  | cons a as =>
      rw [List.flatMap_cons, List.append_assoc]
      exact more a _

/-- A row of items that each are told from what follows is told from what follows the row, if no
item begins like that. -/
theorem Separates.flatMap (item : Separates write next)
    (apart : ∀ a x y, last y → write a ++ x ≠ y) : Separates (List.flatMap write) last := by
  intro as bs x y hx hy same
  induction as generalizing bs with
  | nil =>
      cases bs with
      | nil => exact ⟨rfl, same⟩
      | cons b bs =>
          rw [List.flatMap_cons, List.append_assoc] at same
          exact absurd same.symm (apart b _ _ hx)
  | cons a as ih =>
      cases bs with
      | nil =>
          rw [List.flatMap_cons, List.append_assoc] at same
          exact absurd same (apart a _ _ hy)
      | cons b bs =>
          rw [List.flatMap_cons, List.flatMap_cons, List.append_assoc, List.append_assoc] at same
          obtain ⟨rfl, others⟩ :=
            item (next_flatMap more closing as hx) (next_flatMap more closing bs hy) same
          obtain ⟨rfl, rest⟩ := ih others
          exact ⟨rfl, rest⟩

end Row

section Digits

variable {base : Nat} (least : 1 < base)

include least

theorem exists_of_mem_toDigits {n : Nat} {c : Char} (among : c ∈ Nat.toDigits base n) :
    ∃ d < base, c = d.digitChar := by
  induction n using Nat.strongRecOn with
  | ind n ih =>
      rw [Nat.toDigits_eq_if least] at among
      split at among
      · next below => exact ⟨n, below, List.mem_singleton.mp among⟩
      · next above =>
        rcases List.mem_append.mp among with high | low
        · exact ih (n / base) (Nat.div_lt_self (by omega) least) high
        · exact ⟨n % base, Nat.mod_lt n (by omega), List.mem_singleton.mp low⟩

theorem toDigits_injective (most : base ≤ 16) : Function.Injective (Nat.toDigits base) := by
  have digit : ∀ d < 16, ∀ e < 16, d.digitChar = e.digitChar → d = e := by decide
  have longer : ∀ {n c d}, Nat.toDigits base n ++ [c] ≠ [d] := by
    intro n c d eq
    rcases List.append_eq_singleton_iff.mp eq with ⟨none, -⟩ | ⟨-, none⟩
    · exact Nat.toDigits_ne_nil none
    · cases none
  intro n m same
  induction n using Nat.strongRecOn generalizing m with
  | ind n ih =>
      rw [Nat.toDigits_eq_if least, Nat.toDigits_eq_if (n := m) least] at same
      split at same <;> split at same
      · next below _ => exact digit n (by omega) m (by omega) (List.singleton_inj.mp same)
      · exact absurd same.symm longer
      · exact absurd same longer
      · next above _ =>
        obtain ⟨high, low⟩ := List.append_inj' same rfl
        have high := ih (n / base) (Nat.div_lt_self (by omega) least) high
        have small : ∀ n, n % base < 16 := fun n =>
          Nat.lt_of_lt_of_le (Nat.mod_lt n (by omega)) most
        have low := digit _ (small n) _ (small m) (List.singleton_inj.mp low)
        rw [← Nat.div_add_mod n base, ← Nat.div_add_mod m base, high, low]

/-- The digits end before the first character that is none. -/
theorem separates_toDigits (most : base ≤ 16) {p : Char → Bool}
    (digits : ∀ d < base, p d.digitChar = true) :
    Separates (Nat.toDigits base) fun x => ∀ c ∈ x.head?, p c = false := by
  have ending : ∀ n x, (∀ c ∈ x.head?, p c = false) →
      (Nat.toDigits base n ++ x).takeWhile p = Nat.toDigits base n := by
    intro n x hx
    have inside : ∀ c ∈ Nat.toDigits base n, p c = true := by
      intro c among
      obtain ⟨d, below, rfl⟩ := exists_of_mem_toDigits least among
      exact digits d below
    have outside : x.takeWhile p = [] := by
      cases x with
      | nil => rfl
      | cons c x => exact List.takeWhile_cons_of_neg (by simp [hx c rfl])
    rw [List.takeWhile_append_of_pos inside, outside, List.append_nil]
  intro n m x y hx hy same
  have digits := congrArg (List.takeWhile p) same
  rw [ending n x hx, ending m y hy] at digits
  rw [digits] at same
  exact ⟨toDigits_injective least most digits, List.append_cancel_left same⟩

end Digits

/-- The text does not go on with a digit. -/
def Breaks (x : List Char) : Prop :=
  ∀ c ∈ x.head?, c.isDigit = false

theorem breaks_nil : Breaks [] := by
  intro c first
  cases first

theorem breaks_cons {c : Char} (other : c.isDigit = false) (x : List Char) : Breaks (c :: x) := by
  intro d first
  cases first
  exact other

theorem not_breaks_decimal (n : Nat) (x : List Char) : ¬Breaks (Nat.toDigits 10 n ++ x) := by
  intro breaks
  cases digits : Nat.toDigits 10 n with
  | nil => exact Nat.toDigits_ne_nil digits
  | cons c rest =>
      have digit : c.isDigit = true := by
        refine Nat.isDigit_of_mem_toDigits (b := 10) (n := n) (by decide) (by decide) ?_
        rw [digits]
        exact List.mem_cons_self
      rw [digits] at breaks
      rw [breaks c rfl] at digit
      cases digit

theorem separates_decimal : Separates (Nat.toDigits 10) Breaks :=
  separates_toDigits (by decide) (by decide) fun d below => by
    rw [Nat.isDigit_digitChar, decide_eq_true below]

/-- The characters that are escaped by a letter, or by themselves. -/
def escapeLetters : List (Char × Char) :=
  [('"', '"'), ('\\', '\\'), ('\x00', '0'), ('\t', 't'), ('\n', 'n'), ('\r', 'r')]

/-- What a character may be escaped to. -/
inductive Escape (c : Char) : List Char → Prop where
  | plain (quote : c ≠ '"') (slash : c ≠ '\\') : Escape c [c]
  | letter (e : Char) (among : (c, e) ∈ escapeLetters) : Escape c ['\\', e]
  | number : Escape c (codePointEscape c)

theorem escape_escapeChar (c : Char) : Escape c (escapeChar c) := by
  rw [escapeChar]
  split_ifs with quote slash nul tab line carriage unprintable
  · exact .letter '"' (by simp [escapeLetters, quote])
  · exact .letter '\\' (by simp [escapeLetters, slash])
  · exact .letter '0' (by simp [escapeLetters, nul])
  · exact .letter 't' (by simp [escapeLetters, tab])
  · exact .letter 'n' (by simp [escapeLetters, line])
  · exact .letter 'r' (by simp [escapeLetters, carriage])
  · exact .number
  · exact .plain quote slash

theorem codePointEscape_append (c : Char) (x : List Char) :
    codePointEscape c ++ x =
      '\\' :: 'u' :: '\x7b' :: (Nat.toDigits 16 c.toNat ++ '\x7d' :: x) := by
  simp [codePointEscape]

theorem separates_codePointEscape : Separates codePointEscape fun _ => True := by
  have separates : Separates (Nat.toDigits 16) fun x => ∀ c ∈ x.head?, (c != '\x7d') = false :=
    separates_toDigits (by decide) (by decide) (by decide)
  intro c d x y _ _ same
  rw [codePointEscape_append, codePointEscape_append] at same
  have digits := List.cons.inj (List.cons.inj (List.cons.inj same).2).2
  obtain ⟨number, rest⟩ := separates (by simp) (by simp) digits.2
  exact ⟨Char.toNat_inj.mp number, (List.cons.inj rest).2⟩

/-- A character is known from what it is escaped to: by its first character unless that is a
backslash, by the second one then, and by its number where that is the letter u. -/
theorem Escape.append_inj {c d : Char} {s t x y : List Char} (hs : Escape c s) (ht : Escape d t)
    (same : s ++ x = t ++ y) : c = d ∧ x = y := by
  have known : ∀ p ∈ escapeLetters, ∀ q ∈ escapeLetters, p.2 = q.2 → p.1 = q.1 := by decide
  have other : ∀ p ∈ escapeLetters, p.2 ≠ 'u' := by decide
  cases hs with
  | plain quote slash =>
      cases ht with
      | plain => exact List.cons.inj same
      | letter => exact absurd (List.cons.inj same).1 slash
      | number => exact absurd (List.cons.inj (same.trans (codePointEscape_append ..))).1 slash
  | letter e among =>
      cases ht with
      | plain quote slash => exact absurd (List.cons.inj same).1.symm slash
      | letter e' among' =>
          obtain ⟨letter, rest⟩ := List.cons.inj (List.cons.inj same).2
          exact ⟨known _ among _ among' letter, rest⟩
      | number =>
          have letter := List.cons.inj (List.cons.inj (same.trans (codePointEscape_append ..))).2
          exact absurd letter.1 (other _ among)
  | number =>
      cases ht with
      | plain quote slash =>
          exact absurd (List.cons.inj (same.symm.trans (codePointEscape_append ..))).1 slash
      | letter e among =>
          have letter :=
            List.cons.inj (List.cons.inj (same.symm.trans (codePointEscape_append ..))).2
          exact absurd letter.1 (other _ among)
      | number => exact separates_codePointEscape trivial trivial same

theorem Escape.append_ne_quote {c : Char} {s : List Char} (h : Escape c s) (x y : List Char) :
    s ++ x ≠ '"' :: y := by
  intro same
  cases h with
  | plain quote => exact quote (List.cons.inj same).1
  | letter e =>
      have first := (List.cons.inj same).1
      exact absurd first (by decide)
  | number =>
      have first := (List.cons.inj ((codePointEscape_append ..).symm.trans same)).1
      exact absurd first (by decide)

theorem quoted_append (s : String) (x : List Char) :
    (quoted s).toList ++ x = '"' :: (s.toList.flatMap escapeChar ++ '"' :: x) := by
  simp [quoted]

/-- A quoted name ends at the first quote that is not escaped. -/
theorem separates_quoted : Separates (fun s => (quoted s).toList) fun _ => True := by
  have escape : Separates escapeChar fun _ => True := fun c d _ _ _ _ same =>
    (escape_escapeChar c).append_inj (escape_escapeChar d) same
  have row : Separates (List.flatMap escapeChar) fun x => ∃ rest, x = '"' :: rest :=
    Separates.flatMap (fun _ _ => trivial) (fun _ _ => trivial) escape fun c x y last same => by
      obtain ⟨rest, rfl⟩ := last
      exact (escape_escapeChar c).append_ne_quote x rest same
  intro s t x y _ _ same
  rw [quoted_append, quoted_append] at same
  obtain ⟨chars, rest⟩ := row ⟨x, rfl⟩ ⟨y, rfl⟩ (List.cons.inj same).2
  exact ⟨String.toList_inj.mp chars, (List.cons.inj rest).2⟩

end CacheCoherence.Text
