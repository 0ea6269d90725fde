import CacheCoherence.Error
import Mathlib.Data.List.Forall2

/-!
Computations that may fail, one after the other. The whole succeeds where every
part does, so what a successful run of checks has established can be read off
it part by part.
-/

namespace CacheCoherence

theorem bind_eq_ok_iff {ε α β : Type} (x : Except ε α) (f : α → Except ε β) (y : β) :
    (x >>= f) = .ok y ↔ ∃ a, x = .ok a ∧ f a = .ok y := by
  cases x with
  | error e => simp [bind, Except.bind]
  | ok a => simp [bind, Except.bind]

theorem bind_eq_error_iff {ε α β : Type} (x : Except ε α) (f : α → Except ε β) (e : ε) :
    (x >>= f) = .error e ↔ x = .error e ∨ ∃ a, x = .ok a ∧ f a = .error e := by
  cases x with
  | error e => simp [bind, Except.bind]
  | ok a => simp [bind, Except.bind]

theorem forM_eq_ok_iff {α ε : Type} (f : α → Except ε Unit) (xs : List α) (u : Unit) :
    xs.forM f = .ok u ↔ ∀ x ∈ xs, f x = .ok () := by
  induction xs with
  | nil => simp [pure, Except.pure]
  | cons x xs ih =>
      change (f x >>= fun _ => xs.forM f) = _ ↔ _
      rw [bind_eq_ok_iff, List.forall_mem_cons, ih]
      constructor
      · intro h
        obtain ⟨_, hx, later⟩ := h
        exact ⟨hx, later⟩
      · intro h
        obtain ⟨hx, later⟩ := h
        exact ⟨(), hx, later⟩

theorem exists_of_forM_eq_error {α ε : Type} {f : α → Except ε Unit} {xs : List α} {e : ε}
    (h : xs.forM f = .error e) : ∃ x ∈ xs, f x = .error e := by
  induction xs with
  | nil => cases h
  | cons x xs ih =>
      change (f x >>= fun _ => xs.forM f) = _ at h
      rw [bind_eq_error_iff] at h
      obtain first | ⟨_, _, later⟩ := h
      · exact ⟨x, List.mem_cons_self, first⟩
      · obtain ⟨y, hy, failed⟩ := ih later
        exact ⟨y, List.mem_cons_of_mem x hy, failed⟩

theorem exists_mapM_eq_ok_iff {α β ε : Type} (f : α → Except ε β) (xs : List α) :
    (∃ ys, xs.mapM f = .ok ys) ↔ ∀ x ∈ xs, ∃ y, f x = .ok y := by
  induction xs with
  | nil => simp [pure, Except.pure]
  | cons x xs ih =>
      rw [List.forall_mem_cons, ← ih]
      simp only [List.mapM_cons, bind_eq_ok_iff]
      constructor
      · intro h
        obtain ⟨_, y, first, ys, others, -⟩ := h
        exact ⟨⟨y, first⟩, ys, others⟩
      · intro h
        obtain ⟨⟨y, first⟩, ys, others⟩ := h
        exact ⟨y :: ys, y, first, ys, others, rfl⟩

theorem forall_mem_zip_iff {α β : Type} {p : α → Prop} {q : β → Prop} {xs : List α} {ys : List β}
    (len : xs.length = ys.length) :
    (∀ e ∈ xs.zip ys, p e.1 ∧ q e.2) ↔ (∀ x ∈ xs, p x) ∧ ∀ y ∈ ys, q y := by
  constructor
  · intro h
    have lefts : (xs.zip ys).map Prod.fst = xs := List.map_fst_zip (Nat.le_of_eq len)
    have rights : (xs.zip ys).map Prod.snd = ys := List.map_snd_zip (Nat.le_of_eq len.symm)
    constructor
    · intro x among
      rw [← lefts] at among
      obtain ⟨e, here, rfl⟩ := List.mem_map.mp among
      exact (h e here).1
    · intro y among
      rw [← rights] at among
      obtain ⟨e, here, rfl⟩ := List.mem_map.mp among
      exact (h e here).2
  · intro h e among
    obtain ⟨left, right⟩ := List.of_mem_zip among
    exact ⟨h.1 e.1 left, h.2 e.2 right⟩

theorem mapM_eq_some_iff_forall₂ {α β : Type} {f : α → Option β} (xs : List α) (ys : List β) :
    xs.mapM f = some ys ↔ List.Forall₂ (fun x y => f x = some y) xs ys := by
  induction xs generalizing ys with
  | nil => cases ys <;> simp
  | cons x xs ih =>
      cases ys with
      | nil => simp [Option.bind_eq_some_iff]
      | cons y ys => simp [Option.bind_eq_some_iff, ih]

section Arrays

variable {α β γ ε : Type} {f : α → β → Except ε γ} {g : γ → α} {h : γ → β}

theorem mapM_zip_eq_ok_iff (law : ∀ x y w, f x y = .ok w ↔ x = g w ∧ y = h w) (xs : List α)
    (ys : List β) (len : xs.length = ys.length) (ws : List γ) :
    ((xs.zip ys).mapM fun p => f p.1 p.2) = .ok ws ↔ xs = ws.map g ∧ ys = ws.map h := by
  induction xs generalizing ys ws with
  | nil =>
      obtain rfl : ys = [] := List.length_eq_zero_iff.mp len.symm
      cases ws <;> simp [pure, Except.pure]
  | cons x xs ih =>
      cases ys with
      | nil => cases len
      | cons y ys =>
          rw [List.zip_cons_cons, List.mapM_cons, bind_eq_ok_iff]
          simp only [bind_eq_ok_iff, law, ih ys (Nat.succ_inj.mp len)]
          constructor
          · intro given
            obtain ⟨w, ⟨hx, hy⟩, rest, ⟨hxs, hys⟩, hw⟩ := given
            cases hw
            rw [hx, hy, hxs, hys]
            exact ⟨rfl, rfl⟩
          · intro given
            obtain ⟨hx, hy⟩ := given
            cases ws with
            | nil => cases hx
            | cons w rest =>
                rw [List.map_cons, List.cons.injEq] at hx hy
                exact ⟨w, ⟨hx.1, hy.1⟩, rest, ⟨hx.2, hy.2⟩, rfl⟩

end Arrays

end CacheCoherence
