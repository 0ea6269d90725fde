import CacheCoherence.Id
import CacheCoherence.Text.Quoted

/-!
What access is granted on: objects by their identifier, and name bindings by
their name. One binding key, the upper bound, stands after every name; it can
be held but never bound. Objects come before bindings in the order of keys.
-/

namespace CacheCoherence

inductive BindingKey where
  | name (text : String)
  | upper
  deriving DecidableEq

inductive Key where
  | object (oid : ObjectId)
  | binding (key : BindingKey)
  deriving DecidableEq

namespace BindingKey

def name? : BindingKey → Option String
  | .name s => some s
  | .upper => none

def isUpper : BindingKey → Bool
  | .name _ => false
  | .upper => true

instance : Coe String BindingKey := ⟨name⟩

def order : BindingKey → BindingKey → Ordering
  | .name a, .name b => compare a b
  | .name _, .upper => .lt
  | .upper, .name _ => .gt
  | .upper, .upper => .eq

instance : Ord BindingKey := ⟨order⟩

instance : Std.TransOrd BindingKey where
  eq_swap {a b} := by
    cases a <;> cases b <;> try rfl
    exact Std.OrientedOrd.eq_swap (α := String)
  isLE_trans {a b c} h k := by
    cases b with
    | name s =>
      cases a with
      | upper => cases h
      | name r =>
        cases c with
        | upper => rfl
        | name t => exact Std.TransOrd.isLE_trans (α := String) h k
    | upper =>
      cases c with
      | name t => cases k
      | upper => cases a <;> rfl

instance : Std.LawfulEqOrd BindingKey where
  compare_self {a} := by
    cases a with
    | name s => exact Std.compare_self (α := String)
    | upper => rfl
  eq_of_compare {a b} h := by
    cases a with
    | name s =>
      cases b with
      | name t => exact congrArg name (Std.LawfulEqOrd.eq_of_compare (α := String) h)
      | upper => cases h
    | upper =>
      cases b with
      | name t => cases h
      | upper => rfl

instance : ToString BindingKey where
  toString
    | .name s => Text.quoted s
    | .upper => "<upper>"

end BindingKey

namespace Key

instance : Coe ObjectId Key := ⟨object⟩

instance : Coe BindingKey Key := ⟨binding⟩

def order : Key → Key → Ordering
  | .object a, .object b => compare a b
  | .object _, .binding _ => .lt
  | .binding _, .object _ => .gt
  | .binding a, .binding b => compare a b

instance : Ord Key := ⟨order⟩

instance : Std.TransOrd Key where
  eq_swap {a b} := by
    cases a <;> cases b <;> try rfl
    · exact Std.OrientedOrd.eq_swap (α := ObjectId)
    · exact Std.OrientedOrd.eq_swap (α := BindingKey)
  isLE_trans {a b c} h k := by
    cases b with
    | object o =>
      cases a with
      | binding => cases h
      | object =>
        cases c with
        | object => exact Std.TransOrd.isLE_trans (α := ObjectId) h k
        | binding => rfl
    | binding b =>
      cases c with
      | object => cases k
      | binding =>
        cases a with
        | object => rfl
        | binding => exact Std.TransOrd.isLE_trans (α := BindingKey) h k

instance : Std.LawfulEqOrd Key where
  compare_self {a} := by
    cases a with
    | object o => exact Std.compare_self (α := ObjectId)
    | binding k =>
      exact Std.compare_self (α := BindingKey)
  eq_of_compare {a b} h := by
    cases a <;> cases b <;> try cases h
    · exact congrArg object (Std.LawfulEqOrd.eq_of_compare (α := ObjectId) h)
    · exact congrArg binding (Std.LawfulEqOrd.eq_of_compare (α := BindingKey) h)

instance : ToString Key where
  toString
    | .object o => s!"object {o}"
    | .binding k => s!"binding {k}"

end Key

end CacheCoherence
