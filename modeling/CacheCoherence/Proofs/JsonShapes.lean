import CacheCoherence.Json.Value
import CacheCoherence.Proofs.Except
import CacheCoherence.Settings

/-!
The shapes that types take in JSON: what each reader of a shape accepts, and which
integers stand in it. A type has a faithful form when what is written is read as
what it was written from, what any accepted form is written as anew is read as the
same value, and the integers in an accepted form are the numbers of the value.
-/

namespace CacheCoherence

open Json (Value)

namespace Json

namespace Value

/-- The integer stands in the value, at some depth. -/
inductive Holds : Value → Int → Prop
  | integer (n : Int) : Holds (.integer n) n
  | item {items : List Value} {v : Value} {i : Int} : v ∈ items → Holds v i → Holds (.array items) i
  | content {members : List (String × Value)} {m : String × Value} {i : Int} :
    m ∈ members → Holds m.2 i → Holds (.object members) i

/-- The two forms of a case without content. -/
inductive Bare (name : String) : Value → Prop
  | text : Bare name (.string name)
  | null : Bare name (.caseOf name .null)

/-- The two forms of a record with these fields. An object may have other members beside them. -/
inductive Record (names : List String) (fields : List Value) : Value → Prop
  | array : fields.length = names.length → Record names fields (.array fields)
  | object {members : List (String × Value)} :
    List.Forall₂ (fun name field => members.filter (·.1 = name) = [(name, field)]) names fields →
    Record names fields (.object members)

/-- The integer stands in a field of the record, at some depth. -/
def HoldsInFields (names : List String) (v : Value) (i : Int) : Prop :=
  ∃ fields, v.Record names fields ∧ ∃ field ∈ fields, field.Holds i

section Holds

variable {i : Int}

@[simp] theorem holds_integer_iff {n : Int} : (integer n).Holds i ↔ i = n := by
  constructor
  · intro h
    cases h
    rfl
  · rintro rfl
    exact .integer i

@[simp] theorem holds_array_iff {items : List Value} :
    (array items).Holds i ↔ ∃ v ∈ items, v.Holds i := by
  constructor
  · intro h
    cases h with
    | item among held => exact ⟨_, among, held⟩
  · intro h
    obtain ⟨v, among, held⟩ := h
    exact .item among held

@[simp] theorem holds_caseOf_iff {name : String} {content : Value} :
    (caseOf name content).Holds i ↔ content.Holds i := by
  constructor
  · intro h
    cases h with
    | content among held =>
        cases List.mem_singleton.mp among
        exact held
  · intro h
    exact .content List.mem_cons_self h

@[simp] theorem not_holds_null : ¬null.Holds i := nofun

@[simp] theorem not_holds_string (s : String) : ¬(string s).Holds i := nofun

theorem Bare.not_holds {name : String} {v : Value} (bare : v.Bare name) : ¬v.Holds i := by
  cases bare with
  | text => exact not_holds_string name
  | null => exact mt holds_caseOf_iff.mp not_holds_null

end Holds

theorem string?_eq_some_iff {v : Value} {s : String} : v.string? = some s ↔ v = .string s := by
  cases v <;> simp [string?]

theorem array?_eq_some_iff {v : Value} {items : List Value} :
    v.array? = some items ↔ v = .array items := by
  cases v <;> simp [array?]

theorem word?_eq_some_iff {v : Value} {w : Int64} : v.word? = some w ↔ v = .integer w.toInt := by
  cases v with
  | integer n =>
      have low := w.le_toInt
      have high := w.toInt_lt
      simp only [word?, integer.injEq]
      constructor
      · intro h
        split at h
        · next fits =>
          cases h
          exact (Int64.toInt_ofInt_of_le fits.1 fits.2).symm
        · cases h
      · rintro rfl
        rw [if_pos ⟨low, high⟩, Int64.ofInt_toInt]
  | null | bool _ | fraction | string _ | array _ | object _ => simp [word?]

theorem size?_eq_some_iff {v : Value} {n : Nat} :
    v.size? = some n ↔ v = .integer n ∧ n ≤ Settings.maxSize := by
  cases v with
  | integer m =>
      simp only [size?, integer.injEq, Settings.maxSize]
      split
      · simp only [Option.some.injEq]
        omega
      · simp only [reduceCtorEq, false_iff]
        omega
  | null | bool _ | fraction | string _ | array _ | object _ => simp [size?]

theorem case?_eq_some_iff {v : Value} {name : String} {content : Option Value} :
    v.case? = some (name, content) ↔
      v = match content with
        | none => .string name
        | some content => .caseOf name content := by
  unfold case?
  split
  · cases content <;> simp [caseOf]
  · cases content <;> simp [caseOf]
  · next notText notCase =>
    cases content with
    | none => simpa using notText name
    | some content => simpa [caseOf] using notCase name content

theorem isEmptyContent_eq_true_iff {content : Option Value} :
    isEmptyContent content = true ↔ content = none ∨ content = some .null := by
  unfold isEmptyContent
  split <;> simp_all

theorem bare_of_case? {v : Value} {name : String} {content : Option Value}
    (named : v.case? = some (name, content)) (empty : isEmptyContent content = true) :
    v.Bare name := by
  rw [case?_eq_some_iff] at named
  obtain rfl | rfl := isEmptyContent_eq_true_iff.mp empty
  · exact named ▸ .text
  · exact named ▸ .null

theorem bare?_eq_some_iff {v : Value} {name : String} : v.bare? = some name ↔ v.Bare name := by
  constructor
  · intro h
    obtain ⟨⟨found, content⟩, named, read⟩ := Option.bind_eq_some_iff.mp h
    split at read
    · next empty =>
      cases read
      exact bare_of_case? named empty
    · cases read
  · intro h
    cases h <;> rfl

theorem member?_eq_some_iff {name : String} {members : List (String × Value)} {field : Value} :
    member? name members = some field ↔ members.filter (·.1 = name) = [(name, field)] := by
  -- The pair in the equation is the member that is kept only because the filter kept its name.
  have named : ∀ m ∈ members.filter (·.1 = name), m.1 = name := fun m among => by
    simpa using (List.mem_filter.mp among).2
  unfold member?
  split
  · next m only =>
    have same := named m (only ▸ List.mem_singleton_self m)
    simp [only, Prod.ext_iff, same]
  · next several =>
    simp only [reduceCtorEq, false_iff]
    exact several (name, field)

theorem record?_eq_some_iff {v : Value} {names : List String} {fields : List Value} :
    v.record? names = some fields ↔ v.Record names fields := by
  constructor
  · intro h
    unfold record? at h
    split at h
    · rw [mapM_eq_some_iff_forall₂] at h
      exact .object (h.imp fun _ _ => member?_eq_some_iff.mp)
    · split at h
      · next same =>
        cases h
        exact .array same
      · cases h
    · cases h
  · intro h
    cases h with
    | array same => exact if_pos same
    | object only =>
        exact (mapM_eq_some_iff_forall₂ ..).mpr (only.imp fun _ _ => member?_eq_some_iff.mpr)

theorem holdsInFields_iff {v : Value} {names : List String} {fields : List Value}
    (record : v.Record names fields) {i : Int} :
    v.HoldsInFields names i ↔ ∃ field ∈ fields, field.Holds i := by
  simp [HoldsInFields, ← record?_eq_some_iff, record?_eq_some_iff.mpr record]

end Value

/-- A way of writing the values of a type, of those that are `Sized`, as JSON, and of reading them
in the forms that are accepted. What is written is read as what it was written from, and so is what
any accepted form is written as anew. The integers that reading heeds are the numbers of the value,
and none is negative. -/
structure Faithful {α : Type} (Form : α → Value → Prop) (Sized : α → Prop) (write : α → Value)
    (read? : Value → Option α) (heeds : Value → Int → Prop) (numbers : α → List Int) : Prop where
  accepted : ∀ v x, read? v = some x ↔ Form x v
  read_write : ∀ x, Sized x → read? (write x) = some x
  read_rewrite : ∀ v x, read? v = some x → read? (write x) = some x
  heeded : ∀ v x, read? v = some x → ∀ i, heeds v i ↔ i ∈ numbers x
  nonneg : ∀ v x, read? v = some x → ∀ i, heeds v i → 0 ≤ i

/-- It is enough to know the accepted forms, and that the written one is among them. -/
theorem Faithful.of_forms {α : Type} {Form : α → Value → Prop} {Sized : α → Prop}
    {write : α → Value} {read? : Value → Option α} {heeds : Value → Int → Prop}
    {numbers : α → List Int} (accepted : ∀ v x, read? v = some x ↔ Form x v)
    (sized : ∀ v x, Form x v → Sized x) (written : ∀ x, Sized x → Form x (write x))
    (heeded : ∀ v x, Form x v → ∀ i, heeds v i ↔ i ∈ numbers x)
    (nonneg : ∀ x, ∀ i ∈ numbers x, 0 ≤ i) : Faithful Form Sized write read? heeds numbers where
  accepted := accepted
  read_write x h := (accepted ..).mpr (written x h)
  read_rewrite v x read := (accepted ..).mpr (written x (sized v x ((accepted ..).mp read)))
  heeded v x read := heeded v x ((accepted ..).mp read)
  nonneg v x read i held := nonneg x i ((heeded v x ((accepted ..).mp read) i).mp held)

end Json

end CacheCoherence
