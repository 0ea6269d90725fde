import CacheCoherence.Json.Forms
import CacheCoherence.Proofs.JsonShapes
import CacheCoherence.Proofs.SortedMap
import CacheCoherence.Proofs.Word

/-!
The JSON forms of identifiers, keys, access, kinds of requests and settings. For
each type the accepted forms are spelled out. The form that is written is one of
them, and what stands in an accepted form are the identifiers or the sizes of the
value, so no identifier is lost, made up or negative, wherever it stands.
-/

namespace CacheCoherence

open Json (Value)

namespace NodeId

/-- The form in which an identifier of a node is accepted. -/
def JsonForm (n : NodeId) (v : Value) : Prop :=
  v = .integer n.value

/-- The identifier as the signed word that it travels as. -/
def ids (n : NodeId) : List Int :=
  [n.toInt64.toInt]

theorem nonneg_of_mem_ids {n : NodeId} {i : Int} (h : i ∈ n.ids) : 0 ≤ i := by
  rw [List.mem_singleton.mp h, n.toInt_toInt64]
  exact Int.natCast_nonneg _

theorem ofJson?_eq_some_iff {v : Value} {n : NodeId} : ofJson? v = some n ↔ n.JsonForm v := by
  rw [ofJson?, Option.bind_eq_bind, Option.bind_eq_some_iff, JsonForm, ← n.toInt_toInt64]
  simp only [Value.word?_eq_some_iff, ofInt64?_eq_some_iff]
  constructor
  · intro h
    obtain ⟨raw, word, rfl⟩ := h
    exact word
  · intro h
    exact ⟨_, h, rfl⟩

theorem JsonForm.holds_iff {n : NodeId} {v : Value} (form : n.JsonForm v) (i : Int) :
    v.Holds i ↔ i ∈ n.ids := by
  rw [form, Value.holds_integer_iff, ids, List.mem_singleton, n.toInt_toInt64]

theorem faithful : Json.Faithful JsonForm (fun _ => True) toJson ofJson? Value.Holds ids :=
  .of_forms (fun _ _ => ofJson?_eq_some_iff) (fun _ _ _ => trivial) (fun _ _ => rfl)
    (fun _ _ form => form.holds_iff) fun _ _ => nonneg_of_mem_ids

end NodeId

namespace ObjectId

/-- The form in which an identifier of an object is accepted. -/
def JsonForm (o : ObjectId) (v : Value) : Prop :=
  v = .integer o.value

/-- The identifier as the signed word that it travels as. -/
def ids (o : ObjectId) : List Int :=
  [o.toInt64.toInt]

theorem nonneg_of_mem_ids {o : ObjectId} {i : Int} (h : i ∈ o.ids) : 0 ≤ i := by
  rw [List.mem_singleton.mp h, o.toInt_toInt64]
  exact Int.natCast_nonneg _

theorem ofJson?_eq_some_iff {v : Value} {o : ObjectId} : ofJson? v = some o ↔ o.JsonForm v := by
  rw [ofJson?, Option.bind_eq_bind, Option.bind_eq_some_iff, JsonForm, ← o.toInt_toInt64]
  simp only [Value.word?_eq_some_iff, ofInt64?_eq_some_iff]
  constructor
  · intro h
    obtain ⟨raw, word, rfl⟩ := h
    exact word
  · intro h
    exact ⟨_, h, rfl⟩

theorem JsonForm.holds_iff {o : ObjectId} {v : Value} (form : o.JsonForm v) (i : Int) :
    v.Holds i ↔ i ∈ o.ids := by
  rw [form, Value.holds_integer_iff, ids, List.mem_singleton, o.toInt_toInt64]

theorem faithful : Json.Faithful JsonForm (fun _ => True) toJson ofJson? Value.Holds ids :=
  .of_forms (fun _ _ => ofJson?_eq_some_iff) (fun _ _ _ => trivial) (fun _ _ => rfl)
    (fun _ _ form => form.holds_iff) fun _ _ => nonneg_of_mem_ids

end ObjectId

namespace BindingKey

/-- The forms in which a binding key is accepted. -/
inductive JsonForm : BindingKey → Value → Prop
  | name (s : String) : JsonForm (.name s) (.caseOf "Name" (.string s))
  | upper {v : Value} : v.Bare "Upper" → JsonForm .upper v

theorem ofJson?_eq_some_iff {v : Value} {k : BindingKey} : ofJson? v = some k ↔ k.JsonForm v := by
  constructor
  · intro h
    obtain ⟨⟨name, content⟩, named, read⟩ := Option.bind_eq_some_iff.mp h
    split at read
    · next text same =>
      cases same
      obtain ⟨s, isText, made⟩ := Option.bind_eq_some_iff.mp read
      cases made
      rw [Value.case?_eq_some_iff.mp named, Value.string?_eq_some_iff.mp isText]
      exact .name s
    · next content same =>
      cases same
      split at read
      · next empty =>
        cases read
        exact .upper (Value.bare_of_case? named empty)
      · cases read
    · cases read
  · intro h
    cases h with
    | name s => rfl
    | upper bare => cases bare <;> rfl

theorem jsonForm_toJson (k : BindingKey) : k.JsonForm k.toJson := by
  cases k with
  | name s => exact .name s
  | upper => exact .upper .text

theorem JsonForm.not_holds {k : BindingKey} {v : Value} (form : k.JsonForm v) (i : Int) :
    ¬v.Holds i := by
  cases form with
  | name s => exact mt Value.holds_caseOf_iff.mp (Value.not_holds_string s)
  | upper bare => exact bare.not_holds

theorem faithful : Json.Faithful JsonForm (fun _ => True) toJson ofJson? Value.Holds fun _ => [] :=
  .of_forms (fun _ _ => ofJson?_eq_some_iff) (fun _ _ _ => trivial) (fun k _ => k.jsonForm_toJson)
    (fun _ _ form i => iff_of_false (form.not_holds i) List.not_mem_nil) fun _ _ => nofun

end BindingKey

namespace Key

/-- The forms in which a key is accepted. -/
inductive JsonForm : Key → Value → Prop
  | object {o : ObjectId} {v : Value} : o.JsonForm v → JsonForm (.object o) (.caseOf "Object" v)
  | binding {k : BindingKey} {v : Value} :
    k.JsonForm v → JsonForm (.binding k) (.caseOf "Binding" v)

/-- The identifiers in a key. -/
def ids : Key → List Int
  | .object o => o.ids
  | .binding _ => []

theorem nonneg_of_mem_ids {k : Key} {i : Int} (h : i ∈ k.ids) : 0 ≤ i := by
  cases k with
  | object o => exact o.nonneg_of_mem_ids h
  | binding b => cases h

theorem ofJson?_eq_some_iff {v : Value} {k : Key} : ofJson? v = some k ↔ k.JsonForm v := by
  constructor
  · intro h
    obtain ⟨⟨name, content⟩, named, read⟩ := Option.bind_eq_some_iff.mp h
    split at read
    · next content same =>
      cases same
      obtain ⟨o, isId, made⟩ := Option.bind_eq_some_iff.mp read
      cases made
      rw [Value.case?_eq_some_iff.mp named]
      exact .object (ObjectId.ofJson?_eq_some_iff.mp isId)
    · next content same =>
      cases same
      obtain ⟨k, isKey, made⟩ := Option.bind_eq_some_iff.mp read
      cases made
      rw [Value.case?_eq_some_iff.mp named]
      exact .binding (BindingKey.ofJson?_eq_some_iff.mp isKey)
    · cases read
  · intro h
    cases h with
    | object form =>
        have read := ObjectId.ofJson?_eq_some_iff.mpr form
        simp [ofJson?, Value.caseOf, Value.case?, read]
    | binding form =>
        have read := BindingKey.ofJson?_eq_some_iff.mpr form
        simp [ofJson?, Value.caseOf, Value.case?, read]

theorem jsonForm_toJson (k : Key) : k.JsonForm k.toJson := by
  cases k with
  | object o => exact .object rfl
  | binding b => exact .binding b.jsonForm_toJson

theorem JsonForm.holds_iff {k : Key} {v : Value} (form : k.JsonForm v) (i : Int) :
    v.Holds i ↔ i ∈ k.ids := by
  cases form with
  | object form => exact Value.holds_caseOf_iff.trans (form.holds_iff i)
  | binding form =>
      rw [Value.holds_caseOf_iff]
      exact iff_of_false (form.not_holds i) List.not_mem_nil

theorem faithful : Json.Faithful JsonForm (fun _ => True) toJson ofJson? Value.Holds ids :=
  .of_forms (fun _ _ => ofJson?_eq_some_iff) (fun _ _ _ => trivial) (fun k _ => k.jsonForm_toJson)
    (fun _ _ form => form.holds_iff) fun _ _ => nonneg_of_mem_ids

end Key

namespace Access

/-- The forms in which a level is accepted. -/
def Level.JsonForm (l : Level) (v : Value) : Prop :=
  v.Bare l.caseName

theorem Level.ofJson?_eq_some_iff {v : Value} {l : Level} :
    ofJson? v = some l ↔ l.JsonForm v := by
  constructor
  · intro h
    obtain ⟨name, bare, named⟩ := Option.bind_eq_some_iff.mp h
    rw [Value.bare?_eq_some_iff] at bare
    split at named <;> cases named <;> exact bare
  · intro h
    cases l <;> cases h <;> rfl

theorem Level.faithful :
    Json.Faithful JsonForm (fun _ => True) toJson ofJson? Value.Holds fun _ => [] :=
  .of_forms (fun _ _ => ofJson?_eq_some_iff) (fun _ _ _ => trivial) (fun _ _ => .text)
    (fun _ _ bare _ => iff_of_false bare.not_holds List.not_mem_nil) fun _ _ => nofun

namespace State

/-- The forms in which a state is accepted. Readers may come in any order, and more than once. -/
inductive JsonForm : State → Value → Prop
  | unheld {v : Value} : v.Bare "Unheld" → JsonForm .unheld v
  | shared {readers : List NodeId} {items : List Value} :
    List.Forall₂ (fun item n => n.JsonForm item) items readers →
    JsonForm (.shared (SortedSet.ofList readers)) (.caseOf "ReadShared" (.array items))
  | exclusive {w : NodeId} {v : Value} :
    w.JsonForm v → JsonForm (.exclusive w) (.caseOf "WriteExclusive" v)

/-- The identifiers in a state. -/
def ids (s : State) : List Int :=
  s.holders.flatMap NodeId.ids

theorem nonneg_of_mem_ids {s : State} {i : Int} (h : i ∈ s.ids) : 0 ≤ i := by
  obtain ⟨n, -, here⟩ := List.mem_flatMap.mp h
  exact n.nonneg_of_mem_ids here

theorem ofJson?_eq_some_iff {v : Value} {s : State} : ofJson? v = some s ↔ s.JsonForm v := by
  have readers (items : List Value) (ns : List NodeId) : items.mapM NodeId.ofJson? = some ns ↔
      List.Forall₂ (fun item n => n.JsonForm item) items ns := by
    simp only [mapM_eq_some_iff_forall₂, NodeId.ofJson?_eq_some_iff]
  constructor
  · intro h
    obtain ⟨⟨name, content⟩, named, read⟩ := Option.bind_eq_some_iff.mp h
    split at read
    · next content same =>
      cases same
      split at read
      · next empty =>
        cases read
        exact .unheld (Value.bare_of_case? named empty)
      · cases read
    · next content same =>
      cases same
      obtain ⟨items, isArray, read⟩ := Option.bind_eq_some_iff.mp read
      obtain ⟨ns, areIds, made⟩ := Option.bind_eq_some_iff.mp read
      cases made
      rw [Value.case?_eq_some_iff.mp named, Value.array?_eq_some_iff.mp isArray]
      exact .shared ((readers items ns).mp areIds)
    · next content same =>
      cases same
      obtain ⟨w, isId, made⟩ := Option.bind_eq_some_iff.mp read
      cases made
      rw [Value.case?_eq_some_iff.mp named]
      exact .exclusive (NodeId.ofJson?_eq_some_iff.mp isId)
    · cases read
  · intro h
    cases h with
    | unheld bare => cases bare <;> rfl
    | shared forms =>
        have read := (readers ..).mpr forms
        simp [ofJson?, Value.caseOf, Value.case?, Value.array?, read]
    | exclusive form =>
        have read := NodeId.ofJson?_eq_some_iff.mpr form
        simp [ofJson?, Value.caseOf, Value.case?, read]

theorem JsonForm.holds_iff {s : State} {v : Value} (form : s.JsonForm v) (i : Int) :
    v.Holds i ↔ i ∈ s.ids := by
  cases form with
  | unheld bare => exact iff_of_false bare.not_holds List.not_mem_nil
  | @shared readers items forms =>
      have held : (∃ item ∈ items, item.Holds i) ↔ ∃ n ∈ readers, i ∈ n.ids := by
        induction forms with
        | nil => simp
        | cons form _ ih => simp [form.holds_iff, ih]
      rw [Value.holds_caseOf_iff, Value.holds_array_iff, held, ids, holders, List.mem_flatMap]
      -- The set has no other members than the readers in the array, in whatever order they came.
      exact exists_congr fun n => and_congr_left fun _ => SortedSet.mem_ofList.symm
  | exclusive form =>
      rw [Value.holds_caseOf_iff, form.holds_iff, ids, holders, List.flatMap_singleton]

theorem jsonForm_toJson (s : State) : s.JsonForm s.toJson := by
  cases s with
  | unheld => exact .unheld .text
  | shared readers =>
      have written : List.Forall₂ (fun item n => NodeId.JsonForm n item)
          (readers.toList.map NodeId.toJson) readers.toList :=
        List.forall₂_map_left_iff.mpr (List.forall₂_same.mpr fun _ _ => rfl)
      have form := JsonForm.shared written
      rwa [SortedSet.ofList_toList] at form
  | exclusive w => exact .exclusive rfl

theorem faithful : Json.Faithful JsonForm (fun _ => True) toJson ofJson? Value.Holds ids :=
  .of_forms (fun _ _ => ofJson?_eq_some_iff) (fun _ _ _ => trivial) (fun s _ => s.jsonForm_toJson)
    (fun _ _ form => form.holds_iff) fun _ _ => nonneg_of_mem_ids

end State

namespace Entry

/-- The forms in which an entry is accepted. -/
def JsonForm (e : Entry) (v : Value) : Prop :=
  ∃ key state, v.Record fieldNames [key, state] ∧ e.key.JsonForm key ∧ e.state.JsonForm state

/-- The identifiers in an entry. -/
def ids (e : Entry) : List Int :=
  e.key.ids ++ e.state.ids

theorem nonneg_of_mem_ids {e : Entry} {i : Int} (h : i ∈ e.ids) : 0 ≤ i := by
  obtain ofKey | ofState := List.mem_append.mp h
  · exact Key.nonneg_of_mem_ids ofKey
  · exact State.nonneg_of_mem_ids ofState

theorem ofJson?_eq_some_iff {v : Value} {e : Entry} : ofJson? v = some e ↔ e.JsonForm v := by
  constructor
  · intro h
    obtain ⟨fields, record, read⟩ := Option.bind_eq_some_iff.mp h
    split at read
    · next key state =>
      obtain ⟨k, isKey, read⟩ := Option.bind_eq_some_iff.mp read
      obtain ⟨s, isState, made⟩ := Option.bind_eq_some_iff.mp read
      cases made
      exact ⟨key, state, Value.record?_eq_some_iff.mp record, Key.ofJson?_eq_some_iff.mp isKey,
        State.ofJson?_eq_some_iff.mp isState⟩
    · cases read
  · intro h
    obtain ⟨key, state, record, isKey, isState⟩ := h
    simp [ofJson?, Value.record?_eq_some_iff.mpr record, Key.ofJson?_eq_some_iff.mpr isKey,
      State.ofJson?_eq_some_iff.mpr isState]

theorem JsonForm.holds_iff {e : Entry} {v : Value} (form : e.JsonForm v) (i : Int) :
    v.HoldsInFields fieldNames i ↔ i ∈ e.ids := by
  obtain ⟨key, state, record, isKey, isState⟩ := form
  rw [Value.holdsInFields_iff record, ids, List.mem_append, ← isKey.holds_iff, ← isState.holds_iff]
  simp

theorem jsonForm_toJson (e : Entry) : e.JsonForm e.toJson :=
  ⟨e.key.toJson, e.state.toJson, .object (by simp [fieldNames]), e.key.jsonForm_toJson,
    e.state.jsonForm_toJson⟩

theorem faithful :
    Json.Faithful JsonForm (fun _ => True) toJson ofJson? (Value.HoldsInFields fieldNames) ids :=
  .of_forms (fun _ _ => ofJson?_eq_some_iff) (fun _ _ _ => trivial) (fun e _ => e.jsonForm_toJson)
    (fun _ _ form => form.holds_iff) fun _ _ => nonneg_of_mem_ids

end Entry

end Access

namespace RequestKind

/-- The forms in which a kind is accepted. -/
def JsonForm (k : RequestKind) (v : Value) : Prop :=
  v.Bare k.caseName

theorem ofJson?_eq_some_iff {v : Value} {k : RequestKind} :
    ofJson? v = some k ↔ k.JsonForm v := by
  constructor
  · intro h
    obtain ⟨name, bare, found⟩ := Option.bind_eq_some_iff.mp h
    have matched := List.find?_some found
    obtain rfl : k.caseName = name := of_decide_eq_true matched
    exact Value.bare?_eq_some_iff.mp bare
  · intro h
    refine Option.bind_eq_some_iff.mpr ⟨k.caseName, Value.bare?_eq_some_iff.mpr h, ?_⟩
    cases k <;> decide

theorem faithful : Json.Faithful JsonForm (fun _ => True) toJson ofJson? Value.Holds fun _ => [] :=
  .of_forms (fun _ _ => ofJson?_eq_some_iff) (fun _ _ _ => trivial) (fun _ _ => .text)
    (fun _ _ bare _ => iff_of_false bare.not_holds List.not_mem_nil) fun _ _ => nofun

end RequestKind

namespace Settings

/-- Whether every size fits the word that it is kept in. -/
def Sized (s : Settings) : Prop :=
  ∀ field ∈ s.sizeFields, field.2 ≤ maxSize

/-- What the fields hold, in order. -/
def contents (s : Settings) : List Value :=
  [.integer s.shards, .integer s.maxBatch, .integer s.maxValue, .integer s.maxName,
    .integer s.feedCapacity, .string s.listenAddress]

def sizes (s : Settings) : List Int :=
  s.sizeFields.map fun field => field.2

theorem record_toJson (s : Settings) : s.toJson.Record fieldNames s.contents :=
  .object (by simp [fieldNames, contents])

theorem sized_iff (s : Settings) : s.Sized ↔ s.shards ≤ maxSize ∧ s.maxBatch ≤ maxSize ∧
    s.maxValue ≤ maxSize ∧ s.maxName ≤ maxSize ∧ s.feedCapacity ≤ maxSize := by
  simp [Sized, sizeFields, limitFields]

/-- The forms in which settings are accepted. -/
def JsonForm (s : Settings) (v : Value) : Prop :=
  v.Record fieldNames s.contents ∧ s.Sized

theorem ofJson?_eq_some_iff {v : Value} {s : Settings} : ofJson? v = some s ↔ s.JsonForm v := by
  rw [JsonForm, sized_iff, ← Value.record?_eq_some_iff]
  constructor
  · intro h
    obtain ⟨fields, record, read⟩ := Option.bind_eq_some_iff.mp h
    split at read
    · simp only [Option.bind_eq_bind, Option.bind_eq_some_iff, Value.size?_eq_some_iff,
        Value.string?_eq_some_iff] at read
      obtain ⟨_, ⟨rfl, shards⟩, _, ⟨rfl, batch⟩, _, ⟨rfl, value⟩, _, ⟨rfl, name⟩, _, ⟨rfl, feed⟩, _,
        rfl, made⟩ := read
      cases made
      exact ⟨record, shards, batch, value, name, feed⟩
    · cases read
  · intro h
    obtain ⟨record, shards, batch, value, name, feed⟩ := h
    refine Option.bind_eq_some_iff.mpr ⟨s.contents, record, ?_⟩
    simp only [contents, Option.bind_eq_bind, Option.bind_eq_some_iff, Value.size?_eq_some_iff,
      Value.string?_eq_some_iff]
    exact ⟨_, ⟨rfl, shards⟩, _, ⟨rfl, batch⟩, _, ⟨rfl, value⟩, _, ⟨rfl, name⟩, _, ⟨rfl, feed⟩, _,
      rfl, rfl⟩

theorem nonneg_of_mem_sizes {s : Settings} {i : Int} (h : i ∈ s.sizes) : 0 ≤ i := by
  obtain ⟨field, -, rfl⟩ := List.mem_map.mp h
  exact Int.natCast_nonneg _

theorem JsonForm.holds_iff {s : Settings} {v : Value} (form : s.JsonForm v) (i : Int) :
    v.HoldsInFields fieldNames i ↔ i ∈ s.sizes := by
  rw [Value.holdsInFields_iff form.1]
  simp [contents, sizes, sizeFields, limitFields]

theorem faithful :
    Json.Faithful JsonForm Sized toJson ofJson? (Value.HoldsInFields fieldNames) sizes :=
  .of_forms (fun _ _ => ofJson?_eq_some_iff) (fun _ _ form => form.2)
    (fun s sized => ⟨s.record_toJson, sized⟩) (fun _ _ form => form.holds_iff)
    fun _ _ => nonneg_of_mem_sizes

end Settings

namespace Json

/-- Every type has a faithful JSON form: no value is lost in it, whichever form it came in, and no
accepted form has a negative number where an identifier or a size stands. -/
theorem forms_faithful :
    Faithful NodeId.JsonForm (fun _ => True) NodeId.toJson NodeId.ofJson? Value.Holds NodeId.ids ∧
    Faithful ObjectId.JsonForm (fun _ => True) ObjectId.toJson ObjectId.ofJson? Value.Holds
      ObjectId.ids ∧
    Faithful BindingKey.JsonForm (fun _ => True) BindingKey.toJson BindingKey.ofJson? Value.Holds
      (fun _ => []) ∧
    Faithful Key.JsonForm (fun _ => True) Key.toJson Key.ofJson? Value.Holds Key.ids ∧
    Faithful Access.Level.JsonForm (fun _ => True) Access.Level.toJson Access.Level.ofJson?
      Value.Holds (fun _ => []) ∧
    Faithful Access.State.JsonForm (fun _ => True) Access.State.toJson Access.State.ofJson?
      Value.Holds Access.State.ids ∧
    Faithful Access.Entry.JsonForm (fun _ => True) Access.Entry.toJson Access.Entry.ofJson?
      (Value.HoldsInFields Access.Entry.fieldNames) Access.Entry.ids ∧
    Faithful RequestKind.JsonForm (fun _ => True) RequestKind.toJson RequestKind.ofJson?
      Value.Holds (fun _ => []) ∧
    Faithful Settings.JsonForm Settings.Sized Settings.toJson Settings.ofJson?
      (Value.HoldsInFields Settings.fieldNames) Settings.sizes :=
  ⟨NodeId.faithful, ObjectId.faithful, BindingKey.faithful, Key.faithful, Access.Level.faithful,
    Access.State.faithful, Access.Entry.faithful, RequestKind.faithful, Settings.faithful⟩

/-- An entry in an array, with null for the upper bound and a reader twice and out of order, and
settings with the greatest size there is. -/
theorem forms_faithful_unsorted :
    let v : Value := .array [.caseOf "Binding" (.caseOf "Upper" .null),
      .caseOf "ReadShared" (.array [.integer 3, .integer 1, .integer 3])]
    let e : Access.Entry := ⟨.binding .upper, .shared (SortedSet.ofList [1, 3])⟩
    let s : Settings := { feedCapacity := Settings.maxSize }
    Access.Entry.ofJson? v = some e ∧ Access.Entry.ofJson? e.toJson = some e ∧
      (∀ i, v.HoldsInFields Access.Entry.fieldNames i → 0 ≤ i) ∧
      s.Sized ∧ Settings.ofJson? s.toJson = some s := by
  intro v e s
  have accepted : Access.Entry.ofJson? v = some e := rfl
  have sized : s.Sized := s.sized_iff.mpr (by decide)
  obtain ⟨-, -, -, -, -, -, entry, -, settings⟩ := forms_faithful
  exact ⟨accepted, entry.read_rewrite v e accepted, entry.nonneg v e accepted, sized,
    settings.read_write s sized⟩

end Json

end CacheCoherence
