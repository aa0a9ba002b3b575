import Nmstate.Base

namespace Nmstate

/-- `zvariant::Value` at the granularity the settings convert. Byte and string arrays
are variants of their own, since the conversions into `Vec<u8>` and `Vec<String>` accept
nothing else; `value` is a variant (`v`) wrapping another value. -/
inductive Value where
  | u8 (v : UInt8)
  | bool (v : Bool)
  | i32 (v : BitVec 32)
  | u32 (v : UInt32)
  | str (v : String)
  | bytes (v : List UInt8)
  | strs (v : List String)
  | array (elements : List Value)
  | dict (entries : List (Value × Value))
  | value (v : Value)

/-- One variant wrapper removed, as zvariant does to the elements of an array or the
entries of a dictionary before converting them. -/
def Value.unwrap : Value → Value
  | .value v => v
  | v => v

/-- Whether the value has the signature `v`. -/
def Value.isVariant : Value → Bool
  | .value _ => true
  | _ => false

/-- A Rust type with `zvariant::Value::new` and a `TryFrom<OwnedValue>` reading back
exactly the values `new` builds. -/
class DbusType (α : Type) where
  new : α → Value
  tryFrom : Value → Option α
  tryFrom_new : ∀ a, tryFrom (new a) = some a
  new_of_tryFrom : ∀ v a, tryFrom v = some a → new a = v

attribute [simp] DbusType.tryFrom_new

instance : DbusType UInt8 where
  new := .u8
  tryFrom | .u8 v => some v | _ => none
  tryFrom_new _ := rfl
  new_of_tryFrom v a known := by cases v <;> cases known; rfl

instance : DbusType Bool where
  new := .bool
  tryFrom | .bool v => some v | _ => none
  tryFrom_new _ := rfl
  new_of_tryFrom v a known := by cases v <;> cases known; rfl

instance : DbusType (BitVec 32) where
  new := .i32
  tryFrom | .i32 v => some v | _ => none
  tryFrom_new _ := rfl
  new_of_tryFrom v a known := by cases v <;> cases known; rfl

instance : DbusType UInt32 where
  new := .u32
  tryFrom | .u32 v => some v | _ => none
  tryFrom_new _ := rfl
  new_of_tryFrom v a known := by cases v <;> cases known; rfl

instance : DbusType String where
  new := .str
  tryFrom | .str v => some v | _ => none
  tryFrom_new _ := rfl
  new_of_tryFrom v a known := by cases v <;> cases known; rfl

instance : DbusType (List UInt8) where
  new := .bytes
  tryFrom | .bytes v => some v | _ => none
  tryFrom_new _ := rfl
  new_of_tryFrom v a known := by cases v <;> cases known; rfl

instance : DbusType (List String) where
  new := .strs
  tryFrom | .strs v => some v | _ => none
  tryFrom_new _ := rfl
  new_of_tryFrom v a known := by cases v <;> cases known; rfl

/-- A conversion to a type the value does not have, or a value whose signature a container
does not take. -/
inductive ZvariantError where
  | incorrectType
  | signatureMismatch
  deriving DecidableEq, Repr

inductive NmErrorKind where
  | invalidArgument | bug | notFound
  deriving DecidableEq, Repr

/-- `NmError`: one raised by the D-Bus layer with its kind and message, or a zvariant
conversion failure that `?` turned into one. -/
inductive NmError where
  | new (kind : NmErrorKind) (msg : String)
  | zvariant (error : ZvariantError)
  deriving DecidableEq, Repr

/-- `DbusDictionary`, a `HashMap<String, OwnedValue>`: its entries, under distinct keys. -/
structure DbusDictionary where
  entries : List (String × Value)
  nodup : (entries.map Prod.fst).Nodup

namespace DbusDictionary

def empty : DbusDictionary := ⟨[], List.nodup_nil⟩

def get (d : DbusDictionary) (key : String) : Option Value := d.entries.lookup key

theorem nodup_filter (d : DbusDictionary) (p : String × Value → Bool) :
    ((d.entries.filter p).map Prod.fst).Nodup :=
  d.nodup.sublist ((List.filter_sublist _).map _)

/-- `HashMap::remove`, keeping only the map. -/
def erase (d : DbusDictionary) (key : String) : DbusDictionary :=
  ⟨d.entries.filter (·.1 != key), d.nodup_filter _⟩

/-- `HashMap::insert`: the new value replaces any value under the same key. -/
def insert (d : DbusDictionary) (key : String) (v : Value) : DbusDictionary :=
  ⟨(key, v) :: d.entries.filter (·.1 != key), by
    refine List.nodup_cons.mpr ⟨?_, d.nodup_filter _⟩
    simp⟩

/-- `HashMap::extend`: insert every entry of `other` in turn. -/
def extend (d : DbusDictionary) (other : List (String × Value)) : DbusDictionary :=
  other.foldl (fun acc entry => acc.insert entry.1 entry.2) d

@[simp] theorem get_empty (key : String) : empty.get key = none := rfl

theorem lookup_cons_ite {β : Type} (entries : List (String × β)) (k key : String) (v : β) :
    ((k, v) :: entries).lookup key = if key = k then some v else entries.lookup key := by
  by_cases hit : key = k
  · simp [hit]
  · simp [List.lookup_cons, hit, beq_false_of_ne hit]

theorem lookup_eq_none_of_not_mem {β : Type} {entries : List (String × β)} {key : String}
    (absent : key ∉ entries.map Prod.fst) : entries.lookup key = none :=
  List.lookup_eq_none_iff.mpr fun _ member => bne_iff_ne.mpr fun same =>
    absent (same ▸ List.mem_map_of_mem Prod.fst member)

theorem lookup_filter (entries : List (String × Value)) (key other : String) :
    (entries.filter (·.1 != key)).lookup other =
      if other = key then none else entries.lookup other := by
  induction entries with
  | nil => simp
  | cons head rest ih =>
    obtain ⟨k, v⟩ := head
    by_cases same : k = key
    · subst same
      simp only [List.filter_cons, bne_self_eq_false, Bool.false_eq_true, if_false, ih]
      by_cases hit : other = k <;> simp [hit, lookup_cons_ite]
    · simp only [List.filter_cons, bne_iff_ne, ne_eq, same, not_false_eq_true, if_true,
        lookup_cons_ite, ih]
      by_cases hit : other = k <;> simp_all

@[simp] theorem get_erase (d : DbusDictionary) (key other : String) :
    (d.erase key).get other = if other = key then none else d.get other :=
  lookup_filter d.entries key other

@[simp] theorem get_insert (d : DbusDictionary) (key : String) (v : Value) (other : String) :
    (d.insert key v).get other = if other = key then some v else d.get other := by
  by_cases hit : other = key
  · simp [insert, get, hit]
  · simp [insert, get, lookup_cons_ite, hit, lookup_filter]

/-- Erasing a list of keys one after another. -/
theorem get_foldl_erase (d : DbusDictionary) (keys : List String) (key : String) :
    (keys.foldl erase d).get key = if key ∈ keys then none else d.get key := by
  induction keys generalizing d with
  | nil => simp
  | cons k rest ih =>
    by_cases hit : key = k
    · subst hit; simp [ih]
    · simp [ih, hit]

/-- Extending lets `other`'s entries win; a key `other` lacks keeps its value. -/
theorem get_extend (d : DbusDictionary) (other : List (String × Value))
    (distinct : (other.map Prod.fst).Nodup) (key : String) :
    (d.extend other).get key = (other.lookup key).or (d.get key) := by
  induction other generalizing d with
  | nil => simp [extend]
  | cons head rest ih =>
    obtain ⟨k, v⟩ := head
    obtain ⟨absent, distinctRest⟩ := List.nodup_cons.mp distinct
    have step : (d.extend ((k, v) :: rest)).get key =
        (rest.lookup key).or ((d.insert k v).get key) := ih _ distinctRest
    rw [step, get_insert]
    by_cases hit : key = k
    · subst hit
      simp [lookup_eq_none_of_not_mem absent]
    · simp [hit, lookup_cons_ite]

/-- An entry of the dictionary is what `get` finds under its key, since the keys are distinct. -/
theorem get_eq_some_iff (d : DbusDictionary) (key : String) (v : Value) :
    d.get key = some v ↔ (key, v) ∈ d.entries := by
  obtain ⟨entries, distinct⟩ := d
  simp only [get]
  induction entries with
  | nil => simp
  | cons entry rest ih =>
    obtain ⟨k, value⟩ := entry
    obtain ⟨absent, distinctRest⟩ := List.nodup_cons.mp distinct
    rw [lookup_cons_ite, List.mem_cons]
    by_cases hit : key = k
    · subst hit
      have unseen : (key, v) ∉ rest := fun member => absent (List.mem_map.mpr ⟨_, member, rfl⟩)
      simp [unseen, eq_comm]
    · simp [hit, ih distinctRest]

theorem get_eq_none_iff (d : DbusDictionary) (key : String) :
    d.get key = none ↔ key ∉ d.entries.map Prod.fst := by
  simp only [get, List.lookup_eq_none_iff, bne_iff_ne, ne_eq, List.mem_map, not_exists, not_and]
  exact ⟨fun h p m same => h p m same.symm, fun h p m same => h p m same.symm⟩

/-- Extending by another dictionary's entries. -/
theorem get_extend_entries (d other : DbusDictionary) (key : String) :
    (d.extend other.entries).get key = (other.get key).or (d.get key) :=
  get_extend d other.entries other.nodup key

/-- `if let Some(v) = &self.field { ret.insert(key, Value::new(v)) }`. -/
def insertField {α : Type} [DbusType α] (d : DbusDictionary) (key : String) :
    Option α → DbusDictionary
  | some a => d.insert key (DbusType.new a)
  | none => d

@[simp] theorem get_insertField {α : Type} [DbusType α] (d : DbusDictionary) (key : String)
    (field : Option α) (other : String) :
    (d.insertField key field).get other =
      (if other = key then field.map DbusType.new else none).or (d.get other) := by
  cases field <;> by_cases hit : other = key <;> simp [insertField, hit]

/-- The typed fields' inserts in order, each value already made by `Value::new`: what a
run of `insertField` does. -/
def insertFields (d : DbusDictionary) (fields : List (String × Option Value)) : DbusDictionary :=
  fields.foldl (fun acc field =>
    match field.2 with
    | some v => acc.insert field.1 v
    | none => acc) d

theorem insertField_eq_insertFields {α : Type} [DbusType α] (d : DbusDictionary) (key : String)
    (field : Option α) : d.insertField key field = d.insertFields [(key, field.map DbusType.new)] := by
  cases field <;> rfl

theorem insertFields_append (d : DbusDictionary) (fields more : List (String × Option Value)) :
    d.insertFields (fields ++ more) = (d.insertFields fields).insertFields more :=
  List.foldl_append ..

/-- Inserting fields under distinct keys: a present field gives its key's value. -/
theorem get_insertFields (d : DbusDictionary) (fields : List (String × Option Value))
    (distinct : (fields.map Prod.fst).Nodup) (key : String) :
    (d.insertFields fields).get key = ((fields.lookup key).bind id).or (d.get key) := by
  induction fields generalizing d with
  | nil => simp [insertFields]
  | cons field rest ih =>
    obtain ⟨k, field⟩ := field
    obtain ⟨absent, distinctRest⟩ := List.nodup_cons.mp distinct
    rw [show d.insertFields ((k, field) :: rest) = (d.insertFields [(k, field)]).insertFields rest
      from rfl, ih _ distinctRest, lookup_cons_ite]
    by_cases hit : key = k
    · subst hit
      cases field <;> simp [insertFields, lookup_eq_none_of_not_mem absent]
    · cases field <;> simp [insertFields, hit]

/-- `HashMap<String, OwnedValue>::try_from` on a dictionary value: every key must be a
string, every value loses one variant wrapper, and a later entry replaces an earlier one
under the same key. -/
def tryFrom : Value → Except NmError DbusDictionary
  | .dict entries =>
    entries.foldlM
      (fun d entry =>
        match entry.1.unwrap with
        | .str key => .ok (d.insert key entry.2.unwrap)
        | _ => .error (.zvariant .incorrectType))
      empty
  | _ => .error (.zvariant .incorrectType)

end DbusDictionary

/-- `Vec<DbusDictionary>::try_from`: an array whose elements, each with one variant
wrapper removed, are dictionaries. -/
def dictionariesTryFrom : Value → Except NmError (List DbusDictionary)
  | .array elements => elements.mapM fun element => DbusDictionary.tryFrom element.unwrap
  | _ => .error (.zvariant .incorrectType)

/-- Modelled from the spec: the `_from_map!` macro is not under src/. Its uses in `try_from`,
which hand the rest to `_other`, fix what it does: take `key` out and convert its value, failing
on another type. -/
def fromMap (α : Type) [DbusType α] (v : DbusDictionary) (key : String) :
    Except NmError (Option α × DbusDictionary) :=
  match v.get key with
  | none => .ok (none, v.erase key)
  | some value =>
    match DbusType.tryFrom value with
    | some a => .ok (some a, v.erase key)
    | none => .error (.zvariant .incorrectType)

/-- What a successful `_from_map!` leaves: the dictionary without `key`, and a field
that `Value::new` turns back into the value the key held. -/
theorem fromMap_ok {α : Type} [DbusType α] {v rest : DbusDictionary} {key : String}
    {field : Option α} (taken : fromMap α v key = .ok (field, rest)) :
    rest = v.erase key ∧ field.map DbusType.new = v.get key := by
  unfold fromMap at taken
  split at taken
  · rename_i absent
    cases taken
    exact ⟨rfl, absent.symm⟩
  · rename_i value present
    split at taken
    · rename_i a converted
      cases taken
      exact ⟨rfl, by simp [present, DbusType.new_of_tryFrom _ _ converted]⟩
    · cases taken

/-- A successful `_from_map!` loses nothing: a lookup in the dictionary it read is a
lookup in what it left, falling back to the field it took. -/
theorem get_of_fromMap {α : Type} [DbusType α] {v rest : DbusDictionary} {key : String}
    {field : Option α} (taken : fromMap α v key = .ok (field, rest)) (other : String) :
    v.get other = (rest.get other).or (if other = key then field.map DbusType.new else none) := by
  obtain ⟨rfl, restored⟩ := fromMap_ok taken
  by_cases hit : other = key
  · simp [hit, restored]
  · simp [hit]

@[simp] theorem Value.unwrap_value (v : Value) : (Value.value v).unwrap = v := rfl

@[simp] theorem Value.unwrap_dict (entries : List (Value × Value)) :
    (Value.dict entries).unwrap = .dict entries := rfl

/-- Reading back what `Value::new` built gives the field again. -/
@[simp] theorem DbusType.bind_tryFrom_map_new {α β : Type} [DbusType α] (f : β → α)
    (field : Option β) : (field.map fun b => DbusType.new (f b)).bind DbusType.tryFrom = field.map f := by
  cases field <;> simp [DbusType.tryFrom_new]

@[simp] theorem DbusType.bind_tryFrom_map_new_self {α : Type} [DbusType α] (field : Option α) :
    (field.map DbusType.new).bind DbusType.tryFrom = field := by
  cases field <;> simp [DbusType.tryFrom_new]

/-- `_from_map!` succeeds on a key whose value, if any, reads back through the field's type, and
takes that value out of the dictionary. -/
theorem fromMap_of_typed {α : Type} [DbusType α] {v : DbusDictionary} {key : String}
    (typed : ((v.get key).bind (DbusType.tryFrom : Value → Option α)).map DbusType.new = v.get key) :
    fromMap α v key = .ok ((v.get key).bind DbusType.tryFrom, v.erase key) := by
  unfold fromMap
  cases stored : v.get key with
  | none => rfl
  | some value =>
    rw [stored] at typed
    cases converted : (DbusType.tryFrom value : Option α) with
    | none => simp [converted] at typed
    | some a => simp [converted]

namespace DbusDictionary

/-- `HashMap::try_from` inserts the entries in turn, so on an `a{sv}` whose keys are distinct
every key gets its value with one variant wrapper removed. -/
theorem foldlM_insert_entries (entries : List (String × Value))
    (distinct : (entries.map Prod.fst).Nodup) (acc : DbusDictionary) :
    ∃ d, (entries.map fun entry => (Value.str entry.1, entry.2)).foldlM
        (fun (d : DbusDictionary) (entry : Value × Value) =>
          (match entry.1.unwrap with
            | .str key => .ok (d.insert key entry.2.unwrap)
            | _ => .error (.zvariant .incorrectType) : Except NmError DbusDictionary)) acc = .ok d ∧
      ∀ key, d.get key = ((entries.lookup key).map Value.unwrap).or (acc.get key) := by
  induction entries generalizing acc with
  | nil => exact ⟨acc, rfl, fun key => by simp⟩
  | cons entry rest ih =>
    obtain ⟨k, v⟩ := entry
    obtain ⟨absent, distinctRest⟩ := List.nodup_cons.mp distinct
    obtain ⟨d, run, got⟩ := ih distinctRest (acc.insert k v.unwrap)
    refine ⟨d, by rw [List.map_cons, List.foldlM_cons]; exact run, fun key => ?_⟩
    rw [got, get_insert, lookup_cons_ite]
    by_cases hit : key = k
    · subst hit
      simp [lookup_eq_none_of_not_mem absent]
    · simp [hit]

theorem tryFrom_dict (entries : List (String × Value)) (distinct : (entries.map Prod.fst).Nodup) :
    ∃ d, tryFrom (.dict (entries.map fun entry => (.str entry.1, entry.2))) = .ok d ∧
      ∀ key, d.get key = (entries.lookup key).map Value.unwrap := by
  obtain ⟨d, run, got⟩ := foldlM_insert_entries entries distinct empty
  exact ⟨d, run, fun key => by rw [got, get_empty, Option.or_none]⟩

end DbusDictionary

end Nmstate
