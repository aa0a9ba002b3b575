import Nmstate.NmDbus.Value
import Mathlib.Data.List.Nodup

namespace Nmstate

open DbusDictionary

theorem lookup_graph {β : Type} (keys : List String) (f : String → β) (key : String) :
    (keys.map fun k => (k, f k)).lookup key = if key ∈ keys then some (f key) else none := by
  induction keys with
  | nil => rfl
  | cons k rest ih => by_cases hit : key = k <;> simp [lookup_cons_ite, ih, hit]

structure NmSettingIpVlan where
  parent : Option String
  mode : Option UInt32
  «private» : Option Bool
  vepa : Option Bool
  other : DbusDictionary

namespace NmSettingIpVlan

def tryFrom (v : DbusDictionary) : Except NmError NmSettingIpVlan := do
  let (parent, v) ← fromMap String v "parent"
  let (mode, v) ← fromMap UInt32 v "mode"
  let (isPrivate, v) ← fromMap Bool v "private"
  let (vepa, v) ← fromMap Bool v "vepa"
  return ⟨parent, mode, isPrivate, vepa, v⟩

def toValue (s : NmSettingIpVlan) : DbusDictionary :=
  ((((empty.insertField "parent" s.parent).insertField "mode" s.mode).insertField
    "private" s.«private»).insertField "vepa" s.vepa).extend s.other.entries

/-- The typed fields under their keys, in the order `to_value` inserts them. -/
def typedFields (s : NmSettingIpVlan) : List (String × Option Value) :=
  [("parent", s.parent.map DbusType.new), ("mode", s.mode.map DbusType.new),
    ("private", s.«private».map DbusType.new), ("vepa", s.vepa.map DbusType.new)]

/-- What a successful `try_from` returns: each typed field converted from its key's value, and
the rest of the dictionary as `_other`. -/
theorem tryFrom_inv {d : DbusDictionary} {s : NmSettingIpVlan} (decoded : tryFrom d = .ok s) :
    s.typedFields = ["parent", "mode", "private", "vepa"].map (fun key => (key, d.get key)) ∧
      s.other = ["parent", "mode", "private", "vepa"].foldl erase d := by
  obtain ⟨⟨parent, v₁⟩, h₁, decoded⟩ := bind_eq_ok.mp decoded
  obtain ⟨⟨mode, v₂⟩, h₂, decoded⟩ := bind_eq_ok.mp decoded
  obtain ⟨⟨isPrivate, v₃⟩, h₃, decoded⟩ := bind_eq_ok.mp decoded
  obtain ⟨⟨vepa, v₄⟩, h₄, decoded⟩ := bind_eq_ok.mp decoded
  cases decoded
  obtain ⟨rfl, e₁⟩ := fromMap_ok h₁
  obtain ⟨rfl, e₂⟩ := fromMap_ok h₂
  obtain ⟨rfl, e₃⟩ := fromMap_ok h₃
  obtain ⟨rfl, e₄⟩ := fromMap_ok h₄
  simp only [get_erase, String.reduceEq, reduceIte] at e₂ e₃ e₄
  exact ⟨by simp only [typedFields, List.map, e₁, e₂, e₃, e₄], rfl⟩

/-- `to_value` gives a key its `_other` entry, else its typed field. -/
theorem get_toValue (s : NmSettingIpVlan) (key : String) :
    s.toValue.get key = (s.other.get key).or ((s.typedFields.lookup key).bind id) := by
  rw [show s.toValue = (empty.insertFields s.typedFields).extend s.other.entries by
      simp only [toValue, insertField_eq_insertFields, ← insertFields_append]; rfl,
    get_extend_entries, get_insertFields _ s.typedFields (show ["parent", "mode", "private", "vepa"].Nodup by decide),
    get_empty, Option.or_none]

/-- `try_from` leaves in `_other` every key but the typed ones. -/
theorem other_of_tryFrom {d : DbusDictionary} {s : NmSettingIpVlan} (decoded : tryFrom d = .ok s)
    (key : String) :
    s.other.get key = if key ∈ ["parent", "mode", "private", "vepa"] then none else d.get key := by
  rw [(tryFrom_inv decoded).2]
  exact get_foldl_erase d _ key

/-- Decoding then encoding gives back every key of the dictionary with its value. -/
theorem toValue_tryFrom {d : DbusDictionary} {s : NmSettingIpVlan} (decoded : tryFrom d = .ok s)
    (key : String) : s.toValue.get key = d.get key := by
  rw [get_toValue, other_of_tryFrom decoded, (tryFrom_inv decoded).1, lookup_graph]
  split_ifs <;> simp

end NmSettingIpVlan

structure NmSettingVeth where
  peer : Option String
  other : DbusDictionary

namespace NmSettingVeth

def tryFrom (v : DbusDictionary) : Except NmError NmSettingVeth := do
  let (peer, v) ← fromMap String v "peer"
  return ⟨peer, v⟩

def toValue (s : NmSettingVeth) : DbusDictionary :=
  (empty.insertField "peer" s.peer).extend s.other.entries

def typedFields (s : NmSettingVeth) : List (String × Option Value) :=
  [("peer", s.peer.map DbusType.new)]

theorem tryFrom_inv {d : DbusDictionary} {s : NmSettingVeth} (decoded : tryFrom d = .ok s) :
    s.typedFields = ["peer"].map (fun key => (key, d.get key)) ∧ s.other = ["peer"].foldl erase d := by
  obtain ⟨⟨peer, v₁⟩, h₁, decoded⟩ := bind_eq_ok.mp decoded
  cases decoded
  obtain ⟨rfl, e₁⟩ := fromMap_ok h₁
  exact ⟨by simp only [typedFields, List.map, e₁], rfl⟩

theorem get_toValue (s : NmSettingVeth) (key : String) :
    s.toValue.get key = (s.other.get key).or ((s.typedFields.lookup key).bind id) := by
  rw [show s.toValue = (empty.insertFields s.typedFields).extend s.other.entries by
      simp only [toValue, insertField_eq_insertFields]; rfl,
    get_extend_entries, get_insertFields _ s.typedFields (List.nodup_singleton _), get_empty, Option.or_none]

theorem other_of_tryFrom {d : DbusDictionary} {s : NmSettingVeth} (decoded : tryFrom d = .ok s)
    (key : String) : s.other.get key = if key ∈ ["peer"] then none else d.get key := by
  rw [(tryFrom_inv decoded).2]
  exact get_foldl_erase d _ key

theorem toValue_tryFrom {d : DbusDictionary} {s : NmSettingVeth} (decoded : tryFrom d = .ok s)
    (key : String) : s.toValue.get key = d.get key := by
  rw [get_toValue, other_of_tryFrom decoded, (tryFrom_inv decoded).1, lookup_graph]
  split_ifs <;> simp

end NmSettingVeth

structure NmSetting8021X where
  identity : Option String
  privateKey : Option (List UInt8)
  eap : Option (List String)
  clientCert : Option (List UInt8)
  caCert : Option (List UInt8)
  privateKeyPassword : Option String
  phase2Auth : Option String
  password : Option String
  other : DbusDictionary

namespace NmSetting8021X

/-- The two secrets are not read here: they stay in `_other` until `fill_secrets`. -/
def tryFrom (v : DbusDictionary) : Except NmError NmSetting8021X := do
  let (identity, v) ← fromMap String v "identity"
  let (privateKey, v) ← fromMap (List UInt8) v "private-key"
  let (eap, v) ← fromMap (List String) v "eap"
  let (clientCert, v) ← fromMap (List UInt8) v "client-cert"
  let (caCert, v) ← fromMap (List UInt8) v "ca-cert"
  let (phase2Auth, v) ← fromMap String v "phase2-auth"
  return ⟨identity, privateKey, eap, clientCert, caCert, none, phase2Auth, none, v⟩

def toValue (s : NmSetting8021X) : DbusDictionary :=
  (((((((((empty.insertField "identity" s.identity).insertField "private-key" s.privateKey
    ).insertField "eap" s.eap).insertField "client-cert" s.clientCert).insertField
    "ca-cert" s.caCert).insertField "private-key-password" s.privateKeyPassword).insertField
    "phase2-auth" s.phase2Auth).insertField "password" s.password)).extend s.other.entries

/-- The typed fields under their keys, in the order `to_value` inserts them. -/
def typedFields (s : NmSetting8021X) : List (String × Option Value) :=
  [("identity", s.identity.map DbusType.new), ("private-key", s.privateKey.map DbusType.new),
    ("eap", s.eap.map DbusType.new), ("client-cert", s.clientCert.map DbusType.new),
    ("ca-cert", s.caCert.map DbusType.new),
    ("private-key-password", s.privateKeyPassword.map DbusType.new),
    ("phase2-auth", s.phase2Auth.map DbusType.new), ("password", s.password.map DbusType.new)]

/-- What a successful `try_from` returns: each typed field but the two secrets converted from its
key's value, no secret, and the rest of the dictionary, secrets included, as `_other`. -/
theorem tryFrom_inv {d : DbusDictionary} {s : NmSetting8021X} (decoded : tryFrom d = .ok s) :
    s.typedFields = ["identity", "private-key", "eap", "client-cert", "ca-cert",
        "private-key-password", "phase2-auth", "password"].map (fun key =>
          (key, if key = "private-key-password" ∨ key = "password" then none else d.get key)) ∧
      s.other = ["identity", "private-key", "eap", "client-cert", "ca-cert", "phase2-auth"].foldl
        erase d := by
  obtain ⟨⟨identity, v₁⟩, h₁, decoded⟩ := bind_eq_ok.mp decoded
  obtain ⟨⟨privateKey, v₂⟩, h₂, decoded⟩ := bind_eq_ok.mp decoded
  obtain ⟨⟨eap, v₃⟩, h₃, decoded⟩ := bind_eq_ok.mp decoded
  obtain ⟨⟨clientCert, v₄⟩, h₄, decoded⟩ := bind_eq_ok.mp decoded
  obtain ⟨⟨caCert, v₅⟩, h₅, decoded⟩ := bind_eq_ok.mp decoded
  obtain ⟨⟨phase2Auth, v₆⟩, h₆, decoded⟩ := bind_eq_ok.mp decoded
  cases decoded
  obtain ⟨rfl, e₁⟩ := fromMap_ok h₁
  obtain ⟨rfl, e₂⟩ := fromMap_ok h₂
  obtain ⟨rfl, e₃⟩ := fromMap_ok h₃
  obtain ⟨rfl, e₄⟩ := fromMap_ok h₄
  obtain ⟨rfl, e₅⟩ := fromMap_ok h₅
  obtain ⟨rfl, e₆⟩ := fromMap_ok h₆
  simp only [get_erase, String.reduceEq, reduceIte] at e₂ e₃ e₄ e₅ e₆
  exact ⟨by simp [typedFields, e₁, e₂, e₃, e₄, e₅, e₆], rfl⟩

theorem get_toValue (s : NmSetting8021X) (key : String) :
    s.toValue.get key = (s.other.get key).or ((s.typedFields.lookup key).bind id) := by
  rw [show s.toValue = (empty.insertFields s.typedFields).extend s.other.entries by
      simp only [toValue, insertField_eq_insertFields, ← insertFields_append]; rfl,
    get_extend_entries, get_insertFields _ s.typedFields (show ["identity", "private-key", "eap",
      "client-cert", "ca-cert", "private-key-password", "phase2-auth", "password"].Nodup by decide),
    get_empty, Option.or_none]

/-- `try_from` takes the typed keys but the two secrets out of the dictionary. -/
theorem other_of_tryFrom {d : DbusDictionary} {s : NmSetting8021X} (decoded : tryFrom d = .ok s)
    (key : String) :
    s.other.get key = if key ∈ ["identity", "private-key", "eap", "client-cert", "ca-cert",
      "phase2-auth"] then none else d.get key := by
  rw [(tryFrom_inv decoded).2]
  exact get_foldl_erase d _ key

theorem toValue_tryFrom {d : DbusDictionary} {s : NmSetting8021X} (decoded : tryFrom d = .ok s)
    (key : String) : s.toValue.get key = d.get key := by
  have read : ∀ k ∈ ["identity", "private-key", "eap", "client-cert", "ca-cert",
      "private-key-password", "phase2-auth", "password"],
      k ∈ ["identity", "private-key", "eap", "client-cert", "ca-cert", "phase2-auth"] ↔
        ¬(k = "private-key-password" ∨ k = "password") := by decide
  have sub : ∀ k ∈ ["identity", "private-key", "eap", "client-cert", "ca-cert", "phase2-auth"],
      k ∈ ["identity", "private-key", "eap", "client-cert", "ca-cert", "private-key-password",
        "phase2-auth", "password"] := by decide
  rw [get_toValue, other_of_tryFrom decoded, (tryFrom_inv decoded).1, lookup_graph]
  by_cases typed : key ∈ ["identity", "private-key", "eap", "client-cert", "ca-cert",
      "private-key-password", "phase2-auth", "password"]
  · by_cases taken : key ∈ ["identity", "private-key", "eap", "client-cert", "ca-cert", "phase2-auth"]
    · rw [if_pos taken, if_pos typed, if_neg ((read key typed).mp taken)]
      simp
    · rw [if_neg taken, if_pos typed, if_pos (not_not.mp (mt (read key typed).mpr taken))]
      simp
  · rw [if_neg (mt (sub key) typed), if_neg typed]
    simp

end NmSetting8021X

def RTN_BLACKHOLE : UInt8 := 6
def RTN_UNREACHABLE : UInt8 := 7
def RTN_PROHIBIT : UInt8 := 8

inductive NmIpRouteRuleAction where
  | blackhole | unreachable | prohibit
  | other (code : UInt8)
  deriving DecidableEq, Repr

namespace NmIpRouteRuleAction

/-- `From<u8>`: the three kernel codes with a name, every other code kept as it is. -/
def fromU8 (v : UInt8) : NmIpRouteRuleAction :=
  if v = RTN_BLACKHOLE then .blackhole
  else if v = RTN_UNREACHABLE then .unreachable
  else if v = RTN_PROHIBIT then .prohibit
  else .other v

/-- `From<NmIpRouteRuleAction> for u8`. -/
def toU8 : NmIpRouteRuleAction → UInt8
  | .blackhole => RTN_BLACKHOLE
  | .unreachable => RTN_UNREACHABLE
  | .prohibit => RTN_PROHIBIT
  | .other code => code

/-- Every action code survives the trip through `NmIpRouteRuleAction`. -/
theorem toU8_fromU8 (v : UInt8) : (fromU8 v).toU8 = v := by
  unfold fromU8
  split_ifs <;> simp_all [toU8]

end NmIpRouteRuleAction

structure NmIpRouteRule where
  family : Option (BitVec 32)
  priority : Option UInt32
  «from» : Option String
  fromLen : Option UInt8
  «to» : Option String
  toLen : Option UInt8
  table : Option UInt32
  fwMark : Option UInt32
  fwMask : Option UInt32
  iifname : Option String
  action : Option NmIpRouteRuleAction
  suppressPrefixlength : Option (BitVec 32)
  other : DbusDictionary

/-- `ret.append(key, Value::new(Value::new(v)))` for every typed field that is present,
in order: an `a{sv}` entry whose value is wrapped as a variant. -/
def presentEntries (fields : List (String × Option Value)) : List (String × Value) :=
  fields.filterMap fun field => field.2.map fun v => (field.1, .value v)

theorem presentEntries_keys_sublist (fields : List (String × Option Value)) :
    List.Sublist ((presentEntries fields).map Prod.fst) (fields.map Prod.fst) := by
  induction fields with
  | nil => exact List.Sublist.slnil
  | cons field rest ih =>
    obtain ⟨key, _ | v⟩ := field
    · exact ih.cons _
    · exact ih.cons₂ _

theorem lookup_presentEntries (fields : List (String × Option Value))
    (distinct : (fields.map Prod.fst).Nodup) (key : String) :
    (presentEntries fields).lookup key = (fields.lookup key).bind (Option.map .value) := by
  induction fields with
  | nil => rfl
  | cons field rest ih =>
    obtain ⟨k, field⟩ := field
    obtain ⟨absent, distinctRest⟩ := List.nodup_cons.mp distinct
    have unseen (hit : key = k) : rest.lookup key = none :=
      List.lookup_eq_none_iff.mpr fun entry member => bne_iff_ne.mpr fun same =>
        absent (show k ∈ rest.map Prod.fst by
          rw [← hit, same]; exact List.mem_map_of_mem Prod.fst member)
    cases field with
    | none =>
      show (presentEntries rest).lookup key = _
      rw [ih distinctRest, lookup_cons_ite]
      split_ifs with hit
      · simp [unseen hit]
      · rfl
    | some v =>
      show ((k, .value v) :: presentEntries rest).lookup key = _
      rw [lookup_cons_ite, ih distinctRest, lookup_cons_ite]
      split_ifs <;> rfl

/-- `zvariant::Dict::append` on the `a{sv}` dictionary `to_value` builds: the signature check
passes for a string key and a variant value only. -/
def appendSv (entries : List (Value × Value)) (key value : Value) :
    Except NmError (List (Value × Value)) :=
  match key, value with
  | .str _, .value _ => .ok (entries ++ [(key, value)])
  | _, _ => .error (.zvariant .signatureMismatch)

/-- Appending string-keyed entries in turn fails exactly when one value is not a variant. -/
theorem foldlM_appendSv (entries : List (String × Value)) (acc : List (Value × Value)) :
    entries.foldlM (fun acc entry => appendSv acc (.str entry.1) entry.2) acc =
      if entries.all (·.2.isVariant) then .ok (acc ++ entries.map fun entry => (.str entry.1, entry.2))
      else .error (.zvariant .signatureMismatch) := by
  induction entries generalizing acc with
  | nil => simp only [List.foldlM_nil, List.all_nil, reduceIte, List.map_nil, List.append_nil]; rfl
  | cons entry rest ih =>
    obtain ⟨key, value⟩ := entry
    cases value
    case value v =>
      show rest.foldlM _ (acc ++ [(.str key, .value v)]) = _
      have wrapped : (Value.value v).isVariant = true := rfl
      rw [ih]
      simp only [List.all_cons, wrapped, Bool.true_and, List.map_cons, List.append_assoc,
        List.singleton_append]
    all_goals rfl

theorem presentEntries_all_variant (fields : List (String × Option Value)) :
    (presentEntries fields).all (·.2.isVariant) = true := by
  simp only [List.all_eq_true, presentEntries, List.mem_filterMap, Option.map_eq_some']
  rintro _ ⟨_, -, v, -, rfl⟩
  rfl

namespace NmIpRouteRule

def tryFrom (v : DbusDictionary) : Except NmError NmIpRouteRule := do
  let (family, v) ← fromMap (BitVec 32) v "family"
  let (priority, v) ← fromMap UInt32 v "priority"
  let (src, v) ← fromMap String v "from"
  let (fromLen, v) ← fromMap UInt8 v "from-len"
  let (dst, v) ← fromMap String v "to"
  let (toLen, v) ← fromMap UInt8 v "to-len"
  let (table, v) ← fromMap UInt32 v "table"
  let (fwMark, v) ← fromMap UInt32 v "fwmark"
  let (fwMask, v) ← fromMap UInt32 v "fwmask"
  let (iifname, v) ← fromMap String v "iifname"
  let (action, v) ← fromMap UInt8 v "action"
  let (suppressPrefixlength, v) ← fromMap (BitVec 32) v "suppress-prefixlength"
  return ⟨family, priority, src, fromLen, dst, toLen, table, fwMark, fwMask, iifname,
    action.map NmIpRouteRuleAction.fromU8, suppressPrefixlength, v⟩

/-- The typed fields under their keys, in the order `to_value` appends them. -/
def typedFields (r : NmIpRouteRule) : List (String × Option Value) :=
  [("family", r.family.map DbusType.new), ("priority", r.priority.map DbusType.new),
    ("from", r.«from».map DbusType.new), ("from-len", r.fromLen.map DbusType.new),
    ("to", r.«to».map DbusType.new), ("to-len", r.toLen.map DbusType.new),
    ("table", r.table.map DbusType.new), ("fwmark", r.fwMark.map DbusType.new),
    ("fwmask", r.fwMask.map DbusType.new), ("iifname", r.iifname.map DbusType.new),
    ("action", r.action.map fun action => DbusType.new action.toU8),
    ("suppress-prefixlength", r.suppressPrefixlength.map DbusType.new)]

def typedKeys : List String :=
  ["family", "priority", "from", "from-len", "to", "to-len", "table", "fwmark", "fwmask",
    "iifname", "action", "suppress-prefixlength"]

theorem typedFields_keys (r : NmIpRouteRule) : r.typedFields.map Prod.fst = typedKeys := rfl

/-- What a successful `try_from` returns: each typed field converted from its key's value, the
action through its kernel code, and the rest of the dictionary as `_other`. -/
theorem tryFrom_inv {d : DbusDictionary} {r : NmIpRouteRule} (decoded : tryFrom d = .ok r) :
    r.typedFields = typedKeys.map (fun key => (key, d.get key)) ∧ r.other = typedKeys.foldl erase d := by
  obtain ⟨⟨family, v₁⟩, h₁, decoded⟩ := bind_eq_ok.mp decoded
  obtain ⟨⟨priority, v₂⟩, h₂, decoded⟩ := bind_eq_ok.mp decoded
  obtain ⟨⟨src, v₃⟩, h₃, decoded⟩ := bind_eq_ok.mp decoded
  obtain ⟨⟨fromLen, v₄⟩, h₄, decoded⟩ := bind_eq_ok.mp decoded
  obtain ⟨⟨dst, v₅⟩, h₅, decoded⟩ := bind_eq_ok.mp decoded
  obtain ⟨⟨toLen, v₆⟩, h₆, decoded⟩ := bind_eq_ok.mp decoded
  obtain ⟨⟨table, v₇⟩, h₇, decoded⟩ := bind_eq_ok.mp decoded
  obtain ⟨⟨fwMark, v₈⟩, h₈, decoded⟩ := bind_eq_ok.mp decoded
  obtain ⟨⟨fwMask, v₉⟩, h₉, decoded⟩ := bind_eq_ok.mp decoded
  obtain ⟨⟨iifname, v₁₀⟩, h₁₀, decoded⟩ := bind_eq_ok.mp decoded
  obtain ⟨⟨action, v₁₁⟩, h₁₁, decoded⟩ := bind_eq_ok.mp decoded
  obtain ⟨⟨suppressPrefixlength, v₁₂⟩, h₁₂, decoded⟩ := bind_eq_ok.mp decoded
  cases decoded
  obtain ⟨rfl, e₁⟩ := fromMap_ok h₁
  obtain ⟨rfl, e₂⟩ := fromMap_ok h₂
  obtain ⟨rfl, e₃⟩ := fromMap_ok h₃
  obtain ⟨rfl, e₄⟩ := fromMap_ok h₄
  obtain ⟨rfl, e₅⟩ := fromMap_ok h₅
  obtain ⟨rfl, e₆⟩ := fromMap_ok h₆
  obtain ⟨rfl, e₇⟩ := fromMap_ok h₇
  obtain ⟨rfl, e₈⟩ := fromMap_ok h₈
  obtain ⟨rfl, e₉⟩ := fromMap_ok h₉
  obtain ⟨rfl, e₁₀⟩ := fromMap_ok h₁₀
  obtain ⟨rfl, e₁₁⟩ := fromMap_ok h₁₁
  obtain ⟨rfl, e₁₂⟩ := fromMap_ok h₁₂
  simp only [get_erase, String.reduceEq, reduceIte] at e₂ e₃ e₄ e₅ e₆ e₇ e₈ e₉ e₁₀ e₁₁ e₁₂
  have actionCode : (action.map NmIpRouteRuleAction.fromU8).map
      (fun action => DbusType.new action.toU8) = action.map DbusType.new := by
    cases action <;> simp [NmIpRouteRuleAction.toU8_fromU8]
  exact ⟨by simp only [typedFields, typedKeys, List.map, actionCode, e₁, e₂, e₃, e₄, e₅, e₆, e₇, e₈,
    e₉, e₁₀, e₁₁, e₁₂], rfl⟩

/-- `try_from` leaves in `_other` every key but the typed ones. -/
theorem other_of_tryFrom {d : DbusDictionary} {r : NmIpRouteRule} (decoded : tryFrom d = .ok r)
    (key : String) : r.other.get key = if key ∈ typedKeys then none else d.get key := by
  rw [(tryFrom_inv decoded).2]
  exact get_foldl_erase d typedKeys key

/-- The entries `to_value` appends: the present typed fields, each wrapped as a variant, then
every `_other` entry as it was read. -/
def toEntries (r : NmIpRouteRule) : List (String × Value) :=
  presentEntries r.typedFields ++ r.other.entries

/-- `to_value`: one `append` per entry, each under the signature check of the `a{sv}` dictionary. -/
def toValue (r : NmIpRouteRule) : Except NmError Value := do
  let entries ← r.toEntries.foldlM (fun entries entry => appendSv entries (.str entry.1) entry.2) []
  pure (.dict entries)

/-- `to_value` fails exactly when an `_other` value is not a variant: the typed fields are always
wrapped as one. -/
theorem toValue_eq (r : NmIpRouteRule) :
    r.toValue = if r.other.entries.all (·.2.isVariant) then
        .ok (.dict (r.toEntries.map fun entry => (.str entry.1, entry.2)))
      else .error (.zvariant .signatureMismatch) := by
  rw [toValue, foldlM_appendSv, toEntries, List.all_append, presentEntries_all_variant, Bool.true_and]
  split <;> rfl

theorem toValue_ok {r : NmIpRouteRule} {out : Value} (encoded : r.toValue = .ok out) :
    out = .dict (r.toEntries.map fun entry => (.str entry.1, entry.2)) := by
  rw [toValue_eq] at encoded
  split at encoded <;> cases encoded
  rfl

/-- An `a{sv}` rule dictionary holding exactly the keys of `d`, each once, with `d`'s
values: wrapped as a variant under a typed key, as they were read under any other key. -/
def DictionaryOf (d : DbusDictionary) (out : Value) : Prop :=
  ∃ entries : List (String × Value), out = .dict (entries.map fun entry => (.str entry.1, entry.2)) ∧
    (entries.map Prod.fst).Nodup ∧
    ∀ key, entries.lookup key = (d.get key).map (if key ∈ typedKeys then .value else id)

/-- The entries `to_value` appends have distinct keys once `_other` holds no typed key. -/
theorem toEntries_nodup (r : NmIpRouteRule) (clean : ∀ key ∈ typedKeys, r.other.get key = none) :
    (r.toEntries.map Prod.fst).Nodup := by
  have keys := typedFields_keys r ▸ presentEntries_keys_sublist r.typedFields
  rw [toEntries, List.map_append]
  exact List.nodup_append.mpr ⟨(show typedKeys.Nodup by decide).sublist keys, DbusDictionary.nodup _,
    fun key present kept => (get_eq_none_iff _ key).mp (clean key (keys.subset present)) kept⟩

/-- The entries of a decoded rule are those of the dictionary it was decoded from. -/
theorem dictionaryOf_toEntries {d : DbusDictionary} {r : NmIpRouteRule} (decoded : tryFrom d = .ok r) :
    DictionaryOf d (.dict (r.toEntries.map fun entry => (.str entry.1, entry.2))) := by
  have rest := other_of_tryFrom decoded
  refine ⟨_, rfl, toEntries_nodup _ fun key typed => by rw [rest, if_pos typed], fun key => ?_⟩
  rw [toEntries, List.lookup_append, (tryFrom_inv decoded).1,
    lookup_presentEntries _ (by simpa using (show typedKeys.Nodup by decide)), lookup_graph]
  by_cases typed : key ∈ typedKeys <;>
    simp [typed, show r.other.entries.lookup key = _ from rest key]

/-- A rule encodes exactly when every `_other` value is a variant. -/
theorem toValue_ok_iff (r : NmIpRouteRule) :
    (∃ out, r.toValue = .ok out) ↔ ∀ key v, r.other.get key = some v → v.isVariant = true := by
  have variants : r.other.entries.all (·.2.isVariant) = true ↔
      ∀ key v, r.other.get key = some v → v.isVariant = true := by
    simp only [List.all_eq_true, Prod.forall, get_eq_some_iff]
  rw [toValue_eq, ← variants]
  split <;> rename_i variant
  · exact ⟨fun _ => variant, fun _ => ⟨_, rfl⟩⟩
  · exact ⟨fun ⟨_, encoded⟩ => (nomatch encoded), fun all => absurd all variant⟩

/-- A rule that keeps the `_other` `try_from` left encodes exactly when every untyped key of the
dictionary held a variant. -/
theorem toValue_ok_iff_of_tryFrom {d : DbusDictionary} {r r' : NmIpRouteRule}
    (decoded : tryFrom d = .ok r) (kept : r'.other = r.other) :
    (∃ out, r'.toValue = .ok out) ↔
      ∀ key v, key ∉ typedKeys → d.get key = some v → v.isVariant = true := by
  rw [toValue_ok_iff, kept]
  refine forall_congr' fun key => forall_congr' fun v => ?_
  rw [other_of_tryFrom decoded]
  by_cases typed : key ∈ typedKeys <;> simp [typed]

/-- Decoding a rule and encoding it again gives back the dictionary when every untyped key held
a variant, and fails otherwise. -/
theorem toValue_tryFrom {d : DbusDictionary} {r : NmIpRouteRule} (decoded : tryFrom d = .ok r) :
    (∀ out, r.toValue = .ok out → DictionaryOf d out) ∧
      ((∃ out, r.toValue = .ok out) ↔
        ∀ key v, key ∉ typedKeys → d.get key = some v → v.isVariant = true) :=
  ⟨fun _ encoded => toValue_ok encoded ▸ dictionaryOf_toEntries decoded,
    toValue_ok_iff_of_tryFrom decoded rfl⟩

end NmIpRouteRule

def parseNmIpRuleData (value : Value) : Except NmError (List NmIpRouteRule) := do
  let dicts ← dictionariesTryFrom value
  dicts.mapM NmIpRouteRule.tryFrom

/-- `nm_ip_rules_to_value`: a rule dictionary always passes the signature check of the `a{sv}`
array, so only a rule's `to_value` can fail. -/
def nmIpRulesToValue (nmRules : List NmIpRouteRule) : Except NmError Value := do
  let ruleValues ← nmRules.mapM NmIpRouteRule.toValue
  pure (.array ruleValues)

theorem nmIpRulesToValue_ok_iff (rules : List NmIpRouteRule) :
    (∃ out, nmIpRulesToValue rules = .ok out) ↔ ∀ r ∈ rules, ∃ out, r.toValue = .ok out := by
  constructor
  · rintro ⟨_, encoded⟩ r member
    obtain ⟨_, encodedAll, -⟩ := bind_eq_ok.mp encoded
    exact exists_of_mapM_eq_ok encodedAll member
  · intro each
    obtain ⟨outs, encodedAll⟩ := mapM_eq_ok_of_forall each
    exact ⟨.array outs, by rw [nmIpRulesToValue, encodedAll]; rfl⟩

/-- Parsing a rule array and encoding it again succeeds exactly when every untyped key held a
variant, and then gives, in order, one dictionary per rule dictionary with its keys and values. -/
theorem nmIpRulesToValue_parseNmIpRuleData {v : Value} {rules : List NmIpRouteRule}
    (parsed : parseNmIpRuleData v = .ok rules) :
    ∃ dicts, dictionariesTryFrom v = .ok dicts ∧
      ((∃ out, nmIpRulesToValue rules = .ok out) ↔ ∀ d ∈ dicts, ∀ key value,
        key ∉ NmIpRouteRule.typedKeys → d.get key = some value → value.isVariant = true) ∧
      ∀ out, nmIpRulesToValue rules = .ok out →
        ∃ outs, out = .array outs ∧ List.Forall₂ NmIpRouteRule.DictionaryOf dicts outs := by
  obtain ⟨dicts, read, decoded⟩ := bind_eq_ok.mp parsed
  have pairs := forall₂_of_mapM_eq_ok decoded
  refine ⟨dicts, read, ?_, fun out encoded => ?_⟩
  · rw [nmIpRulesToValue_ok_iff]
    exact (forall_iff_of_forall₂ pairs fun _ _ decodedOne =>
      (NmIpRouteRule.toValue_tryFrom decodedOne).2.symm).symm
  · obtain ⟨outs, encodedAll, built⟩ := bind_eq_ok.mp encoded
    exact ⟨outs, (pure_eq_ok.mp built).symm, forall₂_trans pairs (forall₂_of_mapM_eq_ok encodedAll)
      fun _ _ _ decodedOne encodedOne => (NmIpRouteRule.toValue_tryFrom decodedOne).1 _ encodedOne⟩

/-- Decoding a setting and encoding it again: each typed field is its key's value converted,
`_other` holds every other key, and encoding gives every key back; a rule encodes only when each
untyped key held a variant. -/
theorem decode_encode_round_trip :
    (∀ d s, NmSettingIpVlan.tryFrom d = .ok s →
      s.typedFields = ["parent", "mode", "private", "vepa"].map (fun key => (key, d.get key)) ∧
      (∀ key, s.other.get key =
        if key ∈ ["parent", "mode", "private", "vepa"] then none else d.get key) ∧
      ∀ key, s.toValue.get key = d.get key) ∧
    (∀ d s, NmSettingVeth.tryFrom d = .ok s →
      s.typedFields = ["peer"].map (fun key => (key, d.get key)) ∧
      (∀ key, s.other.get key = if key ∈ ["peer"] then none else d.get key) ∧
      ∀ key, s.toValue.get key = d.get key) ∧
    (∀ d s, NmSetting8021X.tryFrom d = .ok s →
      s.typedFields = ["identity", "private-key", "eap", "client-cert", "ca-cert",
        "private-key-password", "phase2-auth", "password"].map (fun key =>
          (key, if key = "private-key-password" ∨ key = "password" then none else d.get key)) ∧
      (∀ key, s.other.get key = if key ∈ ["identity", "private-key", "eap", "client-cert",
        "ca-cert", "phase2-auth"] then none else d.get key) ∧
      ∀ key, s.toValue.get key = d.get key) ∧
    (∀ code : UInt8, (NmIpRouteRuleAction.fromU8 code).toU8 = code) ∧
    (∀ d r, NmIpRouteRule.tryFrom d = .ok r →
      r.typedFields = NmIpRouteRule.typedKeys.map (fun key => (key, d.get key)) ∧
      (∀ key, r.other.get key = if key ∈ NmIpRouteRule.typedKeys then none else d.get key) ∧
      ((∃ out, r.toValue = .ok out) ↔
        ∀ key v, key ∉ NmIpRouteRule.typedKeys → d.get key = some v → v.isVariant = true) ∧
      ∀ out, r.toValue = .ok out → NmIpRouteRule.DictionaryOf d out) ∧
    (∀ v rules, parseNmIpRuleData v = .ok rules → ∃ dicts, dictionariesTryFrom v = .ok dicts ∧
      ((∃ out, nmIpRulesToValue rules = .ok out) ↔ ∀ d ∈ dicts, ∀ key value,
        key ∉ NmIpRouteRule.typedKeys → d.get key = some value → value.isVariant = true) ∧
      ∀ out, nmIpRulesToValue rules = .ok out →
        ∃ outs, out = .array outs ∧ List.Forall₂ NmIpRouteRule.DictionaryOf dicts outs) :=
  ⟨fun _ _ decoded => ⟨(NmSettingIpVlan.tryFrom_inv decoded).1,
      NmSettingIpVlan.other_of_tryFrom decoded, NmSettingIpVlan.toValue_tryFrom decoded⟩,
    fun _ _ decoded => ⟨(NmSettingVeth.tryFrom_inv decoded).1,
      NmSettingVeth.other_of_tryFrom decoded, NmSettingVeth.toValue_tryFrom decoded⟩,
    fun _ _ decoded => ⟨(NmSetting8021X.tryFrom_inv decoded).1,
      NmSetting8021X.other_of_tryFrom decoded, NmSetting8021X.toValue_tryFrom decoded⟩,
    NmIpRouteRuleAction.toU8_fromU8,
    fun _ _ decoded => ⟨(NmIpRouteRule.tryFrom_inv decoded).1,
      NmIpRouteRule.other_of_tryFrom decoded, (NmIpRouteRule.toValue_tryFrom decoded).2,
      (NmIpRouteRule.toValue_tryFrom decoded).1⟩,
    fun _ _ => nmIpRulesToValue_parseNmIpRuleData⟩

/-- A rule NetworkManager sends with `invert`, a key nmstate does not type. -/
def invertedRuleArray : Value :=
  .array [.dict [(.str "priority", .value (.u32 1000)), (.str "invert", .value (.bool true))]]

/-- The rule parses, but `_other` holds its `invert` value unwrapped, and `to_value` cannot
append it to the `a{sv}` dictionary. -/
theorem nmIpRulesToValue_rejects_untyped_key :
    ∃ rules, parseNmIpRuleData invertedRuleArray = .ok rules ∧
      nmIpRulesToValue rules = .error (.zvariant .signatureMismatch) :=
  ⟨_, rfl, rfl⟩

end Nmstate
