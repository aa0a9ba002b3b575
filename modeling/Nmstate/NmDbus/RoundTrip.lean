import Nmstate.NmDbus.Setting

namespace Nmstate

open DbusDictionary

/-- An encoded setting whose `_other` holds none of the typed keys: each typed key holds its
field, any other key its `_other` entry. -/
theorem get_of_clean {d other : DbusDictionary} {fields : List (String × Option Value)}
    (encoded : ∀ key, d.get key = (other.get key).or ((fields.lookup key).bind id))
    (clean : ∀ key ∈ fields.map Prod.fst, other.get key = none) (key : String) :
    d.get key = if key ∈ fields.map Prod.fst then (fields.lookup key).bind id else other.get key := by
  rw [encoded]
  split_ifs with typed
  · rw [clean key typed, Option.none_or]
  · rw [lookup_eq_none_of_not_mem typed, Option.none_bind, Option.or_none]

/-- What decoding leaves of an encoded setting once its typed keys are taken out: the entries
of `_other`, when `_other` holds none of the typed keys. -/
theorem get_foldl_erase_typed {d other : DbusDictionary} {fields : List (String × Option Value)}
    (encoded : ∀ key, d.get key = (other.get key).or ((fields.lookup key).bind id))
    (clean : ∀ key ∈ fields.map Prod.fst, other.get key = none) (key : String) :
    ((fields.map Prod.fst).foldl erase d).get key = other.get key := by
  rw [get_foldl_erase]
  split_ifs with typed
  · exact (clean key typed).symm
  · rw [encoded, lookup_eq_none_of_not_mem typed, Option.none_bind, Option.or_none]

namespace NmSettingIpVlan

/-- Encoding a setting and decoding it again gives back its typed fields, and an `_other` with
the same entries, once `_other` holds none of the typed keys. -/
theorem tryFrom_toValue (s : NmSettingIpVlan)
    (clean : ∀ key ∈ ["parent", "mode", "private", "vepa"], s.other.get key = none) :
    ∃ rest, tryFrom s.toValue = .ok { s with other := rest } ∧
      ∀ key, rest.get key = s.other.get key :=
  ⟨(s.typedFields.map Prod.fst).foldl erase s.toValue,
    by simp [tryFrom, fromMap_of_typed, get_of_clean s.get_toValue clean, typedFields,
      List.lookup_cons, bind, Except.bind, pure, Except.pure],
    get_foldl_erase_typed s.get_toValue clean⟩

end NmSettingIpVlan

namespace NmSettingVeth

theorem tryFrom_toValue (s : NmSettingVeth) (clean : s.other.get "peer" = none) :
    ∃ rest, tryFrom s.toValue = .ok { s with other := rest } ∧
      ∀ key, rest.get key = s.other.get key :=
  ⟨(s.typedFields.map Prod.fst).foldl erase s.toValue,
    by simp [tryFrom, fromMap_of_typed, get_toValue, clean, typedFields, bind, Except.bind, pure,
      Except.pure],
    get_foldl_erase_typed s.get_toValue fun key typed => by rw [List.mem_singleton.mp typed, clean]⟩

end NmSettingVeth

namespace NmSetting8021X

/-- Encoding a setting and decoding it again gives back its typed fields but the two secrets:
`try_from` does not read those, so they come back in `_other`, under their keys, with
`_other`'s other entries. -/
theorem tryFrom_toValue (s : NmSetting8021X)
    (clean : ∀ key ∈ ["identity", "private-key", "eap", "client-cert", "ca-cert",
      "private-key-password", "phase2-auth", "password"], s.other.get key = none) :
    ∃ rest, tryFrom s.toValue =
        .ok { s with privateKeyPassword := none, password := none, other := rest } ∧
      ∀ key, rest.get key =
        if key = "private-key-password" then s.privateKeyPassword.map DbusType.new
        else if key = "password" then s.password.map DbusType.new
        else s.other.get key := by
  have got := get_of_clean s.get_toValue clean
  refine ⟨["identity", "private-key", "eap", "client-cert", "ca-cert", "phase2-auth"].foldl erase
    s.toValue, by simp [tryFrom, fromMap_of_typed, got, typedFields, List.lookup_cons, bind,
      Except.bind, pure, Except.pure], fun key => ?_⟩
  rw [get_foldl_erase, got]
  by_cases keyPassword : key = "private-key-password"
  · subst keyPassword
    simp [typedFields, List.lookup_cons]
  by_cases password : key = "password"
  · subst password
    simp [typedFields, List.lookup_cons]
  rw [if_neg keyPassword, if_neg password]
  have unread : key ∈ ["identity", "private-key", "eap", "client-cert", "ca-cert", "phase2-auth"] ↔
      key ∈ s.typedFields.map Prod.fst := by
    simp [typedFields, keyPassword, password]
  split_ifs with read typed
  · exact (clean key (unread.mp read)).symm
  · exact absurd (unread.mpr typed) read
  · rfl

end NmSetting8021X

namespace NmIpRouteRule

/-- The dictionary `HashMap::try_from` reads from the entries of a rule: each typed key holds its
field, any other key its `_other` value with one variant layer taken off, when `_other` holds
no typed key. -/
theorem tryFrom_toEntries (r : NmIpRouteRule) (clean : ∀ key ∈ typedKeys, r.other.get key = none) :
    ∃ d, DbusDictionary.tryFrom (.dict (r.toEntries.map fun entry => (.str entry.1, entry.2))) = .ok d ∧
      ∀ key, d.get key = if key ∈ typedKeys then (r.typedFields.lookup key).bind id
        else (r.other.get key).map Value.unwrap := by
  obtain ⟨d, run, got⟩ := DbusDictionary.tryFrom_dict r.toEntries (toEntries_nodup r clean)
  refine ⟨d, run, fun key => ?_⟩
  rw [got, toEntries, List.lookup_append,
    lookup_presentEntries _ (by rw [typedFields_keys]; decide)]
  split_ifs with typed
  · rw [show r.other.entries.lookup key = none from clean key typed, Option.or_none]
    cases r.typedFields.lookup key with
    | none => rfl
    | some field => cases field <;> rfl
  · rw [lookup_eq_none_of_not_mem (show key ∉ r.typedFields.map Prod.fst by
      rwa [typedFields_keys]), Option.none_bind, Option.none_or]
    rfl

/-- Decoding what `to_value` emitted gives back the rule's typed fields, its action as the kernel
code names it, and an `_other` with the same keys, each value with its variant layer taken off,
when `_other` holds no typed key. -/
theorem tryFrom_toValue {r : NmIpRouteRule} {out : Value}
    (clean : ∀ key ∈ typedKeys, r.other.get key = none) (encoded : r.toValue = .ok out) :
    ∃ d rest, DbusDictionary.tryFrom out = .ok d ∧
      tryFrom d = .ok { r with
        action := r.action.map fun action => NmIpRouteRuleAction.fromU8 action.toU8
        other := rest } ∧
      ∀ key, rest.get key = (r.other.get key).map Value.unwrap := by
  obtain ⟨d, run, got⟩ := tryFrom_toEntries r clean
  refine ⟨d, typedKeys.foldl erase d, toValue_ok encoded ▸ run, by simp [tryFrom, fromMap_of_typed,
    got, typedKeys, typedFields, List.lookup_cons, Function.comp_def, bind, Except.bind, pure,
    Except.pure], fun key => ?_⟩
  rw [get_foldl_erase, got]
  split_ifs with typed
  · rw [clean key typed]
    rfl
  · rfl

end NmIpRouteRule

/-- The rules a rule array of encoded rules parses to, each decoded from its own dictionary. -/
theorem parseNmIpRuleData_array {rules : List NmIpRouteRule} {outs : List Value}
    (clean : ∀ r ∈ rules, ∀ key ∈ NmIpRouteRule.typedKeys, r.other.get key = none)
    (encoded : List.Forall₂ (fun r out => r.toValue = .ok out) rules outs) :
    ∃ decoded, parseNmIpRuleData (.array outs) = .ok decoded ∧
      List.Forall₂ (fun r r' => ∃ rest, r' = { r with
          action := r.action.map fun action => NmIpRouteRuleAction.fromU8 action.toU8
          other := rest } ∧ ∀ key, rest.get key = (r.other.get key).map Value.unwrap) rules decoded := by
  induction encoded with
  | nil => exact ⟨[], rfl, .nil⟩
  | @cons r out others outs encodedOne _ ih =>
    obtain ⟨d, rest, read, decoded, kept⟩ :=
      NmIpRouteRule.tryFrom_toValue (clean r (List.mem_cons_self _ _)) encodedOne
    obtain ⟨decodedOthers, parsed, all⟩ := ih fun r' member => clean r' (List.mem_cons_of_mem _ member)
    obtain ⟨dicts, readOthers, decodedAll⟩ := bind_eq_ok.mp parsed
    obtain rfl := NmIpRouteRule.toValue_ok encodedOne
    refine ⟨_ :: decodedOthers, bind_eq_ok.mpr ⟨d :: dicts, ?_, ?_⟩, .cons ⟨rest, rfl, kept⟩ all⟩
    · simp only [dictionariesTryFrom, List.mapM_cons] at readOthers ⊢
      rw [Value.unwrap_dict, read, readOthers]
      rfl
    · rw [List.mapM_cons, decoded, decodedAll]
      rfl

/-- Encoding rules succeeds exactly when every `_other` value is a variant; when no `_other`
holds a typed key, parsing the array then gives the rules back in order, actions by kernel code,
`_other` values unwrapped once. -/
theorem parseNmIpRuleData_nmIpRulesToValue (rules : List NmIpRouteRule)
    (clean : ∀ r ∈ rules, ∀ key ∈ NmIpRouteRule.typedKeys, r.other.get key = none) :
    ((∃ out, nmIpRulesToValue rules = .ok out) ↔
      ∀ r ∈ rules, ∀ key v, r.other.get key = some v → v.isVariant = true) ∧
    ∀ out, nmIpRulesToValue rules = .ok out → ∃ decoded, parseNmIpRuleData out = .ok decoded ∧
      List.Forall₂ (fun r r' => ∃ rest, r' = { r with
          action := r.action.map fun action => NmIpRouteRuleAction.fromU8 action.toU8
          other := rest } ∧ ∀ key, rest.get key = (r.other.get key).map Value.unwrap) rules decoded := by
  refine ⟨by simp only [nmIpRulesToValue_ok_iff, NmIpRouteRule.toValue_ok_iff], fun out encoded => ?_⟩
  obtain ⟨outs, encodedAll, built⟩ := bind_eq_ok.mp encoded
  cases pure_eq_ok.mp built
  exact parseNmIpRuleData_array clean (forall₂_of_mapM_eq_ok encodedAll)

/-- Encoding a setting and decoding it again gives it back when `_other` holds no typed key,
but the 802.1X secrets come back in `_other`, and a rule action by its kernel code; rules encode
only with variant `_other` values. -/
theorem encode_decode_round_trip :
    (∀ s : NmSettingIpVlan, (∀ key ∈ ["parent", "mode", "private", "vepa"], s.other.get key = none) →
      ∃ rest, NmSettingIpVlan.tryFrom s.toValue = .ok { s with other := rest } ∧
        ∀ key, rest.get key = s.other.get key) ∧
    (∀ s : NmSettingVeth, s.other.get "peer" = none →
      ∃ rest, NmSettingVeth.tryFrom s.toValue = .ok { s with other := rest } ∧
        ∀ key, rest.get key = s.other.get key) ∧
    (∀ s : NmSetting8021X, (∀ key ∈ ["identity", "private-key", "eap", "client-cert", "ca-cert",
        "private-key-password", "phase2-auth", "password"], s.other.get key = none) →
      ∃ rest, NmSetting8021X.tryFrom s.toValue =
          .ok { s with privateKeyPassword := none, password := none, other := rest } ∧
        ∀ key, rest.get key =
          if key = "private-key-password" then s.privateKeyPassword.map DbusType.new
          else if key = "password" then s.password.map DbusType.new
          else s.other.get key) ∧
    (∀ rules : List NmIpRouteRule,
      (∀ r ∈ rules, ∀ key ∈ NmIpRouteRule.typedKeys, r.other.get key = none) →
      ((∃ out, nmIpRulesToValue rules = .ok out) ↔
        ∀ r ∈ rules, ∀ key v, r.other.get key = some v → v.isVariant = true) ∧
      ∀ out, nmIpRulesToValue rules = .ok out → ∃ decoded, parseNmIpRuleData out = .ok decoded ∧
        List.Forall₂ (fun r r' => ∃ rest, r' = { r with
            action := r.action.map fun action => NmIpRouteRuleAction.fromU8 action.toU8
            other := rest } ∧ ∀ key, rest.get key = (r.other.get key).map Value.unwrap)
          rules decoded) :=
  ⟨NmSettingIpVlan.tryFrom_toValue, NmSettingVeth.tryFrom_toValue, NmSetting8021X.tryFrom_toValue,
    parseNmIpRuleData_nmIpRulesToValue⟩

/-- A rule action written as a bare kernel code that has a name comes back under the name. -/
example : NmIpRouteRuleAction.fromU8 (NmIpRouteRuleAction.other 6).toU8 = .blackhole := by decide

end Nmstate
