import Mathlib.Data.List.Basic

namespace Nmstate

/-- `HashMap<String, String>`: its entries, under distinct keys. -/
structure StringMap where
  entries : List (String × String)
  nodup : (entries.map Prod.fst).Nodup
  deriving DecidableEq

namespace StringMap

def empty : StringMap := ⟨[], List.nodup_nil⟩

/-- `HashMap::insert`: the new value replaces any value under the same key. -/
def insert (m : StringMap) (key value : String) : StringMap :=
  ⟨(key, value) :: m.entries.filter (·.1 != key), by
    refine List.nodup_cons.mpr ⟨?_, m.nodup.sublist ((List.filter_sublist _).map _)⟩
    simp⟩

end StringMap

/-- The fields of `LibreswanConfig` that `gen_nm_ipsec_vpn_setting` reads. `LibreswanConfig` is not
under src/; its connection type and address families enter only through their `to_string`, and
its DPD timers are unsigned integers the code renders in decimal. -/
structure LibreswanConfig (Kind Family : Type) where
  right : String
  rightid : Option String
  rightrsasigkey : Option String
  rightcert : Option String
  left : Option String
  leftid : Option String
  leftrsasigkey : Option String
  leftcert : Option String
  ikev2 : Option String
  ikelifetime : Option String
  salifetime : Option String
  ike : Option String
  esp : Option String
  dpddelay : Option Nat
  dpdtimeout : Option Nat
  dpdaction : Option String
  ipsecInterface : Option String
  authby : Option String
  leftmodecfgclient : Option Bool
  rightsubnet : Option String
  leftsubnet : Option String
  kind : Option Kind
  clientaddrfamily : Option Family
  hostaddrfamily : Option Family
  requireIdOnCertificate : Option Bool
  psk : Option String
  deriving DecidableEq

/-- The one field of `IpsecInterface` that `gen_nm_ipsec_vpn_setting` reads. -/
structure IpsecInterface (Kind Family : Type) where
  libreswan : Option (LibreswanConfig Kind Family)
  deriving DecidableEq

/-- The fields of `NmSettingVpn` that `gen_nm_ipsec_vpn_setting` sets. `NmSettingVpn` is not under
src/; its `default()` leaves each of them unset. -/
structure NmSettingVpn where
  data : Option StringMap
  serviceType : Option String
  secrets : Option StringMap
  deriving DecidableEq

variable {Kind Family : Type} [ToString Kind] [ToString Family]

/-- How the code writes a boolean option of libreswan. -/
def yesNo (v : Bool) : String := if v then "yes" else "no"

/-- The entries `gen_nm_ipsec_vpn_setting` inserts after `right`, in its order, each under its
key when its field is set and rendered as the code renders it. -/
def libreswanVpnFields (conf : LibreswanConfig Kind Family) : List (String × Option String) :=
  [("rightid", conf.rightid), ("rightrsasigkey", conf.rightrsasigkey),
    ("rightcert", conf.rightcert), ("left", conf.left), ("leftid", conf.leftid),
    ("leftrsasigkey", conf.leftrsasigkey), ("leftcert", conf.leftcert), ("ikev2", conf.ikev2),
    ("ikelifetime", conf.ikelifetime), ("salifetime", conf.salifetime), ("ike", conf.ike),
    ("esp", conf.esp), ("dpddelay", conf.dpddelay.map toString),
    ("dpdtimeout", conf.dpdtimeout.map toString), ("dpdaction", conf.dpdaction),
    ("ipsec-interface", conf.ipsecInterface), ("authby", conf.authby),
    ("leftmodecfgclient", conf.leftmodecfgclient.map yesNo), ("rightsubnet", conf.rightsubnet),
    ("leftsubnet", conf.leftsubnet), ("type", conf.kind.map toString),
    ("clientaddrfamily", conf.clientaddrfamily.map toString),
    ("hostaddrfamily", conf.hostaddrfamily.map toString),
    ("require-id-on-certificate", conf.requireIdOnCertificate.map yesNo)]

/-- The `vpn_data` map of `gen_nm_ipsec_vpn_setting`. -/
def libreswanVpnData (conf : LibreswanConfig Kind Family) : StringMap :=
  (libreswanVpnFields conf).foldl (fun data field => match field.2 with
    | some v => data.insert field.1 v
    | none => data) (StringMap.empty.insert "right" conf.right)

/-- The secrets of a profile that holds the pre-shared key `psk`. -/
def pskSecrets (psk : String) : StringMap := StringMap.empty.insert "pskvalue" psk

section Apply

variable (serviceTypeLibreswan passwordHidByNmstate : String)

/-- `gen_nm_ipsec_vpn_setting`, on the one field of the profile it reads and writes, `nm_conn.vpn`.
`SERVICE_TYPE_LIBRESWAN` and `PASSWORD_HID_BY_NMSTATE` are not under src/: they are parameters. -/
def genNmIpsecVpnSetting (iface : IpsecInterface Kind Family) (vpn : Option NmSettingVpn) :
    Option NmSettingVpn :=
  match iface.libreswan with
  | none => vpn
  | some conf => some
    { data := some (libreswanVpnData conf)
      serviceType := some serviceTypeLibreswan
      secrets := match conf.psk with
        | none => none
        | some v => if v = passwordHidByNmstate then vpn.bind NmSettingVpn.secrets
          else some (pskSecrets v) }

/-- Applies in turn to one profile, each to the VPN setting the one before saved. -/
def applyIpsecIfaces (ifaces : List (IpsecInterface Kind Family)) (vpn : Option NmSettingVpn) :
    Option NmSettingVpn :=
  ifaces.foldl (fun vpn iface => genNmIpsecVpnSetting serviceTypeLibreswan passwordHidByNmstate iface vpn)
    vpn

/-- A run with one more apply is that apply on what the run left. -/
theorem applyIpsecIfaces_concat (ifaces : List (IpsecInterface Kind Family))
    (iface : IpsecInterface Kind Family) (vpn : Option NmSettingVpn) :
    applyIpsecIfaces serviceTypeLibreswan passwordHidByNmstate (ifaces ++ [iface]) vpn =
      genNmIpsecVpnSetting serviceTypeLibreswan passwordHidByNmstate iface
        (applyIpsecIfaces serviceTypeLibreswan passwordHidByNmstate ifaces vpn) :=
  List.foldl_concat _ _ _ _

/-- A config names its pre-shared key unless the key is the placeholder nmstate shows for it. -/
def LibreswanConfig.namesPsk (conf : LibreswanConfig Kind Family) : Bool :=
  conf.psk != some passwordHidByNmstate

/-- The secrets one apply leaves: a config that names its key, or has none, replaces them; a
placeholder key or an interface without libreswan config keeps them. -/
theorem secrets_genNmIpsecVpnSetting (iface : IpsecInterface Kind Family) (vpn : Option NmSettingVpn) :
    (genNmIpsecVpnSetting serviceTypeLibreswan passwordHidByNmstate iface vpn).bind
        NmSettingVpn.secrets = match iface.libreswan with
      | none => vpn.bind NmSettingVpn.secrets
      | some conf => if conf.namesPsk passwordHidByNmstate then conf.psk.map pskSecrets
        else vpn.bind NmSettingVpn.secrets := by
  unfold genNmIpsecVpnSetting LibreswanConfig.namesPsk
  cases iface.libreswan with
  | none => rfl
  | some conf =>
    dsimp only
    cases conf.psk with
    | none => rfl
    | some psk => by_cases hidden : psk = passwordHidByNmstate <;> simp [hidden]

/-- The secrets a run of applies leaves are those of the last config that names its key. -/
theorem secrets_applyIpsecIfaces (ifaces : List (IpsecInterface Kind Family))
    (vpn : Option NmSettingVpn) :
    (applyIpsecIfaces serviceTypeLibreswan passwordHidByNmstate ifaces vpn).bind
        NmSettingVpn.secrets =
      match ((ifaces.filterMap IpsecInterface.libreswan).reverse.find?
          (LibreswanConfig.namesPsk passwordHidByNmstate)) with
      | none => vpn.bind NmSettingVpn.secrets
      | some conf => conf.psk.map pskSecrets := by
  induction ifaces using List.reverseRecOn with
  | nil => rfl
  | append_singleton ifaces iface ih =>
    rw [applyIpsecIfaces_concat, secrets_genNmIpsecVpnSetting, List.filterMap_append]
    rcases configured : iface.libreswan with _ | conf
    · simpa [configured] using ih
    · by_cases named : conf.namesPsk passwordHidByNmstate
      · simp [configured, named]
      · simpa [configured, named] using ih

/-- A run of applies to one IPsec profile leaves what the last libreswan config writes, but the
secrets of the last config naming its pre-shared key: the placeholder keeps the stored key. -/
theorem applyIpsecIfaces_eq (ifaces : List (IpsecInterface Kind Family)) (vpn : Option NmSettingVpn) :
    applyIpsecIfaces serviceTypeLibreswan passwordHidByNmstate ifaces vpn =
      match (ifaces.filterMap IpsecInterface.libreswan).getLast? with
      | none => vpn
      | some conf => some
        { data := some (libreswanVpnData conf)
          serviceType := some serviceTypeLibreswan
          secrets := match ((ifaces.filterMap IpsecInterface.libreswan).reverse.find?
              (LibreswanConfig.namesPsk passwordHidByNmstate)) with
            | none => vpn.bind NmSettingVpn.secrets
            | some named => named.psk.map pskSecrets } := by
  induction ifaces using List.reverseRecOn with
  | nil => rfl
  | append_singleton ifaces iface ih =>
    rw [applyIpsecIfaces_concat, List.filterMap_append]
    rcases configured : iface.libreswan with _ | conf
    · simpa [genNmIpsecVpnSetting, configured] using ih
    · -- the last config writes data and service type; the secrets are those of the whole run
      have whole := secrets_applyIpsecIfaces serviceTypeLibreswan passwordHidByNmstate
        (ifaces ++ [iface]) vpn
      rw [applyIpsecIfaces_concat, List.filterMap_append] at whole
      simpa [genNmIpsecVpnSetting, configured] using whole

end Apply

end Nmstate
