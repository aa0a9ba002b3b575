import Nmstate.Nm.Api
import Nmstate.NmDbus.Value

namespace Nmstate

/-- What `get_nm_ac_by_obj_path` reads over D-Bus, by object path: a proxy, the `StateFlags`,
`Uuid` and `Connection` properties (value or zbus error text), the profile at a path, and
`NmIfaceType::default()`, not under src/. -/
structure AcDbus where
  proxyNew : String → Except NmError Unit
  stateFlags : String → Except String UInt32
  uuid : String → Except String String
  connection : String → Except String String
  nmConGetFromObjPath : String → Except NmError NmConnection
  nmIfaceTypeDefault : NmIfaceType

variable (dbus : AcDbus)

/-- One property read of the active connection at `objPath`; a failed read is a bug that names
the property and the object. -/
def nmAcObjPathPropertyGet {α : Type} (read : String → Except String α) (what objPath : String) :
    Except NmError α := do
  dbus.proxyNew objPath
  match read objPath with
  | .ok v => pure v
  | .error e =>
    throw (.new .bug ("Failed to retrieve " ++ what ++ " of active connection " ++ objPath ++ ": " ++ e))

/-- `nm_ac_obj_path_state_flags_get`. -/
def nmAcObjPathStateFlagsGet (objPath : String) : Except NmError UInt32 :=
  nmAcObjPathPropertyGet dbus dbus.stateFlags "StateFlags" objPath

/-- `nm_ac_obj_path_uuid_get`. -/
def nmAcObjPathUuidGet (objPath : String) : Except NmError String :=
  nmAcObjPathPropertyGet dbus dbus.uuid "UUID" objPath

/-- `nm_ac_obj_path_nm_con_obj_path_get`: an active connection being deleted or deactivated has
no profile, and a failed read gives the empty path. -/
def nmAcObjPathNmConObjPathGet (objPath : String) : Except NmError String := do
  dbus.proxyNew objPath
  match dbus.connection objPath with
  | .ok path => pure path
  | .error _ => pure ""

/-- `get_nm_ac_by_obj_path`. -/
def getNmAcByObjPath (objPath : String) : Except NmError (Option NmActiveConnection) := do
  let nmConnObjPath ← nmAcObjPathNmConObjPathGet dbus objPath
  if !nmConnObjPath.isEmpty && nmConnObjPath != "/" then
    let nmConn ← dbus.nmConGetFromObjPath nmConnObjPath
    let ifaceName := nmConn.ifaceName.getD ""
    let ifaceType := nmConn.ifaceType.getD dbus.nmIfaceTypeDefault
    let uuid ← nmAcObjPathUuidGet dbus objPath
    let stateFlags ← nmAcObjPathStateFlagsGet dbus objPath
    pure (some { uuid, ifaceName, ifaceType, stateFlags })
  else pure none

variable {dbus}

theorem nmAcObjPathPropertyGet_error {α : Type} {read : String → Except String α}
    {what objPath : String} {e : NmError}
    (failed : nmAcObjPathPropertyGet dbus read what objPath = .error e) :
    dbus.proxyNew objPath = .error e ∨ ∃ zbusError, read objPath = .error zbusError ∧
      e = .new .bug ("Failed to retrieve " ++ what ++ " of active connection " ++ objPath ++ ": " ++
        zbusError) := by
  unfold nmAcObjPathPropertyGet at failed
  rcases bind_eq_error.mp failed with proxy | ⟨_, -, failed⟩
  · exact .inl proxy
  · split at failed
    · cases failed
    · cases failed
      exact .inr ⟨_, ‹_›, rfl⟩

/-- `get_nm_ac_by_obj_path` fails only when a proxy cannot be made, when the profile cannot be
read, or as a bug naming the object and the property (`UUID` or `StateFlags`) it could not read;
a missing profile is no error. -/
theorem getNmAcByObjPath_error {objPath : String} {e : NmError}
    (failed : getNmAcByObjPath dbus objPath = .error e) :
    dbus.proxyNew objPath = .error e ∨
      (∃ path, dbus.connection objPath = .ok path ∧ dbus.nmConGetFromObjPath path = .error e) ∨
      ∃ what ∈ ["UUID", "StateFlags"], ∃ zbusError,
        e = .new .bug ("Failed to retrieve " ++ what ++ " of active connection " ++ objPath ++ ": " ++
          zbusError) := by
  unfold getNmAcByObjPath at failed
  rcases bind_eq_error.mp failed with pathFailed | ⟨path, pathRead, failed⟩
  · -- reading the profile path fails only when the proxy does
    rcases bind_eq_error.mp pathFailed with proxy | ⟨_, -, read⟩
    · exact .inl proxy
    · split at read <;> cases read
  split at failed
  · rename_i hasProfile
    rcases bind_eq_error.mp failed with profile | ⟨nmConn, -, failed⟩
    · -- a path that is not empty was read from the active connection
      have connection : dbus.connection objPath = .ok path := by
        obtain ⟨_, -, read⟩ := bind_eq_ok.mp pathRead
        split at read
        · cases read
          assumption
        · cases read
          exact absurd hasProfile (by decide)
      exact .inr (.inl ⟨path, connection, profile⟩)
    rcases bind_eq_error.mp failed with uuid | ⟨_, -, failed⟩
    · rcases nmAcObjPathPropertyGet_error uuid with proxy | ⟨zbusError, -, rfl⟩
      exacts [.inl proxy, .inr (.inr ⟨"UUID", by simp, zbusError, rfl⟩)]
    rcases bind_eq_error.mp failed with flags | ⟨_, -, failed⟩
    · rcases nmAcObjPathPropertyGet_error flags with proxy | ⟨zbusError, -, rfl⟩
      exacts [.inl proxy, .inr (.inr ⟨"StateFlags", by simp, zbusError, rfl⟩)]
    · cases failed
  · cases failed

end Nmstate
