import Snapl.Library.JsonString

/-!
# Intent models

The records the intent store returns: a device, its interfaces and its BGP
sessions.  Fields no modelled component reads (roles, platforms, speeds,
policies and the record identifiers of interfaces and sessions) are left out.
-/

namespace Snapl.Intent

open Snapl.Library

/-- A 128-bit identifier. -/
structure UUID where
  value : BitVec 128
deriving DecidableEq

/-- The low `digits` hexadecimal digits of a number. -/
def hexText (value : Nat) : Nat → List Char
  | 0 => []
  | digits + 1 =>
      hexText (value / 16) digits ++ [JsonText.hexDigit (value % 16)]

/-- The canonical text of an identifier. -/
def UUID.text (id : UUID) : String :=
  let group := fun (shift digits : Nat) =>
    String.ofList (hexText (id.value.toNat / 2 ^ shift) digits)
  group 96 8 ++ "-" ++ group 80 4 ++ "-" ++ group 64 4 ++ "-" ++
    group 48 4 ++ "-" ++ group 0 12

theorem length_hexText (value digits : Nat) : (hexText value digits).length = digits := by
  induction digits generalizing value with
  | zero => rfl
  | succ digits inductionHypothesis => simp [hexText, inductionHypothesis]

/-- The digits determine the number up to what they leave out. -/
theorem mod_eq_of_hexText_eq
    {digits first second : Nat} (same : hexText first digits = hexText second digits) :
    first % 16 ^ digits = second % 16 ^ digits := by
  induction digits generalizing first second with
  | zero => simp [Nat.mod_one]
  | succ digits inductionHypothesis =>
      obtain ⟨higher, lowest⟩ := List.append_inj' same rfl
      have rest := inductionHypothesis higher
      have digit := JsonText.hexDigit_inj (Nat.mod_lt _ (by decide))
        (Nat.mod_lt _ (by decide)) (List.singleton_inj.1 lowest)
      rw [Nat.pow_succ', Nat.mod_mul, Nat.mod_mul, rest, digit]

/-- Different identifiers have different texts. -/
theorem UUID.text_injective : Function.Injective UUID.text := by
  rintro ⟨first⟩ ⟨second⟩ same
  have chars := congrArg String.toList same
  simp only [UUID.text, String.toList_append, String.toList_ofList] at chars
  have lengths : ∀ value value' digits : Nat,
      (hexText value digits).length = (hexText value' digits).length := by
    intro value value' digits
    rw [length_hexText, length_hexText]
  obtain ⟨chars, group0⟩ := List.append_inj' chars (lengths _ _ _)
  obtain ⟨chars, -⟩ := List.append_inj' chars rfl
  obtain ⟨chars, group48⟩ := List.append_inj' chars (lengths _ _ _)
  obtain ⟨chars, -⟩ := List.append_inj' chars rfl
  obtain ⟨chars, group64⟩ := List.append_inj' chars (lengths _ _ _)
  obtain ⟨chars, -⟩ := List.append_inj' chars rfl
  obtain ⟨chars, group80⟩ := List.append_inj' chars (lengths _ _ _)
  obtain ⟨group96, -⟩ := List.append_inj' chars rfl
  have mod0 := mod_eq_of_hexText_eq group0
  have mod48 := mod_eq_of_hexText_eq group48
  have mod64 := mod_eq_of_hexText_eq group64
  have mod80 := mod_eq_of_hexText_eq group80
  have mod96 := mod_eq_of_hexText_eq group96
  have bound := first.isLt
  have secondBound := second.isLt
  have equal : first.toNat = second.toNat := by omega
  rw [BitVec.eq_of_toNat_eq equal]

/-- A network element within a single use case. -/
structure Device where
  id : UUID
  name : String
  managementAddress : String
  useCase : String
  labNodeName : Option String
deriving DecidableEq

/-- A network interface on a device. -/
structure Interface where
  name : String
  description : Option String
  ipAddress : Option String
  prefixLength : Option Int
  enabled : Bool
  mtu : Option Int
deriving DecidableEq

/-- A BGP peering session on a device. -/
structure BGPSession where
  localAsn : Int
  peerAddress : String
  peerAsn : Int
  peerGroup : Option String
  addressFamily : String
  enabled : Bool
deriving DecidableEq

/-- The complete intended configuration of a single device. -/
structure DesiredState where
  device : Device
  interfaces : List Interface
  bgpSessions : List BGPSession
deriving DecidableEq

/-- The truth value of an optional string: present and non-empty. -/
def filled? (value : Option String) : Option String :=
  value.filter (· ≠ "")

@[simp]
theorem filled?_none : filled? none = none := rfl

theorem filled?_some {value : String} (nonempty : value ≠ "") :
    filled? (some value) = some value := by
  simp [filled?, nonempty]

theorem filled?_eq_some_iff (value : Option String) (text : String) :
    filled? value = some text ↔ value = some text ∧ text ≠ "" := by
  rw [filled?, Option.filter_eq_some_iff]
  simp

/-- The address to dial: the lab node name, or the management address, or the fallback. -/
def Device.dialHost (device : Device) (fallback : Option String) : Option String :=
  match filled? device.labNodeName with
  | some host => some host
  | none =>
      match filled? (some device.managementAddress) with
      | some host => some host
      | none => filled? fallback

end Snapl.Intent
