import Snapl.Intent.SchemaLoader

/-!
# Identity of the Source of Truth

Which project an Infrahub belongs to, told from its schema and the number of
its devices.
-/

namespace Snapl.Intent

open Snapl.Library

inductive SotIdentity where
  | ours
  | foreign
  | unknown
deriving DecidableEq

/-- The verdict, with a sentence that explains it. -/
structure IdentityCheck where
  identity : SotIdentity
  detail : String
deriving DecidableEq

def IdentityCheck.isForeign (check : IdentityCheck) : Bool := check.identity = .foreign

def Identity.snaplDeviceKind : String := "DcimDevice"

def Identity.snaplMarkerAttribute : String := "use_case"

/-- Classify an instance by the two facts that tell it. -/
def Identity.classify
    (hasMarker : Bool) (deviceCount : Option Nat) (address : String) : IdentityCheck :=
  if hasMarker then ⟨.ours, address ++ " carries snapl's schema"⟩
  else
    match deviceCount with
    | none => ⟨.unknown, address ++ " could not be identified"⟩
    | some count =>
        if 0 < count then
          ⟨.foreign, address ++ " has " ++ toString count ++ " devices but no snapl '" ++
            Identity.snaplMarkerAttribute ++
            "' attribute — this looks like another project's Infrahub"⟩
        else ⟨.ours, address ++ " is empty and unprovisioned"⟩

/-- What can be read of an instance: its schema, and how many devices it lists. -/
structure SotReading where
  schema : Option Registry
  devices : Option Nat

/-- `schema.get` of the device kind, where there is one. -/
def Registry.deviceNode? : Registry → Option SchemaNode
  | .dict nodes => nodes.get? Identity.snaplDeviceKind
  | _ => none

/-- The kind exposes the marker. -/
def SchemaNode.hasMarker (node : SchemaNode) : Bool :=
  (node.attributes.getD []).any fun name => name = some Identity.snaplMarkerAttribute

/-- Classify the instance behind a client; what cannot be read makes it unknown, never foreign. -/
def Identity.identify (address : String) (reading : SotReading) : IdentityCheck :=
  match reading.schema with
  | none => ⟨.unknown, address ++ " schema could not be read"⟩
  | some registry =>
      match registry.deviceNode? with
      | none => Identity.classify false (some 0) address
      | some node =>
          if node.hasMarker then Identity.classify true none address
          else Identity.classify false reading.devices address

end Snapl.Intent
