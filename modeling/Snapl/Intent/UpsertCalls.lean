import Snapl.Intent.UpsertFrames

/-!
# The upserts of a seed

A seed upserts items, copies of peer groups and sessions.  Each is prepared by
reading the default branch and is then made; `UpsertCall.upserted` also returns
which node was written and whether it was created, and the functions of the
ingester are its calls with less returned.
-/

namespace Snapl.Intent

open Snapl.Library SeedIngester

variable {client : InfrahubClient} {text : PyText}

/-- An upsert of a seed: of an item of a generic section, of a copy, or of a session. -/
inductive UpsertCall where
  | item (name : SectionName) (generic : name ∉ bgpSections) (item : Payload)
      (namespaceId : Option String)
  | shadow (group : Json) (declaration : Payload) (device : Json) (vrfId : String)
  | session (session : Payload) (vrfId : String) (ids : ShadowIds)

namespace UpsertCall

/-- The kind of node a call upserts. -/
def kind : UpsertCall → Kind
  | .item name _ _ _ => (sections name).kind
  | .shadow _ _ _ _ => .routingBGPPeerGroup
  | .session _ _ _ => .routingBGPSession

/-- What a call looks up and what it writes. -/
def prepare (client : InfrahubClient) (text : PyText) (branch : String) :
    UpsertCall → SotProgram (List Filter × Payload)
  | .item name _ fields namespaceId => do
      let resolved ← resolveRelationships client (sections name).kind
        (sections name).relationships fields
      let payload ← wireAddresses client (sections name) branch namespaceId
        (withNamespace (sections name) namespaceId resolved)
      pure (lookupFilters (sections name) payload, payload)
  | .shadow group declaration device vrfId => do
      let deviceId ← requireDevice client device (.shadowDevice device)
      let payload ← compute (shadowPayload text group declaration device deviceId vrfId)
      let name ← compute (shadowName text group device)
      pure ([.value "name" (.str name)], payload)
  | .session fields vrfId ids => do
      let localDevice ← compute (required fields "local_device")
      let deviceId ← requireDevice client localDevice (.sessionDevice localDevice)
      let description ← compute (required fields "description")
      let withLocalAs ← wireAs client "local_as" fields
        (sessionBase vrfId deviceId description fields)
      let withRemoteAs ← wireAs client "remote_as" fields withLocalAs
      let withLocalIp ← wireIp client "local_ip" fields withRemoteAs
      let withRemoteIp ← wireIp client "remote_ip" fields withLocalIp
      let payload ← compute (wirePeerGroup ids localDevice fields withRemoteIp)
      pure ([.value "description" description], payload)

/-- Make the upsert; returns the identifier of its node and whether it was created. -/
def upserted (client : InfrahubClient) (text : PyText) (branch : String) (call : UpsertCall) :
    SotProgram (String × Bool) := do
  let request ← call.prepare client text branch
  upsertNode client call.kind request.1 request.2 branch

end UpsertCall

theorem upsertItem_eq_upserted
    (name : SectionName) (generic : name ∉ bgpSections) (item : Payload)
    (namespaceId : Option String) (branch : String) :
    upsertItem client (sections name) item branch namespaceId = (do
      let outcome ← (UpsertCall.item name generic item namespaceId).upserted client text branch
      pure outcome.2) := by
  simp only [UpsertCall.upserted, UpsertCall.prepare, UpsertCall.kind, Program.bind_assoc,
    Program.pure_bind]
  rfl

theorem seedShadow_eq_upserted
    (branch vrfId : String) (group : Json) (declaration : Payload) (device : Json) :
    seedShadow client text branch vrfId group declaration device = (do
      let outcome ← (UpsertCall.shadow group declaration device vrfId).upserted client text branch
      pure outcome.1) := by
  simp only [UpsertCall.upserted, UpsertCall.prepare, UpsertCall.kind, Program.bind_assoc,
    Program.pure_bind]
  rfl

theorem seedSession_eq_upserted
    (branch vrfId : String) (ids : ShadowIds) (session : Payload) :
    seedSession client branch vrfId ids session = (do
      let _ ← (UpsertCall.session session vrfId ids).upserted client text branch
      pure ()) := by
  simp only [UpsertCall.upserted, UpsertCall.prepare, UpsertCall.kind, Program.bind_assoc,
    Program.pure_bind]
  rfl

end Snapl.Intent
