import Snapl.Contract.RoundTrip
import Snapl.Executor.Verbatim

/-!
# Rendering cannot be subverted by data

Descriptions are escaped, every other string is interpolated as it is.  Where
rendering returns a payload at all, the payload is the intended one exactly
when none of these strings has a quote, a backslash or a control character: a
quote or a backslash always costs the payload some of the text it was meant to
hold.
-/

namespace Snapl.Contract

open Snapl.Library Snapl.Library.JsonText Snapl.Intent Snapl.Executor

/-- Every string the templates interpolate as it is needs no escaping. -/
structure VerbatimState (text : PyText) (desired : DesiredState) : Prop where
  interfaces : ∀ iface ∈ desired.interfaces, VerbatimInterface iface
  bgp : desired.bgpSessions ≠ [] →
    VerbatimBgp text (selectRouterId text desired) desired.bgpSessions

variable {text : PyText} {desired : DesiredState} {payload : Json}

/-- The texts a payload was decoded from. -/
theorem decoded_of_rendered (rendered : render text desired = .ok payload) :
    ∃ chars interfaces, interfacesText desired.interfaces = .ok chars ∧
      loads chars = .ok interfaces ∧
      if desired.bgpSessions = [] then payload = .obj [("interface", interfaces)]
      else ∃ bgpChars bgp,
        bgpText text (selectRouterId text desired) desired.bgpSessions = .ok bgpChars ∧
        loads bgpChars = .ok bgp ∧
        payload = .obj [("interface", interfaces),
          ("network-instance", .arr [.obj [("name", .str "default"),
            ("protocols", .obj [("bgp", bgp)])]])] := by
  rw [render] at rendered
  split at rendered
  · cases rendered
  · obtain ⟨interfaces, decoded, rest⟩ := (bind_eq_ok _ _ _).1 rendered
    obtain ⟨chars, written, loaded⟩ := (decode_eq_ok_iff _ _).1 decoded
    refine ⟨chars, interfaces, written, loaded, ?_⟩
    split_ifs at rest ⊢ with noSessions
    · cases rest
      rfl
    · obtain ⟨bgp, bgpDecoded, made⟩ := (bind_eq_ok _ _ _).1 rest
      obtain ⟨bgpChars, bgpWritten, bgpLoaded⟩ := (decode_eq_ok_iff _ _).1 bgpDecoded
      cases made
      exact ⟨bgpChars, bgp, bgpWritten, bgpLoaded, rfl⟩

theorem loads_of_reads
    {chars : List Char} {value decoded : Json} (reads : ReadsValue chars value)
    (loaded : loads chars = .ok decoded) : decoded = value := by
  obtain ⟨other, written, otherLoaded⟩ :=
    (decode_eq_ok_iff (.ok chars) value).1 (decode_of_reads reads)
  cases written
  exact Except.ok.inj (loaded.symm.trans otherLoaded)

theorem payloadFields_sound (text : PyText) (desired : DesiredState) :
    Sound (.obj (payloadFields text desired)) := by
  have interfaces := interfacesValue_sound desired.interfaces
  rw [payloadFields]
  split_ifs with noSessions
  · apply Sound.dictionary (by simp)
    intro field member
    rw [List.mem_singleton.1 member]
    exact interfaces
  · have bgp := bgpFields_sound text (selectRouterId text desired) desired.bgpSessions
    have protocols : Sound (.obj [("bgp", .obj (bgpFields text (selectRouterId text desired)
        desired.bgpSessions))]) := by
      apply Sound.dictionary (by simp)
      intro field member
      rw [List.mem_singleton.1 member]
      exact bgp
    have instances : Sound (.arr [.obj [("name", .str "default"),
        ("protocols", .obj [("bgp", .obj (bgpFields text (selectRouterId text desired)
          desired.bgpSessions))])]]) := by
      apply Sound.list
      intro item member
      rw [List.mem_singleton.1 member]
      apply Sound.dictionary (by simp)
      intro field isField
      rcases List.mem_cons.1 isField with rfl | isProtocols
      · exact ⟨rfl, rfl⟩
      · rw [List.mem_singleton.1 isProtocols]
        exact protocols
    apply Sound.dictionary (by simp)
    intro field member
    rcases List.mem_cons.1 member with rfl | later
    · exact interfaces
    · rw [List.mem_singleton.1 later]
      exact instances

/-- Rendering a verbatim state gives the intended payload. -/
theorem intended_of_verbatim
    (rendered : render text desired = .ok payload) (verbatim : VerbatimState text desired) :
    payload = .obj (payloadFields text desired) := by
  obtain ⟨chars, interfaces, written, loaded, rest⟩ := decoded_of_rendered rendered
  obtain rfl := loads_of_reads
    (interfacesText_reads written (fun iface member => (verbatim.interfaces iface member).1)
      fun iface member => (verbatim.interfaces iface member).2) loaded
  rw [payloadFields]
  split_ifs at rest ⊢ with noSessions
  · exact rest
  · obtain ⟨bgpChars, bgp, bgpWritten, bgpLoaded, rfl⟩ := rest
    have verbatimBgp := verbatim.bgp noSessions
    obtain rfl := loads_of_reads
      (bgpText_reads bgpWritten verbatimBgp.routerId
        (fun session member => (verbatimBgp.sessions session member).1)
        (fun session member => (verbatimBgp.sessions session member).2)
        verbatimBgp.families) bgpLoaded
    rfl

/-- A payload that is the intended one was rendered from a verbatim state. -/
theorem verbatim_of_intended
    (rendered : render text desired = .ok payload)
    (intended : (Json.obj (payloadFields text desired)).pyEq payload = true) :
    VerbatimState text desired := by
  obtain ⟨chars, interfaces, written, loaded, rest⟩ := decoded_of_rendered rendered
  rw [payloadFields] at intended
  split_ifs at rest intended with noSessions
  · rw [rest] at intended
    obtain ⟨other, found, equal⟩ := Json.pyEq_field_of_pyEq intended List.mem_cons_self
    rw [List.lookup_cons_self, Option.some.injEq] at found
    rw [← found] at equal
    refine ⟨interfacesText_verbatim written loaded equal, ?_⟩
    exact fun sessions => absurd noSessions sessions
  · obtain ⟨bgpChars, bgp, bgpWritten, bgpLoaded, rfl⟩ := rest
    obtain ⟨other, found, equal⟩ := Json.pyEq_field_of_pyEq intended List.mem_cons_self
    rw [List.lookup_cons_self, Option.some.injEq] at found
    rw [← found] at equal
    refine ⟨interfacesText_verbatim written loaded equal, fun _ => ?_⟩
    obtain ⟨instances, isInstances, equalInstances⟩ := Json.pyEq_field_of_pyEq intended
      (List.mem_cons_of_mem _ List.mem_cons_self)
    rw [lookup_cons_of_ne _ _ (by decide), List.lookup_cons_self, Option.some.injEq] at isInstances
    rw [← isInstances] at equalInstances
    obtain ⟨protocols, isProtocols, equalProtocols⟩ := Json.pyEq_field_of_pyEq
      (Json.pyEq_of_singletons equalInstances) (List.mem_cons_of_mem _ List.mem_cons_self)
    rw [lookup_cons_of_ne _ _ (by decide), List.lookup_cons_self, Option.some.injEq] at isProtocols
    rw [← isProtocols] at equalProtocols
    obtain ⟨container, isContainer, equalContainer⟩ := Json.pyEq_field_of_pyEq equalProtocols
      List.mem_cons_self
    rw [List.lookup_cons_self, Option.some.injEq] at isContainer
    rw [← isContainer] at equalContainer
    exact bgpText_verbatim bgpWritten bgpLoaded equalContainer

/--
Where rendering returns a payload, it is the intended one exactly when the
strings that are interpolated as they are need no escaping.
-/
theorem rendered_intended_iff (rendered : render text desired = .ok payload) :
    (Json.obj (payloadFields text desired)).pyEq payload = true ↔ VerbatimState text desired := by
  constructor
  · exact verbatim_of_intended rendered
  · intro verbatim
    rw [intended_of_verbatim rendered verbatim]
    have sound := payloadFields_sound text desired
    exact Json.pyEq_self sound.2 sound.1

/-- Plain states are verbatim. -/
theorem verbatim_of_plain (plain : PlainState text desired) : VerbatimState text desired where
  interfaces iface member := ⟨plain.interfaceName iface member, plain.ipAddress iface member⟩
  bgp sessions :=
    { routerId := plain.routerId sessions
      families := by
        intro family member
        obtain ⟨session, sessionMember, rfl⟩ := List.mem_map.1 (mem_of_mem_uniqueFrom member)
        exact plain.addressFamily session sessionMember
      sessions := fun session member =>
        ⟨plain.peerAddress session member, plain.peerGroup session member⟩ }

theorem sampleState_intended :
    ∃ payload, render PyText.ascii sampleState = .ok payload ∧
      (Json.obj (payloadFields PyText.ascii sampleState)).pyEq payload = true := by
  have plain := sampleState_replayable.plain
  have rendered := (render_eq_ok_iff plain _).2
    ⟨prefixesComplete_of_addresses sampleState_replayable.complete,
      sampleState_replayable.writable, rfl⟩
  exact ⟨_, rendered, (rendered_intended_iff rendered).2 (verbatim_of_plain plain)⟩

/-- An interface whose name brings a description with it. -/
def injectedState : DesiredState where
  device := sampleDevice
  interfaces := [⟨"ethernet-1/1\", \"description\": \"injected", none, none, none, true, none⟩]
  bgpSessions := []

/-- The interface gets another name, and a description nobody intended. -/
def injectedPayload : Json :=
  .obj [("interface", .arr [.obj
    [("name", .str "ethernet-1/1"), ("description", .str "injected"),
      ("admin-state", .str "enable")]])]

theorem injected_description :
    render PyText.ascii injectedState = .ok injectedPayload ∧
      (Json.obj (payloadFields PyText.ascii injectedState)).pyEq injectedPayload = false := by
  constructor
  · decide +kernel
  · decide +kernel

end Snapl.Contract
