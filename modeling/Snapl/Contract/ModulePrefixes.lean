import Snapl.Contract.ReportOrder

/-!
# Module prefixes

A target may or may not put a module name in front of the name of a field.
The adapter looks names up without it, so a report means the same with other
prefixes.  Every name is compared in one form, with an empty module name.
-/

namespace Snapl.Contract

open Snapl.Library Snapl.Observability Snapl.Orchestrator

/-- A name with an empty module name. -/
def bareName (name : String) : String := ":" ++ localName name

mutual

/-- A value with every module name emptied.  Leaves are kept as they are. -/
def bare : Json → Json
  | .arr items => .arr (bareItems items)
  | .obj fields => .obj (bareFields fields)
  | value => value

def bareItems : List Json → List Json
  | [] => []
  | item :: items => bare item :: bareItems items

def bareFields : List (String × Json) → List (String × Json)
  | [] => []
  | (name, value) :: fields =>
      (bareName name, if localName name ∈ leaves then value else bare value) ::
        bareFields fields

end

/-- The same entry, up to module prefixes and the order of its keys. -/
def Alike (entry item : Json) : Prop := Reorders (bare entry) (bare item)

@[simp]
theorem localName_bareName (name : String) : localName (bareName name) = localName name := by
  have chars : (bareName name).toList = ':' :: (localName name).toList := by
    rw [bareName, String.toList_append]
    rfl
  rw [localName, if_pos (by rw [chars]; exact List.mem_cons_self), chars]
  simp [partitionTail]

theorem names_bareFields (fields : List (String × Json)) :
    (bareFields fields).map (fun field => localName field.1) =
      fields.map fun field => localName field.1 := by
  induction fields with
  | nil => rw [bareFields]
  | cons field fields induction =>
      rw [bareFields, List.map_cons, List.map_cons, induction, localName_bareName]

/-- Emptying the module names commutes with looking a name up. -/
theorem find?_bareFields (fields : List (String × Json)) (name : String) :
    (bareFields fields).find? (fun field => localName field.1 = name) =
      (fields.find? fun field => localName field.1 = name).map fun field =>
        (bareName field.1, if name ∈ leaves then field.2 else bare field.2) := by
  induction fields with
  | nil => rw [bareFields, List.find?_nil, Option.map_none]
  | cons field fields induction =>
      rw [bareFields]
      by_cases named : localName field.1 = name
      · rw [List.find?_cons_of_pos (by simpa using named),
          List.find?_cons_of_pos (by simpa using named), Option.map_some, named]
      · rw [List.find?_cons_of_neg (by simpa using named),
          List.find?_cons_of_neg (by simpa using named), induction]

theorem getLocal_bare_leaf {name : String} (leaf : name ∈ leaves) (value default : Json) :
    getLocal (bare value) name default = getLocal value name default := by
  cases value with
  | obj fields =>
      rw [bare, getLocal, getLocal, find?_bareFields]
      rcases found : fields.find? fun field => localName field.1 = name with _ | field
      · rw [found, Option.map_none]
      · rw [found, Option.map_some, if_pos leaf]
  | _ => rfl

theorem getLocal_bare
    {name : String} (inner : name ∉ leaves) (value : Json) {default : Json}
    (plain : bare default = default) :
    getLocal (bare value) name default = bare (getLocal value name default) := by
  cases value with
  | obj fields =>
      rw [bare, getLocal, getLocal, find?_bareFields]
      rcases found : fields.find? fun field => localName field.1 = name with _ | field
      · rw [found, Option.map_none]
        exact plain.symm
      · rw [found, Option.map_some, if_neg inner]
  | arr => exact plain.symm
  | _ => exact plain.symm

section Outputs

variable (text : PyText)

/-- Reading a list of addresses or subinterfaces ignores the module names. -/
theorem iterate_bare
    {Result : Type} {read : List Json → Except PyError Result}
    (items : ∀ list, read (bareItems list) = read list)
    (texts : ∀ names others : List String, read (names.map Json.str) = read (others.map Json.str))
    (value : Json) :
    (iterate (orEmpty (bare value)) >>= read) = iterate (orEmpty value) >>= read := by
  cases value with
  | arr list =>
      cases list with
      | nil => rfl
      | cons item rest => exact items (item :: rest)
  | obj fields =>
      cases fields with
      | nil => rfl
      | cons field rest =>
          have listing : ∀ {found : List (String × Json)}, found ≠ [] →
              iterate (orEmpty (.obj found)) = .ok ((found.map Prod.fst).map Json.str) := by
            intro found present
            rw [orEmpty, Json.truthy, if_pos (by simpa using present), List.map_map]
            rfl
          have present : bareFields (field :: rest) ≠ [] := by
            rw [bareFields]
            exact List.cons_ne_nil _ _
          rw [bare, listing (List.cons_ne_nil field rest), listing present]
          exact texts _ _
  | _ => rfl

theorem firstAddress_bareItems (items : List Json) :
    firstAddress text (bareItems items) = firstAddress text items := by
  induction items with
  | nil => rw [bareItems]
  | cons item items induction =>
      rw [bareItems, firstAddress, firstAddress, getLocal_bare_leaf (by decide), induction]

theorem firstOfSubinterfaces_bareItems (items : List Json) :
    firstOfSubinterfaces text (bareItems items) = firstOfSubinterfaces text items := by
  induction items with
  | nil => rw [bareItems]
  | cons item items induction =>
      have addresses :
          (entries (getLocal (bare item) "ipv4" .null) "address" >>= firstAddress text) =
            entries (getLocal item "ipv4" .null) "address" >>= firstAddress text := by
        rw [getLocal_bare (by decide) item rfl, entries, entries,
          getLocal_bare (by decide) _ rfl]
        apply iterate_bare (firstAddress_bareItems text)
        intro names others
        rw [firstAddress_texts, firstAddress_texts]
      rw [bareItems, firstOfSubinterfaces_cons, firstOfSubinterfaces_cons, addresses, induction]

theorem interfaceOutput?_bare (iface : Json) :
    interfaceOutput? text (bare iface) = interfaceOutput? text iface := by
  have address : interfaceIp text (bare iface) = interfaceIp text iface := by
    rw [interfaceIp, interfaceIp, entries, entries, getLocal_bare (by decide) iface rfl]
    apply iterate_bare (firstOfSubinterfaces_bareItems text)
    intro names others
    rw [firstOfSubinterfaces_texts, firstOfSubinterfaces_texts]
  have entry : normalizeInterface text (bare iface) = normalizeInterface text iface := by
    rw [normalizeInterface, normalizeInterface, address, isEnabled, isEnabled,
      getLocal_bare_leaf (by decide), getLocal_bare_leaf (by decide),
      getLocal_bare_leaf (by decide)]
  rw [interfaceOutput?, interfaceOutput?, getLocal_bare_leaf (by decide), entry]

theorem neighborOutput?_bare (neighbor : Json) :
    neighborOutput? text (bare neighbor) = neighborOutput? text neighbor := by
  have entry : normalizeNeighbor (bare neighbor) = normalizeNeighbor neighbor := by
    rw [normalizeNeighbor, normalizeNeighbor, isEnabled, isEnabled,
      getLocal_bare_leaf (by decide), getLocal_bare_leaf (by decide),
      getLocal_bare_leaf (by decide), getLocal_bare_leaf (by decide)]
  rw [neighborOutput?, neighborOutput?, getLocal_bare_leaf (by decide), entry]

/-- Alike entries make the same output. -/
theorem interfaceOutput?_alike {entry item : Json} (alike : Alike entry item) :
    interfaceOutput? text entry = interfaceOutput? text item := by
  rw [← interfaceOutput?_bare, interfaceOutput?_reorders text alike, interfaceOutput?_bare]

theorem neighborOutput?_alike {entry item : Json} (alike : Alike entry item) :
    neighborOutput? text entry = neighborOutput? text item := by
  rw [← neighborOutput?_bare, neighborOutput?_reorders text alike, neighborOutput?_bare]

end Outputs

theorem getLocal_alike
    {entry item : Json} (alike : Alike entry item) {name : String} (leaf : name ∈ leaves)
    (default : Json) :
    getLocal entry name default = getLocal item name default := by
  rw [← getLocal_bare_leaf leaf, getLocal_leaf alike leaf, getLocal_bare_leaf leaf]

end Snapl.Contract
