import Snapl.Library.Gathering
import Snapl.Orchestrator.Activities

/-!
# The gNMI collector

Every requested path is fetched on its own.  The updates of the answers are
keyed by their normalized paths, and updates of one key are merged: containers
key by key, lists by appending, and any other two values only when they are
equal.

The word characters of regular expressions and the `repr` of values are
parameters: the first only matters to which module prefixes are stripped, the
second only to the text of an error.
-/

namespace Snapl.Collector

open Snapl.Library Snapl.Intent Snapl.Orchestrator

/-- The tables of the language the collector's texts depend on. -/
structure GnmiText where
  wordChar : Char → Bool
  repr : Json → String

/-- An update of an answer.  A missing value is a missing key. -/
structure GnmiUpdate where
  path : Option String
  val : Option Json

structure GnmiNotification where
  update : List GnmiUpdate

/-- Put a character in front of the first element. -/
def prependChar (char : Char) : List (List Char) → List (List Char)
  | [] => [[char]]
  | element :: elements => (char :: element) :: elements

/-- Split at the slashes outside brackets. -/
def pathElements (depth : Int) : List Char → List (List Char)
  | [] => [[]]
  | char :: rest =>
      if char = '[' then prependChar char (pathElements (depth + 1) rest)
      else if char = ']' then prependChar char (pathElements (depth - 1) rest)
      else if char = '/' ∧ depth = 0 then [] :: pathElements depth rest
      else prependChar char (pathElements depth rest)

/-- A character of a module name. -/
def isModuleChar (text : GnmiText) (char : Char) : Bool :=
  text.wordChar char || char = '.' || char = '-'

/-- A path element without the module name in front of its first colon. -/
def stripModule (text : GnmiText) (element : List Char) : List Char :=
  match element.takeWhile (isModuleChar text), element.dropWhile (isModuleChar text) with
  | _ :: _, ':' :: rest => rest
  | _, _ => element

/-- A device-reported path in the form callers request. -/
def normalizePath (text : GnmiText) (path : String) : String :=
  if path = "" ∨ path = "/" then "/"
  else
    let elements := (pathElements 0 path.toList).filter (· ≠ [])
    "/" ++ "/".intercalate (elements.map fun element => String.ofList (stripModule text element))

/-- Two values of one leaf that differ. -/
structure FragmentConflict where
  place : String
  existing : Json
  incoming : Json

/-- `where.rstrip("/")`, a slash and a name. -/
def fieldPlace (place name : String) : String :=
  String.ofList (place.toList.reverse.dropWhile (· = '/')).reverse ++ "/" ++ name

mutual

/-- Merge a repeated update for one path into what was already collected. -/
def mergeFragment (existing incoming : Json) (place : String) :
    Except FragmentConflict Json :=
  match existing, incoming with
  | .obj fields, .obj others => (mergeFields fields others place).map .obj
  | .arr items, .arr others =>
      .ok (.arr (items ++ others.filter fun entry => !items.any fun item => item.pyEq entry))
  | existing, incoming =>
      if existing.pyEq incoming then .ok existing else .error ⟨place, existing, incoming⟩

/-- Merge the fields of a container one by one. -/
def mergeFields (merged incoming : List (String × Json)) (place : String) :
    Except FragmentConflict (List (String × Json)) :=
  match incoming with
  | [] => .ok merged
  | (name, value) :: rest => do
      let next ← match merged.lookup name with
        | some present => mergeFragment present value (fieldPlace place name)
        | none => .ok value
      mergeFields (assign merged name next) rest place

end

/-- What parsing an answer raises. -/
inductive ParseError where
  | missingVal
  | conflict (conflict : FragmentConflict)

/-- The text of a parse error. -/
def ParseError.text (text : GnmiText) : ParseError → String
  | .missingVal => "'val'"
  | .conflict ⟨place, existing, incoming⟩ =>
      "conflicting updates for " ++ place ++ ": " ++ (text.repr existing).take 80 ++ " vs " ++
        (text.repr incoming).take 80

/-- The key of an update at the root: the single requested path, or the root. -/
def rootKey (text : GnmiText) : List String → String
  | [only] => normalizePath text only
  | _ => "/"

/-- The key of an update. -/
def updateKey (text : GnmiText) (paths : List String) (path : Option String) : String :=
  match (filled? path).filter (· ≠ "/") with
  | some path => normalizePath text path
  | none => rootKey text paths

def parseUpdates (text : GnmiText) (paths : List String) (data : Dict String Json) :
    List GnmiUpdate → Except ParseError (Dict String Json)
  | [] => .ok data
  | ⟨_, none⟩ :: _ => .error .missingVal
  | ⟨path, some value⟩ :: rest => do
      let key := updateKey text paths path
      let next ← match data.get? key with
        | some present => (mergeFragment present value key).mapError .conflict
        | none => .ok value
      parseUpdates text paths (data.set key next) rest

/-- Extract the path to value mapping of an answer. -/
def parseResponse (text : GnmiText) (response : List GnmiNotification) (paths : List String) :
    Except ParseError (Dict String Json) :=
  parseUpdates text paths Dict.empty (response.flatMap GnmiNotification.update)

inductive StatusCode where
  | unauthenticated
  | deadlineExceeded
  | other

/-- What fetching an answer raises. -/
inductive GnmiFailure where
  | rpc (code : StatusCode) (details : Option String)
  | os (text : String)
  | malformed (text : String)
  | other (text : String)

/-- Stamp the updates without a path with the requested one. -/
def stamp (path : String) (notification : GnmiNotification) : GnmiNotification where
  update := notification.update.map fun update =>
    { update with path := some ((filled? update.path).getD path) }

/-- Fetch every path on its own, and put the stamped answers together. -/
def gnmiGet (get : String → Except GnmiFailure (List GnmiNotification)) (paths : List String) :
    Except GnmiFailure (List GnmiNotification) := do
  let answers ← paths.mapM fun path => do
    let response ← get path
    return response.map (stamp path)
  return answers.flatten

structure GnmiCollector where
  host : Option String
  timeout : Int

def GnmiCollector.dialHost (collector : GnmiCollector) (device : Device) : Option String :=
  device.dialHost collector.host

def classifyError (timeout : Int) : GnmiFailure → String
  | .rpc .unauthenticated details => "auth error: " ++ details.getD ""
  | .rpc .deadlineExceeded _ => "timeout after " ++ String.ofList (decimalText timeout) ++ "s"
  | .rpc .other details => "connectivity error: " ++ details.getD ""
  | .os text => "connectivity error: " ++ text
  | .malformed text => "parse error: " ++ text
  | .other text => "connectivity error: " ++ text

theorem append_ne_empty {start : String} (present : start ≠ "") (rest : String) :
    start ++ rest ≠ "" := by
  intro empty
  exact present (String.append_eq_empty_iff.1 empty).1

/-- The result of a collection that failed with this error. -/
def failedCollect (device : Device) (error : String) (present : error ≠ "") : CollectResult where
  deviceId := device.id
  deviceName := device.name
  success := false
  data := Dict.empty
  error := some error
  succeeded := fun successful => Bool.noConfusion successful
  failed := fun _ => by
    rw [filled?_some present]
    exact nofun

theorem classifyError_ne_empty (timeout : Int) (failure : GnmiFailure) :
    classifyError timeout failure ≠ "" := by
  cases failure with
  | rpc code details =>
      cases code with
      | unauthenticated => exact append_ne_empty (by decide) _
      | deadlineExceeded => exact append_ne_empty (append_ne_empty (by decide) _) _
      | other => exact append_ne_empty (by decide) _
  | os => exact append_ne_empty (by decide) _
  | malformed => exact append_ne_empty (by decide) _
  | other => exact append_ne_empty (by decide) _

/-- The error of a device nothing can dial. -/
def undialable (text : GnmiText) (device : Device) : String :=
  "no gNMI dial target for device " ++ text.repr (.str device.name) ++
    ": lab_node_name and management_address are empty and no fallback host is configured"

theorem undialable_ne_empty (text : GnmiText) (device : Device) :
    undialable text device ≠ "" :=
  append_ne_empty (append_ne_empty (by decide) _) _

/-- Collect the state of a device at some paths. -/
def collect (text : GnmiText) (collector : GnmiCollector) (device : Device)
    (paths : List String) (get : String → String → Except GnmiFailure (List GnmiNotification)) :
    Except PyError CollectResult :=
  if paths = [] then .error .valueError
  else
    match collector.dialHost device with
    | none => .ok (failedCollect device (undialable text device) (undialable_ne_empty text device))
    | some host =>
        match gnmiGet (get host) paths with
        | .error failure =>
            .ok (failedCollect device (classifyError collector.timeout failure)
              (classifyError_ne_empty _ _))
        | .ok response =>
            match parseResponse text response paths with
            | .error error =>
                .ok (failedCollect device ("parse error: " ++ error.text text)
                  (append_ne_empty (by decide) _))
            | .ok data =>
                .ok
                  { deviceId := device.id
                    deviceName := device.name
                    success := true
                    data := data
                    error := none
                    succeeded := fun _ => rfl
                    failed := fun unsuccessful => Bool.noConfusion unsuccessful }

end Snapl.Collector
