import Snapl.Library.Polling
import Snapl.Library.Program
import Snapl.Library.PythonRepr

/-!
# The schema loader

The schema files are sent to the Source of Truth in three batches: the files of
`base`, the files of `extensions`, and the files of the directory itself.  The
server registers the attributes a batch adds to kinds after it has answered, so
the loader then fetches the schema until every one of them is there.

How a file's text is decoded, and how a string is quoted, are parameters.
-/

namespace Snapl.Intent

open Snapl.Library

/-- An entry of a directory; what cannot be read has no contents. -/
structure SchemaFile where
  path : String
  isFile : Bool
  contents : Option String
deriving DecidableEq

/-- The schemas directory: the entries of its two subdirectories, and its own. -/
structure SchemasRoot where
  base : List SchemaFile
  extensions : List SchemaFile
  entries : List SchemaFile

/-- What a decoder raises: an error of its own, or one of the language. -/
inductive YamlFailure where
  | yamlError (problem : String)
  | raised (error : PyError)

/-- What loading the schemas raises. -/
inductive LoadError where
  | intentSchemaError (message : String)
  | intentConnectionError (message : String)
  | attributeError
  | raised (error : PyError)
  | unreadable (path : String)
  | clientError (error : String)
deriving DecidableEq

/-- The entries with the suffix of a schema file, by their paths. -/
def globYml (entries : List SchemaFile) : List SchemaFile :=
  (entries.filter fun entry => decide (".yml".toList <:+ entry.path.toList)).mergeSort
    fun left right => decide (left.path ≤ right.path)

def discoverSchemaBatches (rootPath : String) :
    Option SchemasRoot → Except LoadError (List (List SchemaFile))
  | none =>
      .error (.intentSchemaError ("Schemas directory does not exist: " ++ rootPath))
  | some root =>
      .ok [globYml root.base, globYml root.extensions,
        globYml (root.entries.filter fun entry => entry.isFile)]

/-- The answer of the server to a batch: a dictionary, or an object. -/
inductive Response where
  | dict (entries : List (String × Json))
  | object (errors : Option Json)

def Response.errors : Response → Json
  | .dict entries => (entries.lookup "errors").getD .null
  | .object errors => errors.getD .null

/-- One error of a list: the message of a dictionary, or its text. -/
def errorItem (text : PyText) : Json → Except PyError Json
  | .obj fields =>
      let message := (fields.lookup "message").getD .null
      if message.truthy then .ok message else (text.shown (.obj fields)).map .str
  | error => (text.shown error).map .str

/-- One error of a dictionary. -/
def errorPart (text : PyText) : String × Json → Except PyError String
  | (key, .arr values) => do
      let shown ← values.mapM text.shown
      .ok (key ++ ": " ++ "; ".intercalate shown)
  | (key, value) => do
      let shown ← text.shown value
      .ok (key ++ ": " ++ shown)

def extractErrors (text : PyText) (response : Response) : Except PyError (Option String) :=
  let errors := response.errors
  if errors.truthy = false then .ok none
  else
    match errors with
    | .arr items => do
        let parts ← items.mapM (errorItem text)
        let joined ← joinStrings "; " parts
        .ok (some joined)
    | .obj fields => do
        let parts ← fields.mapM (errorPart text)
        .ok (some ("; ".intercalate parts))
    | value => (text.shown value).map some

/-- How a request to load a batch ends. -/
inductive LoadAnswer where
  | answered (response : Response)
  | unreachable (problem : String)
  | raised (error : String)

/-- A request to load a batch. -/
structure LoadCall where
  schemas : List Json
  branch : Option String
deriving DecidableEq

/-- An attribute's name may be missing, and so may the list of attributes. -/
structure SchemaNode where
  attributes : Option (List (Option String))

/-- The schema the server has registered, by kind. -/
inductive Registry where
  | absent
  | dict (nodes : Dict String SchemaNode)
  | other

/-- How a request for the schema ends. -/
inductive RegistryAnswer where
  | fetched (registry : Registry)
  | unreachable (problem : String)
  | raised (error : String)

/-- The answers to the requests of either kind, in their order. -/
structure SchemaServer where
  loadAnswers : Nat → LoadAnswer
  registries : Nat → RegistryAnswer

/-- The key of a value in a dictionary or a set: equal numbers are one key. -/
def keyOf (value : Json) : Json :=
  match value.number? with
  | some number => .float (.finite number)
  | none => value

/-- A value that can be a key. -/
def Hashable : Json → Prop
  | .arr _ => False
  | .obj _ => False
  | _ => True

instance : DecidablePred Hashable
  | .arr _ => .isFalse id
  | .obj _ => .isFalse id
  | .null => .isTrue trivial
  | .bool _ => .isTrue trivial
  | .int _ => .isTrue trivial
  | .float _ => .isTrue trivial
  | .str _ => .isTrue trivial

/-- `add` of a set. -/
def insertName (names : List Json) (name : Json) : List Json :=
  if ∃ other ∈ names, keyOf other = keyOf name then names else names ++ [name]

/-- The attribute names expected of each kind, with the kind as it was first written. -/
abbrev Expected := Dict Json (Json × List Json)

/-- `setdefault(kind, set()).update(names)`. -/
def Expected.extend (expected : Expected) (kind : Json) (names : List Json) : Expected :=
  let held := (expected.get? (keyOf kind)).getD (kind, [])
  expected.set (keyOf kind) (held.1, names.foldl insertName held.2)

/-- `(value or {}).get(name)`. -/
def sectionOf (value : Json) (name : String) : Except LoadError Json :=
  if value.truthy = false then .ok .null
  else
    match value with
    | .obj fields => .ok ((fields.lookup name).getD .null)
    | _ => .error .attributeError

/-- The items of `value or []`. -/
def iterableItems (value : Json) : Except LoadError (List Json) :=
  if value.truthy = false then .ok []
  else
    match value with
    | .arr items => .ok items
    | .obj fields => .ok (fields.map fun field => .str field.1)
    | .str string => .ok (string.toList.map fun char => .str (String.singleton char))
    | _ => .error (.raised .typeError)

/-- One attribute of the set comprehension. -/
def addAttributeName (names : List Json) : Json → Except LoadError (List Json)
  | .obj fields =>
      let name := (fields.lookup "name").getD .null
      if name.truthy then
        if Hashable name then .ok (insertName names name) else .error (.raised .typeError)
      else .ok names
  | _ => .error .attributeError

/-- One node of an `extensions` section. -/
def addExtension (expected : Expected) : Json → Except LoadError Expected
  | .obj fields =>
      let kind := (fields.lookup "kind").getD .null
      if kind.truthy then do
        let attributes ← iterableItems ((fields.lookup "attributes").getD .null)
        let names ← attributes.foldlM addAttributeName []
        if names = [] then .ok expected
        else if Hashable kind then .ok (expected.extend kind names)
        else .error (.raised .typeError)
      else .ok expected
  | _ => .error .attributeError

/-- One schema file. -/
def addSchema (expected : Expected) (schema : Json) : Except LoadError Expected := do
  let extensions ← sectionOf schema "extensions"
  let nodes ← sectionOf extensions "nodes"
  let items ← iterableItems nodes
  items.foldlM addExtension expected

def collectExtensionAttributes (schemas : List Json) : Except LoadError Expected :=
  schemas.foldlM addSchema Dict.empty

def liveAttributeNames (node : Option SchemaNode) : List String :=
  let attributes := (node.bind SchemaNode.attributes).getD []
  (attributes.filterMap id).filter fun name => name ≠ ""

/-- The attribute names a kind has in the registry. -/
def Registry.live (registry : Registry) (kind : Json) : List String :=
  match registry, kind with
  | .dict nodes, .str kind => liveAttributeNames (nodes.get? kind)
  | _, _ => []

/-- What of the expected attributes is not there. -/
abbrev Missing := List (Json × List Json)

/-- The names that the registry does not have for the kind. -/
def absentNames (registry : Registry) (kind : Json) (names : List Json) : List Json :=
  let live := registry.live kind
  names.filter fun name => decide (name ∉ live.map Json.str)

def unsatisfiedSchema (registry : Registry) (expected : Expected) : Missing :=
  expected.values.filterMap fun entry =>
    let absent := absentNames registry entry.1 entry.2
    if absent = [] then none else some (entry.1, absent)

def isString : Json → Bool
  | .str _ => true
  | _ => false

/-- The language compares strings with strings and numbers with numbers. -/
def Comparable (left right : Json) : Prop := isString left = isString right

instance : DecidableRel Comparable := fun left right =>
  inferInstanceAs (Decidable (isString left = isString right))

/-- `<` of comparable values. -/
def pyLt : Json → Json → Bool
  | .str left, .str right => decide (left < right)
  | left, right =>
      match left.number?, right.number? with
      | some first, some second => decide (first < second)
      | some _, none => decide (right = .float (.infinite false))
      | none, some _ => decide (left = .float (.infinite true))
      | none, none =>
          decide (left = .float (.infinite true) ∧ right = .float (.infinite false))

/-- `sorted` of items that differ in their first components, or in themselves. -/
def sortedBy {Item : Type} (key : Item → Json) (items : List Item) :
    Except PyError (List Item) :=
  if items.Pairwise fun left right => Comparable (key left) (key right) then
    .ok (items.mergeSort fun left right => !pyLt (key right) (key left))
  else .error .typeError

/-- The text of a kind in the list of missing attributes. -/
def kindText : Json → String
  | .str kind => kind
  | .bool kind => if kind then "True" else "False"
  | .int kind => String.ofList (decimalText kind)
  | .float kind => String.ofList (reprFloat kind)
  | _ => ""

/-- One kind of the list of missing attributes. -/
def missingPart (entry : Json × List Json) : Except PyError String := do
  let sorted ← sortedBy id entry.2
  let joined ← joinStrings ", " sorted
  .ok (kindText entry.1 ++ ": " ++ joined)

def missingDetail (missing : Missing) : Except PyError String := do
  let sorted ← sortedBy Prod.fst missing
  let parts ← sorted.mapM missingPart
  .ok ("; ".intercalate parts)

/-- What loading the schemas returns. -/
structure ProvisionResult where
  useCase : String
  schemasLoaded : Nat
  changed : Bool
deriving DecidableEq

structure SchemaLoader where
  schemasPath : String
  schemasRoot : Option SchemasRoot
  useCase : String
  branch : Option String
  readinessTimeout : Rat

/-- What loading the schemas did: the batches it sent, the schemas it fetched, and how it ended. -/
structure LoadRun where
  sent : List LoadCall
  polls : Nat
  outcome : Except LoadError ProvisionResult

namespace SchemaLoader

/-- What an answer to a batch raises. -/
def checkAnswer (text : PyText) : LoadAnswer → Except LoadError Unit
  | .unreachable problem => .error (.intentConnectionError ("Infrahub unreachable: " ++ problem))
  | .raised error => .error (.clientError error)
  | .answered response =>
      match extractErrors text response with
      | .error error => .error (.raised error)
      | .ok none => .ok ()
      | .ok (some errorText) =>
          if errorText = "" then .ok ()
          else .error (.intentSchemaError ("Schema validation failed: " ++ errorText))

def parseYaml (safeLoad : String → Except YamlFailure Json) (file : SchemaFile) :
    Except LoadError Json :=
  match file.contents with
  | none => .error (.unreadable file.path)
  | some contents =>
      match safeLoad contents with
      | .error (.yamlError problem) =>
          .error (.intentSchemaError ("Malformed schema YAML " ++ file.path ++ ": " ++ problem))
      | .error (.raised error) => .error (.raised error)
      | .ok data => .ok (if data.truthy then data else .obj [])

variable (loader : SchemaLoader) (text : PyText) (safeLoad : String → Except YamlFailure Json)
variable (server : SchemaServer) (clock : Nat → Rat)

/-- Send a batch and look at the answer. -/
def sendBatch (schemas : List Json) : Program (List LoadCall) LoadError Unit := do
  let answer ← Program.update fun calls =>
    (server.loadAnswers calls.length, calls ++ [⟨schemas, loader.branch⟩])
  Program.ofExcept (checkAnswer text answer)

/-- The loop over the batches. -/
def loadBatches :
    List (List SchemaFile) → List Json → Nat →
      Program (List LoadCall) LoadError (List Json × Nat)
  | [], parsed, totalLoaded => pure (parsed, totalLoaded)
  | batch :: batches, parsed, totalLoaded =>
      if batch = [] then loadBatches batches parsed totalLoaded
      else do
        let schemas ← Program.ofExcept (batch.mapM (parseYaml safeLoad))
        sendBatch loader text server schemas
        loadBatches batches (parsed ++ schemas) (totalLoaded + batch.length)

/-- Fetch the schema and look for the expected attributes. -/
def fetchMissing (expected : Expected) (index : Nat) : Except LoadError (Option Missing) :=
  match server.registries index with
  | .unreachable problem => .error (.intentConnectionError ("Infrahub unreachable: " ++ problem))
  | .raised error => .error (.clientError error)
  | .fetched registry =>
      let missing := unsatisfiedSchema registry expected
      .ok (if missing = [] then none else some missing)

/-- What is raised when attributes are missing at the deadline. -/
def notReady (missing : Missing) : LoadError :=
  match missingDetail missing with
  | .error error => .raised error
  | .ok detail =>
      .intentSchemaError ("Schema not ready after " ++
        String.ofList (reprFloat (.finite loader.readinessTimeout)) ++
        "s — attributes not registered: " ++ detail)

/-- The clock has reached the deadline when it is read after a fetch. -/
def deadlinePassed (index : Nat) : Bool :=
  decide (clock 0 + loader.readinessTimeout ≤ clock (index + 1))

/-- How waiting ends when the last fetch found this. -/
def readiness : Except LoadError (Option Missing) → Except LoadError Unit
  | .error error => .error error
  | .ok none => .ok ()
  | .ok (some missing) => .error (loader.notReady missing)

/-- The number of fetches, and how waiting for the attributes ended. -/
def awaitSchemaReady (fuel : Nat) (expected : Expected) :
    Option (Nat × Except LoadError Unit) :=
  if expected.entries = [] then some (0, .ok ())
  else
    (pollUntil (fetchMissing server expected) (loader.deadlinePassed clock) fuel 0).map
      fun ended => (ended.1 + 1, loader.readiness ended.2)

/-- Load the schemas, with fuel for the fetches. -/
def load (fuel : Nat) : Option LoadRun :=
  match discoverSchemaBatches loader.schemasPath loader.schemasRoot with
  | .error error => some ⟨[], 0, .error error⟩
  | .ok batches =>
      match loadBatches loader text safeLoad server batches [] 0 [] with
      | (.error error, sent) => some ⟨sent, 0, .error error⟩
      | (.ok (parsed, totalLoaded), sent) =>
          match collectExtensionAttributes parsed with
          | .error error => some ⟨sent, 0, .error error⟩
          | .ok expected =>
              (awaitSchemaReady loader server clock fuel expected).map fun waited =>
                ⟨sent, waited.1, waited.2.map fun _ => ⟨loader.useCase, totalLoaded, true⟩⟩

end SchemaLoader

end Snapl.Intent
