import ScreenNavigation.Builder.Plan
import ScreenNavigation.Source.Item

/-!
The code of builders. Each member of a plan becomes one constant or function, storage becomes the
structure, and all of them work with the same bindings.
-/
namespace ScreenNavigation.Builder

open Declaration Source

/-- What generated code looks like and what it refers to. -/
structure Settings where
  visibility : Visibility
  /-- The module that defines screens, payloads and extras. -/
  support : TypePath
  /-- The manifest named in the header. -/
  source : String

namespace Settings

def defaultSupport : TypePath :=
  .of "screen_starter_support" (.ofNames ["screen_starter_support"])

/-- Public code from the default support module. -/
def standard (source : String) : Settings := ⟨.everywhere, defaultSupport, source⟩

end Settings

private def reference (t : Ty) : Ty := .reference none false t

private def mutableReference (t : Ty) : Ty := .reference none true t

private def dynamic (trait : String) : Ty :=
  .object true [.trait false false none (.ofNames [trait])] false

/-- The result of a function that fails when a value cannot be encoded. -/
private def fallible (t : Ty) : Ty :=
  .path (.mk false [.mk "Result" (.angle false [.type t, .type (.named "ExtrasError")] false)])

private def unit : Ty := .tuple [] false

private def self : Expression := .word "self"

private def succeed (e : Expression) : Statement := .result (.call (.word "Ok") [e])

namespace Binding

def value (b : Binding) : Expression := .field self b.name

/-- The field of a screen, through its getter when it is private. -/
def place (b : Binding) (screen : Expression) : Expression :=
  match b.access with
  | .direct => .field screen b.name
  | .accessors _ getter => .method screen getter [] []

/-- Gives the field of a screen a value, through its setter when it is private. -/
def store (b : Binding) (screen value : Expression) : Statement :=
  match b.access with
  | .direct => .run (.assign (.field screen b.name) value)
  | .accessors setter _ => .run (.method screen setter [] [value])

/-- Writes a value under the key of the field; an absent value is not written. -/
def write (b : Binding) (place writer : Expression) (method : String) : Statement :=
  let put := fun value => Statement.run (.attempt
    (.method writer method [] [.ownConstant b.constant, value]))
  if b.type.isNullable then .when (.present "value" (.reference place)) [put (.word "value")]
  else put (.reference place)

/-- Reads the field from extras; an absent key gives the default. -/
def read (b : Binding) (state : Expression) : Expression :=
  let key := Expression.ownConstant b.constant
  let default := b.default.expression b.type
  if b.type.isNullable then
    let found := Expression.method state "get" [b.type.valueType] [key]
    if b.default = .null then found else .method found "or_else" [] [.closure [] default]
  else .method state "get_or" [b.type.valueType] [key, default]

end Binding

/-- Makes a builder from the required values, with defaults for the optional ones. -/
def factoryCode (required optional : List Binding) : Function where
  documentation := []
  name := "builder"
  receiver := none
  parameters := required.map fun b => (b.name, b.type.storageType)
  output := some (.named "Self")
  body := [.result (.record
    (required.map (fun b => (b.name, none)) ++
      optional.map fun b => (b.name, some (b.default.expression b.type))))]

def setterCode (b : Binding) : Function where
  documentation := []
  name := b.name
  receiver := some .owned
  parameters := [(b.name, b.type.storageType)]
  output := some (.named "Self")
  body := [.run (.assign b.value (.word b.name)), .result self]

def encodeCode (target : Ty) (bindings : List Binding) : Function where
  documentation := [" Encodes every field into a payload targeting the screen."]
  name := "payload"
  receiver := some .borrowed
  parameters := []
  output := some (fallible (.named "Payload"))
  body :=
    let new := Expression.name
      (.mk false [.mk "Payload" .none, .mk "for_screen" (.angle true [.type target] false)])
    [.bind true "payload" (.call new [])] ++
      bindings.map (fun b => b.write b.value (.word "payload") "put_extra") ++
      [succeed (.word "payload")]

/-- The screen behind an instance, if the instance is the target. -/
private def typed (target : Ty) (view cast : String) : Condition :=
  .present "typed" (.method (.method (.word "instance") view [] []) cast [target] [])

def decodeCode (target : Ty) (bindings : List Binding) : Function where
  documentation :=
    [" Reads the payload fields back into `instance` when it is the target screen.", "",
      " Absent keys take the field's default."]
  name := "inject"
  receiver := none
  parameters := [("instance", mutableReference (dynamic "Screen")),
    ("state", .apply "Option" (reference (.named "Extras")))]
  output := none
  body := [.when (typed target "as_any_mut" "downcast_mut")
    [.when (.present "state" (.word "state"))
      (bindings.map fun b => b.store (.word "typed") (b.read (.word "state")))]]

def saveStateCode (target : Ty) (bindings : List Binding) : Function where
  documentation := [" Writes the screen's current field values into `out_state`."]
  name := "save_state"
  receiver := none
  parameters := [("instance", reference (dynamic "Screen")),
    ("out_state", mutableReference (.named "Extras"))]
  output := some (fallible unit)
  body := [.when (typed target "as_any" "downcast_ref")
      (bindings.map fun b => b.write (b.place (.word "typed")) (.word "out_state") "put"),
    succeed .unit]

def ReEntry.documentation : ReEntry → String
  | .replace => " Remembers `payload` on the screen and decodes it."
  | .conditional => " Remembers `payload` only when `update` is set; decodes it when present."

private def reEntryParameters (target : Ty) : List (String × Ty) :=
  [("screen", mutableReference target), ("payload", .apply "Option" (.named "Payload"))]

def reEntryCode (target : Ty) (mode : ReEntry) : Function :=
  let screen := Expression.word "screen"
  let payload := Expression.word "payload"
  let extras := Expression.word "extras"
  match mode with
  | .replace => {
      documentation := [mode.documentation]
      name := "process_new_payload"
      receiver := none
      parameters := reEntryParameters target
      output := none
      body := [.run (.call (.ownConstant "process_new_payload_with_update")
        [screen, payload, .word "true"])] }
  | .conditional => {
      documentation := [mode.documentation]
      name := "process_new_payload_with_update"
      receiver := none
      parameters := reEntryParameters target ++ [("update", .named "bool")]
      output := none
      body := [
        .bind false "extras" (.method (.method payload "as_ref" [] []) "map" []
          [.closure ["payload"] (.method (.method payload "extras" [] []) "clone" [] [])]),
        .when (.holds (.word "update")) [.run (.method screen "set_payload" [] [payload])],
        .when (.present "extras" extras)
          [.run (.call (.ownConstant "inject") [screen, .present (.reference extras)])]] }

/-- Starts the screen; without options it calls the trigger with options. -/
def triggerCode (t : Trigger) : Function :=
  let host := if t.forResult then "screen" else "context"
  let trait := if t.forResult then "Screen" else "Context"
  let payload := Expression.word "payload"
  let results := if t.forResult then [Expression.word "request_code"] else []
  let withOptions : Trigger := { t with withOptions := true }
  { documentation := []
    name := t.name
    receiver := some .borrowed
    parameters := [(host, reference (dynamic trait))] ++
      (if t.forResult then [("request_code", .named "i32")] else []) ++
      (if t.withOptions then [("options", .apply "Option" (reference (.named "Extras")))] else [])
    output := some (fallible unit)
    body :=
      if t.withOptions then [
        .bind true "payload" (.attempt (.method self "payload" [] [])),
        .when (.holds (.not (.method (.word host) "is_screen" [] [])))
          [.run (.method payload "add_flags" [] [.path ["LaunchFlags", "NEW_TASK"]])],
        .run (.method (.word host)
          (if t.forResult then "start_screen_for_result" else "start_screen") []
          ([payload] ++ results ++ [.word "options"])),
        succeed .unit]
      else [.result (.method self withOptions.name [] ([.word host] ++ results ++ [.absent]))] }

/-- The code of a member inside the block of the builder's operations; storage has none there. -/
def Member.code? (target : Ty) : Member → Option Associated
  | .keyConstant name key => some (.key name key)
  | .storage _ => none
  | .factory required optional => some (.function (factoryCode required optional))
  | .setter b => some (.function (setterCode b))
  | .encode bindings => some (.function (encodeCode target bindings))
  | .decode bindings => some (.function (decodeCode target bindings))
  | .saveState bindings => some (.function (saveStateCode target bindings))
  | .reEntry mode => some (.function (reEntryCode target mode))
  | .trigger t => some (.function (triggerCode t))

/-- Lints that generated code may trigger. -/
def allowedLints : List String :=
  ["clippy::collapsible_if", "clippy::missing_errors_doc", "clippy::must_use_candidate",
    "clippy::needless_pass_by_value", "clippy::return_self_not_must_use",
    "clippy::too_many_arguments",
    "dead_code", "unused_variables"]

private def supportNames : List String :=
  ["Context", "Extras", "ExtrasError", "LaunchFlags", "Payload", "Screen"]

def Plan.code (p : Plan) (s : Settings) : File where
  allowedLints := allowedLints
  visibility := s.visibility
  items := [
    .imports s.support.path supportNames,
    .structure (" Builds and starts a payload for [`" ++ p.target.text ++ "`].") p.name
      (p.storage.map fun b => (b.name, b.type.storageType)),
    .implementation p.name (p.members.filterMap (Member.code? (.path p.target.path)))]

end ScreenNavigation.Builder
