/-
  The schema of catalog files. A link that names no kind must have a condition, as one with a
  condition must; a step that names no type is held to the rules of every type.
-/
import DialogueFlow.Schema

namespace DialogueFlow.CatalogSchema

open Schema

/-- A text that is not empty. -/
def identifier : Schema := .all [.kind [.string], .minLength 1]

/-- A text or null. -/
def optionalText : Schema := .kind [.null, .string]

/-- An object with these fields and no others. -/
def closed (required : List String) (schemas : List (String × Schema)) : Schema :=
  .all [.kind [.object], .only (schemas.map (·.1)), .required required, .fields schemas]

/-- An array of such items. -/
def listOf (schema : Schema) : Schema := .all [.kind [.array], .items schema]

/-- Any value. -/
def anything : Schema := .all []

def link : Schema :=
  .all [closed ["kind", "target"]
      [("kind", .among ["static", "if", "else"]), ("target", identifier),
        ("condition", .kind [.string])],
    .unlessOther "kind" "if" (.required ["condition"])]

def rejection : Schema :=
  closed ["if", "utter"] [("if", .kind [.string]), ("utter", .kind [.string])]

def assignment : Schema := closed ["key", "value"] [("key", identifier), ("value", anything)]

/-- The rules of one type of steps. -/
def ofType (type : String) (required : List String) (schemas : List (String × Schema)) : Schema :=
  .unlessOther "type" type (.all [.required required, .fields schemas])

def step : Schema :=
  .all [.kind [.object], .required ["id", "type"],
    .fields [("id", identifier),
      ("type", .among ["action", "collect", "set_slots", "branch", "link", "generate_response"]),
      ("next", listOf link)],
    ofType "action" [] [("action", optionalText)],
    ofType "collect" ["collect"]
      [("collect", identifier), ("utter", optionalText), ("rejections", listOf rejection),
        ("ask_before_filling", .kind [.boolean]), ("reset_after_flow_ends", .kind [.boolean])],
    ofType "set_slots" ["slots"] [("slots", listOf assignment)],
    ofType "link" ["link"] [("link", identifier)],
    ofType "generate_response" ["prompt"] [("prompt", .kind [.string]), ("llm_config", anything)]]

def flow : Schema :=
  closed ["id"] [("id", identifier), ("name", optionalText), ("description", optionalText),
    ("steps", listOf step)]

def catalog : Schema := closed ["flows"] [("flows", listOf flow)]

end DialogueFlow.CatalogSchema
