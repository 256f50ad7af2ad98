/-
  Why a JSON value is not of an expected form, and the wording of each cause.
-/
import DialogueFlow.Json.Printer
import DialogueFlow.Text.Quoted

namespace DialogueFlow

/-- A cause for which a value cannot be decoded. -/
inductive DecodeError where
  | missingField (name : String)
  | duplicateField (name : String)
  | unknownVariant (name : String) (known : List String)
  /-- A value of the wrong kind. -/
  | wrongKind (value : Json) (wanted : String)
  /-- A value of the right kind that is not allowed. -/
  | wrongValue (value : Json) (wanted : String)
  /-- A sequence with too few or too many items. -/
  | wrongLength (length : Nat) (wanted : String)
  deriving DecidableEq, Repr

/-- How a message names a value: its kind and, where it has no parts, what it is. -/
def Json.described : Json → String
  | .null => "null"
  | .bool true => "boolean `true`"
  | .bool false => "boolean `false`"
  | .int n => "integer `" ++ String.ofList (Json.writeInt n) ++ "`"
  | .float x => "floating point `" ++ String.ofList (Json.writeFloat x) ++ "`"
  | .str s => "string " ++ Text.quoted s
  | .arr _ => "sequence"
  | .obj _ => "map"

namespace DecodeError

/-- A name between backticks. -/
def ticked (name : String) : String := "`" ++ name ++ "`"

/-- The wording of a decoding error. -/
def message : DecodeError → String
  | .missingField name => "missing field " ++ ticked name
  | .duplicateField name => "duplicate field " ++ ticked name
  | .unknownVariant name known =>
    "unknown variant " ++ ticked name ++ ", expected one of " ++
      String.intercalate ", " (known.map ticked)
  | .wrongKind value wanted => s!"invalid type: {value.described}, expected {wanted}"
  | .wrongValue value wanted => s!"invalid value: {value.described}, expected {wanted}"
  | .wrongLength length wanted => s!"invalid length {length}, expected {wanted}"

end DecodeError

/-- A reader of JSON values that says why it refuses one. -/
abbrev Decoder (α : Type) := Json → Except DecodeError α

end DialogueFlow
