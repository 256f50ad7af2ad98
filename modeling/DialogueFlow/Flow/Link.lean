/-
  Links: the outgoing edges of a step, tried in the order in which they are declared.
-/
import DialogueFlow.Decode.Tagged

namespace DialogueFlow

/-- One outgoing edge of a step. -/
inductive Link where
  /-- Taken unconditionally when it is the only link. -/
  | always (target : String)
  /-- Taken when the condition holds. -/
  | when (condition target : String)
  /-- Taken when no condition held. -/
  | otherwise (target : String)
  deriving DecidableEq, Repr

namespace Link

/-- The id of the step that the link leads to. -/
def target : Link → String
  | .always target => target
  | .when _ target => target
  | .otherwise target => target

/-- The link as an object. -/
def toJson : Link → Json
  | .always target => .obj [("kind", .str "static"), ("target", .str target)]
  | .when condition target =>
    .obj [("condition", .str condition), ("kind", .str "if"), ("target", .str target)]
  | .otherwise target => .obj [("kind", .str "else"), ("target", .str target)]

/-- The field of a link without a condition. -/
def targetForm (title : String) : Decode.RecordForm String where
  title := title
  names := ["target"]
  required := ["target"]
  blank := ""
  set := fun _ _ value => Decode.text value

/-- The fields of a link with a condition: the condition and the target. -/
def conditionForm : Decode.RecordForm (String × String) where
  title := "struct variant FlowLink::If"
  names := ["condition", "target"]
  required := ["condition", "target"]
  blank := ("", "")
  set := fun record name value =>
    (Decode.text value).map fun text =>
      if name = "condition" then (text, record.2) else (record.1, text)

/-- The kinds of links. -/
def variants : Decode.Variants Link :=
  [("static", fun value =>
      ((targetForm "struct variant FlowLink::Static").decode .counted value).map .always),
    ("if", fun value => (conditionForm.decode .counted value).map fun r => .when r.1 r.2),
    ("else", fun value =>
      ((targetForm "struct variant FlowLink::Else").decode .counted value).map .otherwise)]

/-- Reads a link. -/
def decode : Decoder Link := Decode.tagged "FlowLink" "kind" variants.byName

/-- A link that was written is read as it was. -/
theorem decode_toJson (link : Link) : decode link.toJson = .ok link := by
  cases link <;> rfl

end Link

end DialogueFlow
