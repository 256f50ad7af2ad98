/-
  Frames of the dialogue stack: one activation of a flow, with its cursor, the reason it is there,
  and its own context. A frame is persisted as a record.
-/
import DialogueFlow.Decode.Record

namespace DialogueFlow

/-- Why a frame is on the stack. -/
inductive FrameKind where
  /-- The flow interrupted the one below and may take several turns. -/
  | interrupt
  /-- A short interruption. -/
  | remark
  /-- The flow below linked to this one. -/
  | link
  /-- The flow below was corrected by this one. -/
  | correction
  /-- Any other flow of a user. -/
  | regular
  /-- A marker for a policy that searches documents. -/
  | docsearch
  /-- A marker for a policy without intents. -/
  | intentless
  /-- A flow that the executor pushed by itself. -/
  | pattern
  deriving DecidableEq, Repr

namespace FrameKind

/-- All kinds, in declaration order. -/
def all : List FrameKind :=
  [.interrupt, .remark, .link, .correction, .regular, .docsearch, .intentless, .pattern]

/-- The written name of a kind. -/
def name : FrameKind → String
  | .interrupt => "interrupt"
  | .remark => "remark"
  | .link => "link"
  | .correction => "correction"
  | .regular => "regular"
  | .docsearch => "docsearch"
  | .intentless => "intentless"
  | .pattern => "pattern"

/-- Kinds filled by flows of a user. -/
def isUserFlow : FrameKind → Bool
  | .regular | .link | .interrupt => true
  | _ => false

/-- Kinds that a turn advances; the two markers belong to other policies. -/
def isFlow : FrameKind → Bool
  | .docsearch | .intentless => false
  | _ => true

/-- The kind of a name. -/
def named (name : String) : Except DecodeError FrameKind :=
  match all.find? (·.name = name) with
  | some kind => .ok kind
  | none => .error (.unknownVariant name (all.map FrameKind.name))

/-- Reads a kind: its name, or an object with the name as its one field and null as the value. -/
def decodeNamed : Decoder FrameKind
  | .str name => named name
  | .obj [(name, value)] =>
    match named name with
    | .error e => .error e
    | .ok kind => if value = .null then .ok kind else .error (.wrongKind value "unit")
  | .obj fields => .error (.wrongValue (.obj fields) "map with a single key")
  | value => .error (.wrongKind value "string or map")

/-- Reads a kind, where null means a regular frame. -/
def decode : Decoder FrameKind
  | .null => .ok .regular
  | value => decodeNamed value

end FrameKind

structure Frame where
  flowId : String
  /-- The cursor: the step that was interpreted last. -/
  stepId : String
  kind : FrameKind
  context : Option (Table Json)
  deriving DecidableEq, Repr

/-- The id under which every flow starts. -/
def startId : String := "START"

namespace Frame

/-- A frame at the start of a flow. -/
def atStart (flowId : String) (kind : FrameKind) : Frame := ⟨flowId, startId, kind, none⟩

/-- The frame belongs to a flow of a user. -/
def isUserFlow (frame : Frame) : Bool := frame.kind.isUserFlow

/-- The persisted form of a frame. -/
def toRecord (frame : Frame) : Json :=
  .obj [("context", (frame.context.map Json.obj).getD .null), ("flow_id", .str frame.flowId),
    ("frame_type", .str frame.kind.name), ("step_id", .str frame.stepId)]

/-- The written form of a frame; only the flow has no default. -/
def form : Decode.RecordForm Frame where
  title := "struct StackFrame"
  names := ["flow_id", "step_id", "frame_type", "context"]
  required := ["flow_id"]
  blank := .atStart "" .regular
  set := fun frame name value =>
    if name = "flow_id" then (Decode.text value).map fun flowId => { frame with flowId }
    else if name = "step_id" then (Decode.text value).map fun stepId => { frame with stepId }
    else if name = "frame_type" then (FrameKind.decode value).map fun kind => { frame with kind }
    else (Decode.nullable Decode.object value).map fun context => { frame with context }

/-- Reads a frame. -/
def decode : Decoder Frame := form.decode .refused

/-- A frame that was written is read as it was. -/
theorem decode_toRecord (frame : Frame) : decode frame.toRecord = .ok frame := by
  obtain ⟨flowId, stepId, kind, context⟩ := frame
  cases context <;> cases kind <;> rfl

end Frame

end DialogueFlow
