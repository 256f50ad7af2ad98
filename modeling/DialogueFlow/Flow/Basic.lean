/-
  Flows as graphs. A flow has its declared steps between a start node, which leads to the first of
  them, and an end node. A step without links falls through to the next declared step, the last one
  to the end; only a link step may stay without links. An id with the prefix `NEXT:` names a node
  that resumes at the rest of the id.
-/
import DialogueFlow.Flow.Step
import DialogueFlow.Frame
import DialogueFlow.Text.Blank

namespace DialogueFlow

/-- The id of the node that ends a flow. -/
def endId : String := "END"

/-- What the ids of resuming nodes start with. -/
def resumeMark : String := "NEXT:"

/-- The id of the node that resumes at `target`. -/
def resumeId (target : String) : String := resumeMark ++ target

/-- The id that a resuming node resumes at. -/
def resumeTarget? (id : String) : Option String :=
  if resumeMark.toList.isPrefixOf id.toList then
    some (String.ofList (id.toList.drop resumeMark.toList.length))
  else none

/-- An id that no declared step may have. -/
def isReservedId (id : String) : Bool := id = startId || id = endId || (resumeTarget? id).isSome

/-- A node of a flow's graph. -/
inductive Node where
  /-- Where the flow begins; it leads to `first`. -/
  | start (first : String)
  | step (declared : Step)
  /-- Where the flow ends. -/
  | finish
  /-- A stop on the way to `target`. -/
  | resume (target : String)
  deriving DecidableEq, Repr

namespace Node

def id : Node → String
  | .start _ => startId
  | .step s => s.id
  | .finish => endId
  | .resume target => resumeId target

def next : Node → List Link
  | .start first => [.always first]
  | .step s => s.next
  | .finish => []
  | .resume target => [.always target]

/-- The kind of a node in messages. -/
def kindName : Node → String
  | .start _ => "start"
  | .step s => s.task.kindName
  | .finish => "end"
  | .resume _ => "continue"

/-- The node is a link step. -/
def isLinkStep : Node → Bool
  | .step ⟨_, .link _, _⟩ => true
  | _ => false

/-- A cursor at this node has nothing left to run. -/
def isEndOfFlow (node : Node) : Bool := node.id = endId || node.id = resumeId endId

end Node

/-- A flow; the links of its steps are filled in. -/
structure Flow where
  id : String
  name : Option String
  declared : List Step
  deriving DecidableEq, Repr

namespace Flow

/-- A step without links that does not link to a flow leads to `following`. -/
def linked (step : Step) (following : String) : Step :=
  match step.next, step.task with
  | [], .link _ => step
  | [], _ => { step with next := [.always following] }
  | _, _ => step

/-- Fills in the links of the steps of a flow. -/
def fallThrough : List Step → List Step
  | [] => []
  | [step] => [linked step endId]
  | step :: following :: rest => linked step following.id :: fallThrough (following :: rest)

/-- The flow of these steps. -/
def ofDeclared (id : String) (name : Option String) (steps : List Step) : Flow :=
  ⟨id, name, fallThrough steps⟩

/-- The id that the start node leads to. -/
def firstId (flow : Flow) : String := ((flow.declared.head?).map (·.id)).getD endId

/-- All nodes but the resuming ones, in order. -/
def nodes (flow : Flow) : List Node :=
  .start flow.firstId :: (flow.declared.map Node.step ++ [.finish])

/-- The node of an id: a resuming node if what it resumes at exists, or the first node so named. -/
def node? (flow : Flow) (id : String) : Option Node :=
  match resumeTarget? id with
  | some target => if flow.nodes.any (·.id = target) then some (.resume target) else none
  | none => flow.nodes.find? (·.id = id)

/-- The name to show a reader; the id stands in for a blank name. -/
def readableName (flow : Flow) : String :=
  match flow.name with
  | some name => if Text.isBlankText name then flow.id else name
  | none => flow.id

/-- The fields of a flow as they are declared. -/
structure Definition where
  id : String
  name : Option String
  steps : List Step

/-- The written form of a flow. -/
def form : Decode.RecordForm Definition where
  title := "struct FlowDefinition"
  names := ["id", "name", "steps"]
  required := ["id"]
  blank := ⟨"", none, []⟩
  set := fun r name value =>
    if name = "id" then (Decode.text value).map fun id => { r with id }
    else if name = "name" then (Decode.nullable Decode.text value).map fun name => { r with name }
    else (Decode.list Step.decode value).map fun steps => { r with steps }

/-- Reads a flow and fills in the links of its steps. -/
def decode : Decoder Flow := fun value =>
  (form.decode .refused value).map fun r => .ofDeclared r.id r.name r.steps

/-- The flow as an object; reading it again gives the same flow. -/
def toJson (flow : Flow) : Json :=
  .obj [("id", .str flow.id), ("name", Task.optionalText flow.name),
    ("steps", .arr (flow.declared.map Step.toJson))]

theorem length_fallThrough (steps : List Step) : (fallThrough steps).length = steps.length := by
  fun_induction fallThrough steps <;> simp_all

theorem linked_id (step : Step) (following : String) : (linked step following).id = step.id := by
  unfold linked
  split <;> rfl

theorem linked_task (step : Step) (following : String) :
    (linked step following).task = step.task := by
  unfold linked
  split <;> rfl

/-- Filling in links keeps the ids of the steps. -/
theorem ids_fallThrough (steps : List Step) :
    (fallThrough steps).map (·.id) = steps.map (·.id) := by
  fun_induction fallThrough steps <;> simp_all [linked_id]

end Flow

end DialogueFlow
