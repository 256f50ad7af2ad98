/-
  What can be wrong with a catalog that has the right form: repeated or reserved ids, and links that
  lead nowhere.
-/
import DialogueFlow.Flow.Catalog

namespace DialogueFlow

/-- One thing wrong with a catalog. -/
inductive Defect where
  /-- A flow of an id that an earlier flow has. -/
  | repeatedFlow (flow : String)
  | reservedStep (flow step : String)
  /-- A step of an id that an earlier step of the flow has. -/
  | repeatedStep (flow step : String)
  /-- A link to a step that the flow does not declare. -/
  | danglingLink (flow step target : String)
  /-- A link step to a flow that is not in the catalog. -/
  | missingFlow (flow step linked : String)
  deriving DecidableEq, Repr

namespace Defect

/-- The wording of a defect. -/
def message : Defect → String
  | .repeatedFlow flow => s!"duplicate flow id '{flow}'"
  | .reservedStep flow step => s!"{flow}: step id '{step}' is reserved"
  | .repeatedStep flow step => s!"{flow}: duplicate step id '{step}'"
  | .danglingLink flow step target => s!"{flow}/{step}: link target '{target}' does not exist"
  | .missingFlow flow step linked => s!"{flow}/{step}: linked flow '{linked}' does not exist"

/-- The defects of the ids of a flow's steps, after those already seen. -/
def ofIds (flow : String) : (seen : List String) → List Step → List Defect
  | _, [] => []
  | seen, step :: rest =>
    (if isReservedId step.id then [.reservedStep flow step.id] else []) ++
      (if step.id ∈ seen then [.repeatedStep flow step.id] else []) ++
      ofIds flow (step.id :: seen) rest

/-- The link of a node leads to the end or to a declared step. -/
def reaches (flow : Flow) (target : String) : Bool :=
  target = endId || flow.declared.any (·.id = target)

/-- The defects of the links of one step. -/
def ofLinks (catalog : Catalog) (flow : Flow) (step : Step) : List Defect :=
  ((step.next.map Link.target).filter (!reaches flow ·)).map (.danglingLink flow.id step.id) ++
    match step.task with
    | .link linked =>
      if (catalog.flow? linked).isSome then [] else [.missingFlow flow.id step.id linked]
    | _ => []

/-- The defects of a flow: first those of its ids, then those of its links. -/
def ofFlow (catalog : Catalog) (flow : Flow) : List Defect :=
  ofIds flow.id [] flow.declared ++ flow.declared.flatMap (ofLinks catalog flow)

/-- The defects of some flows of a catalog, after flows of the ids already seen. -/
def ofFlows (catalog : Catalog) : (seen : List String) → List Flow → List Defect
  | _, [] => []
  | seen, flow :: rest =>
    (if flow.id ∈ seen then [.repeatedFlow flow.id] else []) ++ ofFlow catalog flow ++
      ofFlows catalog (flow.id :: seen) rest

end Defect

/-- All defects of a catalog, flow by flow. -/
def Catalog.defects (catalog : Catalog) : List Defect := Defect.ofFlows catalog [] catalog

end DialogueFlow
