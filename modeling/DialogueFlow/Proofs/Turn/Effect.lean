/-
  What interpreting a node can come to, one rule for each way, whatever the services answer. The
  interpreter keeps to these rules (`run_effect`); proofs about turns go by cases on them and do
  not open the interpreter.
-/
import DialogueFlow.Interpreter
import Mathlib.Tactic.Common

namespace DialogueFlow.Interpreter

/-- What interpreting a node can come to. -/
inductive Effect (setting : Setting) (flow : Flow) (stack : Stack) (conversation : Conversation) :
    Node → Except FlowError (Outcome × Stack) → Prop
  /-- The step does not say which action. -/
  | missing {step : Step} {name : Option String} (htask : step.task = .action name)
      (hname : name.filter (!Text.isBlankText ·) = none) :
      Effect setting flow stack conversation (.step step) (.error (.missingAction flow.id step.id))
  /-- The name of the action cannot be rendered. -/
  | unrendered {step : Step} {template reason : String} {asked : List Question}
      (htask : step.task = .action (some template))
      (hrender : setting.services.evaluator.render asked template
        (Condition.templateRoot stack.context) = .error reason) :
      Effect setting flow stack conversation (.step step)
        (.error (.templateFailed template reason))
  | predicted {step : Step} {template name : String} {asked : List Question}
      (htask : step.task = .action (some template))
      (hrender : setting.services.evaluator.render asked template
        (Condition.templateRoot stack.context) = .ok name)
      (hname : name ∈ setting.actions) :
      Effect setting flow stack conversation (.step step) (.ok (.pause name none, stack))
  /-- An action that may not be predicted is passed over. -/
  | skipped {step : Step} {template name : String} {asked : List Question}
      (htask : step.task = .action (some template))
      (hrender : setting.services.evaluator.render asked template
        (Condition.templateRoot stack.context) = .ok name)
      (hname : name ∉ setting.actions) :
      Effect setting flow stack conversation (.step step) (.ok (.proceed [], stack))
  | collected {step : Step} {slot : String} {utter : Option String} {rejections : List Rejection}
      {askBeforeFilling resetAfterFlowEnds : Bool}
      (htask : step.task = .collect slot utter rejections askBeforeFilling resetAfterFlowEnds) :
      Effect setting flow stack conversation (.step step)
        (.ok (.proceed (askAgain slot askBeforeFilling conversation),
          stack.push (Pattern.collectFrame slot (utter.getD (defaultUtter slot)) rejections)))
  | assigned {step : Step} {assignments : List Assignment}
      (htask : step.task = .setSlots assignments) :
      Effect setting flow stack conversation (.step step)
        (.ok (.proceed (assignments.map fun a => .slotSet a.key a.value), stack))
  | branched {step : Step} (htask : step.task = .branch) :
      Effect setting flow stack conversation (.step step) (.ok (.proceed [], stack))
  | linked {step : Step} {id : String} (htask : step.task = .link id) :
      Effect setting flow stack conversation (.step step)
        (.ok (.proceed [], stack.pushBelowTop (.atStart id .link)))
  | generated {step : Step} {prompt : String} {config : Option Json} {text : Except String String}
      (htask : step.task = .generateResponse prompt config) :
      Effect setting flow stack conversation (.step step)
        (.ok (.pause Domain.sendTextAction (some (textMetadata text)), stack))
  /-- The top frame is popped, and patterns may follow it. -/
  | ended {top : Frame} {below : Stack} (hstack : stack = top :: below) :
      Effect setting flow stack conversation .finish
        (.ok (.proceed (Pattern.resets flow conversation),
          Pattern.afterLast top (Pattern.afterInterrupt top below setting.catalog) setting.catalog))
  | endedOnEmpty (hstack : stack = []) :
      Effect setting flow stack conversation .finish (.error (.endedOnEmptyStack flow.id))
  | atStart {first : String} :
      Effect setting flow stack conversation (.start first)
        (.error (.unexpectedStep flow.id startId (Node.start first).kindName))
  | atResume {target : String} :
      Effect setting flow stack conversation (.resume target)
        (.error (.unexpectedStep flow.id (resumeId target) (Node.resume target).kindName))

variable {setting : Setting} {flow : Flow} {stack : Stack} {conversation : Conversation}

theorem action_effect {step : Step} {name : Option String} (htask : step.task = .action name)
    (asked : List Question) : Effect setting flow stack conversation (.step step)
      ((runAction setting flow step.id name stack asked).1.map
        fun outcome => (outcome, stack)) := by
  unfold runAction
  cases hname : name.filter (!Text.isBlankText ·) with
  | none => exact .missing htask hname
  | some template =>
    obtain ⟨rfl, -⟩ := Option.filter_eq_some_iff.mp hname
    simp only [Asking.bind_apply, Services.render]
    cases hrender : setting.services.evaluator.render asked template
      (Condition.templateRoot stack.context) with
    | error reason => exact .unrendered htask hrender
    | ok text =>
      by_cases hmem : text ∈ setting.actions
      · simp only [if_pos hmem]
        exact .predicted htask hrender hmem
      · simp only [if_neg hmem]
        exact .skipped htask hrender hmem

theorem step_effect (step : Step) (asked : List Question) :
    Effect setting flow stack conversation (.step step)
      (runStep setting flow step stack conversation asked).1 := by
  unfold runStep
  cases htask : step.task with
  | action name => exact action_effect htask asked
  | collect slot utter rejections askBeforeFilling resetAfterFlowEnds => exact .collected htask
  | setSlots assignments => exact .assigned htask
  | branch => exact .branched htask
  | link id => exact .linked htask
  | generateResponse prompt config => exact .generated htask

/-- The interpreter keeps to the rules. -/
theorem run_effect (setting : Setting) (flow : Flow) (node : Node) (stack : Stack)
    (conversation : Conversation) (asked : List Question) :
    Effect setting flow stack conversation node
      (run setting flow node stack conversation asked).1 := by
  cases node with
  | start first => exact .atStart
  | step step => exact step_effect step asked
  | finish =>
    cases stack with
    | nil => exact .endedOnEmpty rfl
    | cons top below => exact .ended rfl
  | resume target => exact .atResume

end DialogueFlow.Interpreter
