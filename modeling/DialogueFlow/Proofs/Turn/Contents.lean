/-
  The values in the events of a turn. They come from the catalog, from the slots of the conversation
  and from the contexts on its stack. Main statement: `valuesFit_advance`. Where those are normal and
  nested no deeper than a bound, so are the values in the events of the prediction.
-/
import DialogueFlow.Proofs.Catalog.Assignments
import DialogueFlow.Proofs.Conversation.Contents
import DialogueFlow.Proofs.Turn.Persistence

namespace DialogueFlow

variable {n : Nat}

/-! ## Frames that the executor pushes -/

theorem Rejection.fits_toJson (rejection : Rejection) : rejection.toJson.Fits (n + 1) := by
  have hnames : List.Pairwise (· < ·) ["if", "utter"] := by decide
  refine Json.Fits.obj (List.pairwise_map.mp hnames) ?_
  simp only [List.forall_mem_cons]
  exact ⟨Json.fits_str _ _, Json.fits_str _ _, fun _ h => nomatch h⟩

namespace Pattern

/-- How deep the contexts of pushed frames are nested: rejections are records in a list. -/
def contextDepth : Nat := 3

variable (hn : contextDepth ≤ n)
include hn

theorem contextFits_collectFrame (slot utter : String) (rejections : List Rejection) :
    (collectFrame slot utter rejections).ContextFits n := by
  rintro context ⟨⟩
  have hnames : List.Pairwise (· < ·) ["collect", "rejections", "utter"] := by decide
  have hrejections : (Json.arr (rejections.map Rejection.toJson)).Fits 2 :=
    Json.Fits.arr (List.forall_mem_map.mpr fun rejection _ => rejection.fits_toJson)
  have hcontext : (Json.obj [("collect", .str slot), ("rejections",
      .arr (rejections.map Rejection.toJson)), ("utter", .str utter)]).Fits 3 := by
    refine Json.Fits.obj (List.pairwise_map.mp hnames) ?_
    simp only [List.forall_mem_cons]
    exact ⟨Json.fits_str _ _, hrejections, Json.fits_str _ _, fun _ h => nomatch h⟩
  exact hcontext.mono hn

theorem fits_singleton (name : String) {value : Json} (h : value.Fits 0) :
    (Json.obj [(name, value)]).Fits n := by
  have hfields : (Json.obj [(name, value)]).Fits 1 :=
    Json.Fits.obj (List.pairwise_singleton _ _) (List.forall_mem_singleton.mpr h)
  exact hfields.mono (Nat.le_trans (by decide) hn)

theorem contextFits_continueFrame (name : String) : (continueFrame name).ContextFits n := by
  rintro context ⟨⟩
  exact fits_singleton hn _ (Json.fits_str 0 name)

theorem contextFits_completedFrame (name : Option String) :
    (completedFrame name).ContextFits n := by
  rintro context ⟨⟩
  refine fits_singleton hn _ ?_
  cases name with
  | none => exact Json.fits_null 0
  | some name => exact Json.fits_str 0 name

theorem contextsFit_afterInterrupt {stack : Stack} (h : stack.ContextsFit n) (ended : Frame)
    (catalog : Catalog) : (afterInterrupt ended stack catalog).ContextsFit n := by
  rcases afterInterrupt_cases ended stack catalog with heq | ⟨-, flow, -, heq⟩ <;> rw [heq]
  · exact h
  · exact Stack.contextsFit_cons.mpr ⟨contextFits_continueFrame hn _, h⟩

theorem contextsFit_afterLast {stack : Stack} (h : stack.ContextsFit n) (ended : Frame)
    (catalog : Catalog) : (afterLast ended stack catalog).ContextsFit n := by
  rcases afterLast_cases ended stack catalog with heq | ⟨-, -, heq⟩ <;> rw [heq]
  · exact h
  · exact Stack.contextsFit_cons.mpr ⟨contextFits_completedFrame hn _, Stack.contextsFit_nil⟩

omit hn in
theorem valuesFit_resets {conversation : Conversation} (h : conversation.SlotsFit n) (flow : Flow) :
    Event.ValuesFit n (resets flow conversation) :=
  Event.valuesFit_map fun slot _ => h.initialValue slot

end Pattern

/-! ## Interpreting a node -/

namespace Interpreter

variable {setting : Setting} {flow : Flow} {stack after : Stack} {conversation : Conversation}
  {node : Node} {outcome : Outcome}

theorem valuesFit_askAgain (h : conversation.SlotsFit n) (slot : String) (askBeforeFilling : Bool) :
    Event.ValuesFit n (askAgain slot askBeforeFilling conversation) := by
  unfold askAgain
  split
  · rename_i found hfound
    split
    · exact Event.valuesFit_slotSet (h slot found hfound).1
    · exact Event.valuesFit_nil
  · exact Event.valuesFit_nil

theorem Effect.valuesFit (hflow : flow.Sets (Json.Fits n)) (hconversation : conversation.SlotsFit n)
    (hnode : ∀ step, node = .step step → step ∈ flow.declared)
    (h : Effect setting flow stack conversation node (.ok (outcome, after))) :
    Event.ValuesFit n outcome.events := by
  cases h with
  | collected htask => exact valuesFit_askAgain hconversation _ _
  | assigned htask =>
    have hsets := hflow _ (hnode _ rfl)
    rw [htask] at hsets
    exact Event.valuesFit_map hsets
  | ended hstack => exact Pattern.valuesFit_resets hconversation flow
  | _ => exact Event.valuesFit_nil

theorem Effect.contextsFit (hn : Pattern.contextDepth ≤ n) (hstack : stack.ContextsFit n)
    (h : Effect setting flow stack conversation node (.ok (outcome, after))) :
    after.ContextsFit n := by
  cases h with
  | collected htask =>
    exact Stack.contextsFit_cons.mpr ⟨Pattern.contextFits_collectFrame hn _ _ _, hstack⟩
  | linked htask => exact hstack.pushBelowTop fun _ h => nomatch h
  | ended heq =>
    subst heq
    have hbelow := (Stack.contextsFit_cons.mp hstack).2
    exact Pattern.contextsFit_afterLast hn
      (Pattern.contextsFit_afterInterrupt hn hbelow _ _) _ _
  | _ => exact hstack

end Interpreter

namespace Turn

variable {setting : Setting}

/-- The slots and the contexts of a turn under way, and the values in its events so far, are normal
and not nested too deep; a persisted stack lies two levels around its contexts. -/
structure Progress.Fits (n : Nat) (progress : Progress) : Prop where
  contexts : progress.stack.ContextsFit n
  slots : progress.conversation.SlotsFit (n + 2)
  values : Event.ValuesFit (n + 2) progress.events

theorem Iteration.fits (hn : Pattern.contextDepth ≤ n)
    (hcatalog : setting.catalog.Sets (Json.Fits (n + 2))) {progress : Progress}
    {outcome : Progress × Option (Except FlowError Prediction)} (hprogress : progress.Fits n)
    (h : Iteration setting progress outcome) : outcome.1.Fits n := by
  cases h with
  | failed => exact ⟨hprogress.contexts.moveTo _, hprogress.slots, hprogress.values⟩
  | proceeded hat hnext heffect =>
    have hevents := heffect.valuesFit (hcatalog _ (Catalog.mem_of_flow? hat.flow_eq))
      hprogress.slots fun step hstep => Selection.mem_of_nextNode (hstep ▸ hnext)
    exact ⟨heffect.contextsFit hn (hprogress.contexts.moveTo _), hprogress.slots.recordAll hevents,
      hprogress.values.append hevents⟩
  | paused hat hnext heffect =>
    exact ⟨heffect.contextsFit hn (hprogress.contexts.moveTo _), hprogress.slots,
      hprogress.values.append Event.valuesFit_nil⟩
  | _ => exact hprogress

theorem loop_fits (hn : Pattern.contextDepth ≤ n)
    (hcatalog : setting.catalog.Sets (Json.Fits (n + 2))) (ceiling rounds : Nat)
    {progress : Progress} (hprogress : progress.Fits n) (asked : List Question) :
    let ended := (loop setting ceiling rounds progress asked).1
    ended.1.Fits n ∧
      ∀ prediction, ended.2 = .ok prediction → Event.ValuesFit (n + 2) prediction.events := by
  obtain ⟨hended, hresult⟩ := loop_cases (P := Progress.Fits n)
    (fun _ _ hprogress hiteration => hiteration.fits hn hcatalog hprogress) ceiling rounds
    progress hprogress asked
  refine ⟨hended, fun prediction hprediction => ?_⟩
  rcases hresult with htripped | ⟨before, -, hiteration⟩
  · rw [hprediction] at htripped
    cases htripped
  · rw [hprediction] at hiteration
    rw [hiteration.prediction_events]
    exact hended.values

/-- Where the values of the slots and of the catalog are normal and not nested too deep, so are the
values in the events of a turn. -/
theorem valuesFit_advance (hn : Pattern.contextDepth ≤ n) {conversation : Conversation}
    (hconversation : conversation.SlotsFit (n + 2)) {catalog : Catalog}
    (hcatalog : catalog.Sets (Json.Fits (n + 2))) {domain : Domain} {services : Services}
    {ceiling : Nat} {asked : List Question} {prediction : Prediction}
    (h : (advance conversation domain catalog services ceiling asked).1 = .ok prediction) :
    Event.ValuesFit (n + 2) prediction.events := by
  obtain ⟨stack, hstack, ⟨-, rfl⟩ | ⟨-, plain, hplain, rfl⟩⟩ := advance_cases h
  · exact Event.valuesFit_nil
  · let setting : Setting := ⟨catalog, domain.actionNames, services⟩
    have hcatalog : setting.catalog.Sets (Json.Fits (n + 2)) := hcatalog
    have hstart : Progress.Fits n ⟨stack, conversation, []⟩ :=
      ⟨hconversation.contextsFit hstack, hconversation, Event.valuesFit_nil⟩
    obtain ⟨hended, hevents⟩ := loop_fits hn hcatalog ceiling ceiling hstart asked
    unfold persisting
    split
    · exact hevents plain hplain
    · exact (hevents plain hplain).append
        (Event.valuesFit_slotSet (Stack.fits_toJson hended.contexts))

end Turn

end DialogueFlow
