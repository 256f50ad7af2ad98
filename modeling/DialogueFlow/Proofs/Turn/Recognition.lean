/-
  Which slots the built-in collect pattern recognises under the services of the program. The name of
  the slot is put into the condition of the pattern's branch as it stands, and what comes out is
  read as an expression. `recognises_iff`: that works exactly for the names that are variables and
  stand neither for the context nor for a built-in function. Any other slot is asked for although
  it is filled, or passed over although it is not.
-/
import DialogueFlow.Proofs.Template.Readers

namespace DialogueFlow

namespace Template

/-! ## The condition with a name in it -/

/-- The name of a slot that the condition of the collect pattern can ask for: a variable that stands
neither for the context nor for a built-in function. -/
def isSlotName (name : String) : Bool :=
  isVariable name && name ∉ "not" :: "context" :: Builtin.functions

/-- An operator between expressions is read as a name where no operator can stand. -/
example : isSlotName "and" = true := by decide

theorem isSlotName_iff {name : String} :
    isSlotName name = true ↔
      isVariable name = true ∧ name ≠ "not" ∧ name ≠ "context" ∧ name ∉ Builtin.functions := by
  simp [isSlotName]

/-- The words of the condition. -/
def doneWords (name : String) : List String :=
  [name, "is", "defined", "and", name, "is", "not", "none"]

/-- The condition that is left when the name of a slot was put into it. -/
def doneText (name : String) : String :=
  name ++ (" is defined and " ++ (name ++ " is not none"))

theorem toList_doneText (name : String) :
    (doneText name).toList = [' '].intercalate ((doneWords name).map String.toList) := by
  simp [doneText, doneWords, String.toList_append, List.intercalate_cons_cons]

theorem isIdentifier_doneWords {name : String} (h : Token.isIdentifier name = true) :
    ∀ word ∈ doneWords name, Token.isIdentifier word = true := by
  simp only [doneWords, List.forall_mem_cons]
  exact ⟨h, rfl, rfl, rfl, h, rfl, rfl, rfl, nofun⟩

theorem ofExpression_doneText {name : String} (h : Token.isIdentifier name = true) :
    Token.ofExpression (doneText name) = .ok ((doneWords name).map .name) := by
  have hfuel : (doneText name).toList.length + 1 =
      2 * name.toList.length + 12 + 2 * (doneWords name).length + 1 := by
    simp [doneText, doneWords]
    omega
  unfold Token.ofExpression
  dsimp only
  rw [hfuel, toList_doneText, Token.readCode_words (isIdentifier_doneWords h)]
  rfl

theorem readExpression_doneWords {name : String} (h : Reader.constants.lookup name = none)
    (hnot : name ≠ "not") :
    Reader.readExpression 200 Reader.levelLimit ((doneWords name).map .name) =
      .ok (.both (.test "defined" (.name name) []) (.complement (.test "none" (.name name) [])),
        []) := by
  simp [doneWords, Reader.levelLimit, Reader.readExpression, Reader.readChoice, Reader.readEither,
    Reader.readBoth, Reader.readComplement, Reader.readBinary, Reader.binaryLevels,
    Reader.readOperand, Reader.readSigned, Reader.readPrimary, Reader.moreParts,
    Reader.moreFilters, Reader.readTestArguments, Reader.startsArgument, Reader.afterTest,
    Reader.moreBinary, Reader.symbol?, Reader.moreComparisons, Reader.comparison?, Reader.moreBoth,
    Reader.moreEither, Reader.moreChoices, Expression.ofComparisons, Expression.ofBoth, h, hnot,
    bind, Except.bind, pure, Except.pure]

/-- With a variable in it that is not read as an operator, the condition is one of that variable. -/
theorem ofText?_doneText {name : String} (h : isVariable name = true) (hnot : name ≠ "not") :
    Expression.ofText? (doneText name) = .ok
      (.both (.test "defined" (.name name) []) (.complement (.test "none" (.name name) []))) := by
  rw [isVariable, Bool.and_eq_true, Option.isNone_iff_eq_none] at h
  unfold Expression.ofText?
  rw [ofExpression_doneText h.1]
  show Reader.readExpression 200 Reader.levelLimit _ >>= _ = _
  rw [readExpression_doneWords h.2 hnot]
  rfl

/-- The condition reads the name of a slot as such. -/
theorem namesSlot_of_isSlotName {name : String} (h : isSlotName name = true) : NamesSlot name := by
  obtain ⟨hvariable, hnot, hcontext, hbuiltIn⟩ := isSlotName_iff.mp h
  exact ⟨ofText?_doneText hvariable hnot, hcontext, hbuiltIn⟩

/-- The condition takes a built-in function for a value, where the document has no field of its
name. -/
theorem holds_doneText_function {name : String} (h : name ∈ Builtin.functions) {fields : Table Json}
    (hfield : Table.get? fields name = none) : holds (doneText name) (.obj fields) = .ok true := by
  have hvariables : ∀ name ∈ Builtin.functions, isVariable name = true ∧ name ≠ "not" := by
    decide
  unfold holds
  rw [ofText?_doneText (hvariables name h).1 (hvariables name h).2]
  simp only [bind, Except.bind, pure, Except.pure, Expression.value, Expression.values,
    Scope.value_ofRoot_function hfield h]
  rfl

/-- The word that makes a complement is not read as a name. -/
theorem ofText?_doneText_not :
    Expression.ofText? (doneText "not") = .error (.syntaxError "unexpected token") := by
  unfold Expression.ofText?
  rw [ofExpression_doneText (by decide)]
  show Reader.readExpression 200 Reader.levelLimit _ >>= _ = _
  simp [doneWords, Reader.levelLimit, Reader.readExpression, Reader.readChoice, Reader.readEither,
    Reader.readBoth, Reader.readComplement, Reader.readBinary, Reader.binaryLevels,
    Reader.readOperand, Reader.readSigned, Reader.readPrimary, Reader.moreParts,
    Reader.moreFilters, Reader.constants, Reader.moreBinary, Reader.symbol?,
    Reader.moreComparisons, Reader.comparison?, Reader.moreBoth, Reader.moreEither,
    Reader.moreChoices, Reader.unexpected, Expression.ofComparisons, List.lookup_cons, bind,
    Except.bind, pure, Except.pure]

theorem holds_doneText_not (document : Json) :
    holds (doneText "not") document = .error (.syntaxError "unexpected token") := by
  unfold holds
  rw [ofText?_doneText_not]
  rfl

end Template

namespace Pattern

/-! ## Recognised slots -/

/-- Whatever is to be said and was rejected, the branch that the collect pattern starts with leads
to the end if the slot is filled, and to the step that asks for it if not. -/
def Recognises (services : Services) (slot : String) : Prop :=
  ∀ (utter : String) (rejections : List Rejection) (below : Stack) (conversation : Conversation)
    (asked : List Question), ∃ start, collectFlow.node? "start" = some start ∧
      let next := (Selection.nextNode services start collectFlow
        (collectFrame slot utter rejections :: below) conversation asked).1
      (next.map Node.id = some endId ↔ conversation.Fills slot) ∧
        (next.map Node.id = some "ask_collect" ↔ ¬ conversation.Fills slot)

variable {services : Services} {slot : String}

/-- The branch leads to the end exactly if the condition holds. -/
theorem next_start (stack : Stack) (conversation : Conversation) (asked : List Question) :
    (Selection.nextNode services start collectFlow stack conversation asked).1.map Node.id =
      some (if (Condition.holds services collectDone stack.context conversation asked).1 then endId
        else "ask_collect") := by
  rw [nextNode_start]
  split <;> rfl

/-- A slot is recognised exactly if the condition tells whether it is filled. -/
theorem recognises_iff_holds : Recognises services slot ↔
    ∀ utter rejections conversation asked,
      ((Condition.holds services collectDone
        (Stack.context [collectFrame slot utter rejections]) conversation asked).1 = true ↔
          conversation.Fills slot) := by
  have hends : ∀ done : Bool, (some (if done then endId else "ask_collect") = some endId ↔
      done = true) ∧ (some (if done then endId else "ask_collect") = some "ask_collect" ↔
        ¬ done = true) := by decide
  constructor
  · intro h utter rejections conversation asked
    obtain ⟨found, hfound, hend, -⟩ := h utter rejections [] conversation asked
    obtain rfl : start = found := Option.some.inj (node?_start.symm.trans hfound)
    rw [next_start] at hend
    exact (hends _).1.symm.trans hend
  · intro h utter rejections below conversation asked
    refine ⟨start, node?_start, ?_⟩
    dsimp only
    rw [next_start, (hends _).1, (hends _).2]
    have hholds := h utter rejections conversation asked
    exact ⟨hholds, not_congr hholds⟩

theorem collect_collectFrame (utter : String) (rejections : List Rejection) :
    Table.get? (Stack.context [collectFrame slot utter rejections]) "collect" =
      some (.str slot) := rfl

/-- Services that tell whether the slot is filled recognise it. -/
theorem recognises_of_tellsFilled (h : services.TellsFilled slot) : Recognises services slot :=
  recognises_iff_holds.mpr fun utter rejections conversation asked =>
    h _ conversation asked (collect_collectFrame utter rejections)

end Pattern

namespace Templated

open Template

variable {slot : String}

/-- The condition holds exactly if the text with the slot in it holds of the slots. -/
theorem holds_collectDone {context : Table Json}
    (h : Table.get? context "collect" = some (.str slot)) (conversation : Conversation)
    (asked : List Question) :
    (Condition.holds services Pattern.collectDone context conversation asked).1 = true ↔
      Template.holds (doneText slot) (Condition.document context conversation) = .ok true := by
  unfold Condition.holds
  simp only [Asking.bind_apply, Services.render, services, evaluator]
  rw [render_collectDone h]
  simp only [Except.mapError, Asking.bind_apply, Services.evaluate, doneText]
  cases Template.holds _ (Condition.document context conversation) <;> simp

/-- What the text with the slot in it says of the slots, in the context that asks for the slot. -/
def done (slot : String) (conversation : Conversation) : Except Failure Bool :=
  Template.holds (doneText slot)
    (Condition.document (Stack.context [Pattern.collectFrame slot "" []]) conversation)

theorem done_iff_of_recognises (h : Pattern.Recognises services slot)
    (conversation : Conversation) :
    done slot conversation = .ok true ↔ conversation.Fills slot := by
  rw [← Pattern.recognises_iff_holds.mp h "" [] conversation []]
  exact (holds_collectDone (Pattern.collect_collectFrame "" []) conversation []).symm

/-- If the slot is no variable, or hidden by the context, what it holds makes no difference. -/
theorem done_record (h : isVariable slot = false ∨ slot = "context") (conversation : Conversation)
    (value value' : Json) :
    done slot (conversation.record (.slotSet slot value)) =
      done slot (conversation.record (.slotSet slot value')) := by
  refine holds_congr _ fun name hname => ?_
  rw [Table.get?_insert, Table.get?_insert]
  by_cases hcontext : "context" = name
  · rw [if_pos hcontext, if_pos hcontext]
  · have hslot : slot ≠ name := by
      rintro rfl
      rcases h with h | h
      · rw [h] at hname
        cases hname
      · exact hcontext h.symm
    rw [if_neg hcontext, if_neg hcontext, Conversation.get?_values, Conversation.get?_values,
      Conversation.value?_record, Conversation.value?_record, Event.assigned?_slotSet,
      Event.assigned?_slotSet, if_neg hslot, if_neg hslot]

/-- The conversation that nothing happened in yet, without declared slots. -/
abbrev silence : Conversation := .fresh "" ⟨[], [], []⟩

/-- A slot about which the condition says the same whatever it holds is not recognised. -/
theorem not_recognises_of_done (hslot : slot ≠ Conversation.stackSlot)
    (h : ∀ value value', done slot (silence.record (.slotSet slot value)) =
      done slot (silence.record (.slotSet slot value'))) : ¬ Pattern.Recognises services slot := by
  intro hrecognises
  have hfilled : done slot (silence.record (.slotSet slot (.str ""))) = .ok true :=
    (done_iff_of_recognises hrecognises _).mpr ((silence.fills_record slot _).mpr ⟨hslot, nofun⟩)
  rw [h _ .null, done_iff_of_recognises hrecognises, silence.fills_record] at hfilled
  exact hfilled.2 rfl

/-- The name of a built-in function is not recognised: it always seems filled. -/
theorem not_recognises_function (h : slot ∈ Builtin.functions) :
    ¬ Pattern.Recognises services slot := by
  have hempty : ∀ slot ∈ Builtin.functions, Table.get? (silence.values.insert "context"
      (.obj (Stack.context [Pattern.collectFrame slot "" []]))) slot = none ∧
        Table.get? silence.values slot = none := by decide
  intro hrecognises
  obtain ⟨value, hvalue, -⟩ := (done_iff_of_recognises hrecognises silence).mp
    (holds_doneText_function h (hempty slot h).1)
  rw [(hempty slot h).2] at hvalue
  cases hvalue

end Templated

/-- With the services of the program the collect pattern recognises exactly the slots that have the
name of one: variables that stand neither for the context nor for a built-in function. That it
recognises no others rests on `debug` being a name that cannot be called in the language of
templates here. Expressions then see a slot by its name alone (`Template.holds_congr`), where the
text that such a call gives would tell of every slot. -/
theorem Pattern.recognises_iff (slot : String) :
    Recognises Templated.services slot ↔ Template.isSlotName slot = true := by
  constructor
  · intro h
    have hblind : ∀ {slot}, (Template.isVariable slot = false ∨ slot = "context") →
        ¬ Recognises Templated.services slot := fun hslot =>
      Templated.not_recognises_of_done (by rintro rfl; revert hslot; decide)
        fun value value' => Templated.done_record hslot Templated.silence value value'
    refine Template.isSlotName_iff.mpr ⟨?_, ?_, ?_, ?_⟩
    · exact Bool.of_not_eq_false fun hslot => hblind (Or.inl hslot) h
    · rintro rfl
      refine Templated.not_recognises_of_done (by decide) (fun value value' => ?_) h
      exact (Template.holds_doneText_not _).trans (Template.holds_doneText_not _).symm
    · exact fun hslot => hblind (Or.inr hslot) h
    · exact fun hslot => Templated.not_recognises_function hslot h
  · intro h
    exact recognises_of_tellsFilled
      (Templated.tellsFilled_services (Template.namesSlot_of_isSlotName h))

/-- A slot with a hyphen in its name is asked for although it is filled. -/
theorem Pattern.hyphenated_slot_asked_again :
    let conversation := Templated.silence.record (.slotSet "first-name" (.str "Ada"))
    conversation.Fills "first-name" ∧
      (Selection.nextNode Templated.services start collectFlow
        [collectFrame "first-name" "utter_ask_first-name" []] conversation []).1.map Node.id =
          some "ask_collect" := by
  refine ⟨(Conversation.fills_record _ _ _).mpr ⟨by decide, by decide⟩, ?_⟩
  have hholds : ¬ (Condition.holds Templated.services collectDone
      (Stack.context [collectFrame "first-name" "utter_ask_first-name" []])
      (Templated.silence.record (.slotSet "first-name" (.str "Ada"))) []).1 = true := by
    rw [Templated.holds_collectDone (collect_collectFrame _ _)]
    -- the text is a difference whose second operand is a truth value
    have hdifference : Template.holds (Template.doneText "first-name") (Condition.document
        (Stack.context [collectFrame "first-name" "utter_ask_first-name" []])
        (Templated.silence.record (.slotSet "first-name" (.str "Ada")))) =
          .error (.badOperation "-") := by decide +kernel
    rw [hdifference]
    intro hholds
    cases hholds
  rw [next_start, if_neg hholds]

end DialogueFlow
