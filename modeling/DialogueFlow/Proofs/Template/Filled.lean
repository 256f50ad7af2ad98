/-
  The condition that ends the asking for a slot, under the services of the program. Rendered for a
  slot it is an expression about the name of the slot; where that is read as a name, these services
  tell whether the slot is filled (`tellsFilled_services`).
-/
import DialogueFlow.Proofs.Turn.CollectPattern
import DialogueFlow.Templated
import Mathlib.Tactic.Common

namespace DialogueFlow.Template

/-! ## Fields of objects -/

theorem Value.order_str (first second : String) :
    (order (.str first) (.str second) == .eq) = decide (first = second) := by
  have horder : order (.str first) (.str second) = compare first second := rfl
  rw [horder]
  by_cases h : first = second
  · subst h
    simp
  · simp [h]

/-- A field of an object as a value. -/
theorem Value.valueAt?_ofJsonFields (fields : Table Json) (name : String) :
    valueAt? (ofJsonFields fields) (.str name) = (Table.get? fields name).map ofJson := by
  induction fields with
  | nil => rfl
  | cons field rest ih =>
    obtain ⟨head, value⟩ := field
    unfold valueAt? at ih ⊢
    rw [ofJsonFields, List.find?_cons, order_str, Table.get?]
    by_cases h : name = head
    · rw [if_pos h.symm, decide_eq_true h]
      rfl
    · rw [if_neg (Ne.symm h), decide_eq_false h]
      exact ih

theorem Value.rank_ofJson (value : Json) : (ofJson value).rank ≠ Value.undefined.rank := by
  cases value <;> simp [ofJson, rank]

theorem Value.rank_ofJson_eq_none {value : Json} :
    (ofJson value).rank = Value.none.rank ↔ value = .null := by
  cases value <;> simp [ofJson, rank]

/-- What a name stands for before the first statement: a field of the root, else what is built in. -/
theorem Scope.value_ofFields (fields : Table Json) (name : String) :
    (Scope.ofRoot (.ofJson (.obj fields))).value name =
      match Table.get? fields name with
      | some found => .ofJson found
      | none => if name ∈ Builtin.functions then .function name else .undefined := by
  have hroot : rootValue? (.ofJson (.obj fields)) name = (Table.get? fields name).map .ofJson := by
    rw [Value.ofJson, rootValue?, Value.valueAt?_ofJsonFields]
  unfold Scope.value
  dsimp only [ofRoot]
  rw [hroot]
  cases Table.get? fields name <;> rfl

theorem Scope.value_ofRoot {fields : Table Json} {name : String} {found : Json}
    (h : Table.get? fields name = some found) :
    (Scope.ofRoot (.ofJson (.obj fields))).value name = .ofJson found := by
  rw [value_ofFields, h]

/-- A name that the root does not have and that is not built in is undefined. -/
theorem Scope.value_ofRoot_none {fields : Table Json} {name : String}
    (h : Table.get? fields name = none) (hname : name ∉ Builtin.functions) :
    (Scope.ofRoot (.ofJson (.obj fields))).value name = .undefined := by
  rw [value_ofFields, h]
  exact if_neg hname

/-- A name that the root does not have stands for the built-in function of that name. -/
theorem Scope.value_ofRoot_function {fields : Table Json} {name : String}
    (h : Table.get? fields name = none) (hname : name ∈ Builtin.functions) :
    (Scope.ofRoot (.ofJson (.obj fields))).value name = .function name := by
  rw [value_ofFields, h]
  exact if_pos hname

/-- Names of the root that are the same stand for the same. -/
theorem Scope.value_ofRoot_congr {fields fields' : Table Json} {name : String}
    (h : Table.get? fields name = Table.get? fields' name) :
    (Scope.ofRoot (.ofJson (.obj fields))).value name =
      (Scope.ofRoot (.ofJson (.obj fields'))).value name := by
  rw [value_ofFields, value_ofFields, h]

/-! ## The condition -/

theorem tokens_collectDone : Token.ofTemplate Pattern.collectDone =
    .ok [.openOutput, .name "context", .symbol ".", .name "collect", .closeOutput,
      .text " is defined and ", .openOutput, .name "context", .symbol ".", .name "collect",
      .closeOutput, .text " is not none"] := by decide +kernel

/-- In an output, the name of the slot is a member of the context. -/
theorem readExpression_collectName (fuel : Nat) (tokens : List Token) :
    Reader.readExpression (fuel + 30) Reader.levelLimit
      (.name "context" :: .symbol "." :: .name "collect" :: .closeOutput :: tokens) =
        .ok (.member (.name "context") "collect", .closeOutput :: tokens) := by
  simp [Reader.levelLimit, Reader.readExpression, Reader.readChoice, Reader.readEither,
    Reader.readBoth, Reader.readComplement, Reader.readBinary, Reader.binaryLevels,
    Reader.readOperand, Reader.readSigned, Reader.readPrimary, Reader.moreParts,
    Reader.moreFilters, Reader.constants, Reader.moreBinary, Reader.symbol?,
    Reader.moreComparisons, Reader.comparison?, Reader.moreBoth, Reader.moreEither,
    Reader.moreChoices, Expression.ofComparisons, List.lookup_cons, bind, Except.bind, pure,
    Except.pure]

theorem statements_collectDone : Statement.ofText? Pattern.collectDone =
    .ok [.output (.member (.name "context") "collect"), .literal " is defined and ",
      .output (.member (.name "context") "collect"), .literal " is not none"] := by
  unfold Statement.ofText?
  rw [tokens_collectDone]
  simp [Reader.fuelFor, Reader.readBody, readExpression_collectName, Reader.expect, bind,
    Except.bind, pure, Except.pure]

/-- The condition names the slot that the context says. -/
theorem render_collectDone {context : Table Json} {slot : String}
    (h : Table.get? context "collect" = some (.str slot)) :
    render Pattern.collectDone (Condition.templateRoot context) =
      .ok (slot ++ (" is defined and " ++ (slot ++ " is not none"))) := by
  have hcontext : (Scope.ofRoot (.ofJson (Condition.templateRoot context))).value "context" =
      .ofJson (.obj context) := Scope.value_ofRoot (by simp [Table.get?])
  have hmember : (Expression.member (.name "context") "collect").value
      (.ofRoot (.ofJson (Condition.templateRoot context))) = .ok (.str slot) := by
    rw [Expression.value, Expression.value, hcontext]
    change Except.ok (((Value.valueAt? (Value.ofJsonFields context) (.str "collect")).getD
      .undefined)) = _
    rw [Value.valueAt?_ofJsonFields, h]
    rfl
  unfold render
  rw [statements_collectDone]
  simp [Statement.renderAll, Statement.render, hmember, bind, Except.bind, pure, Except.pure,
    Value.text]

/-- The name is that of a slot: the rendered condition reads it as a name, which stands neither for
the context nor for a built-in function. -/
structure NamesSlot (name : String) : Prop where
  reads : Expression.ofText? (name ++ (" is defined and " ++ (name ++ " is not none"))) =
    .ok (.both (.test "defined" (.name name) []) (.complement (.test "none" (.name name) [])))
  not_context : name ≠ "context"
  not_builtIn : name ∉ Builtin.functions

/-- The expression is true of a document exactly if it has a value other than null. -/
theorem NamesSlot.holds_iff {name : String} (h : NamesSlot name) (fields : Table Json) :
    holds (name ++ (" is defined and " ++ (name ++ " is not none"))) (.obj fields) =
      .ok (decide (∃ value, Table.get? fields name = some value ∧ value ≠ .null)) := by
  have hdefined : ∀ value, Builtin.test "defined" value [] =
      .ok (value.rank ≠ Value.undefined.rank) := fun _ => rfl
  have hnone : ∀ value, Builtin.test "none" value [] = .ok (value.rank = Value.none.rank) :=
    fun _ => rfl
  unfold holds
  rw [h.reads]
  simp only [bind, Except.bind, pure, Except.pure, Expression.value, Expression.values, hdefined,
    hnone, Value.isTrue]
  cases hfield : Table.get? fields name with
  | none =>
    rw [Scope.value_ofRoot_none hfield h.not_builtIn]
    simp
  | some found =>
    rw [Scope.value_ofRoot hfield]
    simp [Value.rank_ofJson, Value.rank_ofJson_eq_none]

end DialogueFlow.Template

namespace DialogueFlow.Templated

open Template

/-- The services of the program tell whether a slot is filled. -/
theorem tellsFilled_services {slot : String} (h : NamesSlot slot) :
    services.TellsFilled slot := by
  intro context conversation asked hcontext
  unfold Condition.holds
  simp only [Asking.bind_apply, Services.render, services, evaluator]
  rw [render_collectDone hcontext]
  have hdocument : Table.get? (conversation.values.insert "context" (.obj context)) slot =
      Table.get? conversation.values slot := by
    rw [Table.get?_insert, if_neg (Ne.symm h.not_context)]
  simp only [Except.mapError, Asking.bind_apply, Services.evaluate, Condition.document,
    h.holds_iff, Asking.pure_apply, hdocument, decide_eq_true_eq, Conversation.Fills]

end DialogueFlow.Templated
