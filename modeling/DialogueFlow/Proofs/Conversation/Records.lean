/-
  Persisted records. A frame is written field by field under fixed names; `toRecord_eq` says that
  this is what the declaration of frames prescribes: the names of the form in their order, kinds as
  declared but in small letters, an absent context as null. What was written is read as it was,
  whatever order the fields of an object stand in. A stack has one written form (`toJson_inj`), while
  many more values are read as it. Main statement: `records_read_back`.
-/
import Mathlib.Data.String.Basic
import DialogueFlow.Proofs.Conversation.Replay
import DialogueFlow.Proofs.Json.Normal
import DialogueFlow.SavedConversation
import DialogueFlow.Stack

namespace DialogueFlow

/-! ## Records as they are declared -/

/-- The name under which the kind is declared. -/
def FrameKind.declaredName : FrameKind → String
  | .interrupt => "Interrupt"
  | .remark => "Remark"
  | .link => "Link"
  | .correction => "Correction"
  | .regular => "Regular"
  | .docsearch => "Docsearch"
  | .intentless => "Intentless"
  | .pattern => "Pattern"

/-- The declared name in small letters. -/
def FrameKind.declared (kind : FrameKind) : Json :=
  .str (String.ofList (kind.declaredName.toList.map Char.toLower))

/-- The fields of a frame, in the order of its form, as an object. -/
def Frame.declared (frame : Frame) : Json :=
  let values := [.str frame.flowId, .str frame.stepId, frame.kind.declared,
    (frame.context.map Json.obj).getD .null]
  Json.ordered (.obj (form.names.zip values))

/-- The frames of a stack as an array, bottom first. -/
def Stack.declared (stack : Stack) : Json := .arr ((List.reverse stack).map Frame.declared)

theorem FrameKind.declared_eq (kind : FrameKind) : kind.declared = .str kind.name := by
  cases kind <;> decide

/-- A frame is written as it is declared. -/
theorem Frame.toRecord_eq (frame : Frame) : frame.toRecord = frame.declared := by
  unfold Frame.declared
  rw [FrameKind.declared_eq]
  simp [-String.lt_iff_ltb, toRecord, form, Json.ordered_obj, Table.ofEntries, Table.insert]

theorem Stack.toJson_eq (stack : Stack) : stack.toJson = stack.declared := by
  unfold Stack.toJson Stack.declared
  rw [funext Frame.toRecord_eq]

/-! ## Reading records back -/

/-- A stack that was persisted is the one that the conversation holds. -/
theorem Stack.ofConversation_persist (conversation : Conversation) (stack : Stack) :
    ofConversation (conversation.record stack.persist) = .ok stack := by
  unfold ofConversation
  rw [Conversation.value?_record, persist, Event.assigned?_slotSet, if_pos rfl, Option.some_or]
  exact decode_toJson stack

/-- The event is read as it was from its fields in ascending order. -/
theorem Event.decode_ordered (event : Event) : decode event.toJson.ordered = .ok event := by
  cases event <;>
    simp [-String.lt_iff_ltb, toJson, Json.ordered_obj, Table.ofEntries, Table.insert] <;> rfl

/-- A saved conversation with the fields of all its records in ascending order. -/
def SavedConversation.ordered (saved : SavedConversation) : Json :=
  Json.ordered (.obj [("sender_id", .str saved.sender),
    ("events", .arr (saved.events.map fun event => event.toJson.ordered))])

theorem SavedConversation.decode_ordered (saved : SavedConversation) :
    decode saved.ordered = .ok saved := by
  have hevents : Decode.list Event.decode
      (.arr (saved.events.map fun event => event.toJson.ordered)) = .ok saved.events :=
    Decode.list_written fun event _ => event.decode_ordered
  simp [-String.lt_iff_ltb, ordered, Json.ordered_obj, Table.ofEntries, Table.insert, decode,
    Decode.RecordForm.decode, Decode.RecordForm.ofFields, Decode.RecordForm.setAll, form,
    Decode.text, Except.map, hevents]

/-- Records are read as they were written. A stack is written as frames are declared, is read as it
was, also from a conversation whose slot it has just been persisted to, and shares its written form
with no other. A saved conversation is read as it was, whatever order its fields were written in. What
any value at all was read as is, once written, read as the same stack again. -/
theorem records_read_back :
    (∀ stack : Stack, Stack.decode stack.toJson = .ok stack ∧ stack.toJson = stack.declared ∧
      ∀ other : Stack, other.toJson = stack.toJson ↔ other = stack) ∧
    (∀ (conversation : Conversation) (stack : Stack),
      Stack.ofConversation (conversation.record stack.persist) = .ok stack) ∧
    (∀ saved : SavedConversation, SavedConversation.decode saved.toJson = .ok saved ∧
      SavedConversation.decode saved.ordered = .ok saved) ∧
    ∀ (value : Json) (stack : Stack), Stack.decode value = .ok stack →
      Stack.decode stack.toJson = .ok stack := by
  refine ⟨fun stack => ⟨?_, ?_, fun other => Stack.toJson_inj⟩, ?_, fun saved => ⟨?_, ?_⟩, ?_⟩
  · exact Stack.decode_toJson stack
  · exact Stack.toJson_eq stack
  · exact Stack.ofConversation_persist
  · exact SavedConversation.decode_toJson saved
  · exact SavedConversation.decode_ordered saved
  · exact fun _ stack _ => Stack.decode_toJson stack

/-- Three frames: an array with its end left out; an object with the kind as a field of its own, an
empty context and a field that no frame has; and an object with null as its kind and context. -/
def looseRecords : Json :=
  .arr [.arr [.str "order", .str "size"],
    .obj [("context", .obj []), ("flow_id", .str "pay"), ("frame_type", .obj [("link", .null)]),
      ("noted", .bool true)],
    .obj [("context", .null), ("flow_id", .str "tips"), ("frame_type", .null)]]

/-- The frames of these records, the last one on top. -/
def looseStack : Stack :=
  [.atStart "tips" .regular, { Frame.atStart "pay" .link with context := some [] },
    ⟨"order", "size", .regular, none⟩]

/-- They are written otherwise than they were read, and then read as the same frames. -/
theorem loose_records_read_back :
    Stack.decode looseRecords = .ok looseStack ∧ looseStack.toJson ≠ looseRecords ∧
      Stack.decode looseStack.toJson = .ok looseStack := by
  have hread : Stack.decode looseRecords = .ok looseStack := rfl
  exact ⟨hread, by decide, records_read_back.2.2.2 _ _ hread⟩

end DialogueFlow
