import DialogueFlow.Files.Tree
import DialogueFlow.Scripted
import DialogueFlow.Main
import DialogueFlow.Proofs.Turn.Persistence
import DialogueFlow.Proofs.Turn.Termination
import DialogueFlow.Proofs.Turn.Calls
import DialogueFlow.Proofs.Turn.Attendance
import DialogueFlow.Proofs.Turn.Collecting
import DialogueFlow.Proofs.Template.Filled
import DialogueFlow.Proofs.Json.Normal
import DialogueFlow.Proofs.Json.Acceptance
import DialogueFlow.Proofs.Catalog.Shape
import DialogueFlow.Proofs.Json.Strings
import DialogueFlow.Proofs.Json.Numbers
import DialogueFlow.Proofs.Json.Printing
import DialogueFlow.Proofs.Conversation.Storage
import DialogueFlow.Proofs.Catalog.Assignments
import DialogueFlow.Proofs.Conversation.Contents
import DialogueFlow.Proofs.Turn.Contents
import DialogueFlow.Proofs.Command.Outcome
import DialogueFlow.Proofs.Command.Requests
import DialogueFlow.Proofs.Toml.Normal
import DialogueFlow.Proofs.Command.Readable
import DialogueFlow.Proofs.Turn.Visits
import DialogueFlow.Proofs.Turn.Interruption
import DialogueFlow.Proofs.Turn.SlotView
import DialogueFlow.Proofs.Command.Appending
import DialogueFlow.Proofs.Command.Status
import DialogueFlow.Proofs.Turn.Recognition
import DialogueFlow.Proofs.Turn.AskingAgain
import DialogueFlow.Proofs.Turn.Endings
import DialogueFlow.Proofs.Turn.Choice
import DialogueFlow.Proofs.Turn.Stalling
import DialogueFlow.Proofs.Turn.Activation
import DialogueFlow.Proofs.Catalog.Violations
import DialogueFlow.Proofs.Conversation.Resets
import DialogueFlow.Proofs.Turn.Lookups
import DialogueFlow.Proofs.Conversation.Records
import DialogueFlow.Proofs.Catalog.Reloading
import DialogueFlow.Proofs.Conversation.Log
