/-
  The texts of help: what a command is for, how it is called, and its options.
-/
import DialogueFlow.Command.Request

namespace DialogueFlow.Command

/-- The lines of the help on a topic. -/
def helpLines : Topic → List String
  | .program =>
    ["Stack-based executor for conversational flows",
      "",
      "Usage: executor <COMMAND>",
      "",
      "Commands:",
      "  validate  Check a flow catalog against the schema and invariants",
      "  start     Push a flow onto the dialogue stack of a stored conversation",
      "  advance   Run one turn and print the predicted action",
      "  help      Print this message or the help of the given subcommand(s)",
      "",
      "Options:",
      "  -h, --help     Print help",
      "  -V, --version  Print version"]
  | .validate =>
    ["Check a flow catalog against the schema and invariants",
      "",
      "Usage: executor validate --flows <FLOWS>",
      "",
      "Options:",
      "      --flows <FLOWS>  ",
      "  -h, --help           Print help"]
  | .start =>
    ["Push a flow onto the dialogue stack of a stored conversation",
      "",
      "Usage: executor start [OPTIONS] --state <STATE> --flow-id <FLOW_ID>",
      "",
      "Options:",
      "      --state <STATE>            ",
      "      --flow-id <FLOW_ID>        ",
      "      --flows <FLOWS>            Catalog to check the flow id against",
      "      --frame-type <FRAME_TYPE>  Frame type of the new frame [default: regular]",
      "      --domain <DOMAIN>          [default: domain.toml]",
      "  -h, --help                     Print help"]
  | .advance =>
    ["Run one turn and print the predicted action",
      "",
      "Usage: executor advance [OPTIONS] --flows <FLOWS> --state <STATE>",
      "",
      "Options:",
      "      --flows <FLOWS>    ",
      "      --domain <DOMAIN>  [default: domain.toml]",
      "      --state <STATE>    ",
      "      --slot <SLOTS>     Slot values to record before the turn " ++
        "(`key=value`, value as JSON or plain",
      "                         text)",
      "      --commit           Append the turn's events and the executed action to the state file",
      "      --config <CONFIG>  [default: executor.toml]",
      "  -h, --help             Print help"]
  | .help =>
    ["Print this message or the help of the given subcommand(s)",
      "",
      "Usage: executor help [COMMAND]...",
      "",
      "Arguments:",
      "  [COMMAND]...  Print help for the subcommand(s)"]

/-- The text of the help on a topic. -/
def helpText (topic : Topic) : String := String.join ((helpLines topic).map (· ++ "\n"))

end DialogueFlow.Command
