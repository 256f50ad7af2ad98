/-
  What the arguments of the program ask for. An option is followed by its value, as the next
  argument or behind a sign; each may be given once but for the slots, and every path has a name.
  The first argument that asks for help gets it if those before it can be read: it does not matter
  what is missing then, and what follows is not looked at.
-/
import DialogueFlow.Command.Basic

namespace DialogueFlow.Command

/-- What help is about: the program, or one of its commands. -/
inductive Topic where
  | program
  | validate
  | start
  | advance
  | help
  deriving DecidableEq, Repr

/-- What the arguments ask for. -/
inductive Request where
  | version
  | help (topic : Topic)
  | run (command : Command)
  deriving DecidableEq, Repr

/-! ## Options -/

/-- The options of a command: those with a value, and those without. -/
structure OptionNames where
  valued : List String
  /-- Options with a value that may be given more than once. -/
  repeatable : List String
  flags : List String

/-- The options that were given, with the values of those that have one. -/
abbrev Given := List (String × Option String)

/-- Whether an argument is an option rather than the value of one. -/
def isOption (argument : String) : Bool :=
  match argument.toList with
  | '-' :: _ :: _ => true
  | _ => false

/-- Whether an argument is the long option, or begins with the short one. -/
def asksFor (long : String) (short : Char) (argument : String) : Bool :=
  match argument.toList with
  | '-' :: c :: _ => c = short || argument = long
  | _ => false

/-- Whether an argument asks for help. -/
def asksForHelp : String → Bool := asksFor "--help" 'h'

/-- Whether an argument asks for the version. -/
def asksForVersion : String → Bool := asksFor "--version" 'V'

/-- An option's name, and its value if it is behind a sign in the same argument. -/
def splitOption? (argument : String) : Option (String × Option String) :=
  match argument.toList with
  | '-' :: '-' :: c :: rest =>
    let name := (c :: rest).takeWhile (· ≠ '=')
    match (c :: rest).dropWhile (· ≠ '=') with
    | [] => some (String.ofList name, none)
    | _ :: value => some (String.ofList name, some (String.ofList value))
  | _ => none

/-- An option may be given again, or is given for the first time. -/
def mayGive (names : OptionNames) (given : Given) (name : String) : Bool :=
  name ∈ names.repeatable || !given.any (·.1 = name)

/-- The options in the arguments, in order. -/
def readOptions? (names : OptionNames) : Given → List String → Option Given
  | given, [] => some given
  | given, ["--"] => some given
  | given, argument :: rest =>
    match splitOption? argument with
    | none => none
    | some (name, value) =>
      if !mayGive names given name then none
      else if name ∈ names.flags then
        if value = none then readOptions? names (given ++ [(name, none)]) rest else none
      else if name ∉ names.valued then none
      else
        match value, rest with
        | some value, rest => readOptions? names (given ++ [(name, some value)]) rest
        | none, value :: rest =>
          if isOption value then none
          else readOptions? names (given ++ [(name, some value)]) rest
        | none, [] => none

/-! ## Values -/

/-- The value of an option that was given. -/
def valueOf? (given : Given) (name : String) : Option String := (given.lookup name).join

/-- A path that was given; the empty path is refused. -/
def path? (given : Given) (name : String) : Option String :=
  match valueOf? given name with
  | some path => if path = "" then none else some path
  | none => none

/-- A path that has a default. -/
def pathOr? (given : Given) (name default : String) : Option String :=
  if given.any (·.1 = name) then path? given name else some default

/-- A path that may be left out. -/
def optionalPath? (given : Given) (name : String) : Option (Option String) :=
  if given.any (·.1 = name) then (path? given name).map some else some none

/-- The kind of frame that a text names. -/
def frameKind? (text : String) : Option FrameKind := (FrameKind.named text).toOption

/-- A slot's name and value around the first sign: the name without outer blanks, and the value
read as JSON or else as the text that it is. -/
def slot? (text : String) : Option (String × Json) :=
  let cs := text.toList
  let key := Text.trim (String.ofList (cs.takeWhile (· ≠ '=')))
  match cs.dropWhile (· ≠ '=') with
  | [] => none
  | _ :: value =>
    if key = "" then none
    else
      let value := String.ofList value
      some (key, (Json.parse? value).getD (.str value))

/-- The slots that were given, in order. -/
def slots? (given : Given) : Option (List (String × Json)) :=
  (given.filter (·.1 = "slot")).mapM fun option => option.2.bind slot?

/-- Whether the value that an option was given can be read. -/
def isReadable : String × Option String → Bool
  | ("frame-type", some text) => (frameKind? text).isSome
  | ("slot", some text) => (slot? text).isSome
  | ("flow-id", some _) => true
  | (_, some path) => path ≠ ""
  | (_, none) => true

/-! ## Commands -/

/-- The options of `validate`. -/
def validateOptions : OptionNames := ⟨["flows"], [], []⟩

/-- The options of `start`. -/
def startOptions : OptionNames := ⟨["state", "flow-id", "flows", "frame-type", "domain"], [], []⟩

/-- The options of `advance`. -/
def advanceOptions : OptionNames :=
  ⟨["flows", "domain", "state", "slot", "config"], ["slot"], ["commit"]⟩

/-- The command of `validate`. -/
def validate? (arguments : List String) : Option Command := do
  let given ← readOptions? validateOptions [] arguments
  return .validate (← path? given "flows")

/-- The command of `start`. -/
def start? (arguments : List String) : Option Command := do
  let given ← readOptions? startOptions [] arguments
  let kind ← frameKind? ((valueOf? given "frame-type").getD FrameKind.regular.name)
  return .start (← path? given "state") (← valueOf? given "flow-id")
    (← optionalPath? given "flows") kind (← pathOr? given "domain" "domain.toml")

/-- The command of `advance`. -/
def advance? (arguments : List String) : Option Command := do
  let given ← readOptions? advanceOptions [] arguments
  return .advance (← path? given "flows") (← pathOr? given "domain" "domain.toml")
    (← path? given "state") (← slots? given) (given.any (·.1 = "commit"))
    (← pathOr? given "config" "executor.toml")

/-! ## Requests -/

/-- Help on a command, if all arguments before those that ask for it can be read. -/
def help? (topic : Topic) (names : OptionNames) (before : List String) : Option Request :=
  match readOptions? names [] before with
  | some given => if "--" ∉ before ∧ given.all isReadable then some (.help topic) else none
  | none => none

/-- What the arguments behind the name of a command ask for. -/
def ofCommand? (topic : Topic) (names : OptionNames) (command? : List String → Option Command)
    (arguments : List String) : Option Request :=
  if arguments.any asksForHelp then
    help? topic names (arguments.takeWhile fun argument => !asksForHelp argument)
  else (command? arguments).map .run

/-- What the arguments behind the command `help` name. -/
def topic? : List String → Option Topic
  | [] => some .program
  | ["validate"] => some .validate
  | ["start"] => some .start
  | ["advance"] => some .advance
  | ["help"] => some .help
  | _ => none

/-- What the arguments of the program ask for. -/
def ofArguments? : List String → Option Request
  | "validate" :: rest => ofCommand? .validate validateOptions validate? rest
  | "start" :: rest => ofCommand? .start startOptions start? rest
  | "advance" :: rest => ofCommand? .advance advanceOptions advance? rest
  | "help" :: rest => (topic? rest).map .help
  | argument :: _ =>
    if asksForHelp argument then some (.help .program)
    else if asksForVersion argument then some .version
    else none
  | [] => none

end DialogueFlow.Command
