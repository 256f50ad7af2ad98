/-
  Reading expressions and templates from their tokens. From the weakest to the strongest, operators
  are: the conditional, `or`, `and`, `not`, the comparisons, sum and difference, joining, product
  and quotient, power, the minus sign; the last three of an operand are its attributes, items and
  calls, then its filters and tests. Operators of one strength group to the left. Each reader
  returns what it read and the tokens behind. Of expressions, operands and statements only so many
  may be open inside one another; the fuel merely bounds how deep readers call each other.
  Statements are conditions, loops and assignments; other statements of the language of templates,
  slices of items and arguments with names are not read.
-/
import DialogueFlow.Template.Folding
import DialogueFlow.Template.Token

namespace DialogueFlow.Template

/-- What reads something from the head of the tokens, where `room` more levels may be opened. -/
abbrev Reader (α : Type) := (room : Nat) → List Token → Except Failure (α × List Token)

namespace Reader

/-- How many expressions, operands and statements may be open inside one another. -/
def levelLimit : Nat := 150

/-- A failure for too many levels. -/
def tooDeep {α : Type} : Except Failure α := .error (.syntaxError "too many levels")

/-- A failure to read on. -/
def unexpected {α : Type} : Except Failure α := .error (.syntaxError "unexpected token")

/-- The tokens behind an expected one. -/
def expect (token : Token) : List Token → Except Failure (List Token)
  | found :: rest => if found = token then .ok rest else unexpected
  | [] => unexpected

/-- The operators between operands, the weakest first. -/
def binaryLevels : List (List (String × Operator)) :=
  [[("+", .add), ("-", .subtract)],
    [("~", .join)],
    [("*", .multiply), ("/", .divide), ("//", .floorDivide), ("%", .modulo)],
    [("**", .power)]]

/-- The comparisons that are symbols. -/
def comparisons : List (String × Comparison) :=
  [("==", .equal), ("!=", .unequal), ("<", .less), ("<=", .atMost), (">", .greater),
    (">=", .atLeast)]

/-- What the symbol at the head of the tokens stands for in a table. -/
def symbol? {α : Type} (table : List (String × α)) : List Token → Option (α × List Token)
  | .symbol s :: rest => (table.lookup s).map (·, rest)
  | _ => none

/-- A comparison at the head of the tokens. -/
def comparison? : List Token → Option (Comparison × List Token)
  | .name "in" :: rest => some (.contained, rest)
  | .name "not" :: .name "in" :: rest => some (.missing, rest)
  | tokens => symbol? comparisons tokens

/-- The values that names always stand for. -/
def constants : List (String × Value) :=
  [("true", .bool true), ("True", .bool true), ("false", .bool false), ("False", .bool false),
    ("none", .none), ("None", .none)]

/-- Names that cannot be bound. -/
def reserved : List String := constants.map (·.1) ++ ["loop", "self"]

/-- Names that do not start the argument of a test. -/
def afterTest : List String := ["and", "or", "else", "is"]

/-- The argument of a test may follow without parentheses if it starts with such a token. -/
def startsArgument : List Token → Bool
  | .name s :: _ => s ∉ afterTest
  | .str _ :: _ => true
  | .int _ :: _ => true
  | .float _ :: _ => true
  | .symbol s :: _ => s ∈ ["+", "-", "[", "\x7b"]
  | _ => false

/-- Texts side by side, put together. -/
def readTexts : String → List Token → String × List Token
  | s, .str t :: rest => readTexts (s ++ t) rest
  | s, rest => (s, rest)

/-! ## Expressions -/

mutual

/-- An expression: alternatives with `if` and `else` between them. -/
def readExpression : Nat → Reader Expression
  | 0, _, _ => unexpected
  | _ + 1, 0, _ => tooDeep
  | fuel + 1, room + 1, tokens => readChoice fuel room tokens

/-- Alternatives with `if` and `else` between them. -/
def readChoice : Nat → Reader Expression
  | 0, _, _ => unexpected
  | fuel + 1, room, tokens => do
    let (first, tokens) ← readEither fuel room tokens
    moreChoices fuel first room tokens

/-- The conditions behind an expression. -/
def moreChoices : Nat → Expression → Reader Expression
  | 0, _, _, _ => unexpected
  | fuel + 1, yes, room, .name "if" :: tokens => do
    let (test, tokens) ← readEither fuel room tokens
    match tokens with
    | .name "else" :: tokens => do
      let (no, tokens) ← readChoice fuel room tokens
      moreChoices fuel (.choice test yes no) room tokens
    | tokens => moreChoices fuel (.choice test yes (.constant .undefined)) room tokens
  | _ + 1, first, _, tokens => .ok (first, tokens)

/-- Operands of `or`. -/
def readEither : Nat → Reader Expression
  | 0, _, _ => unexpected
  | fuel + 1, room, tokens => do
    let (first, tokens) ← readBoth fuel room tokens
    moreEither fuel first room tokens

/-- The operands of `or` behind the first. -/
def moreEither : Nat → Expression → Reader Expression
  | 0, _, _, _ => unexpected
  | fuel + 1, left, room, .name "or" :: tokens => do
    let (right, tokens) ← readBoth fuel room tokens
    moreEither fuel (.ofEither left right) room tokens
  | _ + 1, left, _, tokens => .ok (left, tokens)

/-- Operands of `and`. -/
def readBoth : Nat → Reader Expression
  | 0, _, _ => unexpected
  | fuel + 1, room, tokens => do
    let (first, tokens) ← readComplement fuel room tokens
    moreBoth fuel first room tokens

/-- The operands of `and` behind the first. -/
def moreBoth : Nat → Expression → Reader Expression
  | 0, _, _, _ => unexpected
  | fuel + 1, left, room, .name "and" :: tokens => do
    let (right, tokens) ← readComplement fuel room tokens
    moreBoth fuel (.ofBoth left right) room tokens
  | _ + 1, left, _, tokens => .ok (left, tokens)

/-- An operand of `not`. -/
def readComplement : Nat → Reader Expression
  | 0, _, _ => unexpected
  | fuel + 1, room, .name "not" :: tokens => do
    let (operand, tokens) ← readComplement fuel room tokens
    return (.ofComplement operand, tokens)
  | fuel + 1, room, tokens => do
    let (first, tokens) ← readBinary fuel binaryLevels room tokens
    let (rest, tokens) ← moreComparisons fuel room tokens
    return (.ofComparisons first rest, tokens)

/-- The comparisons behind an operand, each with its right side. -/
def moreComparisons : Nat → Reader (List (Comparison × Expression))
  | 0, _, _ => unexpected
  | fuel + 1, room, tokens =>
    match comparison? tokens with
    | none => .ok ([], tokens)
    | some (comparison, tokens) => do
      let (right, tokens) ← readBinary fuel binaryLevels room tokens
      let (rest, tokens) ← moreComparisons fuel room tokens
      return ((comparison, right) :: rest, tokens)

/-- Operands of the operators of these levels. -/
def readBinary : Nat → List (List (String × Operator)) → Reader Expression
  | 0, _, _, _ => unexpected
  | fuel + 1, [], room, tokens => readOperand fuel room tokens
  | fuel + 1, level :: stronger, room, tokens => do
    let (first, tokens) ← readBinary fuel stronger room tokens
    moreBinary fuel level stronger first room tokens

/-- The operands of a level behind the first. -/
def moreBinary : Nat → List (String × Operator) → List (List (String × Operator)) →
    Expression → Reader Expression
  | 0, _, _, _, _, _ => unexpected
  | fuel + 1, level, stronger, left, room, tokens =>
    match symbol? level tokens with
    | none => .ok (left, tokens)
    | some (op, tokens) => do
      let (right, tokens) ← readBinary fuel stronger room tokens
      moreBinary fuel level stronger (.ofOperation op left right) room tokens

/-- An operand with its attributes, items and calls, then its filters and tests. -/
def readOperand : Nat → Reader Expression
  | 0, _, _ => unexpected
  | fuel + 1, room, tokens => do
    let (subject, tokens) ← readSigned fuel room tokens
    let (subject, tokens) ← moreParts fuel subject room tokens
    moreFilters fuel subject room tokens

/-- A primary, with minus signs before it. -/
def readSigned : Nat → Reader Expression
  | 0, _, _ => unexpected
  | fuel + 1, room, .symbol "-" :: tokens => do
    let (operand, tokens) ← readSigned fuel room tokens
    return (.ofNegative operand, tokens)
  | fuel + 1, room, tokens => readPrimary fuel room tokens

/-- The attributes, items and calls behind an expression; a number behind a point is an index. -/
def moreParts : Nat → Expression → Reader Expression
  | 0, _, _, _ => unexpected
  | fuel + 1, owner, room, .symbol "." :: .name s :: tokens =>
    moreParts fuel (.member owner s) room tokens
  | fuel + 1, owner, room, .symbol "." :: .int n :: tokens =>
    moreParts fuel (.item owner (.constant (.ofNat n))) room tokens
  | fuel + 1, owner, room, .symbol "[" :: tokens => do
    let (index, tokens) ← readExpression fuel room tokens
    let tokens ← expect (.symbol "]") tokens
    moreParts fuel (.item owner index) room tokens
  | fuel + 1, callee, room, .symbol "(" :: tokens => do
    let (arguments, tokens) ← readItems fuel ")" false room tokens
    moreParts fuel (.call callee arguments) room tokens
  | _ + 1, _, _, .symbol "." :: _ => unexpected
  | _ + 1, owner, _, tokens => .ok (owner, tokens)

/-- The filters and tests behind an expression. -/
def moreFilters : Nat → Expression → Reader Expression
  | 0, _, _, _ => unexpected
  | fuel + 1, subject, room, .symbol "|" :: .name s :: tokens => do
    let (arguments, tokens) ← readArguments fuel room tokens
    moreFilters fuel (.filter s subject arguments) room tokens
  | fuel + 1, subject, room, .name "is" :: .name "not" :: .name s :: tokens => do
    let (arguments, tokens) ← readTestArguments fuel room tokens
    moreFilters fuel (.complement (.test s subject arguments)) room tokens
  | fuel + 1, subject, room, .name "is" :: .name s :: tokens => do
    let (arguments, tokens) ← readTestArguments fuel room tokens
    moreFilters fuel (.test s subject arguments) room tokens
  | _ + 1, _, _, .symbol "|" :: _ => unexpected
  | _ + 1, _, _, .name "is" :: _ => unexpected
  | _ + 1, subject, _, tokens => .ok (subject, tokens)

/-- Arguments in parentheses, if a parenthesis stands there. -/
def readArguments : Nat → Reader (List Expression)
  | 0, _, _ => unexpected
  | fuel + 1, room, .symbol "(" :: tokens => readItems fuel ")" false room tokens
  | _ + 1, _, tokens => .ok ([], tokens)

/-- The arguments of a test: in parentheses, or one without. -/
def readTestArguments : Nat → Reader (List Expression)
  | 0, _, _ => unexpected
  | fuel + 1, room, .symbol "(" :: tokens => readItems fuel ")" false room tokens
  | fuel + 1, room, tokens =>
    if startsArgument tokens then do
      let (argument, tokens) ← readSigned fuel room tokens
      let (argument, tokens) ← moreParts fuel argument room tokens
      return ([argument], tokens)
    else .ok ([], tokens)

/-- Expressions up to the closing bracket, with commas between them and perhaps one behind; the
first is preceded by a comma if `continued`. -/
def readItems : Nat → (closing : String) → (continued : Bool) → Reader (List Expression)
  | 0, _, _, _, _ => unexpected
  | fuel + 1, closing, continued, room, tokens => do
    if tokens.head? = some (.symbol closing) then return ([], tokens.drop 1)
    let tokens ← if continued then expect (.symbol ",") tokens else .ok tokens
    if continued ∧ tokens.head? = some (.symbol closing) then return ([], tokens.drop 1)
    let (first, tokens) ← readExpression fuel room tokens
    let (more, tokens) ← readItems fuel closing true room tokens
    return (first :: more, tokens)

/-- The entries of a map up to the closing brace. -/
def readEntries : Nat → (continued : Bool) → Reader (List (Expression × Expression))
  | 0, _, _, _ => unexpected
  | fuel + 1, continued, room, tokens => do
    if tokens.head? = some (.symbol "\x7d") then return ([], tokens.drop 1)
    let tokens ← if continued then expect (.symbol ",") tokens else .ok tokens
    if continued ∧ tokens.head? = some (.symbol "\x7d") then return ([], tokens.drop 1)
    let (key, tokens) ← readExpression fuel room tokens
    let tokens ← expect (.symbol ":") tokens
    let (value, tokens) ← readExpression fuel room tokens
    let (more, tokens) ← readEntries fuel true room tokens
    return ((key, value) :: more, tokens)

/-- A name, a literal or an expression in brackets. -/
def readPrimary : Nat → Reader Expression
  | 0, _, _ => unexpected
  | _ + 1, 0, _ => tooDeep
  | _ + 1, _ + 1, .name s :: tokens =>
    match constants.lookup s with
    | some value => .ok (.constant value, tokens)
    | none => .ok (.name s, tokens)
  | _ + 1, _ + 1, .str s :: tokens =>
    let (s, tokens) := readTexts s tokens
    .ok (.constant (.str s), tokens)
  | _ + 1, _ + 1, .int n :: tokens => .ok (.constant (.ofNat n), tokens)
  | _ + 1, _ + 1, .float x :: tokens => .ok (.constant (.number (.float x)), tokens)
  | fuel + 1, room + 1, .symbol "(" :: tokens => do
    if tokens.head? = some (.symbol ")") then return (.ofItems [], tokens.drop 1)
    let (first, tokens) ← readExpression fuel room tokens
    if tokens.head? = some (.symbol ",") then
      let (more, tokens) ← readItems fuel ")" true room tokens
      return (.ofItems (first :: more), tokens)
    let tokens ← expect (.symbol ")") tokens
    return (first, tokens)
  | fuel + 1, room + 1, .symbol "[" :: tokens => do
    let (items, tokens) ← readItems fuel "]" false room tokens
    return (.ofItems items, tokens)
  | fuel + 1, room + 1, .symbol "\x7b" :: tokens => do
    let (entries, tokens) ← readEntries fuel false room tokens
    return (.ofEntries entries, tokens)
  | _ + 1, _ + 1, _ => unexpected

end

/-! ## Templates -/

mutual

/-- What an assignment or a loop binds: one part, or several with commas. -/
def readTarget : Nat → Reader Target
  | 0, _, _ => unexpected
  | fuel + 1, room, tokens => do
    let ((parts, several), tokens) ← readParts fuel room tokens
    match parts, several with
    | [part], false => return (part, tokens)
    | parts, _ => return (.tuple parts, tokens)

/-- The parts of a target, and whether a comma stands behind one of them. -/
def readParts : Nat → Reader (List Target × Bool)
  | 0, _, _ => unexpected
  | _ + 1, _, .symbol ")" :: tokens => .ok (([], false), .symbol ")" :: tokens)
  | _ + 1, _, .name "in" :: tokens => .ok (([], false), .name "in" :: tokens)
  | _ + 1, _, .closeBlock :: tokens => .ok (([], false), .closeBlock :: tokens)
  | fuel + 1, room, tokens => do
    let (part, tokens) ← readPart fuel room tokens
    match tokens with
    | .symbol "," :: tokens => do
      let ((parts, _), tokens) ← readParts fuel room tokens
      return ((part :: parts, true), tokens)
    | tokens => return (([part], false), tokens)

/-- A name that may be bound, or a target in parentheses. -/
def readPart : Nat → Reader Target
  | 0, _, _ => unexpected
  | fuel + 1, room, .symbol "(" :: tokens => do
    let (target, tokens) ← readTarget fuel room tokens
    let tokens ← expect (.symbol ")") tokens
    return (target, tokens)
  | _ + 1, _, .name s :: tokens => if s ∈ reserved then unexpected else .ok (.name s, tokens)
  | _ + 1, _, _ => unexpected

end

/-- Filters with bars between them, up to the end of the block. -/
def readFilters : Nat → Reader (List (String × List Expression))
  | 0, _, _ => unexpected
  | fuel + 1, room, .name s :: tokens => do
    let (arguments, tokens) ← readArguments fuel room tokens
    match tokens with
    | .symbol "|" :: tokens => do
      let (more, tokens) ← readFilters fuel room tokens
      return ((s, arguments) :: more, tokens)
    | tokens => return ([(s, arguments)], tokens)
  | _ + 1, _, _ => unexpected

/-- The value of an assignment: an expression, or several with commas as a list. -/
def readAssigned (fuel : Nat) : Reader Expression := fun room tokens => do
  let (first, tokens) ← readExpression fuel room tokens
  match tokens with
  | .symbol "," :: _ => do
    let (more, tokens) ← readMore fuel room tokens
    return (.ofItems (first :: more), tokens)
  | tokens => return (first, tokens)
where
  /-- The expressions behind the first, each behind a comma; a last comma may stand alone. -/
  readMore : Nat → Reader (List Expression)
    | 0, _, _ => unexpected
    | _ + 1, _, .symbol "," :: .closeBlock :: tokens => .ok ([], .closeBlock :: tokens)
    | fuel + 1, room, .symbol "," :: tokens => do
      let (next, tokens) ← readExpression fuel room tokens
      let (more, tokens) ← readMore fuel room tokens
      return (next :: more, tokens)
    | _ + 1, _, tokens => .ok ([], tokens)

mutual

/-- Statements up to a block that starts with one of the closing words, with that word; without
closing words, up to the end. The tokens behind the word are left. -/
def readBody : Nat → (closers : List String) → Reader (List Statement × Option String)
  | 0, _, _, _ => unexpected
  | _ + 1, closers, _, [] => if closers.isEmpty then .ok (([], none), []) else unexpected
  | fuel + 1, closers, room, .text s :: tokens => do
    let ((more, closer), tokens) ← readBody fuel closers room tokens
    return ((.literal s :: more, closer), tokens)
  | fuel + 1, closers, room, .openOutput :: tokens => do
    let (value, tokens) ← readExpression fuel room tokens
    let tokens ← expect .closeOutput tokens
    let ((more, closer), tokens) ← readBody fuel closers room tokens
    return ((.output value :: more, closer), tokens)
  | fuel + 1, closers, room, .openBlock :: .name word :: tokens =>
    if word ∈ closers then .ok (([], some word), tokens)
    else do
      let (statement, tokens) ← readStatement fuel word room tokens
      let tokens ← expect .closeBlock tokens
      let ((more, closer), tokens) ← readBody fuel closers room tokens
      return ((statement :: more, closer), tokens)
  | _ + 1, _, _, _ => unexpected

/-- A statement behind its first word, up to the mark that closes its last block. -/
def readStatement : Nat → (word : String) → Reader Statement
  | 0, _, _, _ => unexpected
  | _ + 1, _, 0, _ => tooDeep
  | fuel + 1, "if", room + 1, tokens => readBranches fuel room tokens
  | fuel + 1, "for", room + 1, tokens => readLoop fuel room tokens
  | fuel + 1, "set", room + 1, tokens => readAssignment fuel room tokens
  | _ + 1, _, _ + 1, _ => unexpected

/-- The branches of a condition. -/
def readBranches : Nat → Reader Statement
  | 0, _, _ => unexpected
  | fuel + 1, room, tokens => do
    let (test, tokens) ← readEither fuel room tokens
    let tokens ← expect .closeBlock tokens
    let ((yes, closer), tokens) ← readBody fuel ["elif", "else", "endif"] room tokens
    match closer with
    | some "elif" => do
      let (more, tokens) ← readBranches fuel room tokens
      return (.ifThen test yes [more], tokens)
    | some "else" => do
      let tokens ← expect .closeBlock tokens
      let ((no, _), tokens) ← readBody fuel ["endif"] room tokens
      return (.ifThen test yes no, tokens)
    | _ => return (.ifThen test yes [], tokens)

/-- A loop. -/
def readLoop : Nat → Reader Statement
  | 0, _, _ => unexpected
  | fuel + 1, room, tokens => do
    let (target, tokens) ← readTarget fuel room tokens
    let tokens ← expect (.name "in") tokens
    let (items, tokens) ← readEither fuel room tokens
    let (only, tokens) : Option Expression × List Token ←
      match tokens with
      | .name "if" :: tokens => do
        let (only, tokens) ← readExpression fuel room tokens
        pure (some only, tokens)
      | tokens => pure (none, tokens)
    let tokens ← expect .closeBlock tokens
    let ((body, closer), tokens) ← readBody fuel ["else", "endfor"] room tokens
    match closer with
    | some "else" => do
      let tokens ← expect .closeBlock tokens
      let ((empty, _), tokens) ← readBody fuel ["endfor"] room tokens
      return (.forEach target items only body empty, tokens)
    | _ => return (.forEach target items only body [], tokens)

/-- An assignment: of a value, or to a lone name of the text of a body. -/
def readAssignment : Nat → Reader Statement
  | 0, _, _ => unexpected
  | fuel + 1, room, .name s :: .closeBlock :: tokens =>
    if s ∈ reserved then unexpected
    else do
      let ((body, _), tokens) ← readBody fuel ["endset"] room tokens
      return (.capture s [] body, tokens)
  | fuel + 1, room, .name s :: .symbol "|" :: tokens =>
    if s ∈ reserved then unexpected
    else do
      let (filters, tokens) ← readFilters fuel room tokens
      let tokens ← expect .closeBlock tokens
      let ((body, _), tokens) ← readBody fuel ["endset"] room tokens
      return (.capture s filters body, tokens)
  | fuel + 1, room, tokens => do
      let (target, tokens) ← readTarget fuel room tokens
      let tokens ← expect (.symbol "=") tokens
      let (value, tokens) ← readAssigned fuel room tokens
      return (.assign target value, tokens)

end

/-- How deep the readers may call each other on tokens of this number. -/
def fuelFor (tokens : List Token) : Nat := 20 * (tokens.length + 2)

end Reader

/-- The expression that makes up a whole text. -/
def Expression.ofText? (source : String) : Except Failure Expression := do
  let tokens ← Token.ofExpression source
  let (expression, rest) ← Reader.readExpression (Reader.fuelFor tokens) Reader.levelLimit tokens
  if rest.isEmpty then return expression else Reader.unexpected

/-- The statements of a template. -/
def Statement.ofText? (source : String) : Except Failure (List Statement) := do
  let tokens ← Token.ofTemplate source
  let ((statements, _), _) ← Reader.readBody (Reader.fuelFor tokens) [] Reader.levelLimit tokens
  return statements

end DialogueFlow.Template
