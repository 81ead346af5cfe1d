import SyntaxAdvisor.Python.Syntax.Value
import SyntaxAdvisor.Python.Token

/-!
# Grammars as data

The grammar of the language is written down as data, in the shape in which the reference
parser is generated from it, because the parser's limits are counted in that shape: every rule
is a function, and so is every group in parentheses that is more than a single item
(`helper`), every repetition (`many`, `many1`) and every separated repetition (`gather`, which
is a function for the first element that calls a second one for the rest). A function call
nested six thousand deep ends the parse for want of memory.

A rule is a list of alternatives, tried in order; an alternative is a sequence of items and an
action that makes the rule's value of theirs. An action may also give nothing, which fails the
rule without trying the alternatives after it, or stop the whole parse with an error.

Rules whose names start with `invalid` describe common mistakes, to explain them; they take
part only in a second parse, made when the first one fails. An alternative that consists of
one such rule alone is skipped in the first parse.
-/

namespace SyntaxAdvisor.Python

/-- Why a parse ended early. -/
inductive Halt where
  /-- The source is not accepted: a lexical rule or a check failed. -/
  | rejected
  /-- Function calls nested beyond the limit. -/
  | overflow
deriving Repr, BEq, Inhabited

/-- The rules of the grammar. -/
inductive Rule where
  | file | fstring | statements | statement | simpleStmts | simpleStmt | compoundStmt
  | assignment | annotatedRhs | augassign | returnStmt | raiseStmt | globalStmt | nonlocalStmt
  | delStmt | yieldStmt | assertStmt | importStmt | importName | importFrom | importFromTargets
  | importFromAsNames | importFromAsName | dottedAsNames | dottedAsName | dottedName | block
  | decorators | classDef | classDefRaw | functionDef | functionDefRaw | params | parameters
  | slashNoDefault | slashWithDefault | starEtc | kwds | paramNoDefault
  | paramNoDefaultStarAnnotated | paramWithDefault | paramMaybeDefault | param
  | paramStarAnnotated | annotationExpr | starAnnotationExpr | default | ifStmt | elifStmt | elseBlock
  | whileStmt | forStmt | withStmt | withItem | tryStmt | exceptBlock | exceptStarBlock
  | finallyBlock | matchStmt | subjectExpr | caseBlock | guard | patterns | pattern | asPattern
  | orPattern | closedPattern | literalPattern | literalExpr | complexNumber | signedNumber
  | signedRealNumber | realNumber | imaginaryNumber | capturePattern | patternCaptureTarget
  | wildcardPattern | valuePattern | attr | nameOrAttr | groupPattern | sequencePattern
  | openSequencePattern | maybeSequencePattern | maybeStarPattern | starPattern | mappingPattern
  | itemsPattern | keyValuePattern | doubleStarPattern | classPattern | positionalPatterns
  | keywordPatterns | keywordPattern
  | expressions | expression | yieldExpr | starExpressions | starExpression
  | starNamedExpressions | starNamedExpression | assignmentExpression | namedExpression
  | disjunction | conjunction | inversion | comparison | compareOpBitwiseOrPair | eqBitwiseOr
  | noteqBitwiseOr | lteBitwiseOr | ltBitwiseOr | gteBitwiseOr | gtBitwiseOr | notinBitwiseOr
  | inBitwiseOr | isnotBitwiseOr | isBitwiseOr | bitwiseOr | bitwiseXor | bitwiseAnd | shiftExpr
  | sum | term | factor | power | awaitPrimary | primary | slices | slice | atom | group
  | lambdef | lambdaParams | lambdaParameters | lambdaSlashNoDefault | lambdaSlashWithDefault
  | lambdaStarEtc | lambdaKwds | lambdaParamNoDefault | lambdaParamWithDefault
  | lambdaParamMaybeDefault | lambdaParam | strings | list | tuple | set | dict
  | doubleStarredKvpairs | doubleStarredKvpair | kvpair | forIfClauses | forIfClause | listcomp
  | setcomp | genexp | dictcomp | arguments | args | kwargs | starredExpression | kwargOrStarred
  | kwargOrDoubleStarred | starTargets | starTargetsListSeq | starTargetsTupleSeq | starTarget
  | targetWithStarAtom | starAtom | singleTarget | singleSubscriptAttributeTarget | tPrimary
  | tLookahead | delTargets | delTarget | delTAtom | funcTypeComment
  | invalidArguments | invalidKwarg | expressionWithoutInvalid | invalidLegacyExpression
  | invalidExpression | invalidNamedExpression | invalidAssignment | invalidAnnAssignTarget
  | invalidDelStmt | invalidBlock | invalidComprehension | invalidDictComprehension
  | invalidParameters | invalidDefault | invalidStarEtc | invalidKwds | invalidParametersHelper
  | invalidLambdaParameters | invalidLambdaParametersHelper | invalidLambdaStarEtc
  | invalidLambdaKwds | invalidDoubleTypeComments | invalidWithItem | invalidForTarget
  | invalidGroup | invalidImportFromTargets | invalidWithStmt | invalidWithStmtIndent
  | invalidTryStmt | invalidExceptStmt | invalidFinallyStmt | invalidExceptStmtIndent
  | invalidExceptStarStmtIndent | invalidMatchStmt | invalidCaseBlock | invalidAsPattern
  | invalidClassPattern | invalidClassArgumentPattern | invalidIfStmt | invalidElifStmt
  | invalidElseStmt | invalidWhileStmt | invalidForStmt | invalidDefRaw | invalidClassDefRaw
  | invalidDoubleStarredKvpairs | invalidKvpair
deriving Repr, BEq, Hashable, Inhabited

namespace Rule

/-- The rules that explain mistakes, used only in the second parse. -/
def isInvalid : Rule → Bool
  | .invalidArguments | .invalidKwarg | .invalidLegacyExpression | .invalidExpression
  | .invalidNamedExpression | .invalidAssignment | .invalidAnnAssignTarget | .invalidDelStmt
  | .invalidBlock | .invalidComprehension | .invalidDictComprehension | .invalidParameters
  | .invalidDefault | .invalidStarEtc | .invalidKwds | .invalidParametersHelper
  | .invalidLambdaParameters | .invalidLambdaParametersHelper | .invalidLambdaStarEtc
  | .invalidLambdaKwds | .invalidDoubleTypeComments | .invalidWithItem | .invalidForTarget
  | .invalidGroup | .invalidImportFromTargets | .invalidWithStmt | .invalidWithStmtIndent
  | .invalidTryStmt | .invalidExceptStmt | .invalidFinallyStmt | .invalidExceptStmtIndent
  | .invalidExceptStarStmtIndent | .invalidMatchStmt | .invalidCaseBlock | .invalidAsPattern
  | .invalidClassPattern | .invalidClassArgumentPattern | .invalidIfStmt | .invalidElifStmt
  | .invalidElseStmt | .invalidWhileStmt | .invalidForStmt | .invalidDefRaw
  | .invalidClassDefRaw | .invalidDoubleStarredKvpairs | .invalidKvpair => true
  | _ => false

/-- How a rule's function treats results. -/
inductive Kind where
  /-- It parses afresh at every call. -/
  | plain
  /-- It remembers its result at each position. -/
  | remembered
  /-- It is left-recursive: it grows its match by parsing its body again as long as the match
  gets longer, its own calls at the same position giving the match so far. -/
  | growing
deriving Repr, BEq, Inhabited

/-- How each rule treats results. -/
def kind : Rule → Kind
  | .simpleStmt | .block | .closedPattern | .starPattern | .expression | .starExpression
  | .disjunction | .conjunction | .inversion | .factor | .awaitPrimary | .strings | .arguments
  | .starTarget | .targetWithStarAtom | .delTarget | .invalidNamedExpression => .remembered
  | .bitwiseOr | .bitwiseXor | .bitwiseAnd | .shiftExpr | .sum | .term | .primary | .tPrimary
  | .dottedName | .attr => .growing
  | _ => .plain

/-- Whether the rule turns off the rules that explain mistakes, for everything it calls. -/
def withoutInvalid : Rule → Bool
  | .expressionWithoutInvalid => true
  | _ => false

end Rule

/-- What a token item accepts. -/
inductive Expect where
  /-- An operator or delimiter with this text; `!=` also accepts `<>`. -/
  | op (text : String)
  /-- A reserved word. -/
  | keyword (text : String)
  /-- A name with this text that is a keyword only in some places. -/
  | soft (text : String)
  /-- Any name that is a keyword in some places. -/
  | anySoft
  /-- A name that is not a reserved word. -/
  | name
  /-- A numeric literal. -/
  | number
  /-- A string literal. -/
  | string
  /-- The end of a logical line. -/
  | newline
  /-- One more level of indentation. -/
  | indent
  /-- One level of indentation less. -/
  | dedent
  /-- The end of the text. -/
  | endmarker
  /-- A type comment, which is never produced here. -/
  | typeComment
deriving Repr, BEq, Inhabited

/-- The tokens a parse reads. -/
structure Stream where
  /-- The tokens. -/
  tokens : Array Token
  /-- How many brackets are open after each token. -/
  levels : Array Nat
  /-- The text broke a lexical rule right after the last token. -/
  broken : Bool

/-- What an action sees: the values of the alternative's items, the positions it spans, and
the tokens. -/
structure Env where
  /-- The values of the items, in order. -/
  vals : Array Val
  /-- The position of the alternative's first token. -/
  start : Nat
  /-- The position after its last token. -/
  stop : Nat
  /-- The tokens being parsed. -/
  stream : Stream
  /-- Whether a left-recursive rule is growing its match. -/
  growing : Bool

/-- The value of the item at index `k`. -/
def Env.v (e : Env) (k : Nat) : Val := e.vals.getD k {}

/-- What an action makes of its items. -/
inductive Made where
  /-- The rule's value. -/
  | value (v : Val)
  /-- Nothing: the rule fails without trying further alternatives. -/
  | nothing
  /-- The whole parse stops. -/
  | halt (h : Halt)

/-- An action. -/
abbrev Act := Env → Made

mutual

/-- An item of an alternative. -/
inductive Item where
  /-- A token. -/
  | expect (e : Expect)
  /-- A call of a rule. -/
  | call (r : Rule)
  /-- A group of alternatives in parentheses, made a function of its own. -/
  | helper (alts : List Alt)
  /-- An item that may be missing. -/
  | optional (i : Item)
  /-- Zero or more repetitions, a function of their own. -/
  | many (i : Item)
  /-- One or more repetitions, a function of their own. -/
  | many1 (i : Item)
  /-- One or more repetitions separated by `sep`. -/
  | gather (sep : Item) (i : Item)
  /-- Succeeds, reading nothing, where the item matches. -/
  | ahead (i : Item)
  /-- Succeeds, reading nothing, where the item does not match. -/
  | notAhead (i : Item)
  /-- The item must match, or the parse stops with an error. -/
  | forced (i : Item)
  /-- Commits to the alternative: if it fails after this point, so does the rule. -/
  | cut

/-- An alternative: items and the action that makes the value. -/
inductive Alt where
  | mk (items : List Item) (act : Act)

end

namespace Alt

/-- The items of an alternative. -/
def items : Alt → List Item
  | .mk items _ => items

/-- The action of an alternative. -/
def act : Alt → Act
  | .mk _ act => act

/-- Whether the alternative is one rule that explains mistakes, skipped in the first parse. -/
def explainsOnly (a : Alt) : Bool :=
  match a.items with
  | [.call r] => r.isInvalid
  | _ => false

end Alt

end SyntaxAdvisor.Python
