import SyntaxAdvisor.Python.Syntax.Build

/-!
# Statements

The rules for a whole file: statements, simple statements joined by `;` on a logical line,
and compound statements with their blocks. A compound statement is tried only where its first
token announces it. An `elif` branch is an `if` statement in the `else` branch of the one
before, so a chain of `elif` nests as deeply as it is long.
-/

namespace SyntaxAdvisor.Python.Rules

open SyntaxAdvisor.Python

/-- `file: [statements] ENDMARKER`; the module is a node above its statements. -/
def file : List Alt := [alt [.optional (.call .statements), endmarker] (nodeOf [0])]

/-- `fstring: star_expressions`, the start rule for the expression of an f-string field. -/
def fstring : List Alt := [alt [.call .starExpressions]]

/-- `statements: statement+`. -/
def statements : List Alt := [alt [.many1 (.call .statement)]]

/-- `statement: compound_stmt | simple_stmts`. -/
def statement : List Alt := [alt [.call .compoundStmt], alt [.call .simpleStmts]]

/-- `simple_stmts`: one simple statement and the line end, or several joined by `;`. -/
def simpleStmts : List Alt :=
  [alt [.call .simpleStmt, .notAhead (tok ";"), newline] (pick 0),
   alt [.gather (tok ";") (.call .simpleStmt), .optional (tok ";"), newline] (pick 0)]

/-- `simple_stmt`, remembered: an assignment, an expression, or a statement announced by its
word. -/
def simpleStmt : List Alt :=
  [alt [.call .assignment],
   alt [.call .starExpressions] (nodeOf [0]),
   alt [.ahead (tok "return"), .call .returnStmt] (pick 1),
   alt [.ahead (.helper [alt [tok "import"], alt [tok "from"]]), .call .importStmt] (pick 1),
   alt [.ahead (tok "raise"), .call .raiseStmt] (pick 1),
   alt [tok "pass"] leafAct,
   alt [.ahead (tok "del"), .call .delStmt] (pick 1),
   alt [.ahead (tok "yield"), .call .yieldStmt] (pick 1),
   alt [.ahead (tok "assert"), .call .assertStmt] (pick 1),
   alt [tok "break"] leafAct,
   alt [tok "continue"] leafAct,
   alt [.ahead (tok "global"), .call .globalStmt] (pick 1),
   alt [.ahead (tok "nonlocal"), .call .nonlocalStmt] (pick 1)]

/-- `compound_stmt`: a compound statement, tried where its first token announces it. -/
def compoundStmt : List Alt :=
  [alt [.ahead (.helper [alt [tok "def"], alt [tok "@"], alt [tok "async"]]), .call .functionDef]
     (pick 1),
   alt [.ahead (tok "if"), .call .ifStmt] (pick 1),
   alt [.ahead (.helper [alt [tok "class"], alt [tok "@"]]), .call .classDef] (pick 1),
   alt [.ahead (.helper [alt [tok "with"], alt [tok "async"]]), .call .withStmt] (pick 1),
   alt [.ahead (.helper [alt [tok "for"], alt [tok "async"]]), .call .forStmt] (pick 1),
   alt [.ahead (tok "try"), .call .tryStmt] (pick 1),
   alt [.ahead (tok "while"), .call .whileStmt] (pick 1),
   alt [.call .matchStmt]]

/-- An optional `= value` after an annotation. -/
def assignedPart : Item := .optional (.helper [alt [tok "=", .call .annotatedRhs] (pick 1)])

/-- A value on the right of `=`: a `yield` expression or star expressions. -/
def rightSide : Item := .helper [alt [.call .yieldExpr], alt [.call .starExpressions]]

/-- `assignment`: an annotated name or target, a chain of `targets =`, or an augmented
assignment. -/
def assignment : List Alt :=
  [alt [aName, tok ":", .call .expression, assignedPart] (nodeOf [0, 2, 3]),
   alt [.helper [alt [tok "(", .call .singleTarget, tok ")"] (pick 1),
                 alt [.call .singleSubscriptAttributeTarget]],
        tok ":", .call .expression, assignedPart] (nodeOf [0, 2, 3]),
   alt [.many1 (.helper [alt [.call .starTargets, tok "="] (pick 0)]), rightSide,
        .notAhead (tok "="), .optional typeComment] (nodeOf [0, 1]),
   alt [.call .singleTarget, .call .augassign, .cut, rightSide] (nodeOf [0, 3]),
   alt [.call .invalidAssignment]]

/-- `annotated_rhs: yield_expr | star_expressions`. -/
def annotatedRhs : List Alt := [alt [.call .yieldExpr], alt [.call .starExpressions]]

/-- `augassign`: the augmented assignment operators. -/
def augassign : List Alt :=
  ["+=", "-=", "*=", "@=", "/=", "%=", "&=", "|=", "^=", "<<=", ">>=", "**=", "//="].map
    fun s => alt [tok s]

/-- `return_stmt: 'return' [star_expressions]`. -/
def returnStmt : List Alt := [alt [tok "return", .optional (.call .starExpressions)] (nodeOf [1])]

/-- `raise_stmt`: `raise`, with an optional exception and cause. -/
def raiseStmt : List Alt :=
  [alt [tok "raise", .call .expression,
        .optional (.helper [alt [tok "from", .call .expression] (pick 1)])] (nodeOf [1, 2]),
   alt [tok "raise"] leafAct]

/-- `global_stmt: 'global' ','.NAME+`. -/
def globalStmt : List Alt := [alt [tok "global", .gather (tok ",") aName] leafAct]

/-- `nonlocal_stmt: 'nonlocal' ','.NAME+`. -/
def nonlocalStmt : List Alt := [alt [tok "nonlocal", .gather (tok ",") aName] leafAct]

/-- `del_stmt`: `del` and targets, ending the statement. -/
def delStmt : List Alt :=
  [alt [tok "del", .call .delTargets, .ahead (.helper [alt [tok ";"], alt [newline]])]
     (nodeOf [1]),
   alt [.call .invalidDelStmt]]

/-- `yield_stmt: yield_expr`. -/
def yieldStmt : List Alt := [alt [.call .yieldExpr] (nodeOf [0])]

/-- `assert_stmt: 'assert' expression [',' expression]`. -/
def assertStmt : List Alt :=
  [alt [tok "assert", .call .expression,
        .optional (.helper [alt [tok ",", .call .expression] (pick 1)])] (nodeOf [1, 2])]

/-- `import_stmt: import_name | import_from`. -/
def importStmt : List Alt := [alt [.call .importName], alt [.call .importFrom]]

/-- `import_name: 'import' dotted_as_names`. -/
def importName : List Alt := [alt [tok "import", .call .dottedAsNames] (nodeOf [1])]

/-- A leading dot of a relative import (`...` is one token). -/
def importDot : Item := .helper [alt [tok "."], alt [tok "..."]]

/-- `import_from`: `from` a module, possibly relative, `import` targets. -/
def importFrom : List Alt :=
  [alt [tok "from", .many importDot, .call .dottedName, tok "import", .call .importFromTargets]
     (nodeOf [4]),
   alt [tok "from", .many1 importDot, tok "import", .call .importFromTargets] (nodeOf [3])]

/-- `import_from_targets`: names in parentheses, names, or `*`. -/
def importFromTargets : List Alt :=
  [alt [tok "(", .call .importFromAsNames, .optional (tok ","), tok ")"] (pick 1),
   alt [.call .importFromAsNames, .notAhead (tok ",")] (pick 0),
   alt [tok "*"] leafAct,
   alt [.call .invalidImportFromTargets]]

/-- `import_from_as_names: ','.import_from_as_name+`. -/
def importFromAsNames : List Alt := [alt [.gather (tok ",") (.call .importFromAsName)]]

/-- An optional `as name`. -/
def asName : Item := .optional (.helper [alt [tok "as", aName] (pick 1)])

/-- `import_from_as_name: NAME ['as' NAME]`. -/
def importFromAsName : List Alt := [alt [aName, asName] leafAct]

/-- `dotted_as_names: ','.dotted_as_name+`. -/
def dottedAsNames : List Alt := [alt [.gather (tok ",") (.call .dottedAsName)]]

/-- `dotted_as_name: dotted_name ['as' NAME]`. -/
def dottedAsName : List Alt := [alt [.call .dottedName, asName] leafAct]

/-- `dotted_name`, left-recursive: names joined by dots. -/
def dottedName : List Alt :=
  [alt [.call .dottedName, tok ".", aName] (pick 0), alt [aName]]

/-- `block`, remembered: an indented block, or simple statements on the same line. -/
def block : List Alt :=
  [alt [newline, indent, .call .statements, dedent] (pick 2),
   alt [.call .simpleStmts],
   alt [.call .invalidBlock]]

/-- `decorators: ('@' named_expression NEWLINE)+`. -/
def decorators : List Alt :=
  [alt [.many1 (.helper [alt [tok "@", .call .namedExpression, newline] (pick 1)])]]

/-- `class_def`: a class definition, perhaps decorated. -/
def classDef : List Alt :=
  [alt [.call .decorators, .call .classDefRaw] (make fun v => decorated (v 0) (v 1)),
   alt [.call .classDefRaw]]

/-- `class_def_raw`: `class` name, optional bases in parentheses, `:` and a block. -/
def classDefRaw : List Alt :=
  [alt [.call .invalidClassDefRaw],
   alt [tok "class", aName,
        .optional (.helper [alt [tok "(", .optional (.call .arguments), tok ")"] (pick 1)]),
        tok ":", .call .block] (nodeOf [2, 4])]

/-- `function_def`: a function definition, perhaps decorated. -/
def functionDef : List Alt :=
  [alt [.call .decorators, .call .functionDefRaw] (make fun v => decorated (v 0) (v 1)),
   alt [.call .functionDefRaw]]

/-- An optional `-> expression`. -/
def returnsPart : Item := .optional (.helper [alt [tok "->", .call .expression] (pick 1)])

/-- `function_def_raw`: `[async] def name(parameters) [-> result]:` and a block. -/
def functionDefRaw : List Alt :=
  [alt [.call .invalidDefRaw],
   alt [tok "def", aName, .forced (tok "("), .optional (.call .params), tok ")", returnsPart,
        .forced (tok ":"), .optional (.call .funcTypeComment), .call .block]
     (make fun v => Val.node [orEmpty (v 3), v 5, v 8]),
   alt [tok "async", tok "def", aName, .forced (tok "("), .optional (.call .params), tok ")",
        returnsPart, .forced (tok ":"), .optional (.call .funcTypeComment), .call .block]
     (make fun v => Val.node [orEmpty (v 4), v 6, v 9])]

/-- `if_stmt`: a test, a block, and an `elif` chain or an optional `else`. -/
def ifStmt : List Alt :=
  [alt [.call .invalidIfStmt],
   alt [tok "if", .call .namedExpression, tok ":", .call .block, .call .elifStmt]
     (nodeOf [1, 3, 4]),
   alt [tok "if", .call .namedExpression, tok ":", .call .block, .optional (.call .elseBlock)]
     (nodeOf [1, 3, 4])]

/-- `elif_stmt`: read as an `if` statement. -/
def elifStmt : List Alt :=
  [alt [.call .invalidElifStmt],
   alt [tok "elif", .call .namedExpression, tok ":", .call .block, .call .elifStmt]
     (nodeOf [1, 3, 4]),
   alt [tok "elif", .call .namedExpression, tok ":", .call .block, .optional (.call .elseBlock)]
     (nodeOf [1, 3, 4])]

/-- `else_block: 'else' &&':' block`. -/
def elseBlock : List Alt :=
  [alt [.call .invalidElseStmt], alt [tok "else", .forced (tok ":"), .call .block] (pick 2)]

/-- `while_stmt`. -/
def whileStmt : List Alt :=
  [alt [.call .invalidWhileStmt],
   alt [tok "while", .call .namedExpression, tok ":", .call .block, .optional (.call .elseBlock)]
     (nodeOf [1, 3, 4])]

/-- `for_stmt`: `[async] for targets in values:`, a block and an optional `else`. -/
def forStmt : List Alt :=
  [alt [.call .invalidForStmt],
   alt [tok "for", .call .starTargets, tok "in", .cut, .call .starExpressions, tok ":",
        .optional typeComment, .call .block, .optional (.call .elseBlock)] (nodeOf [1, 4, 7, 8]),
   alt [tok "async", tok "for", .call .starTargets, tok "in", .cut, .call .starExpressions,
        tok ":", .optional typeComment, .call .block, .optional (.call .elseBlock)]
     (nodeOf [2, 5, 8, 9]),
   alt [.call .invalidForTarget]]

/-- Items of a `with` statement, separated by commas. -/
def withItems : Item := .gather (tok ",") (.call .withItem)

/-- `with_stmt`: `[async] with` items, in parentheses or not, `:` and a block. -/
def withStmt : List Alt :=
  [alt [.call .invalidWithStmtIndent],
   alt [tok "with", tok "(", withItems, .optional (tok ","), tok ")", tok ":", .call .block]
     (nodeOf [2, 6]),
   alt [tok "with", withItems, tok ":", .optional typeComment, .call .block] (nodeOf [1, 4]),
   alt [tok "async", tok "with", tok "(", withItems, .optional (tok ","), tok ")", tok ":",
        .call .block] (nodeOf [3, 7]),
   alt [tok "async", tok "with", withItems, tok ":", .optional typeComment, .call .block]
     (nodeOf [2, 5]),
   alt [.call .invalidWithStmt]]

/-- What may follow the target of a `with` item. -/
def afterWithTarget : Item := .ahead (.helper [alt [tok ","], alt [tok ")"], alt [tok ":"]])

/-- `with_item`: an expression with an optional `as target`. -/
def withItem : List Alt :=
  [alt [.call .expression, tok "as", .call .starTarget, afterWithTarget] (nodeOf [0, 2]),
   alt [.call .invalidWithItem],
   alt [.call .expression] (nodeOf [0])]

/-- `try_stmt`: a block, then `finally`, or handlers of one kind with optional `else` and
`finally`. -/
def tryStmt : List Alt :=
  [alt [.call .invalidTryStmt],
   alt [tok "try", .forced (tok ":"), .call .block, .call .finallyBlock] (nodeOf [2, 3]),
   alt [tok "try", .forced (tok ":"), .call .block, .many1 (.call .exceptBlock),
        .optional (.call .elseBlock), .optional (.call .finallyBlock)] (nodeOf [2, 3, 4, 5]),
   alt [tok "try", .forced (tok ":"), .call .block, .many1 (.call .exceptStarBlock),
        .optional (.call .elseBlock), .optional (.call .finallyBlock)] (nodeOf [2, 3, 4, 5])]

/-- `except_block`: `except [expression [as name]]:` and a block. -/
def exceptBlock : List Alt :=
  [alt [.call .invalidExceptStmtIndent],
   alt [tok "except", .call .expression, asName, tok ":", .call .block] (nodeOf [1, 4]),
   alt [tok "except", tok ":", .call .block] (nodeOf [2]),
   alt [.call .invalidExceptStmt]]

/-- `except_star_block`: `except* expression [as name]:` and a block. -/
def exceptStarBlock : List Alt :=
  [alt [.call .invalidExceptStarStmtIndent],
   alt [tok "except", tok "*", .call .expression, asName, tok ":", .call .block] (nodeOf [2, 5]),
   alt [.call .invalidExceptStmt]]

/-- `finally_block: 'finally' &&':' block`. -/
def finallyBlock : List Alt :=
  [alt [.call .invalidFinallyStmt], alt [tok "finally", .forced (tok ":"), .call .block] (pick 2)]

/-- `match_stmt`: `match` subject `:` and indented `case` blocks. -/
def matchStmt : List Alt :=
  [alt [soft "match", .call .subjectExpr, tok ":", newline, indent, .many1 (.call .caseBlock),
        dedent] (nodeOf [1, 5]),
   alt [.call .invalidMatchStmt]]

/-- `subject_expr`: a tuple of star expressions, or a named expression. -/
def subjectExpr : List Alt :=
  [alt [.call .starNamedExpression, tok ",", .optional (.call .starNamedExpressions)]
     (containerOf [0, 2]),
   alt [.call .namedExpression]]

/-- `case_block`: `case` patterns, an optional guard, `:` and a block. -/
def caseBlock : List Alt :=
  [alt [.call .invalidCaseBlock],
   alt [soft "case", .call .patterns, .optional (.call .guard), tok ":", .call .block]
     (nodeOf [1, 2, 4])]

/-- `guard: 'if' named_expression`. -/
def guard : List Alt := [alt [tok "if", .call .namedExpression] (pick 1)]

/-- `func_type_comment`: a type comment after a definition's header. -/
def funcTypeComment : List Alt :=
  [alt [newline, typeComment, .ahead (.helper [alt [newline, indent]])] (pick 1),
   alt [.call .invalidDoubleTypeComments],
   alt [typeComment]]

end SyntaxAdvisor.Python.Rules
