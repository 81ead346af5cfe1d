import SyntaxAdvisor.Python.Syntax.Build

/-!
# Common mistakes

The rules that recognize common mistakes, so as to explain them. They take part in the second
parse only, which is made when the first fails, and most of them stop the parse with an error
as soon as they match. A few match only to find out whether there is something to explain:
those give nothing when there is not, and the parse goes on.
-/

namespace SyntaxAdvisor.Python.Rules

open SyntaxAdvisor.Python

/-- Whether a value is one of the names of the statements of old, `print` and `exec`. -/
def isLegacyName (v : Val) : Bool := v.name == some "print" || v.name == some "exec"

/-- One of the tokens `ss`, tried in order. -/
def oneOf (ss : List String) : Item := .helper (ss.map fun s => alt [tok s])

/-- An optional `as NAME`. -/
def asPlainName : Item := .optional (.helper [alt [tok "as", aName]])

/-- A line end with no indented block after it. -/
def noBlock : List Item := [newline, .notAhead indent]

/-- An optional `async`. -/
def maybeAsync : Item := .optional (tok "async")

/-- `invalid_arguments`. -/
def invalidArguments : List Alt :=
  [alt [.call .args, tok ",", tok "*"] raise,
   alt [.call .expression, .call .forIfClauses, tok ",",
        .optional (.helper [alt [.call .args], alt [.call .expression, .call .forIfClauses]])]
     raise,
   alt [aName, tok "=", .call .expression, .call .forIfClauses] raise,
   alt [.call .args, .call .forIfClauses]
     (fun e => if (e.v 0).count ≤ 1 then .nothing else .halt .rejected),
   alt [.call .args, tok ",", .call .expression, .call .forIfClauses] raise,
   alt [.call .args, tok ",", .call .args] raise]

/-- `invalid_kwarg`. -/
def invalidKwarg : List Alt :=
  [alt [oneOf ["True", "False", "None"], tok "="] raise,
   alt [aName, tok "=", .call .expression, .call .forIfClauses] raise,
   alt [.notAhead (.helper [alt [aName, tok "="]]), .call .expression, tok "="] raise]

/-- `expression_without_invalid`: an expression, with the rules for mistakes turned off. -/
def expressionWithoutInvalid : List Alt :=
  [alt [.call .disjunction, tok "if", .call .disjunction, tok "else", .call .expression]
     (nodeOf [0, 2, 4]),
   alt [.call .disjunction],
   alt [.call .lambdef]]

/-- `invalid_legacy_expression`: `print` or `exec` used as a statement. -/
def invalidLegacyExpression : List Alt :=
  [alt [aName, .notAhead (tok "("), .call .starExpressions]
     (fun e => if isLegacyName (e.v 0) then .halt .rejected else .nothing)]

/-- `invalid_expression`: two expressions in a row inside brackets (a comma forgotten), or a
conditional expression without `else`. -/
def invalidExpression : List Alt :=
  [alt [.notAhead (.helper [alt [aName, aString], alt [anySoft]]), .call .disjunction,
        .call .expressionWithoutInvalid]
     (fun e =>
       if isLegacyName (e.v 1) then .nothing
       else if e.stream.levels.getD (e.stop - 1) 0 == 0 then .nothing
       else .halt .rejected),
   alt [.call .disjunction, tok "if", .call .disjunction, .notAhead (oneOf ["else", ":"])] raise]

/-- Stops the parse unless a left-recursive rule is growing its match, in which case it gives
nothing. -/
def raiseUnlessGrowing : Act := fun e => if e.growing then .nothing else .halt .rejected

/-- `invalid_named_expression`, remembered. -/
def invalidNamedExpression : List Alt :=
  [alt [.call .expression, tok ":=", .call .expression] raise,
   alt [aName, tok "=", .call .bitwiseOr, .notAhead (oneOf ["=", ":="])] raiseUnlessGrowing,
   alt [.notAhead (.helper [alt [.call .list], alt [.call .tuple], alt [.call .genexp],
                            alt [tok "True"], alt [tok "None"], alt [tok "False"]]),
        .call .bitwiseOr, tok "=", .call .bitwiseOr, .notAhead (oneOf ["=", ":="])]
     raiseUnlessGrowing]

/-- `invalid_assignment`. -/
def invalidAssignment : List Alt :=
  [alt [.call .invalidAnnAssignTarget, tok ":", .call .expression] raise,
   alt [.call .starNamedExpression, tok ",", .many (.call .starNamedExpressions), tok ":",
        .call .expression] raise,
   alt [.call .expression, tok ":", .call .expression] raise,
   alt [.many (.helper [alt [.call .starTargets, tok "="]]), .call .starExpressions, tok "="]
     (invalidTarget (·.assign) 1),
   alt [.many (.helper [alt [.call .starTargets, tok "="]]), .call .yieldExpr, tok "="] raise,
   alt [.call .starExpressions, .call .augassign,
        .helper [alt [.call .yieldExpr], alt [.call .starExpressions]]] raise]

/-- `invalid_ann_assign_target`. -/
def invalidAnnAssignTarget : List Alt :=
  [alt [.call .list], alt [.call .tuple],
   alt [tok "(", .call .invalidAnnAssignTarget, tok ")"] (pick 1)]

/-- `invalid_del_stmt`. -/
def invalidDelStmt : List Alt :=
  [alt [tok "del", .call .starExpressions] (invalidTarget (·.delete) 1)]

/-- `invalid_block`. -/
def invalidBlock : List Alt := [alt noBlock raise]

/-- `invalid_comprehension`. -/
def invalidComprehension : List Alt :=
  [alt [oneOf ["[", "(", "\x7b"], .call .starredExpression, .call .forIfClauses] raise,
   alt [oneOf ["[", "\x7b"], .call .starNamedExpression, tok ",", .call .starNamedExpressions,
        .call .forIfClauses] raise,
   alt [oneOf ["[", "\x7b"], .call .starNamedExpression, tok ",", .call .forIfClauses] raise]

/-- `invalid_dict_comprehension`. -/
def invalidDictComprehension : List Alt :=
  [alt [tok "\x7b", tok "**", .call .bitwiseOr, .call .forIfClauses, tok "\x7d"] raise]

/-- `invalid_parameters`. -/
def invalidParameters : List Alt :=
  [alt [.many (.call .paramNoDefault), .call .invalidParametersHelper, .call .paramNoDefault]
     raise,
   alt [.many (.call .paramNoDefault), tok "(", .many1 (.call .paramNoDefault),
        .optional (tok ","), tok ")"] raise,
   alt [tok "/", tok ","] raise,
   alt [.helper [alt [.call .slashNoDefault], alt [.call .slashWithDefault]],
        .many (.call .paramMaybeDefault), tok "/"] raise,
   alt [.optional (.helper [alt [.call .slashNoDefault], alt [.call .slashWithDefault]]),
        .many (.call .paramMaybeDefault), tok "*",
        .helper [alt [tok ","], alt [.call .paramNoDefault]],
        .many (.call .paramMaybeDefault), tok "/"] raise,
   alt [.many1 (.call .paramMaybeDefault), tok "/", tok "*"] raise]

/-- `invalid_default`. -/
def invalidDefault : List Alt := [alt [tok "=", .ahead (oneOf [")", ","])] raise]

/-- `invalid_star_etc`. -/
def invalidStarEtc : List Alt :=
  [alt [tok "*", .helper [alt [tok ")"], alt [tok ",", oneOf [")", "**"]]]] raise,
   alt [tok "*", tok ",", typeComment] raise,
   alt [tok "*", .call .param, tok "="] raise,
   alt [tok "*", .helper [alt [.call .paramNoDefault], alt [tok ","]],
        .many (.call .paramMaybeDefault), tok "*",
        .helper [alt [.call .paramNoDefault], alt [tok ","]]] raise]

/-- `invalid_kwds`. -/
def invalidKwds : List Alt :=
  [alt [tok "**", .call .param, tok "="] raise,
   alt [tok "**", .call .param, tok ",", .call .param] raise,
   alt [tok "**", .call .param, tok ",", oneOf ["*", "**", "/"]] raise]

/-- `invalid_parameters_helper`. -/
def invalidParametersHelper : List Alt :=
  [alt [.call .slashWithDefault], alt [.many1 (.call .paramWithDefault)]]

/-- `invalid_lambda_parameters`. -/
def invalidLambdaParameters : List Alt :=
  [alt [.many (.call .lambdaParamNoDefault), .call .invalidLambdaParametersHelper,
        .call .lambdaParamNoDefault] raise,
   alt [.many (.call .lambdaParamNoDefault), tok "(", .gather (tok ",") (.call .lambdaParam),
        .optional (tok ","), tok ")"] raise,
   alt [tok "/", tok ","] raise,
   alt [.helper [alt [.call .lambdaSlashNoDefault], alt [.call .lambdaSlashWithDefault]],
        .many (.call .lambdaParamMaybeDefault), tok "/"] raise,
   alt [.optional (.helper [alt [.call .lambdaSlashNoDefault],
                            alt [.call .lambdaSlashWithDefault]]),
        .many (.call .lambdaParamMaybeDefault), tok "*",
        .helper [alt [tok ","], alt [.call .lambdaParamNoDefault]],
        .many (.call .lambdaParamMaybeDefault), tok "/"] raise,
   alt [.many1 (.call .lambdaParamMaybeDefault), tok "/", tok "*"] raise]

/-- `invalid_lambda_parameters_helper`. -/
def invalidLambdaParametersHelper : List Alt :=
  [alt [.call .lambdaSlashWithDefault], alt [.many1 (.call .lambdaParamWithDefault)]]

/-- `invalid_lambda_star_etc`. -/
def invalidLambdaStarEtc : List Alt :=
  [alt [tok "*", .helper [alt [tok ":"], alt [tok ",", oneOf [":", "**"]]]] raise,
   alt [tok "*", .call .lambdaParam, tok "="] raise,
   alt [tok "*", .helper [alt [.call .lambdaParamNoDefault], alt [tok ","]],
        .many (.call .lambdaParamMaybeDefault), tok "*",
        .helper [alt [.call .lambdaParamNoDefault], alt [tok ","]]] raise]

/-- `invalid_lambda_kwds`. -/
def invalidLambdaKwds : List Alt :=
  [alt [tok "**", .call .lambdaParam, tok "="] raise,
   alt [tok "**", .call .lambdaParam, tok ",", .call .lambdaParam] raise,
   alt [tok "**", .call .lambdaParam, tok ",", oneOf ["*", "**", "/"]] raise]

/-- `invalid_double_type_comments`. -/
def invalidDoubleTypeComments : List Alt :=
  [alt [typeComment, newline, typeComment, newline, indent] raise]

/-- `invalid_with_item`. -/
def invalidWithItem : List Alt :=
  [alt [.call .expression, tok "as", .call .expression, .ahead (oneOf [",", ")", ":"])]
     (invalidTarget (·.assign) 2)]

/-- `invalid_for_target`. -/
def invalidForTarget : List Alt :=
  [alt [maybeAsync, tok "for", .call .starExpressions] (invalidTarget (·.loop) 2)]

/-- `invalid_group`. -/
def invalidGroup : List Alt :=
  [alt [tok "(", .call .starredExpression, tok ")"] raise,
   alt [tok "(", tok "**", .call .expression, tok ")"] raise]

/-- `invalid_import_from_targets`. -/
def invalidImportFromTargets : List Alt :=
  [alt [.call .importFromAsNames, tok ",", newline] raise]

/-- The items of a `with` statement without parentheses, as the mistakes read them. -/
def looseWithItems : Item :=
  .gather (tok ",") (.helper [alt [.call .expression,
                                   .optional (.helper [alt [tok "as", .call .starTarget]])]])

/-- The items of a `with` statement in parentheses, as the mistakes read them. -/
def groupedWithItems : List Item :=
  [tok "(", .gather (tok ",") (.helper [alt [.call .expressions,
                                             .optional (.helper [alt [tok "as",
                                                                      .call .starTarget]])]]),
   .optional (tok ","), tok ")"]

/-- `invalid_with_stmt`. -/
def invalidWithStmt : List Alt :=
  [alt [maybeAsync, tok "with", looseWithItems, newline] raise,
   alt ([maybeAsync, tok "with"] ++ groupedWithItems ++ [newline]) raise]

/-- `invalid_with_stmt_indent`. -/
def invalidWithStmtIndent : List Alt :=
  [alt ([maybeAsync, tok "with", looseWithItems, tok ":"] ++ noBlock) raise,
   alt ([maybeAsync, tok "with"] ++ groupedWithItems ++ [tok ":"] ++ noBlock) raise]

/-- `invalid_try_stmt`. -/
def invalidTryStmt : List Alt :=
  [alt ([tok "try", tok ":"] ++ noBlock) raise,
   alt [tok "try", tok ":", .call .block, .notAhead (oneOf ["except", "finally"])] raise,
   alt [tok "try", tok ":", .many (.call .block), .many1 (.call .exceptBlock), tok "except",
        tok "*", .call .expression, asPlainName, tok ":"] raise,
   alt [tok "try", tok ":", .many (.call .block), .many1 (.call .exceptStarBlock), tok "except",
        .optional (.helper [alt [.call .expression, asPlainName]]), tok ":"] raise]

/-- `invalid_except_stmt`. -/
def invalidExceptStmt : List Alt :=
  [alt [tok "except", .optional (tok "*"), .call .expression, tok ",", .call .expressions,
        asPlainName, tok ":"] raise,
   alt [tok "except", .optional (tok "*"), .call .expression, asPlainName, newline] raise,
   alt [tok "except", newline] raise,
   alt [tok "except", tok "*", .helper [alt [newline], alt [tok ":"]]] raise]

/-- `invalid_finally_stmt`. -/
def invalidFinallyStmt : List Alt := [alt ([tok "finally", tok ":"] ++ noBlock) raise]

/-- `invalid_except_stmt_indent`. -/
def invalidExceptStmtIndent : List Alt :=
  [alt ([tok "except", .call .expression, asPlainName, tok ":"] ++ noBlock) raise,
   alt ([tok "except", tok ":"] ++ noBlock) raise]

/-- `invalid_except_star_stmt_indent`. -/
def invalidExceptStarStmtIndent : List Alt :=
  [alt ([tok "except", tok "*", .call .expression, asPlainName, tok ":"] ++ noBlock) raise]

/-- `invalid_match_stmt`. -/
def invalidMatchStmt : List Alt :=
  [alt [soft "match", .call .subjectExpr, newline] raise,
   alt ([soft "match", .call .subjectExpr, tok ":"] ++ noBlock) raise]

/-- `invalid_case_block`. -/
def invalidCaseBlock : List Alt :=
  [alt [soft "case", .call .patterns, .optional (.call .guard), newline] raise,
   alt ([soft "case", .call .patterns, .optional (.call .guard), tok ":"] ++ noBlock) raise]

/-- `invalid_as_pattern`. -/
def invalidAsPattern : List Alt :=
  [alt [.call .orPattern, tok "as", soft "_"] raise,
   alt [.call .orPattern, tok "as", .notAhead aName, .call .expression] raise]

/-- `invalid_class_pattern`. -/
def invalidClassPattern : List Alt :=
  [alt [.call .nameOrAttr, tok "(", .call .invalidClassArgumentPattern] raise]

/-- `invalid_class_argument_pattern`. -/
def invalidClassArgumentPattern : List Alt :=
  [alt [.optional (.helper [alt [.call .positionalPatterns, tok ","]]), .call .keywordPatterns,
        tok ",", .call .positionalPatterns] (pick 3)]

/-- A header of a compound statement without its colon, or with it and no block after. -/
def headerMistakes (head : List Item) : List Alt :=
  [alt (head ++ [newline]) raise, alt (head ++ [tok ":"] ++ noBlock) raise]

/-- `invalid_if_stmt`. -/
def invalidIfStmt : List Alt := headerMistakes [tok "if", .call .namedExpression]

/-- `invalid_elif_stmt`. -/
def invalidElifStmt : List Alt := headerMistakes [tok "elif", .call .namedExpression]

/-- `invalid_else_stmt`. -/
def invalidElseStmt : List Alt := [alt ([tok "else", tok ":"] ++ noBlock) raise]

/-- `invalid_while_stmt`. -/
def invalidWhileStmt : List Alt := headerMistakes [tok "while", .call .namedExpression]

/-- `invalid_for_stmt`. -/
def invalidForStmt : List Alt :=
  headerMistakes [maybeAsync, tok "for", .call .starTargets, tok "in", .call .starExpressions]

/-- `invalid_def_raw`. -/
def invalidDefRaw : List Alt :=
  [alt ([maybeAsync, tok "def", aName, tok "(", .optional (.call .params), tok ")",
         .optional (.helper [alt [tok "->", .call .expression]]), tok ":"] ++ noBlock) raise]

/-- `invalid_class_def_raw`. -/
def invalidClassDefRaw : List Alt :=
  headerMistakes [tok "class", aName,
                  .optional (.helper [alt [tok "(", .optional (.call .arguments), tok ")"]])]

/-- `invalid_double_starred_kvpairs`. -/
def invalidDoubleStarredKvpairs : List Alt :=
  [alt [.gather (tok ",") (.call .doubleStarredKvpair), tok ",", .call .invalidKvpair],
   alt [.call .expression, tok ":", tok "*", .call .bitwiseOr] raise,
   alt [.call .expression, tok ":", .ahead (oneOf ["\x7d", ","])] raise]

/-- `invalid_kvpair`. -/
def invalidKvpair : List Alt :=
  [alt [.call .expression, .notAhead (tok ":")] raise,
   alt [.call .expression, tok ":", tok "*", .call .bitwiseOr] raise,
   alt [.call .expression, tok ":", .ahead (oneOf ["\x7d", ","])] raise]

end SyntaxAdvisor.Python.Rules
