import SyntaxAdvisor.Python.Syntax.Statements
import SyntaxAdvisor.Python.Syntax.Parameters
import SyntaxAdvisor.Python.Syntax.Patterns
import SyntaxAdvisor.Python.Syntax.Expressions
import SyntaxAdvisor.Python.Syntax.Mistakes

/-!
# The grammar

Each rule of the grammar with its alternatives.
-/

namespace SyntaxAdvisor.Python

/-- The alternatives of each rule. -/
def Rule.alts : Rule → List Alt
  | .file => Rules.file
  | .fstring => Rules.fstring
  | .statements => Rules.statements
  | .statement => Rules.statement
  | .simpleStmts => Rules.simpleStmts
  | .simpleStmt => Rules.simpleStmt
  | .compoundStmt => Rules.compoundStmt
  | .assignment => Rules.assignment
  | .annotatedRhs => Rules.annotatedRhs
  | .augassign => Rules.augassign
  | .returnStmt => Rules.returnStmt
  | .raiseStmt => Rules.raiseStmt
  | .globalStmt => Rules.globalStmt
  | .nonlocalStmt => Rules.nonlocalStmt
  | .delStmt => Rules.delStmt
  | .yieldStmt => Rules.yieldStmt
  | .assertStmt => Rules.assertStmt
  | .importStmt => Rules.importStmt
  | .importName => Rules.importName
  | .importFrom => Rules.importFrom
  | .importFromTargets => Rules.importFromTargets
  | .importFromAsNames => Rules.importFromAsNames
  | .importFromAsName => Rules.importFromAsName
  | .dottedAsNames => Rules.dottedAsNames
  | .dottedAsName => Rules.dottedAsName
  | .dottedName => Rules.dottedName
  | .block => Rules.block
  | .decorators => Rules.decorators
  | .classDef => Rules.classDef
  | .classDefRaw => Rules.classDefRaw
  | .functionDef => Rules.functionDef
  | .functionDefRaw => Rules.functionDefRaw
  | .params => Rules.params
  | .parameters => Rules.parameters
  | .slashNoDefault => Rules.slashNoDefault
  | .slashWithDefault => Rules.slashWithDefault
  | .starEtc => Rules.starEtc
  | .kwds => Rules.kwds
  | .paramNoDefault => Rules.paramNoDefault
  | .paramNoDefaultStarAnnotated => Rules.paramNoDefaultStarAnnotated
  | .paramWithDefault => Rules.paramWithDefault
  | .paramMaybeDefault => Rules.paramMaybeDefault
  | .param => Rules.param
  | .paramStarAnnotated => Rules.paramStarAnnotated
  | .annotationExpr => Rules.annotationExpr
  | .starAnnotationExpr => Rules.starAnnotationExpr
  | .default => Rules.defaultValue
  | .ifStmt => Rules.ifStmt
  | .elifStmt => Rules.elifStmt
  | .elseBlock => Rules.elseBlock
  | .whileStmt => Rules.whileStmt
  | .forStmt => Rules.forStmt
  | .withStmt => Rules.withStmt
  | .withItem => Rules.withItem
  | .tryStmt => Rules.tryStmt
  | .exceptBlock => Rules.exceptBlock
  | .exceptStarBlock => Rules.exceptStarBlock
  | .finallyBlock => Rules.finallyBlock
  | .matchStmt => Rules.matchStmt
  | .subjectExpr => Rules.subjectExpr
  | .caseBlock => Rules.caseBlock
  | .guard => Rules.guard
  | .patterns => Rules.patterns
  | .pattern => Rules.pattern
  | .asPattern => Rules.asPattern
  | .orPattern => Rules.orPattern
  | .closedPattern => Rules.closedPattern
  | .literalPattern => Rules.literalPattern
  | .literalExpr => Rules.literalExpr
  | .complexNumber => Rules.complexNumber
  | .signedNumber => Rules.signedNumber
  | .signedRealNumber => Rules.signedRealNumber
  | .realNumber => Rules.realNumber
  | .imaginaryNumber => Rules.imaginaryNumber
  | .capturePattern => Rules.capturePattern
  | .patternCaptureTarget => Rules.patternCaptureTarget
  | .wildcardPattern => Rules.wildcardPattern
  | .valuePattern => Rules.valuePattern
  | .attr => Rules.attr
  | .nameOrAttr => Rules.nameOrAttr
  | .groupPattern => Rules.groupPattern
  | .sequencePattern => Rules.sequencePattern
  | .openSequencePattern => Rules.openSequencePattern
  | .maybeSequencePattern => Rules.maybeSequencePattern
  | .maybeStarPattern => Rules.maybeStarPattern
  | .starPattern => Rules.starPattern
  | .mappingPattern => Rules.mappingPattern
  | .itemsPattern => Rules.itemsPattern
  | .keyValuePattern => Rules.keyValuePattern
  | .doubleStarPattern => Rules.doubleStarPattern
  | .classPattern => Rules.classPattern
  | .positionalPatterns => Rules.positionalPatterns
  | .keywordPatterns => Rules.keywordPatterns
  | .keywordPattern => Rules.keywordPattern
  | .expressions => Rules.expressions
  | .expression => Rules.expression
  | .yieldExpr => Rules.yieldExpr
  | .starExpressions => Rules.starExpressions
  | .starExpression => Rules.starExpression
  | .starNamedExpressions => Rules.starNamedExpressions
  | .starNamedExpression => Rules.starNamedExpression
  | .assignmentExpression => Rules.assignmentExpression
  | .namedExpression => Rules.namedExpression
  | .disjunction => Rules.disjunction
  | .conjunction => Rules.conjunction
  | .inversion => Rules.inversion
  | .comparison => Rules.comparison
  | .compareOpBitwiseOrPair => Rules.compareOpBitwiseOrPair
  | .eqBitwiseOr => Rules.operatorThen "=="
  | .noteqBitwiseOr => Rules.noteqBitwiseOr
  | .lteBitwiseOr => Rules.operatorThen "<="
  | .ltBitwiseOr => Rules.operatorThen "<"
  | .gteBitwiseOr => Rules.operatorThen ">="
  | .gtBitwiseOr => Rules.operatorThen ">"
  | .notinBitwiseOr => Rules.notinBitwiseOr
  | .inBitwiseOr => Rules.operatorThen "in"
  | .isnotBitwiseOr => Rules.isnotBitwiseOr
  | .isBitwiseOr => Rules.operatorThen "is"
  | .bitwiseOr => Rules.bitwiseOr
  | .bitwiseXor => Rules.bitwiseXor
  | .bitwiseAnd => Rules.bitwiseAnd
  | .shiftExpr => Rules.shiftExpr
  | .sum => Rules.sumExpr
  | .term => Rules.termExpr
  | .factor => Rules.factor
  | .power => Rules.power
  | .awaitPrimary => Rules.awaitPrimary
  | .primary => Rules.primary
  | .slices => Rules.slices
  | .slice => Rules.sliceExpr
  | .atom => Rules.atom
  | .group => Rules.group
  | .lambdef => Rules.lambdef
  | .lambdaParams => Rules.lambdaParams
  | .lambdaParameters => Rules.lambdaParameters
  | .lambdaSlashNoDefault => Rules.lambdaSlashNoDefault
  | .lambdaSlashWithDefault => Rules.lambdaSlashWithDefault
  | .lambdaStarEtc => Rules.lambdaStarEtc
  | .lambdaKwds => Rules.lambdaKwds
  | .lambdaParamNoDefault => Rules.lambdaParamNoDefault
  | .lambdaParamWithDefault => Rules.lambdaParamWithDefault
  | .lambdaParamMaybeDefault => Rules.lambdaParamMaybeDefault
  | .lambdaParam => Rules.lambdaParam
  | .strings => Rules.strings
  | .list => Rules.list
  | .tuple => Rules.tuple
  | .set => Rules.setDisplay
  | .dict => Rules.dict
  | .doubleStarredKvpairs => Rules.doubleStarredKvpairs
  | .doubleStarredKvpair => Rules.doubleStarredKvpair
  | .kvpair => Rules.kvpair
  | .forIfClauses => Rules.forIfClauses
  | .forIfClause => Rules.forIfClause
  | .listcomp => Rules.listcomp
  | .setcomp => Rules.setcomp
  | .genexp => Rules.genexp
  | .dictcomp => Rules.dictcomp
  | .arguments => Rules.arguments
  | .args => Rules.args
  | .kwargs => Rules.kwargs
  | .starredExpression => Rules.starredExpression
  | .kwargOrStarred => Rules.kwargOrStarred
  | .kwargOrDoubleStarred => Rules.kwargOrDoubleStarred
  | .starTargets => Rules.starTargets
  | .starTargetsListSeq => Rules.starTargetsListSeq
  | .starTargetsTupleSeq => Rules.starTargetsTupleSeq
  | .starTarget => Rules.starTarget
  | .targetWithStarAtom => Rules.targetWithStarAtom
  | .starAtom => Rules.starAtom
  | .singleTarget => Rules.singleTarget
  | .singleSubscriptAttributeTarget => Rules.singleSubscriptAttributeTarget
  | .tPrimary => Rules.tPrimary
  | .tLookahead => Rules.tLookahead
  | .delTargets => Rules.delTargets
  | .delTarget => Rules.delTarget
  | .delTAtom => Rules.delTAtom
  | .funcTypeComment => Rules.funcTypeComment
  | .invalidArguments => Rules.invalidArguments
  | .invalidKwarg => Rules.invalidKwarg
  | .expressionWithoutInvalid => Rules.expressionWithoutInvalid
  | .invalidLegacyExpression => Rules.invalidLegacyExpression
  | .invalidExpression => Rules.invalidExpression
  | .invalidNamedExpression => Rules.invalidNamedExpression
  | .invalidAssignment => Rules.invalidAssignment
  | .invalidAnnAssignTarget => Rules.invalidAnnAssignTarget
  | .invalidDelStmt => Rules.invalidDelStmt
  | .invalidBlock => Rules.invalidBlock
  | .invalidComprehension => Rules.invalidComprehension
  | .invalidDictComprehension => Rules.invalidDictComprehension
  | .invalidParameters => Rules.invalidParameters
  | .invalidDefault => Rules.invalidDefault
  | .invalidStarEtc => Rules.invalidStarEtc
  | .invalidKwds => Rules.invalidKwds
  | .invalidParametersHelper => Rules.invalidParametersHelper
  | .invalidLambdaParameters => Rules.invalidLambdaParameters
  | .invalidLambdaParametersHelper => Rules.invalidLambdaParametersHelper
  | .invalidLambdaStarEtc => Rules.invalidLambdaStarEtc
  | .invalidLambdaKwds => Rules.invalidLambdaKwds
  | .invalidDoubleTypeComments => Rules.invalidDoubleTypeComments
  | .invalidWithItem => Rules.invalidWithItem
  | .invalidForTarget => Rules.invalidForTarget
  | .invalidGroup => Rules.invalidGroup
  | .invalidImportFromTargets => Rules.invalidImportFromTargets
  | .invalidWithStmt => Rules.invalidWithStmt
  | .invalidWithStmtIndent => Rules.invalidWithStmtIndent
  | .invalidTryStmt => Rules.invalidTryStmt
  | .invalidExceptStmt => Rules.invalidExceptStmt
  | .invalidFinallyStmt => Rules.invalidFinallyStmt
  | .invalidExceptStmtIndent => Rules.invalidExceptStmtIndent
  | .invalidExceptStarStmtIndent => Rules.invalidExceptStarStmtIndent
  | .invalidMatchStmt => Rules.invalidMatchStmt
  | .invalidCaseBlock => Rules.invalidCaseBlock
  | .invalidAsPattern => Rules.invalidAsPattern
  | .invalidClassPattern => Rules.invalidClassPattern
  | .invalidClassArgumentPattern => Rules.invalidClassArgumentPattern
  | .invalidIfStmt => Rules.invalidIfStmt
  | .invalidElifStmt => Rules.invalidElifStmt
  | .invalidElseStmt => Rules.invalidElseStmt
  | .invalidWhileStmt => Rules.invalidWhileStmt
  | .invalidForStmt => Rules.invalidForStmt
  | .invalidDefRaw => Rules.invalidDefRaw
  | .invalidClassDefRaw => Rules.invalidClassDefRaw
  | .invalidDoubleStarredKvpairs => Rules.invalidDoubleStarredKvpairs
  | .invalidKvpair => Rules.invalidKvpair

end SyntaxAdvisor.Python
