import SyntaxAdvisor.Python.Syntax.Build

/-!
# Parameter lists

The parameters of a function definition and of a lambda: positional-only parameters before
`/`, then ordinary ones, those without a default before those with one, then `*` with
keyword-only parameters, then `**` and one parameter. A definition's list ends at `)` and a
lambda's at `:`; only a definition's parameters carry annotations, and only its `*` parameter
a starred one.

A parameter list is one node of the syntax tree. Each parameter is a node under it, above its
annotation; a default value hangs from the list itself.
-/

namespace SyntaxAdvisor.Python.Rules

open SyntaxAdvisor.Python

/-- What ends a parameter of a lambda: a comma, or `:` just ahead. -/
def lambdaParamEnd (items : List Item) (act : Act) : List Alt :=
  [alt (items ++ [tok ","]) act, alt (items ++ [.ahead (tok ":")]) act]

/-- `params: invalid_parameters | parameters`. -/
def params : List Alt := [alt [.call .invalidParameters], alt [.call .parameters]]

/-- `parameters`: the five shapes of a parameter list. -/
def parameters : List Alt :=
  [alt [.call .slashNoDefault, .many (.call .paramNoDefault), .many (.call .paramWithDefault),
        .optional (.call .starEtc)] (nodeOf [0, 1, 2, 3]),
   alt [.call .slashWithDefault, .many (.call .paramWithDefault), .optional (.call .starEtc)]
     (nodeOf [0, 1, 2]),
   alt [.many1 (.call .paramNoDefault), .many (.call .paramWithDefault),
        .optional (.call .starEtc)] (nodeOf [0, 1, 2]),
   alt [.many1 (.call .paramWithDefault), .optional (.call .starEtc)] (nodeOf [0, 1]),
   alt [.call .starEtc] (nodeOf [0])]

/-- `slash_no_default`: parameters without defaults, then `/`. -/
def slashNoDefault : List Alt :=
  [alt [.many1 (.call .paramNoDefault), tok "/", tok ","] (pick 0),
   alt [.many1 (.call .paramNoDefault), tok "/", .ahead (tok ")")] (pick 0)]

/-- `slash_with_default`: parameters, some with defaults, then `/`. -/
def slashWithDefault : List Alt :=
  [alt [.many (.call .paramNoDefault), .many1 (.call .paramWithDefault), tok "/", tok ","]
     (seqOf [0, 1]),
   alt [.many (.call .paramNoDefault), .many1 (.call .paramWithDefault), tok "/",
        .ahead (tok ")")] (seqOf [0, 1])]

/-- `star_etc`: the star parameter or a bare `*` with keyword-only parameters, then perhaps
`**`; or `**` alone. -/
def starEtc : List Alt :=
  [alt [.call .invalidStarEtc],
   alt [tok "*", .call .paramNoDefault, .many (.call .paramMaybeDefault),
        .optional (.call .kwds)] (seqOf [1, 2, 3]),
   alt [tok "*", .call .paramNoDefaultStarAnnotated, .many (.call .paramMaybeDefault),
        .optional (.call .kwds)] (seqOf [1, 2, 3]),
   alt [tok "*", tok ",", .many1 (.call .paramMaybeDefault), .optional (.call .kwds)]
     (seqOf [2, 3]),
   alt [.call .kwds]]

/-- `kwds: invalid_kwds | '**' param_no_default`. -/
def kwds : List Alt := [alt [.call .invalidKwds], alt [tok "**", .call .paramNoDefault] (pick 1)]

/-- `param_no_default`. -/
def paramNoDefault : List Alt :=
  [alt [.call .param, tok ",", .optional typeComment] (pick 0),
   alt [.call .param, .optional typeComment, .ahead (tok ")")] (pick 0)]

/-- `param_no_default_star_annotation`. -/
def paramNoDefaultStarAnnotated : List Alt :=
  [alt [.call .paramStarAnnotated, tok ",", .optional typeComment] (pick 0),
   alt [.call .paramStarAnnotated, .optional typeComment, .ahead (tok ")")] (pick 0)]

/-- `param_with_default`: a parameter and its default. -/
def paramWithDefault : List Alt :=
  [alt [.call .param, .call .default, tok ",", .optional typeComment] (seqOf [0, 1]),
   alt [.call .param, .call .default, .optional typeComment, .ahead (tok ")")] (seqOf [0, 1])]

/-- `param_maybe_default`: a parameter, perhaps with a default. -/
def paramMaybeDefault : List Alt :=
  [alt [.call .param, .optional (.call .default), tok ",", .optional typeComment] (seqOf [0, 1]),
   alt [.call .param, .optional (.call .default), .optional typeComment, .ahead (tok ")")]
     (seqOf [0, 1])]

/-- `param: NAME annotation?`, a node above its annotation. -/
def param : List Alt := [alt [aName, .optional (.call .annotationExpr)] (nodeOf [1])]

/-- `param_star_annotation: NAME star_annotation`. -/
def paramStarAnnotated : List Alt := [alt [aName, .call .starAnnotationExpr] (nodeOf [1])]

/-- `annotation: ':' expression`. -/
def annotationExpr : List Alt := [alt [tok ":", .call .expression] (pick 1)]

/-- `star_annotation: ':' star_expression`. -/
def starAnnotationExpr : List Alt := [alt [tok ":", .call .starExpression] (pick 1)]

/-- `default: '=' expression | invalid_default`. -/
def defaultValue : List Alt :=
  [alt [tok "=", .call .expression] (pick 1), alt [.call .invalidDefault]]

/-- `lambda_params: invalid_lambda_parameters | lambda_parameters`. -/
def lambdaParams : List Alt :=
  [alt [.call .invalidLambdaParameters], alt [.call .lambdaParameters]]

/-- `lambda_parameters`: the five shapes of a lambda's parameter list. -/
def lambdaParameters : List Alt :=
  [alt [.call .lambdaSlashNoDefault, .many (.call .lambdaParamNoDefault),
        .many (.call .lambdaParamWithDefault), .optional (.call .lambdaStarEtc)]
     (nodeOf [0, 1, 2, 3]),
   alt [.call .lambdaSlashWithDefault, .many (.call .lambdaParamWithDefault),
        .optional (.call .lambdaStarEtc)] (nodeOf [0, 1, 2]),
   alt [.many1 (.call .lambdaParamNoDefault), .many (.call .lambdaParamWithDefault),
        .optional (.call .lambdaStarEtc)] (nodeOf [0, 1, 2]),
   alt [.many1 (.call .lambdaParamWithDefault), .optional (.call .lambdaStarEtc)] (nodeOf [0, 1]),
   alt [.call .lambdaStarEtc] (nodeOf [0])]

/-- `lambda_slash_no_default`. -/
def lambdaSlashNoDefault : List Alt :=
  [alt [.many1 (.call .lambdaParamNoDefault), tok "/", tok ","] (pick 0),
   alt [.many1 (.call .lambdaParamNoDefault), tok "/", .ahead (tok ":")] (pick 0)]

/-- `lambda_slash_with_default`. -/
def lambdaSlashWithDefault : List Alt :=
  [alt [.many (.call .lambdaParamNoDefault), .many1 (.call .lambdaParamWithDefault), tok "/",
        tok ","] (seqOf [0, 1]),
   alt [.many (.call .lambdaParamNoDefault), .many1 (.call .lambdaParamWithDefault), tok "/",
        .ahead (tok ":")] (seqOf [0, 1])]

/-- `lambda_star_etc`. -/
def lambdaStarEtc : List Alt :=
  [alt [.call .invalidLambdaStarEtc],
   alt [tok "*", .call .lambdaParamNoDefault, .many (.call .lambdaParamMaybeDefault),
        .optional (.call .lambdaKwds)] (seqOf [1, 2, 3]),
   alt [tok "*", tok ",", .many1 (.call .lambdaParamMaybeDefault), .optional (.call .lambdaKwds)]
     (seqOf [2, 3]),
   alt [.call .lambdaKwds]]

/-- `lambda_kwds: invalid_lambda_kwds | '**' lambda_param_no_default`. -/
def lambdaKwds : List Alt :=
  [alt [.call .invalidLambdaKwds], alt [tok "**", .call .lambdaParamNoDefault] (pick 1)]

/-- `lambda_param_no_default`. -/
def lambdaParamNoDefault : List Alt := lambdaParamEnd [.call .lambdaParam] (pick 0)

/-- `lambda_param_with_default`. -/
def lambdaParamWithDefault : List Alt :=
  lambdaParamEnd [.call .lambdaParam, .call .default] (seqOf [0, 1])

/-- `lambda_param_maybe_default`. -/
def lambdaParamMaybeDefault : List Alt :=
  lambdaParamEnd [.call .lambdaParam, .optional (.call .default)] (seqOf [0, 1])

/-- `lambda_param: NAME`, a node of its own. -/
def lambdaParam : List Alt := [alt [aName] leafAct]

end SyntaxAdvisor.Python.Rules
