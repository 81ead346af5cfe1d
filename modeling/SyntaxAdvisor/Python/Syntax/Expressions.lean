import SyntaxAdvisor.Python.Syntax.Build

/-!
# Expressions and targets

The rules for expressions, from conditional expressions and lambdas down through boolean
operators, comparisons, arithmetic and bitwise operators to calls, subscripts, attributes and
atoms; displays and comprehensions; the arguments of a call; and the targets of assignments,
loops and `del`.

A binary operation, a call, a subscript and the like is a node above its operands. A tuple or
a list is a node above its elements and is a valid target where they all are; a name, an
attribute and a subscript are valid targets, and a starred expression is one wherever what it
stars is, except after `del`.
-/

namespace SyntaxAdvisor.Python.Rules

open SyntaxAdvisor.Python

/-- The token at the start of the alternative. -/
def firstToken (e : Env) : Option Token := e.stream.tokens[e.start]?

/-- `expr (',' expr)+ [',']`, `expr ','` or `expr`: one expression or a tuple of them. -/
def tupleOrOne (r : Rule) : List Alt :=
  [alt [.call r, .many1 (.helper [alt [tok ",", .call r] (pick 1)]), .optional (tok ",")]
     (containerOf [0, 1]),
   alt [.call r, tok ","] (containerOf [0]),
   alt [.call r]]

/-- `expressions`. -/
def expressions : List Alt := tupleOrOne .expression

/-- `expression`, remembered: a conditional expression, a disjunction or a lambda. -/
def expression : List Alt :=
  [alt [.call .invalidExpression],
   alt [.call .invalidLegacyExpression],
   alt [.call .disjunction, tok "if", .call .disjunction, tok "else", .call .expression]
     (nodeOf [0, 2, 4]),
   alt [.call .disjunction],
   alt [.call .lambdef]]

/-- `yield_expr`: `yield from` an expression, or `yield` and perhaps star expressions. -/
def yieldExpr : List Alt :=
  [alt [tok "yield", tok "from", .call .expression] (nodeOf [2]),
   alt [tok "yield", .optional (.call .starExpressions)] (nodeOf [1])]

/-- `star_expressions`. -/
def starExpressions : List Alt := tupleOrOne .starExpression

/-- A starred bitwise or, `'*' bitwise_or`. -/
def starredOr : Alt := alt [tok "*", .call .bitwiseOr] (starOf 1)

/-- `star_expression`, remembered. -/
def starExpression : List Alt := [starredOr, alt [.call .expression]]

/-- `star_named_expressions: ','.star_named_expression+ [',']`. -/
def starNamedExpressions : List Alt :=
  [alt [.gather (tok ",") (.call .starNamedExpression), .optional (tok ",")] (pick 0)]

/-- `star_named_expression`. -/
def starNamedExpression : List Alt := [starredOr, alt [.call .namedExpression]]

/-- `assignment_expression: NAME ':=' ~ expression`. -/
def assignmentExpression : List Alt :=
  [alt [aName, tok ":=", .cut, .call .expression] (nodeOf [0, 3])]

/-- An expression not followed by `:=`. -/
def plainExpression : Alt := alt [.call .expression, .notAhead (tok ":=")] (pick 0)

/-- `named_expression`. -/
def namedExpression : List Alt :=
  [alt [.call .assignmentExpression], alt [.call .invalidNamedExpression], plainExpression]

/-- Operands joined by a boolean operator, or one operand. -/
def joinedBy (word : String) (r : Rule) : List Alt :=
  [alt [.call r, .many1 (.helper [alt [tok word, .call r] (pick 1)])] (nodeOf [0, 1]),
   alt [.call r]]

/-- `disjunction`, remembered. -/
def disjunction : List Alt := joinedBy "or" .conjunction

/-- `conjunction`, remembered. -/
def conjunction : List Alt := joinedBy "and" .inversion

/-- `inversion`, remembered: `not` and an inversion, or a comparison. -/
def inversion : List Alt :=
  [alt [tok "not", .call .inversion] (nodeOf [1]), alt [.call .comparison]]

/-- A comparison of `left` with `pairs`: never a target, except as the target of a `for` loop,
where `a in b` is read as one: there it is valid if the first operator is not `in`, and
otherwise if its left operand is. -/
def compareAct : Act := fun e =>
  let left := e.v 0
  let pairs := e.v 1
  let firstIn := e.stream.tokens[pairs.start]? == some (.name "in")
  .value { Val.node [left, pairs] with
           bad := { assign := true, delete := true, loop := firstIn && left.bad.loop } }

/-- `comparison`. -/
def comparison : List Alt :=
  [alt [.call .bitwiseOr, .many1 (.call .compareOpBitwiseOrPair)] compareAct,
   alt [.call .bitwiseOr]]

/-- `compare_op_bitwise_or_pair`: a comparison operator and its right operand. -/
def compareOpBitwiseOrPair : List Alt :=
  [.eqBitwiseOr, .noteqBitwiseOr, .lteBitwiseOr, .ltBitwiseOr, .gteBitwiseOr, .gtBitwiseOr,
   .notinBitwiseOr, .inBitwiseOr, .isnotBitwiseOr, .isBitwiseOr].map fun r => alt [.call r]

/-- An operator of one token and its right operand. -/
def operatorThen (s : String) : List Alt := [alt [tok s, .call .bitwiseOr] (pick 1)]

/-- `!=` is accepted; `<>` is read as the same token but gives nothing. -/
def notEqual : Act := fun e =>
  if firstToken e == some (.op "<>") then .nothing else .value Val.leaf

/-- `noteq_bitwise_or`. -/
def noteqBitwiseOr : List Alt :=
  [alt [.helper [alt [tok "!="] notEqual], .call .bitwiseOr] (pick 1)]

/-- `notin_bitwise_or: 'not' 'in' bitwise_or`. -/
def notinBitwiseOr : List Alt := [alt [tok "not", tok "in", .call .bitwiseOr] (pick 2)]

/-- `isnot_bitwise_or: 'is' 'not' bitwise_or`. -/
def isnotBitwiseOr : List Alt := [alt [tok "is", tok "not", .call .bitwiseOr] (pick 2)]

/-- A left-recursive binary operation: `r op next` for each operator, or `next`. -/
def binary (r : Rule) (ops : List String) (next : Rule) : List Alt :=
  ops.map (fun s => alt [.call r, tok s, .call next] (nodeOf [0, 2])) ++ [alt [.call next]]

/-- `bitwise_or`, left-recursive. -/
def bitwiseOr : List Alt := binary .bitwiseOr ["|"] .bitwiseXor

/-- `bitwise_xor`, left-recursive. -/
def bitwiseXor : List Alt := binary .bitwiseXor ["^"] .bitwiseAnd

/-- `bitwise_and`, left-recursive. -/
def bitwiseAnd : List Alt := binary .bitwiseAnd ["&"] .shiftExpr

/-- `shift_expr`, left-recursive. -/
def shiftExpr : List Alt := binary .shiftExpr ["<<", ">>"] .sum

/-- `sum`, left-recursive. -/
def sumExpr : List Alt := binary .sum ["+", "-"] .term

/-- `term`, left-recursive. -/
def termExpr : List Alt := binary .term ["*", "/", "//", "%", "@"] .factor

/-- `factor`, remembered: a unary `+`, `-` or `~`, or a power. -/
def factor : List Alt :=
  ["+", "-", "~"].map (fun s => alt [tok s, .call .factor] (nodeOf [1])) ++ [alt [.call .power]]

/-- `power: await_primary '**' factor | await_primary`. -/
def power : List Alt :=
  [alt [.call .awaitPrimary, tok "**", .call .factor] (nodeOf [0, 2]), alt [.call .awaitPrimary]]

/-- `await_primary`, remembered. -/
def awaitPrimary : List Alt :=
  [alt [tok "await", .call .primary] (nodeOf [1]), alt [.call .primary]]

/-- `primary`, left-recursive: attributes, calls and subscripts of an atom. -/
def primary : List Alt :=
  [alt [.call .primary, tok ".", aName] (placeOf [0]),
   alt [.call .primary, .call .genexp] (nodeOf [0, 1]),
   alt [.call .primary, tok "(", .optional (.call .arguments), tok ")"] (nodeOf [0, 2]),
   alt [.call .primary, tok "[", .call .slices, tok "]"] (placeOf [0, 2]),
   alt [.call .atom]]

/-- `slices`: one slice, or a tuple of slices and starred expressions. -/
def slices : List Alt :=
  [alt [.call .slice, .notAhead (tok ",")] (pick 0),
   alt [.gather (tok ",") (.helper [alt [.call .slice], alt [.call .starredExpression]]),
        .optional (tok ",")] (containerOf [0])]

/-- `slice`: `[lower] : [upper] [: [step]]`, or a named expression. -/
def sliceExpr : List Alt :=
  [alt [.optional (.call .expression), tok ":", .optional (.call .expression),
        .optional (.helper [alt [tok ":", .optional (.call .expression)] (pick 1)])]
     (nodeOf [0, 2, 3]),
   alt [.call .namedExpression]]

/-- `atom`: a name, a constant, strings, a number, a bracketed form or `...`. -/
def atom : List Alt :=
  [alt [aName],
   alt [tok "True"] leafAct, alt [tok "False"] leafAct, alt [tok "None"] leafAct,
   alt [.ahead aString, .call .strings] (pick 1),
   alt [aNumber] leafAct,
   alt [.ahead (tok "("), .helper [alt [.call .tuple], alt [.call .group], alt [.call .genexp]]]
     (pick 1),
   alt [.ahead (tok "["), .helper [alt [.call .list], alt [.call .listcomp]]] (pick 1),
   alt [.ahead (tok "\x7b"),
        .helper [alt [.call .dict], alt [.call .set], alt [.call .dictcomp], alt [.call .setcomp]]]
     (pick 1),
   alt [tok "..."] leafAct]

/-- `group`: a `yield` or named expression in parentheses. -/
def group : List Alt :=
  [alt [tok "(", .helper [alt [.call .yieldExpr], alt [.call .namedExpression]], tok ")"] (pick 1),
   alt [.call .invalidGroup]]

/-- `lambdef: 'lambda' [lambda_params] ':' expression`. -/
def lambdef : List Alt :=
  [alt [tok "lambda", .optional (.call .lambdaParams), tok ":", .call .expression]
     (make fun v => Val.node [orEmpty (v 1), v 3])]

/-- What ends a parse that reaches a faulty literal. -/
def haltOf : LiteralFault → Halt
  | .malformed => .rejected
  | .tooDeep => .overflow

/-- Joins adjacent string literals, in order: a literal that is not an f-string and is
faulty stops the parse, then one that mixes bytes with text, then an f-string whose fields
fail. The value is as deep as the deepest literal. -/
def joinLiterals (first : Bool) : List Literal → Nat → Made
  | [], d => .value { Val.leaf with depth := d }
  | lit :: rest, d =>
    match lit.fault, lit.formatted with
    | some f, false => .halt (haltOf f)
    | fault, _ =>
      if lit.bytes != first then .halt .rejected
      else match fault with
        | some f => .halt (haltOf f)
        | none => joinLiterals first rest (max d lit.depth)

/-- The string literals from position `i` to `j`. -/
def literalsIn (s : Stream) (i j : Nat) : List Literal :=
  (s.tokens.extract i j).toList.filterMap fun
    | .string _ lit => some lit
    | _ => none

/-- The action of `strings`. -/
def joinStrings : Act := fun e =>
  match literalsIn e.stream e.start e.stop with
  | [] => .nothing
  | lit :: rest => joinLiterals lit.bytes (lit :: rest) 1

/-- `strings`, remembered: adjacent string literals. -/
def strings : List Alt := [alt [.many1 aString] joinStrings]

/-- `list: '[' [star_named_expressions] ']'`. -/
def list : List Alt :=
  [alt [tok "[", .optional (.call .starNamedExpressions), tok "]"] (containerOf [1])]

/-- `tuple`: parentheses, empty or holding at least one comma. -/
def tuple : List Alt :=
  [alt [tok "(", .optional (.helper [alt [.call .starNamedExpression, tok ",",
                                           .optional (.call .starNamedExpressions)]
                                          (seqOf [0, 2])]), tok ")"] (containerOf [1])]

/-- `set: '{' star_named_expressions '}'`. -/
def setDisplay : List Alt :=
  [alt [tok "\x7b", .call .starNamedExpressions, tok "\x7d"] (nodeOf [1])]

/-- `dict`: key-value pairs in braces. -/
def dict : List Alt :=
  [alt [tok "\x7b", .optional (.call .doubleStarredKvpairs), tok "\x7d"] (nodeOf [1]),
   alt [tok "\x7b", .call .invalidDoubleStarredKvpairs, tok "\x7d"]]

/-- `double_starred_kvpairs: ','.double_starred_kvpair+ [',']`. -/
def doubleStarredKvpairs : List Alt :=
  [alt [.gather (tok ",") (.call .doubleStarredKvpair), .optional (tok ",")] (pick 0)]

/-- `double_starred_kvpair: '**' bitwise_or | kvpair`. -/
def doubleStarredKvpair : List Alt :=
  [alt [tok "**", .call .bitwiseOr] (pick 1), alt [.call .kvpair]]

/-- `kvpair: expression ':' expression`. -/
def kvpair : List Alt := [alt [.call .expression, tok ":", .call .expression] (seqOf [0, 2])]

/-- `for_if_clauses: for_if_clause+`. -/
def forIfClauses : List Alt := [alt [.many1 (.call .forIfClause)]]

/-- The conditions of a comprehension clause, `('if' disjunction)*`. -/
def conditions : Item := .many (.helper [alt [tok "if", .call .disjunction] (pick 1)])

/-- `for_if_clause`: `[async] for targets in iterable` and conditions. -/
def forIfClause : List Alt :=
  [alt [tok "async", tok "for", .call .starTargets, tok "in", .cut, .call .disjunction, conditions]
     (nodeOf [2, 5, 6]),
   alt [tok "for", .call .starTargets, tok "in", .cut, .call .disjunction, conditions]
     (nodeOf [1, 4, 5]),
   alt [.call .invalidForTarget]]

/-- `listcomp`. -/
def listcomp : List Alt :=
  [alt [tok "[", .call .namedExpression, .call .forIfClauses, tok "]"] (nodeOf [1, 2]),
   alt [.call .invalidComprehension]]

/-- `setcomp`. -/
def setcomp : List Alt :=
  [alt [tok "\x7b", .call .namedExpression, .call .forIfClauses, tok "\x7d"] (nodeOf [1, 2]),
   alt [.call .invalidComprehension]]

/-- `genexp`. -/
def genexp : List Alt :=
  [alt [tok "(", .helper [alt [.call .assignmentExpression], plainExpression],
        .call .forIfClauses, tok ")"] (nodeOf [1, 2]),
   alt [.call .invalidComprehension]]

/-- `dictcomp`. -/
def dictcomp : List Alt :=
  [alt [tok "\x7b", .call .kvpair, .call .forIfClauses, tok "\x7d"] (nodeOf [1, 2]),
   alt [.call .invalidDictComprehension]]

/-- `arguments`, remembered: arguments before a closing parenthesis. -/
def arguments : List Alt :=
  [alt [.call .args, .optional (tok ","), .ahead (tok ")")] (pick 0),
   alt [.call .invalidArguments]]

/-- A positional argument: starred, or an expression not followed by `=`. -/
def positional : Item :=
  .helper [alt [.call .starredExpression],
           alt [.helper [alt [.call .assignmentExpression], plainExpression],
                .notAhead (tok "=")] (pick 0)]

/-- The arguments of a call, counting its positional ones (starred ones among the keywords
included). -/
def argsWith : Act := make fun v =>
  { Val.seq [v 0, v 1] with count := (v 0).count + (v 1).starred }

/-- Keyword arguments alone; the starred ones among them are positional. -/
def keywordsOnly : Act := make fun v => { v 0 with count := (v 0).starred }

/-- `args`: positional arguments and perhaps keywords, or keywords alone. -/
def args : List Alt :=
  [alt [.gather (tok ",") positional,
        .optional (.helper [alt [tok ",", .call .kwargs] (pick 1)])] argsWith,
   alt [.call .kwargs] keywordsOnly]

/-- `kwargs`. -/
def kwargs : List Alt :=
  [alt [.gather (tok ",") (.call .kwargOrStarred), tok ",",
        .gather (tok ",") (.call .kwargOrDoubleStarred)] (seqOf [0, 2]),
   alt [.gather (tok ",") (.call .kwargOrStarred)],
   alt [.gather (tok ",") (.call .kwargOrDoubleStarred)]]

/-- `starred_expression: '*' expression`. -/
def starredExpression : List Alt := [alt [tok "*", .call .expression] (starOf 1)]

/-- A keyword argument: a node above the value of item `k`. -/
def keywordOf (k : Nat) : Act := make fun v => { depth := 1 + (v k).depth, count := 0 }

/-- A starred argument among the keywords. -/
def starredAmongKeywords : Act := make fun v => { v 0 with count := 0, starred := 1 }

/-- `kwarg_or_starred`. -/
def kwargOrStarred : List Alt :=
  [alt [.call .invalidKwarg],
   alt [aName, tok "=", .call .expression] (keywordOf 2),
   alt [.call .starredExpression] starredAmongKeywords]

/-- `kwarg_or_double_starred`. -/
def kwargOrDoubleStarred : List Alt :=
  [alt [.call .invalidKwarg],
   alt [aName, tok "=", .call .expression] (keywordOf 2),
   alt [tok "**", .call .expression] (keywordOf 1)]

/-- A further starred target after a comma. -/
def moreStarTargets : Item := .helper [alt [tok ",", .call .starTarget] (pick 1)]

/-- `star_targets`: one target, or a tuple of them. -/
def starTargets : List Alt :=
  [alt [.call .starTarget, .notAhead (tok ",")] (pick 0),
   alt [.call .starTarget, .many moreStarTargets, .optional (tok ",")] (containerOf [0, 1])]

/-- `star_targets_list_seq: ','.star_target+ [',']`. -/
def starTargetsListSeq : List Alt :=
  [alt [.gather (tok ",") (.call .starTarget), .optional (tok ",")] (pick 0)]

/-- `star_targets_tuple_seq`. -/
def starTargetsTupleSeq : List Alt :=
  [alt [.call .starTarget, .many1 moreStarTargets, .optional (tok ",")] (seqOf [0, 1]),
   alt [.call .starTarget, tok ","] (seqOf [0])]

/-- `star_target`, remembered. -/
def starTarget : List Alt :=
  [alt [tok "*", .helper [alt [.notAhead (tok "*"), .call .starTarget] (pick 1)]] (starOf 1),
   alt [.call .targetWithStarAtom]]

/-- An attribute or a subscript of `t_primary` that ends the target. -/
def placeTargets : List Alt :=
  [alt [.call .tPrimary, tok ".", aName, .notAhead (.call .tLookahead)] (placeOf [0]),
   alt [.call .tPrimary, tok "[", .call .slices, tok "]", .notAhead (.call .tLookahead)]
     (placeOf [0, 2])]

/-- `target_with_star_atom`, remembered. -/
def targetWithStarAtom : List Alt := placeTargets ++ [alt [.call .starAtom]]

/-- `star_atom`. -/
def starAtom : List Alt :=
  [alt [aName],
   alt [tok "(", .call .targetWithStarAtom, tok ")"] (pick 1),
   alt [tok "(", .optional (.call .starTargetsTupleSeq), tok ")"] (containerOf [1]),
   alt [tok "[", .optional (.call .starTargetsListSeq), tok "]"] (containerOf [1])]

/-- `single_target`. -/
def singleTarget : List Alt :=
  [alt [.call .singleSubscriptAttributeTarget], alt [aName],
   alt [tok "(", .call .singleTarget, tok ")"] (pick 1)]

/-- `single_subscript_attribute_target`. -/
def singleSubscriptAttributeTarget : List Alt := placeTargets

/-- `t_primary`, left-recursive: the part of a target before its last attribute or
subscript. -/
def tPrimary : List Alt :=
  [alt [.call .tPrimary, tok ".", aName, .ahead (.call .tLookahead)] (placeOf [0]),
   alt [.call .tPrimary, tok "[", .call .slices, tok "]", .ahead (.call .tLookahead)]
     (placeOf [0, 2]),
   alt [.call .tPrimary, .call .genexp, .ahead (.call .tLookahead)] (nodeOf [0, 1]),
   alt [.call .tPrimary, tok "(", .optional (.call .arguments), tok ")",
        .ahead (.call .tLookahead)] (nodeOf [0, 2]),
   alt [.call .atom, .ahead (.call .tLookahead)] (pick 0)]

/-- `t_lookahead: '(' | '[' | '.'`. -/
def tLookahead : List Alt := [alt [tok "("], alt [tok "["], alt [tok "."]]

/-- `del_targets: ','.del_target+ [',']`. -/
def delTargets : List Alt :=
  [alt [.gather (tok ",") (.call .delTarget), .optional (tok ",")] (pick 0)]

/-- `del_target`, remembered. -/
def delTarget : List Alt := placeTargets ++ [alt [.call .delTAtom]]

/-- `del_t_atom`. -/
def delTAtom : List Alt :=
  [alt [aName],
   alt [tok "(", .call .delTarget, tok ")"] (pick 1),
   alt [tok "(", .optional (.call .delTargets), tok ")"] (containerOf [1]),
   alt [tok "[", .optional (.call .delTargets), tok "]"] (containerOf [1])]

end SyntaxAdvisor.Python.Rules
