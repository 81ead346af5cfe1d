import SyntaxAdvisor.Python.Syntax.Build

/-!
# Patterns

The patterns of a `case` clause: literals, captures, the wildcard `_`, dotted values, groups,
sequences, mappings and class patterns, joined by `|` and named with `as`.

Every pattern is a node of the syntax tree; a literal or a dotted value is a node above its
expression, and a key of a mapping hangs from the mapping beside its pattern.
-/

namespace SyntaxAdvisor.Python.Rules

open SyntaxAdvisor.Python

/-- Whether a numeric literal's text is imaginary. -/
def isImaginary (text : String) : Bool := text.endsWith "j" || text.endsWith "J"

/-- Whether the first token of the alternative is an imaginary number. -/
def startsImaginary (e : Env) : Bool :=
  match e.stream.tokens[e.start]? with
  | some (.number t) => isImaginary t
  | _ => false

/-- The real part of a complex literal: the parse stops if the number is imaginary. -/
def ensureReal : Act := fun e => if startsImaginary e then .halt .rejected else .value Val.leaf

/-- The imaginary part of a complex literal: the parse stops if the number is not imaginary. -/
def ensureImaginary : Act :=
  fun e => if startsImaginary e then .value Val.leaf else .halt .rejected

/-- Neither `+` nor `-` follows. -/
def noSign : Item := .notAhead (.helper [alt [tok "+"], alt [tok "-"]])

/-- Neither `.`, `(` nor `=` follows. -/
def notDotted : Item := .notAhead (.helper [alt [tok "."], alt [tok "("], alt [tok "="]])

/-- `patterns`: a sequence without brackets, or one pattern. -/
def patterns : List Alt := [alt [.call .openSequencePattern] (nodeOf [0]), alt [.call .pattern]]

/-- `pattern: as_pattern | or_pattern`. -/
def pattern : List Alt := [alt [.call .asPattern], alt [.call .orPattern]]

/-- `as_pattern`: a pattern named with `as`. -/
def asPattern : List Alt :=
  [alt [.call .orPattern, tok "as", .call .patternCaptureTarget] (nodeOf [0]),
   alt [.call .invalidAsPattern]]

/-- `or_pattern`: closed patterns joined by `|`; a single one stands for itself. -/
def orPattern : List Alt :=
  [alt [.gather (tok "|") (.call .closedPattern)]
     (make fun v => if (v 0).count == 1 then v 0 else Val.node [v 0])]

/-- `closed_pattern`, remembered. -/
def closedPattern : List Alt :=
  [alt [.call .literalPattern], alt [.call .capturePattern], alt [.call .wildcardPattern],
   alt [.call .valuePattern], alt [.call .groupPattern], alt [.call .sequencePattern],
   alt [.call .mappingPattern], alt [.call .classPattern]]

/-- `literal_pattern`: a number, a complex number, strings, or a singleton. -/
def literalPattern : List Alt :=
  [alt [.call .signedNumber, noSign] (nodeOf [0]),
   alt [.call .complexNumber] (nodeOf [0]),
   alt [.call .strings] (nodeOf [0]),
   alt [tok "None"] leafAct, alt [tok "True"] leafAct, alt [tok "False"] leafAct]

/-- `literal_expr`: the expression of a literal pattern, as a mapping key. -/
def literalExpr : List Alt :=
  [alt [.call .signedNumber, noSign] (pick 0),
   alt [.call .complexNumber], alt [.call .strings],
   alt [tok "None"] leafAct, alt [tok "True"] leafAct, alt [tok "False"] leafAct]

/-- `complex_number`: a real part, `+` or `-`, and an imaginary part. -/
def complexNumber : List Alt :=
  [alt [.call .signedRealNumber, tok "+", .call .imaginaryNumber] (nodeOf [0, 2]),
   alt [.call .signedRealNumber, tok "-", .call .imaginaryNumber] (nodeOf [0, 2])]

/-- `signed_number: NUMBER | '-' NUMBER`. -/
def signedNumber : List Alt := [alt [aNumber] leafAct, alt [tok "-", aNumber] (nodeOf [1])]

/-- `signed_real_number: real_number | '-' real_number`. -/
def signedRealNumber : List Alt :=
  [alt [.call .realNumber], alt [tok "-", .call .realNumber] (nodeOf [1])]

/-- `real_number: NUMBER`, which must not be imaginary. -/
def realNumber : List Alt := [alt [aNumber] ensureReal]

/-- `imaginary_number: NUMBER`, which must be imaginary. -/
def imaginaryNumber : List Alt := [alt [aNumber] ensureImaginary]

/-- `capture_pattern: pattern_capture_target`. -/
def capturePattern : List Alt := [alt [.call .patternCaptureTarget] leafAct]

/-- `pattern_capture_target`: a name other than `_`, not followed by `.`, `(` or `=`. -/
def patternCaptureTarget : List Alt := [alt [.notAhead (soft "_"), aName, notDotted] (pick 1)]

/-- `wildcard_pattern: "_"`. -/
def wildcardPattern : List Alt := [alt [soft "_"] leafAct]

/-- `value_pattern`: a dotted name, not followed by `.`, `(` or `=`. -/
def valuePattern : List Alt := [alt [.call .attr, notDotted] (nodeOf [0])]

/-- `attr`, left-recursive: `name_or_attr '.' NAME`. -/
def attr : List Alt := [alt [.call .nameOrAttr, tok ".", aName] (placeOf [0])]

/-- `name_or_attr: attr | NAME`. -/
def nameOrAttr : List Alt := [alt [.call .attr], alt [aName]]

/-- `group_pattern: '(' pattern ')'`. -/
def groupPattern : List Alt := [alt [tok "(", .call .pattern, tok ")"] (pick 1)]

/-- `sequence_pattern`: patterns in brackets or parentheses. -/
def sequencePattern : List Alt :=
  [alt [tok "[", .optional (.call .maybeSequencePattern), tok "]"] (nodeOf [1]),
   alt [tok "(", .optional (.call .openSequencePattern), tok ")"] (nodeOf [1])]

/-- `open_sequence_pattern`: a pattern, a comma, and perhaps more. -/
def openSequencePattern : List Alt :=
  [alt [.call .maybeStarPattern, tok ",", .optional (.call .maybeSequencePattern)]
     (seqOf [0, 2])]

/-- `maybe_sequence_pattern: ','.maybe_star_pattern+ ','?`. -/
def maybeSequencePattern : List Alt :=
  [alt [.gather (tok ",") (.call .maybeStarPattern), .optional (tok ",")] (pick 0)]

/-- `maybe_star_pattern: star_pattern | pattern`. -/
def maybeStarPattern : List Alt := [alt [.call .starPattern], alt [.call .pattern]]

/-- `star_pattern`, remembered: `*` and a name or `_`. -/
def starPattern : List Alt :=
  [alt [tok "*", .call .patternCaptureTarget] leafAct,
   alt [tok "*", .call .wildcardPattern] leafAct]

/-- `mapping_pattern`: key patterns and perhaps `**rest`, in braces. -/
def mappingPattern : List Alt :=
  [alt [tok "\x7b", tok "\x7d"] leafAct,
   alt [tok "\x7b", .call .doubleStarPattern, .optional (tok ","), tok "\x7d"] leafAct,
   alt [tok "\x7b", .call .itemsPattern, tok ",", .call .doubleStarPattern, .optional (tok ","),
        tok "\x7d"] (nodeOf [1]),
   alt [tok "\x7b", .call .itemsPattern, .optional (tok ","), tok "\x7d"] (nodeOf [1])]

/-- `items_pattern: ','.key_value_pattern+`. -/
def itemsPattern : List Alt := [alt [.gather (tok ",") (.call .keyValuePattern)]]

/-- `key_value_pattern`: a literal or dotted key, `:` and a pattern. -/
def keyValuePattern : List Alt :=
  [alt [.helper [alt [.call .literalExpr], alt [.call .attr]], tok ":", .call .pattern]
     (seqOf [0, 2])]

/-- `double_star_pattern: '**' pattern_capture_target`. -/
def doubleStarPattern : List Alt := [alt [tok "**", .call .patternCaptureTarget] (pick 1)]

/-- `class_pattern`: a dotted name and, in parentheses, positional and keyword patterns. -/
def classPattern : List Alt :=
  [alt [.call .nameOrAttr, tok "(", tok ")"] (nodeOf [0]),
   alt [.call .nameOrAttr, tok "(", .call .positionalPatterns, .optional (tok ","), tok ")"]
     (nodeOf [0, 2]),
   alt [.call .nameOrAttr, tok "(", .call .keywordPatterns, .optional (tok ","), tok ")"]
     (nodeOf [0, 2]),
   alt [.call .nameOrAttr, tok "(", .call .positionalPatterns, tok ",", .call .keywordPatterns,
        .optional (tok ","), tok ")"] (nodeOf [0, 2, 4]),
   alt [.call .invalidClassPattern]]

/-- `positional_patterns: ','.pattern+`. -/
def positionalPatterns : List Alt := [alt [.gather (tok ",") (.call .pattern)]]

/-- `keyword_patterns: ','.keyword_pattern+`. -/
def keywordPatterns : List Alt := [alt [.gather (tok ",") (.call .keywordPattern)]]

/-- `keyword_pattern: NAME '=' pattern`. -/
def keywordPattern : List Alt := [alt [aName, tok "=", .call .pattern] (pick 2)]

end SyntaxAdvisor.Python.Rules
