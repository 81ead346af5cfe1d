import SyntaxAdvisor.Python.Syntax.Rule

/-!
# Writing rules down

The words in which the rules of the grammar are written: token items, alternatives, and the
actions that rules use most. An action that builds a node names the items that become the
node's children; one that passes a value on names the item.

An alternative without an action gives the value of its single item, or, with several items,
a placeholder name.
-/

namespace SyntaxAdvisor.Python.Rules

open SyntaxAdvisor.Python

/-- A token with this text: a reserved word when it is one, otherwise an operator or a
delimiter. -/
def tok (s : String) : Item :=
  if isKeyword s then .expect (.keyword s) else .expect (.op s)

/-- A name that is a keyword only in some places, with this text. -/
def soft (s : String) : Item := .expect (.soft s)

/-- Any name that is a keyword only in some places. -/
def anySoft : Item := .expect .anySoft

/-- A plain name. -/
def aName : Item := .expect .name

/-- A numeric literal. -/
def aNumber : Item := .expect .number

/-- A string literal. -/
def aString : Item := .expect .string

/-- The end of a logical line. -/
def newline : Item := .expect .newline

/-- One more level of indentation. -/
def indent : Item := .expect .indent

/-- One level of indentation less. -/
def dedent : Item := .expect .dedent

/-- The end of the text. -/
def endmarker : Item := .expect .endmarker

/-- A type comment. -/
def typeComment : Item := .expect .typeComment

/-- An action computed from the values of the items. -/
def make (f : (Nat → Val) → Val) : Act := fun e => .value (f e.v)

/-- Passes a value on; a missing optional part gives nothing. -/
def pass (v : Val) : Made := if v.present then .value v else .nothing

/-- The action of an alternative written without one: the value of its only item, or a
placeholder name when there are several. -/
def auto : Act := fun e => if e.vals.size == 1 then pass (e.v 0) else .value (Val.ident "")

/-- An alternative. -/
def alt (items : List Item) (act : Act := auto) : Alt := .mk items act

/-- Passes on the value of item `k`; if that is a missing optional part, gives nothing. -/
def pick (k : Nat) : Act := fun e => pass (e.v k)

/-- A node over items `ks`. -/
def nodeOf (ks : List Nat) : Act := make fun v => Val.node (ks.map v)

/-- A node valid as a target (an attribute or a subscript) over items `ks`. -/
def placeOf (ks : List Nat) : Act := make fun v => Val.place (ks.map v)

/-- A tuple or list holding items `ks` as elements. -/
def containerOf (ks : List Nat) : Act := make fun v => Val.container (ks.map v)

/-- The sequence of items `ks`. -/
def seqOf (ks : List Nat) : Act := make fun v => Val.seq (ks.map v)

/-- A starred expression around item `k`. -/
def starOf (k : Nat) : Act := make fun v => Val.star (v k)

/-- A node without children. -/
def leafAct : Act := make fun _ => Val.leaf

/-- Stops the parse with a syntax error. -/
def raise : Act := fun _ => .halt .rejected

/-- Stops the parse if item `k` is not valid as a target of the kind `kind` tells; otherwise
gives nothing. -/
def invalidTarget (kind : Targets → Bool) (k : Nat) : Act :=
  fun e => if kind (e.v k).bad then .halt .rejected else .nothing

/-- The argument list a function or lambda gets: the given one, or an empty one. -/
def orEmpty (v : Val) : Val := if v.present then v else Val.leaf

/-- `a` decorated by `ds`: the definition's node also holds the decorators. -/
def decorated (ds a : Val) : Val := { a with depth := max a.depth (ds.depth + 1) }

end SyntaxAdvisor.Python.Rules
