import Stagecraft.Router.Datum

/-!
# Router expressions

The expressions that inline routers are written in. Routers may use only part of the language:
constants, sequences, a few operators, comparisons and choices. Of any other construct only its kind
is kept (`Foreign`), so that a router that uses it can be told what it may not contain.
-/

namespace Stagecraft

namespace Router

inductive UnaryOp where
  | not
  | negative
  | positive
  | invert
  deriving DecidableEq, Repr

inductive BinaryOp where
  | add
  | sub
  | div
  | mult
  | matMult
  | mod
  | pow
  | floorDiv
  | leftShift
  | rightShift
  | bitOr
  | bitXor
  | bitAnd
  deriving DecidableEq, Repr

inductive LogicOp where
  | and
  | or
  deriving DecidableEq, Repr

inductive CompareOp where
  | equal
  | unequal
  | ordered (r : OrderRelation)
  | same
  | notSame
  | within
  | notWithin
  deriving DecidableEq, Repr

/-- The constructs of the language that routers may not contain, operators aside. -/
inductive Foreign where
  | name
  | member
  | subscript
  | slice
  | call
  | keyword
  | starred
  | namedExpr
  | await
  | yield
  | yieldFrom
  | set
  | dict
  | entry
  | listComp
  | setComp
  | dictComp
  | generatorExp
  | joinedStr
  deriving DecidableEq, Repr

/-- An expression. Of the parameters of a function only the names and the values they default to
are kept. -/
inductive Expr where
  | constant (d : Datum)
  | tuple (items : List Expr)
  | list (items : List Expr)
  | unary (op : UnaryOp) (operand : Expr)
  | binary (op : BinaryOp) (left right : Expr)
  | logic (op : LogicOp) (items : List Expr)
  | compare (first : Expr) (ops : List CompareOp) (rest : List Expr)
  | choice (test body other : Expr)
  | lambda (names : List String) (keywordDefaults defaults : List Expr) (body : Expr)
  | foreign (construct : Foreign) (parts : List Expr)
  deriving Inhabited

namespace UnaryOp

/-- The name of the operator among the constructs of the language. -/
def construct : UnaryOp → String
  | not => "Not"
  | negative => "USub"
  | positive => "UAdd"
  | invert => "Invert"

end UnaryOp

namespace BinaryOp

/-- The name of the operator among the constructs of the language. -/
def construct : BinaryOp → String
  | add => "Add"
  | sub => "Sub"
  | div => "Div"
  | mult => "Mult"
  | matMult => "MatMult"
  | mod => "Mod"
  | pow => "Pow"
  | floorDiv => "FloorDiv"
  | leftShift => "LShift"
  | rightShift => "RShift"
  | bitOr => "BitOr"
  | bitXor => "BitXor"
  | bitAnd => "BitAnd"

end BinaryOp

namespace LogicOp

/-- The name of the operator among the constructs of the language. -/
def construct : LogicOp → String
  | and => "And"
  | or => "Or"

end LogicOp

namespace CompareOp

/-- The name of the operator among the constructs of the language. -/
def construct : CompareOp → String
  | equal => "Eq"
  | unequal => "NotEq"
  | ordered .less => "Lt"
  | ordered .lessEqual => "LtE"
  | ordered .greater => "Gt"
  | ordered .greaterEqual => "GtE"
  | same => "Is"
  | notSame => "IsNot"
  | within => "In"
  | notWithin => "NotIn"

end CompareOp

namespace Foreign

/-- The name of the construct in the language; an entry of a mapping has none of its own. -/
def construct : Foreign → String
  | .name => "Name"
  | .member => "Attribute"
  | .subscript => "Subscript"
  | .slice => "Slice"
  | .call => "Call"
  | .keyword => "keyword"
  | .starred => "Starred"
  | .namedExpr => "NamedExpr"
  | .await => "Await"
  | .yield => "Yield"
  | .yieldFrom => "YieldFrom"
  | .set => "Set"
  | .dict => "Dict"
  | .entry => "entry"
  | .listComp => "ListComp"
  | .setComp => "SetComp"
  | .dictComp => "DictComp"
  | .generatorExp => "GeneratorExp"
  | .joinedStr => "JoinedStr"

end Foreign

/-- The shape of an expression: a construct and the shapes of its parts, operators included. -/
inductive Form where
  | node (construct : String) (parts : List Form)

namespace Form

def construct : Form → String
  | node c _ => c

def leaf (construct : String) : Form := node construct []

/-- Joins two lists of levels, level by level. -/
def mergeLevels : List (List String) → List (List String) → List (List String)
  | [], bs => bs
  | as, [] => as
  | a :: as, b :: bs => (a ++ b) :: mergeLevels as bs

mutual

/-- The constructs of each level, from the top, left to right. -/
def levels : Form → List (List String)
  | node c parts => [c] :: levelsAll parts

/-- The levels of shapes side by side. -/
def levelsAll : List Form → List (List String)
  | [] => []
  | f :: fs => mergeLevels (levels f) (levelsAll fs)

end

/-- All constructs, level by level. -/
def walk (f : Form) : List String := f.levels.flatten

end Form

namespace Expr

mutual

def form : Expr → Form
  | constant _ => .leaf "Constant"
  | tuple items => .node "Tuple" (formAll items)
  | list items => .node "List" (formAll items)
  | unary op operand => .node "UnaryOp" [.leaf op.construct, form operand]
  | binary op left right => .node "BinOp" [form left, .leaf op.construct, form right]
  | logic op items => .node "BoolOp" (.leaf op.construct :: formAll items)
  | compare first ops rest =>
    .node "Compare" (form first :: (ops.map (.leaf ·.construct) ++ formAll rest))
  | choice test body other => .node "IfExp" [form test, form body, form other]
  | lambda _ keywordDefaults defaults body =>
    .node "Lambda" [.node "arguments" (formAll keywordDefaults ++ formAll defaults), form body]
  | foreign c parts => .node c.construct (formAll parts)

def formAll : List Expr → List Form
  | [] => []
  | e :: es => form e :: formAll es

end

/-- The constructs that routers may contain. -/
def permitted : List String :=
  ["Lambda", "arguments", "Constant", "IfExp", "Compare", "BoolOp", "UnaryOp", "BinOp", "Tuple",
   "List", "And", "Or", "Not", "USub", "Add", "Sub", "Div", "Eq", "NotEq", "Lt", "LtE", "Gt",
   "GtE", "In", "NotIn", "Is", "IsNot"]

/-- The first construct that routers may not contain, looked for level by level. -/
def forbidden? (e : Expr) : Option String := e.form.walk.find? fun c => !permitted.contains c

mutual

/-- May every function inside have the parameter names it has? They must differ, and one name is
reserved. -/
def namesAreUsable : Expr → Bool
  | constant _ => true
  | tuple items => namesAreUsableAll items
  | list items => namesAreUsableAll items
  | unary _ operand => namesAreUsable operand
  | binary _ left right => namesAreUsable left && namesAreUsable right
  | logic _ items => namesAreUsableAll items
  | compare first _ rest => namesAreUsable first && namesAreUsableAll rest
  | choice test body other =>
    namesAreUsable test && namesAreUsable body && namesAreUsable other
  | lambda names keywordDefaults defaults body =>
    names.Nodup && !names.contains "__debug__" && namesAreUsableAll keywordDefaults &&
      namesAreUsableAll defaults && namesAreUsable body
  | foreign _ parts => namesAreUsableAll parts

/-- May every function inside have the parameter names it has? -/
def namesAreUsableAll : List Expr → Bool
  | [] => true
  | e :: es => namesAreUsable e && namesAreUsableAll es

end

end Expr

end Router

end Stagecraft
