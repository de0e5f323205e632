import Stagecraft.Router.Expression

/-!
# The value of a router expression

`Expr.evaluate` is total: the constructs that routers may contain have no loops, names or calls. A
value also carries where it came from, since `is` asks whether two values are one and the same:
values of constant expressions are kept once each, sequences and sums made while running are new
every time, and some values exist only once anyway.
-/

namespace Stagecraft

namespace Router

/-- Where a value came from: it is that of a constant expression, it was one before a choice passed
it on, or it was made while running. -/
inductive Origin where
  | constant
  | kept
  | made
  deriving DecidableEq, Repr

structure Held where
  datum : Datum
  origin : Origin

namespace Datum

mutual

/-- Are two constant values kept as one? They must agree in kind and content; numbers that denote
nothing are never the same. -/
def merged : Datum → Datum → Bool
  | real x, real y => x.toBits = y.toBits && !x.isNaN
  | complex a b, complex c d =>
    a.toBits = c.toBits && b.toBits = d.toBits && !a.isNaN && !b.isNaN
  | nothing, nothing => true
  | ellipsis, ellipsis => true
  | truth a, truth b => a = b
  | integer m, integer n => m = n
  | text s, text t => s = t
  | bytes s, bytes t => s = t
  | tuple as, tuple bs => mergedAll as bs
  | _, _ => false

/-- Are two constant sequences kept as one? -/
def mergedAll : List Datum → List Datum → Bool
  | [], [] => true
  | a :: as, b :: bs => merged a b && mergedAll as bs
  | _, _ => false

end

/-- Is there only one value like this at any time? -/
def isUnique : Datum → Bool
  | nothing => true
  | ellipsis => true
  | truth _ => true
  | integer n => -5 ≤ n && n ≤ 256
  | text codes => codes.isEmpty
  | bytes octets => octets.isEmpty
  | tuple items => items.isEmpty
  | _ => false

/-- Is a sequence without items, so that joining it to another leaves that one as it is? -/
def isEmptyFixed : Datum → Bool
  | text codes => codes.isEmpty
  | bytes octets => octets.isEmpty
  | tuple items => items.isEmpty
  | _ => false

/-- Is the value a fixed sequence? Lists are not, since they are new every time. -/
def isFixed : Datum → Bool
  | text _ => true
  | bytes _ => true
  | tuple _ => true
  | _ => false

end Datum

namespace Held

/-- Are two values one and the same? -/
def same (a b : Held) : Bool :=
  a.datum.merged b.datum && (a.datum.isUnique || (a.origin ≠ .made && b.origin ≠ .made))

/-- A value passed on by a choice is no constant expression any more. -/
def pass (a : Held) : Held := { a with origin := if a.origin = .made then .made else .kept }

/-- The origin of what an operation makes of values. -/
def originOf (operands : List Held) : Origin :=
  if operands.all (·.origin = .constant) then .constant else .made

/-- The result of an operation on two numbers or sequences. Joining an empty fixed sequence gives
the other one itself. -/
def arithmetic (op : Arithmetic) (a b : Held) : Except Fault Held := do
  let d ← op.apply a.datum b.datum
  if originOf [a, b] = .constant then return ⟨d, .constant⟩
  else if d.isFixed && a.datum.isEmptyFixed then return b.pass
  else if d.isFixed && b.datum.isEmptyFixed then return a.pass
  else return ⟨d, .made⟩

end Held

namespace CompareOp

def holds (op : CompareOp) (a b : Held) : Except Fault Bool :=
  match op with
  | equal => .ok (a.datum.equal b.datum)
  | unequal => .ok !(a.datum.equal b.datum)
  | ordered r => a.datum.ordered r b.datum
  | same => .ok (a.same b)
  | notSame => .ok !(a.same b)
  | within => a.datum.within b.datum
  | notWithin => (a.datum.within b.datum).map (!·)

end CompareOp

namespace UnaryOp

/-- The value of an operator on a value. Operators that routers may not contain have none. -/
def apply (op : UnaryOp) (a : Held) : Except Fault Held :=
  match op with
  | not => .ok ⟨.truth !a.datum.isTrue, Held.originOf [a]⟩
  | negative => a.datum.negate.map fun d => ⟨d, Held.originOf [a]⟩
  | _ => .error .typeMismatch

end UnaryOp

namespace BinaryOp

/-- The value of an operator on two values. Operators that routers may not contain have none. -/
def apply (op : BinaryOp) (a b : Held) : Except Fault Held :=
  match op with
  | add => Held.arithmetic .sum a b
  | sub => Held.arithmetic .difference a b
  | div => Held.arithmetic .quotient a b
  | _ => .error .typeMismatch

end BinaryOp

namespace LogicOp

/-- Is a value the result without looking at those after it? -/
def decides (op : LogicOp) (d : Datum) : Bool :=
  match op with
  | and => !d.isTrue
  | or => d.isTrue

end LogicOp

namespace Expr

mutual

def evaluate : Expr → Except Fault Held
  | constant d => .ok ⟨d, .constant⟩
  | tuple items => do
    let held ← evaluateAll items
    return ⟨.tuple (held.map (·.datum)), Held.originOf held⟩
  | list items => do
    let held ← evaluateAll items
    return ⟨.list (held.map (·.datum)), .made⟩
  | unary op operand => do op.apply (← evaluate operand)
  | binary op left right => do
    let a ← evaluate left
    let b ← evaluate right
    op.apply a b
  | logic op items => evaluateLogic op items
  | compare first ops rest => do
    let a ← evaluate first
    return ⟨.truth (← evaluateChain a ops rest), .made⟩
  | choice test body other => do
    if (← evaluate test).datum.isTrue then return (← evaluate body).pass
    else return (← evaluate other).pass
  | lambda _ keywordDefaults defaults _ => do
    let _ ← evaluateAll defaults
    let _ ← evaluateAll keywordDefaults
    return ⟨.function, .made⟩
  | foreign _ _ => .error .typeMismatch

def evaluateAll : List Expr → Except Fault (List Held)
  | [] => .ok []
  | e :: es => do
    let a ← evaluate e
    return a :: (← evaluateAll es)

/-- The first value that decides, or else the last. -/
def evaluateLogic (op : LogicOp) : List Expr → Except Fault Held
  | [] => .ok ⟨.nothing, .made⟩
  | e :: es => do
    let a ← evaluate e
    if es.isEmpty || op.decides a.datum then return a.pass
    else evaluateLogic op es

/-- Do all comparisons of neighbours hold? The first that does not ends it. -/
def evaluateChain (a : Held) : List CompareOp → List Expr → Except Fault Bool
  | op :: ops, e :: es => do
    let b ← evaluate e
    if ← op.holds a b then evaluateChain b ops es
    else return false
  | _, _ => .ok true

end

/-- The value of an expression by itself. -/
def value (e : Expr) : Except Fault Datum := e.evaluate.map (·.datum)

end Expr

end Router

end Stagecraft
