import Stagecraft.Router.Expression
import Stagecraft.Router.Literal

/-!
# The grammar of router expressions

Every rule is a parser that takes tokens from the front. The rules of one level of binding use the
level below; where a rule comes back to a wider one, inside brackets or after a keyword, it asks for
it by its `Level`. `Level.parse` ties the rules together: each time a level is asked for a token has
been taken, so the number of tokens bounds the depth.
-/

namespace Stagecraft

namespace Router

/-- A parser takes tokens from the front, or fails. -/
abbrev Parse := StateT (List Token) Option

/-- The rules that others come back to. -/
inductive Level where
  | expression
  | disjunction
  | bitwise
  | factor
  deriving DecidableEq, Repr

namespace Parse

/-- The next token, left where it is. -/
def peek : Parse (Option Token) := do return (← get).head?

def skip : Parse Unit := modify List.tail

def atMark (m : String) : Parse Bool := do
  match ← peek with
  | some (.mark s) => return s = m
  | _ => return false

def atWord (w : String) : Parse Bool := do
  match ← peek with
  | some (.word s) => return s = w
  | _ => return false

def tryMark (m : String) : Parse Bool := do
  if ← atMark m then
    skip
    return true
  else return false

def tryWord (w : String) : Parse Bool := do
  if ← atWord w then
    skip
    return true
  else return false

def mark (m : String) : Parse Unit := do if ← tryMark m then return () else failure

def word (w : String) : Parse Unit := do if ← tryWord w then return () else failure

def name : Parse String := do
  match ← peek with
  | some (.name s) =>
    skip
    return s
  | _ => failure

/-- Is a name next, and this mark after it? -/
def atNameAnd (m : String) : Parse Bool := do
  match ← get with
  | .name _ :: .mark s :: _ => return s = m
  | _ => return false

/-- As many results as a parser gives, at most `n`. -/
def upTo {α : Type} (step : Parse (Option α)) : Nat → Parse (List α)
  | 0 => return []
  | n + 1 => do
    match ← step with
    | none => return []
    | some a => return a :: (← upTo step n)

/-- As many results as a parser gives; each takes a token. -/
def many {α : Type} (step : Parse (Option α)) : Parse (List α) := do
  upTo step ((← get).length + 1)

/-- Changes a value as often as a step does, at most `n` times. -/
def repeatUpTo {α : Type} (step : α → Parse (Option α)) : Nat → α → Parse α
  | 0, a => return a
  | n + 1, a => do
    match ← step a with
    | none => return a
    | some b => repeatUpTo step n b

/-- Changes a value as often as a step does; each time it takes a token. -/
def loop {α : Type} (step : α → Parse (Option α)) (a : α) : Parse α := do
  repeatUpTo step ((← get).length + 1) a

/-- Items with commas between them, up to a closing mark that is left; a last comma is allowed. -/
def separated {α : Type} (close : String) (item : Parse α) : Parse (List α) :=
  many do
    if ← atMark close then return none
    let a ← item
    if !(← tryMark ",") && !(← atMark close) then failure
    return some a

end Parse

namespace Grammar

open Parse

variable [CharacterNames] (self : Level → Parse Expr)

mutual

/-- Names, attributes, subscripts and sequences of these are what values are bound to. -/
def isTarget : Expr → Bool
  | .tuple items => areTargets items
  | .list items => areTargets items
  | .foreign .name _ => true
  | .foreign .member _ => true
  | .foreign .subscript _ => true
  | .foreign .starred parts => areTargets parts
  | _ => false

/-- Can values be bound to all of these? -/
def areTargets : List Expr → Bool
  | [] => true
  | e :: es => isTarget e && areTargets es

end

/-- `name := value`, or an expression. -/
def named : Parse Expr := do
  if ← atNameAnd ":=" then
    skip
    skip
    return .foreign .namedExpr [← self .expression]
  else self .expression

def isStarred : Expr → Bool
  | .foreign .starred _ => true
  | _ => false

/-- An item of a display: it may be unpacked. -/
def item : Parse Expr := do
  if ← tryMark "*" then return .foreign .starred [← self .bitwise]
  else named self

def atClause : Parse Bool := do return (← atWord "for") || (← atWord "async")

def target (primary : Parse Expr) : Parse Expr := do
  if ← tryMark "*" then return .foreign .starred [← primary]
  else primary

/-- The targets of a comprehension clause, up to the word `in`. -/
def targets (primary : Parse Expr) : Parse Unit := do
  let first ← target primary
  let more ← many do
    if ← tryMark "," then
      if ← atWord "in" then return some none
      else return some (some (← target primary))
    else return none
  if areTargets (first :: more.filterMap id) then return () else failure

def conditions : Parse Unit := do
  let _ ← many do
    if ← tryWord "if" then return some (← self .disjunction) else return none
  return ()

def clause (primary : Parse Expr) : Parse Unit := do
  let _ ← tryWord "async"
  word "for"
  targets primary
  word "in"
  let _ ← self .disjunction
  conditions self

/-- The clauses of a comprehension, of which there is one at least. -/
def clauses (primary : Parse Expr) : Parse Unit := do
  clause self primary
  let _ ← many do
    if ← atClause then return some (← clause self primary) else return none
  return ()

/-- The inside of round brackets and the closing one. -/
def parenthesized (primary : Parse Expr) : Parse Expr := do
  if ← tryMark ")" then return .tuple []
  else if ← tryWord "yield" then
    let e ←
      if ← tryWord "from" then pure (.foreign .yieldFrom [← self .expression])
      else if ← atMark ")" then pure (.foreign .yield [])
      else
        let entry : Parse Expr := do
          if ← tryMark "*" then return .foreign .starred [← self .bitwise]
          else self .expression
        let first ← entry
        let more ← if ← tryMark "," then separated ")" entry else pure []
        pure (.foreign .yield (first :: more))
    mark ")"
    return e
  else
    let first ← item self
    if (← atClause) && !isStarred first then
      clauses self primary
      mark ")"
      return .foreign .generatorExp [first]
    else if ← tryMark "," then
      let more ← separated ")" (item self)
      mark ")"
      return .tuple (first :: more)
    else if isStarred first then failure
    else
      mark ")"
      return first

/-- The inside of square brackets and the closing one. -/
def bracketed (primary : Parse Expr) : Parse Expr := do
  if ← tryMark "]" then return .list []
  else
    let first ← item self
    if (← atClause) && !isStarred first then
      clauses self primary
      mark "]"
      return .foreign .listComp [first]
    else
      let more ← if ← tryMark "," then separated "]" (item self) else pure []
      mark "]"
      return .list (first :: more)

def entry : Parse Expr := do
  if ← tryMark "**" then self .bitwise
  else
    let key ← self .expression
    mark ":"
    return .foreign .entry [key, ← self .expression]

/-- The rest of a mapping after its first entry. -/
def mappingRest (first : List Expr) : Parse Expr := do
  let more ← if ← tryMark "," then separated "\x7d" (entry self) else pure []
  mark "\x7d"
  return .foreign .dict (first ++ more)

/-- The rest of a set after its first item. -/
def setRest (first : Expr) : Parse Expr := do
  let more ← if ← tryMark "," then separated "\x7d" (item self) else pure []
  mark "\x7d"
  return .foreign .set (first :: more)

/-- The inside of curly brackets and the closing one. -/
def braced (primary : Parse Expr) : Parse Expr := do
  if ← tryMark "\x7d" then return .foreign .dict []
  else if ← tryMark "**" then mappingRest self [← self .bitwise]
  else
    let assigned ← atNameAnd ":="
    let first ← item self
    if isStarred first then setRest self first
    else if !assigned && (← tryMark ":") then
      let value ← self .expression
      if ← atClause then
        clauses self primary
        mark "\x7d"
        return .foreign .dictComp [first, value]
      else mappingRest self [first, value]
    else if ← atClause then
      clauses self primary
      mark "\x7d"
      return .foreign .setComp [first]
    else setRest self first

/-- Checks an expression inside a formatted text, which is read as if in round brackets. -/
def embedded (primary : Parse Expr) (text : List Char) : Parse Unit :=
  match Token.ofChars? ('(' :: (text ++ [')'])) with
  | none => failure
  | some tokens =>
    match ((do mark "("; parenthesized self primary) : Parse Expr).run tokens with
    | some (_, []) => return ()
    | _ => failure

/-- Adjacent quoted texts, which are joined. -/
def quotations (primary : Parse Expr) : Parse Expr := do
  let all ← many do
    match ← peek with
    | some (.quotation q) =>
      skip
      return some q
    | _ => return none
  match all with
  | [] => failure
  | q :: _ =>
    if all.any (·.bytes ≠ q.bytes) then failure
    let plain := all.filter fun q => !q.formatted
    match plain.mapM Quotation.codes?, (all.filter (·.formatted)).mapM Quotation.expressions? with
    | some codes, some texts =>
      texts.flatten.forM (embedded self primary)
      if all.any (·.formatted) then return .foreign .joinedStr []
      else if q.bytes then return .constant (.bytes codes.flatten)
      else return .constant (.text codes.flatten)
    | _, _ => failure

/-- An expression that needs no further binding. -/
def atom (primary : Parse Expr) : Parse Expr := do
  match ← peek with
  | some (.name _) => skip; return .foreign .name []
  | some (.word "True") => skip; return .constant (.truth true)
  | some (.word "False") => skip; return .constant (.truth false)
  | some (.word "None") => skip; return .constant .nothing
  | some (.number d) => skip; return .constant d
  | some (.quotation _) => quotations self primary
  | some (.mark "...") => skip; return .constant .ellipsis
  | some (.mark "(") => skip; parenthesized self primary
  | some (.mark "[") => skip; bracketed self primary
  | some (.mark "\x7b") => skip; braced self primary
  | _ => failure

/-- The rest of a slice, after its first colon. -/
def sliceRest : Parse Expr := do
  let isEnd : Parse Bool := do return (← atMark ":") || (← atMark ",") || (← atMark "]")
  let bound : Parse (List Expr) := do if ← isEnd then return [] else return [← self .expression]
  let upper ← bound
  let step ← if ← tryMark ":" then bound else pure []
  return .foreign .slice (upper ++ step)

def subscript : Parse Expr := do
  if ← tryMark "*" then return .foreign .starred [← self .expression]
  else if ← tryMark ":" then sliceRest self
  else
    let assigned ← atNameAnd ":="
    let first ← named self
    if !assigned && (← tryMark ":") then sliceRest self else return first

/-- How far the arguments of a call have come: after a keyword no more positional ones may come,
after an unpacked mapping only keywords. -/
inductive Stage where
  | positional
  | keywords
  | mappings
  deriving DecidableEq, Repr

/-- One argument. The first may be a comprehension, if it is the only one. -/
def argument (primary : Parse Expr) (stage : Stage) (isFirst : Bool) : Parse (Stage × Expr) := do
  if ← tryMark "*" then
    if stage = .mappings then failure
    return (stage, .foreign .starred [← self .expression])
  else if ← tryMark "**" then return (.mappings, .foreign .keyword [← self .expression])
  else if ← atNameAnd "=" then
    skip
    skip
    return (if stage = .mappings then .mappings else .keywords,
      .foreign .keyword [← self .expression])
  else
    if stage ≠ .positional then failure
    let e ← named self
    if isFirst && (← atClause) then
      clauses self primary
      if !(← atMark ")") then failure
      return (stage, .foreign .generatorExp [e])
    else return (stage, e)

/-- The arguments of a call and the closing bracket. -/
def arguments (primary : Parse Expr) : Parse (List Expr) := do
  let step (state : Stage × List Expr) : Parse (Option (Stage × List Expr)) := do
    if ← atMark ")" then return none
    let (stage, e) ← argument self primary state.1 state.2.isEmpty
    if !(← tryMark ",") && !(← atMark ")") then failure
    return some (stage, e :: state.2)
  let (_, reversed) ← loop step (.positional, [])
  mark ")"
  return reversed.reverse

/-- What follows an expression that is called, indexed or asked for an attribute. -/
def trailer (primary : Parse Expr) (e : Expr) : Parse (Option Expr) := do
  if ← tryMark "." then
    let _ ← name
    return some (.foreign .member [e])
  else if ← tryMark "(" then return some (.foreign .call (e :: (← arguments self primary)))
  else if ← tryMark "[" then
    let first ← subscript self
    let more ← if ← tryMark "," then separated "]" (subscript self) else pure []
    mark "]"
    return some (.foreign .subscript (e :: first :: more))
  else return none

/-- Calls, subscripts and attributes. The number bounds how deep targets of comprehensions go. -/
def primary : Nat → Parse Expr
  | 0 => failure
  | n + 1 => do loop (trailer self (primary n)) (← atom self (primary n))

/-- Powers bind their right side loosely. -/
def power (depth : Nat) : Parse Expr := do
  let base ←
    if ← tryWord "await" then pure (.foreign .await [← primary self depth])
    else primary self depth
  if ← tryMark "**" then return .binary .pow base (← self .factor) else return base

/-- Signs in front of a power. -/
def factor (depth : Nat) : Parse Expr := do
  let sign : Parse (Option UnaryOp) := do
    if ← tryMark "+" then return some .positive
    else if ← tryMark "-" then return some .negative
    else if ← tryMark "~" then return some .invert
    else return none
  let signs ← many sign
  return signs.foldr (fun op e => .unary op e) (← power self depth)

/-- Operators of one level of binding, grouped to the left. -/
def leftGrouped (ops : List (String × BinaryOp)) (operand : Parse Expr) : Parse Expr := do
  let step (e : Expr) : Parse (Option Expr) := do
    match ← peek with
    | some (.mark m) =>
      match ops.lookup m with
      | some op =>
        skip
        return some (.binary op e (← operand))
      | none => return none
    | _ => return none
  loop step (← operand)

def term (depth : Nat) : Parse Expr :=
  leftGrouped [("*", .mult), ("/", .div), ("//", .floorDiv), ("%", .mod), ("@", .matMult)]
    (factor self depth)

def sum (depth : Nat) : Parse Expr := leftGrouped [("+", .add), ("-", .sub)] (term self depth)

def shift (depth : Nat) : Parse Expr :=
  leftGrouped [("<<", .leftShift), (">>", .rightShift)] (sum self depth)

def bitAnd (depth : Nat) : Parse Expr := leftGrouped [("&", .bitAnd)] (shift self depth)

def bitXor (depth : Nat) : Parse Expr := leftGrouped [("^", .bitXor)] (bitAnd self depth)

def bitOr (depth : Nat) : Parse Expr := leftGrouped [("|", .bitOr)] (bitXor self depth)

def compareOp : Parse (Option CompareOp) := do
  match ← get with
  | .mark "==" :: _ => skip; return some .equal
  | .mark "!=" :: _ => skip; return some .unequal
  | .mark "<" :: _ => skip; return some (.ordered .less)
  | .mark "<=" :: _ => skip; return some (.ordered .lessEqual)
  | .mark ">" :: _ => skip; return some (.ordered .greater)
  | .mark ">=" :: _ => skip; return some (.ordered .greaterEqual)
  | .word "in" :: _ => skip; return some .within
  | .word "not" :: .word "in" :: _ => skip; skip; return some .notWithin
  | .word "is" :: .word "not" :: _ => skip; skip; return some .notSame
  | .word "is" :: _ => skip; return some .same
  | _ => return none

/-- Comparisons, which may be chained. -/
def comparison (depth : Nat) : Parse Expr := do
  let first ← bitOr self depth
  let rest ← many do
    match ← compareOp with
    | some op => return some (op, ← bitOr self depth)
    | none => return none
  if rest.isEmpty then return first
  else return .compare first (rest.map (·.1)) (rest.map (·.2))

def inversion (depth : Nat) : Parse Expr := do
  let nots ← many do if ← tryWord "not" then return some () else return none
  return nots.foldr (fun _ e => .unary .not e) (← comparison self depth)

/-- Operands with a word between them. -/
def joined (w : String) (op : LogicOp) (operand : Parse Expr) : Parse Expr := do
  let first ← operand
  let more ← many do if ← tryWord w then return some (← operand) else return none
  if more.isEmpty then return first else return .logic op (first :: more)

def disjunction (depth : Nat) : Parse Expr :=
  joined "or" .or (joined "and" .and (inversion self depth))

/-- The value that a parameter defaults to, if there is one. -/
def default : Parse (List Expr) := do
  if ← tryMark "=" then return [← self .expression] else return []

/-- The end of a parameter: a comma, or the colon, which is left. -/
def parameterEnd : Parse Unit := do
  if (← tryMark ",") || (← atMark ":") then return () else failure

/-- A parameter of a function, with what it may default to. -/
def parameter : Parse (String × List Expr) := do
  let n ← name
  let d ← default self
  parameterEnd
  return (n, d)

def atParameter : Parse Bool := do
  match ← peek with
  | some (.name _) => return true
  | _ => return false

def parameters : Parse (List (String × List Expr)) := many do
  if ← atParameter then return some (← parameter self) else return none

/-- Are there no parameters without default after one with a default? -/
def defaultsLast (ps : List (String × List Expr)) : Bool :=
  (ps.dropWhile (·.2.isEmpty)).all fun p => !p.2.isEmpty

/-- Parameters after the positional ones: their names and defaults. -/
def starParameters : Parse (List String × List Expr) := do
  let keywordsOnly : Parse (List String × List Expr) := do
    if ← tryMark "**" then
      let n ← name
      parameterEnd
      return ([n], [])
    else return ([], [])
  if ← tryMark "*" then
    if ← tryMark "," then
      let ps ← parameters self
      if ps.isEmpty then failure
      let (last, _) ← keywordsOnly
      return (ps.map (·.1) ++ last, (ps.map (·.2)).flatten)
    else
      let rest ← name
      parameterEnd
      let ps ← parameters self
      let (last, _) ← keywordsOnly
      return (rest :: ps.map (·.1) ++ last, (ps.map (·.2)).flatten)
  else keywordsOnly

/-- A function, after its keyword. -/
def lambda : Parse Expr := do
  let first ← parameters self
  let slash ← if first.isEmpty then pure false else tryMark "/"
  if slash then parameterEnd
  let second ← if slash then parameters self else pure []
  let positional := first ++ second
  if !defaultsLast positional then failure
  let (names, keywordDefaults) ← starParameters self
  mark ":"
  let body ← self .expression
  return .lambda (positional.map (·.1) ++ names) keywordDefaults
    (positional.map (·.2)).flatten body

/-- Any expression without commas. -/
def expression (depth : Nat) : Parse Expr := do
  if ← tryWord "lambda" then lambda self
  else
    let body ← disjunction self depth
    if ← tryWord "if" then
      let test ← disjunction self depth
      word "else"
      return .choice test body (← self .expression)
    else return body

end Grammar

variable [CharacterNames]

/-- The rule of a level, where the number bounds how deep expressions are nested. -/
def Level.parse : Nat → Level → Parse Expr
  | 0, _ => failure
  | n + 1, .expression => Grammar.expression (Level.parse n) (n + 1)
  | n + 1, .disjunction => Grammar.disjunction (Level.parse n) (n + 1)
  | n + 1, .bitwise => Grammar.bitOr (Level.parse n) (n + 1)
  | n + 1, .factor => Grammar.factor (Level.parse n) (n + 1)

/-- The expression that a source text is, which may be a list without brackets. -/
def Expr.ofChars? (cs : List Char) : Option Expr := do
  let tokens ← Token.ofChars? cs
  let whole : Parse Expr := do
    let first ← Level.parse (cs.length + 2) .expression
    if ← Parse.tryMark "," then
      let more ← Parse.many do
        if (← get).isEmpty then return none
        let e ← Level.parse (cs.length + 2) .expression
        if !(← Parse.tryMark ",") && !(← get).isEmpty then failure
        return some e
      return .tuple (first :: more)
    else return first
  match whole.run tokens with
  | some (e, []) => some e
  | _ => none

end Router

end Stagecraft
