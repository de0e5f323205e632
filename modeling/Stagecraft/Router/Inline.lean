import Stagecraft.Router.Evaluation
import Stagecraft.Router.Grammar

/-!
# Inline routers

An inline router is a function without parameters, written where it is used. Its whole text is
checked before it is accepted: it must be an expression of the language, a function, without
parameters, and made of permitted constructs only. So its value is that of an expression without
names and calls, and the entity it chooses an animation for has no influence on it.
-/

namespace Stagecraft

namespace Router

/-- The source text of an expression: blanks around it are dropped and lines end alike. -/
def sourceChars (s : String) : List Char :=
  let rec uniform : List Char → List Char
    | [] => []
    | '\x0d' :: cs =>
      match cs with
      | '\n' :: rest => '\n' :: uniform rest
      | rest => '\n' :: uniform rest
    | c :: cs => c :: uniform cs
  uniform (Text.stripChars s.toList)

variable [CharacterNames]

/-- The body of the router that a text writes. The element it stands in is reported with what is
wrong. -/
def compile (source : String) (place : Option Markup.Element) : Except Fault Expr :=
  let cs := sourceChars source
  let reject (d : Defect) : Except Fault Expr := .error (.definition d place)
  match Expr.ofChars? cs with
  | none => reject .routerSource
  | some (.lambda names keywordDefaults defaults body) =>
    if !names.isEmpty then reject .routerArguments
    else
      match (Expr.lambda names keywordDefaults defaults body).forbidden? with
      | some construct => reject (.routerContains construct)
      | none => if body.namesAreUsable then .ok body else .error .routerCode
  | some _ => reject .routerShape

end Router

end Stagecraft
