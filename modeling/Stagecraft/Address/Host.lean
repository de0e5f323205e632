import Stagecraft.Text.Blank

/-!
# Hosts in brackets

Which hosts may stand in square brackets: IPv6 addresses, whose last part may be written like an
IPv4 address and which may name a scope, and addresses of versions to come.
-/

namespace Stagecraft

namespace Host

def isHexDigit (c : Char) : Bool :=
  c.isDigit || ('a' ≤ c && c ≤ 'f') || ('A' ≤ c && c ≤ 'F')

/-- One of the four numbers of an IPv4 address: up to 255, without leading zeros. -/
def isOctet (cs : List Char) : Bool :=
  !cs.isEmpty && cs.all Char.isDigit && cs.length ≤ 3 && (cs = ['0'] || cs.head? ≠ some '0') &&
    cs.foldl (fun n c => n * 10 + (c.toNat - 48)) 0 ≤ 255

def isIPv4 (cs : List Char) : Bool :=
  let octets := Text.splitChars '.' cs
  octets.length = 4 && octets.all isOctet

/-- One of the groups of an IPv6 address. -/
def isGroup (cs : List Char) : Bool := !cs.isEmpty && cs.length ≤ 4 && cs.all isHexDigit

/-- Groups at one end of an address, where the outermost may be missing only if it is alone. -/
def isRun (groups : List (List Char)) : Bool := groups = [[]] || groups.all isGroup

/-- The groups of an address, of which two stand for an IPv4 address at the end. -/
def groups? (cs : List Char) : Option (List (List Char)) :=
  let parts := Text.splitChars ':' cs
  if parts.length < 3 then none
  else
    match parts.getLast? with
    | some last =>
      if !last.contains '.' then some parts
      else if isIPv4 last then some (parts.dropLast ++ [['0'], ['0']])
      else none
    | none => none

/-- Do these groups make an address? There are eight, or fewer with one gap. -/
def areGroups (parts : List (List Char)) : Bool :=
  let inner := (parts.drop 1).dropLast
  match (inner.findIdx? (·.isEmpty)).map (· + 1) with
  | none => parts.length = 8 && parts.all isGroup
  | some gap =>
    let before := parts.take gap
    let after := parts.drop (gap + 1)
    let count (run : List (List Char)) : Nat := if run = [[]] then 0 else run.length
    parts.length ≤ 9 && inner.countP (·.isEmpty) = 1 && isRun before && isRun after &&
      count before + count after ≤ 7

/-- An address without its scope. A scope must not be empty. -/
def withoutScope? (cs : List Char) : Option (List Char) :=
  match cs.dropWhile (· ≠ '%') with
  | [] => some cs
  | _ :: scope =>
    if scope.isEmpty || scope.contains '%' then none else some (cs.takeWhile (· ≠ '%'))

def isIPv6 (cs : List Char) : Bool :=
  !cs.contains '/' && ((withoutScope? cs).bind groups?).any areGroups

/-- An address of a version to come: the version and a text. -/
def isFuture (cs : List Char) : Bool :=
  match cs with
  | 'v' :: rest =>
    let version := rest.takeWhile isHexDigit
    match rest.dropWhile isHexDigit with
    | '.' :: text => !version.isEmpty && !text.isEmpty
    | _ => false
  | _ => false

/-- May the host stand in brackets? -/
def isBracketable (cs : List Char) : Bool :=
  if cs.head? = some 'v' then isFuture cs else isIPv6 cs

end Host

end Stagecraft
