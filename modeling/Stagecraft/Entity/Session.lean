import Stagecraft.Entity.Pool
import Stagecraft.Schedule.Once

/-!
# Sessions with a pool

A pool is compiled by one computation, whoever asks for it, and what there is to tell about it is
told in the last turn of that. Once there is a pool, entities are constructed from it. A
construction may have something to tell as well.
-/

namespace Stagecraft

open Markup

variable [Application]

namespace Blueprint

/-- A call of the constructor, which only hands on what goes wrong. Whether there is a default
texture was looked at when the constructor was made. -/
def call (b : Blueprint) : Timed Entity := do
  return ← b.build

end Blueprint

namespace Pool

/-- The compilation of a pool that takes some turns. What there is to say is said in the last
one. -/
def compilation (l : Loader) (c : Cursor) (turns : Nat) : Course (List Notice) Pool :=
  .after (List.replicate turns [] ++ [(ofElement l c).run.2]) (.ended (ofElement l c).run.1)

/-- What may be done with a document: something happens to the cell that keeps its pool, or an
entity is constructed. -/
inductive Use where
  | cell (e : OnceEvent)
  | construct (id : String)

/-- The cell that keeps a pool, what has been constructed so far, and what that has told. -/
structure Session where
  cell : Once (List Notice) Pool := {}
  instances : List (Except Fault Entity) := []
  told : List Notice := []

namespace Session

variable (start : Nat → Course (List Notice) Pool)

/-- The blueprint of an entity, as soon as there is a pool that has it. -/
def blueprint? (s : Session) (id : String) : Option Blueprint :=
  match s.cell.outcome? with
  | some (.ok pool) => (pool.get? id).map (·.blueprint)
  | _ => none

/-- Constructs an entity, if there is a blueprint of it. -/
def construct (s : Session) (id : String) : Session :=
  match s.blueprint? id with
  | none => s
  | some b =>
    let (e, notices) := b.call.run
    { s with instances := s.instances ++ [e], told := s.told ++ notices }

def step (s : Session) : Use → Session
  | .cell e => { s with cell := s.cell.step start e }
  | .construct id => s.construct id

def run (s : Session) (uses : List Use) : Session := uses.foldl (step start) s

/-- All that has been told so far. -/
def notices (s : Session) : List Notice := s.cell.acts.flatten ++ s.told

/-- What happens to the cell. -/
def events (uses : List Use) : List OnceEvent :=
  uses.filterMap fun
    | .cell e => some e
    | .construct _ => none

end Session

end Pool

end Stagecraft
