import Stagecraft.Number.General
import Stagecraft.Stage.Draft

/-!
# Summaries

What is printed about a scene and about the entities of a pool.
-/

namespace Stagecraft

/-- Lines, each with its end. -/
def unlines (lines : List String) : String := String.join (lines.map (· ++ "\n"))

/-- Numbers between parentheses. -/
def tupleText (xs : List Float) : String :=
  "(" ++ String.intercalate ", " (xs.map General.text) ++ ")"

/-- A text that is there and not empty, or else another one. -/
def textOr (other : String) (text : Option String) : String := (text.filter (· ≠ "")).getD other

namespace Entity

/-- What an entity is called: its name or else its class, and its id if it has one. -/
def label (e : Entity) : String :=
  let name := textOr e.className e.name
  match e.id.filter (· ≠ "") with
  | some id => name ++ " #" ++ id
  | none => name

def summary (e : Entity) : String :=
  "    - " ++ e.label ++ " at " ++ tupleText [e.position.x, e.position.y, e.position.z]

end Entity

namespace SceneDraft

def summary (d : SceneDraft) : List String :=
  ["Scene: " ++ textOr "(unnamed)" d.scene.name,
   "  Gravity: " ++ tupleText [d.world.gravity.x, d.world.gravity.y],
   "  Audio clips: " ++ toString d.scene.audio.length,
   "  Camera paths: " ++ toString d.scene.camera.paths.length,
   "  World objects: " ++ toString d.world.objects.length] ++ d.world.objects.map Entity.summary

end SceneDraft

namespace Pool

def summaryLine (id : String) (b : Blueprint) : String :=
  id ++ ": " ++ toString b.animationCount ++ " animations, " ++ toString b.traits.length ++
    " traits, " ++ toString b.collision.length ++ " collision zones"

def summary (p : Pool) : List String := p.map fun e => summaryLine e.1 e.2.blueprint

theorem summary_length (p : Pool) : p.summary.length = p.length := by simp [summary]

end Pool

end Stagecraft
