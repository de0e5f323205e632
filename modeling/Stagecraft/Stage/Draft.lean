import Stagecraft.Stage.Placement

/-!
# Scene drafts

A scene is drafted from its element: camera, handlers, behaviors, gravity and sequences are read
first, then sounds and pools are loaded side by side, and then the layout is placed. When no load is
under way any more the world is settled: no time passes, but everything takes the place it would
take. A draft is a value of its own; it takes place when it is put on a stage.
-/

namespace Stagecraft

open Markup

/-- A scene that has been compiled, with its world, its pool of objects and what was placed. -/
structure SceneDraft where
  scene : Scene
  world : World Entity
  pool : Pool
  behaviors : List Placement
  layout : List Placement

namespace SceneDraft

def endEvent : String := "end"

def startEvent : String := "start"

/-- The handler that an action outside of events describes. After a scene another one may come. -/
def transition (c : Cursor) : Except Fault Handler :=
  let moment := (c.parent?.map (·.tag)).getD ""
  if moment = "after" && c.get? "type" = some "goto-scene" then
    match (c.get? "id").filter (· ≠ "") with
    | some scene => .ok (.switch scene)
    | none => .error (.defect .gotoTarget c.element)
  else .error (.defect (.globalEvent moment (c.get? "type")) c.element)

/-- The handlers of a scene, which are those of its first events element. -/
def handlers (c : Cursor) : Except Fault (Bus Handler) :=
  match (c.childrenTagged "events").head? with
  | none => .ok []
  | some events => do
    let transitions ←
      (events.find (Selector.ofString "after > action, before > action")).mapM transition
    let bindings ← EventBinding.allOf events
    let bus := transitions.foldl (fun b h => Bus.bind b endEvent h) []
    return bindings.foldl (fun b ev => Bus.bind b ev.name (.actions ev.actions)) bus

def camera (c : Cursor) : Except Fault Camera :=
  match (c.childrenTagged "camera").head? with
  | none => .ok {}
  | some camera => Camera.ofElement camera

/-- The gravity of a scene, if it has one of its own. -/
def gravity (c : Cursor) (default : Vec2) : Except Fault Vec2 :=
  match (c.childrenTagged "gravity").head? with
  | none => .ok default
  | some g => return (← g.vec2? "x" "y").getD default

/-- Adds the entities of a pool to those of the pools before it. -/
def merge (all : Pool) (pool : Pool) : Timed Pool := do
  for e in pool do
    if all.has e.1 then Timed.notice (.redefined e.1)
  return all.putAll pool

variable [Application]

/-- The objects of a scene: those of all its pools, of two with one id the later. -/
def objects (l : Loader) (c : Cursor) : Timed Pool := do
  let roots ← Timed.gather ((c.childrenTagged "objects").map l.follow)
  for root in roots do Pool.check root
  let pools ← Timed.gather (roots.map (Pool.ofElement l))
  pools.foldlM merge []

/-- A scene with everything in place, but not settled yet. Sounds and pictures that somebody else
loads are waited for as well. -/
def unsettled (l : Loader) (c : Cursor) : Timed SceneDraft := do
  let camera ← camera c
  let bus ← handlers c
  let (world, behaviors) ←
    Placement.all Placement.behavior {} (c.find (Selector.ofString "layout > behaviors > * > rect"))
  let gravity ← gravity c world.gravity
  let sequences ← declared c "sequences" SequenceDef.allOf
  let (audio, pool) ← Timed.both (Clip.allOf l c) (objects l c)
  let elements := c.find (Selector.ofString "layout > objects > object")
  let (world, layout) ← Placement.all (Placement.object l pool) { world with gravity } elements
  Timed.complete l.underway
  let sequencer := sequences.foldl Sequencer.register {}
  return {
    scene := { name := c.get? "name", camera, audio, bus, sequencer }
    world, pool, behaviors, layout }

/-- Settles the world of a scene. -/
def settle (d : SceneDraft) : Except Fault SceneDraft := do
  return { d with world := ← World.settle .none d.world }

/-- What is told about a scene that has been compiled. -/
def announcement (d : SceneDraft) : Notice :=
  .compiled d.scene.name d.pool.length d.layout.length d.behaviors.length

/-- The draft of a scene, made in one go. -/
def compile (l : Loader) (c : Cursor) : Timed SceneDraft := do
  let d ← unsettled l c
  let d ← d.settle
  Timed.notice d.announcement
  return d

def ofElement (l : Loader) (c : Cursor) : Timed SceneDraft := do
  c.ensure ["scene"]
  Timed.task 1 2 (compile l c)

/-- The scene element of a document: its root or the first one below. -/
def sceneOf (url : String) (root : Cursor) : Except Fault Cursor :=
  if root.tag = "scene" then .ok root
  else
    match root.first? (Selector.ofString "scene") with
    | some c => .ok c
    | none => .error (.defect (.sceneMissing url) root.element)

def load (l : Loader) (url : String) : Timed SceneDraft := do
  let root ← l.loadDocument url
  ofElement l (← sceneOf url root)

def loadNamed (l : Loader) (name : String) : Timed SceneDraft :=
  match l.settings.scenes.get? name with
  | none => Timed.lift (.error (.definition (.sceneUndefined name) none))
  | some url => do
    Timed.notice (.loading name url)
    load l url

theorem loadNamed_of_unknown {l : Loader} {name : String}
    (h : l.settings.scenes.get? name = none) :
    (loadNamed l name).run.1 = .error (.definition (.sceneUndefined name) none) := by
  simp [loadNamed, h, Timed.run_lift]

end SceneDraft

end Stagecraft
