import Stagecraft.Proofs.Restarting
import Stagecraft.Proofs.Unfolding

/-!
# Hosts and their parts

A part is what a host reacts with: handlers, sounds and sequences. A host that has been cast for a
part keeps it through everything that its reactions come to, and only listeners may be added to its
handlers. An effect changes the stage as `Effect.apply` says; the runs of the reactions are compared
with that.
-/

namespace Stagecraft

/-- What a host reacts with. -/
structure Part where
  bus : Bus Handler
  audio : Catalog Clip
  sequences : Catalog (List (List Action))

def Entity.part (e : Entity) : Part := ⟨e.bus, e.audio, e.sequencer.sequences⟩

def Scene.part (c : Scene) : Part := ⟨c.bus, c.audio, c.sequencer.sequences⟩

/-- The label of a handler that only listens. -/
def Handler.label? : Handler → Option String
  | .listener label => some label
  | _ => none

namespace Stage

variable {s t u : Stage} {h : Host} {p : Part} {event : String} {payload : List Payload}

/-- A host of the stage has a part. It may have been used since, and listeners may have been bound,
which come after the handlers of the part. -/
structure Casts (s : Stage) (h : Host) (p : Part) : Prop where
  present : s.hosts h
  bound : ∀ event, ∃ labels : List String,
    (s.bus h).bound event = p.bus.bound event ++ labels.map .listener
  audio : s.audio h = p.audio
  sequences : (s.sequencer h).sequences = p.sequences

/-- Those who listen to an event of a host. -/
def listeners (s : Stage) (h : Host) (event : String) : List String :=
  ((s.bus h).bound event).filterMap Handler.label?

/-- All who listen to an event of a host have heard it. -/
def hear (s : Stage) (h : Host) (event : String) (payload : List Payload) : Stage :=
  { s with
    reports := s.reports ++ (s.listeners h event).map fun label => .heard label event payload }

@[simp] theorem bus_hear (g : Host) : (s.hear h event payload).bus g = s.bus g := by
  cases g <;> rfl

@[simp] theorem bus_tell (r : Report) (g : Host) : (s.tell r).bus g = s.bus g := by
  cases g <;> rfl

/-- A host keeps its part while what belongs to the part stays the same. -/
theorem Casts.keep (hs : s.Casts h p) (hpresent : t.hosts h) (hbus : t.bus h = s.bus h)
    (haudio : t.audio h = s.audio h)
    (hsequences : (t.sequencer h).sequences = (s.sequencer h).sequences) : t.Casts h p :=
  ⟨hpresent, fun event => by rw [hbus]; exact hs.bound event, haudio.trans hs.audio,
    hsequences.trans hs.sequences⟩

theorem Casts.hear (hs : s.Casts h p) : (s.hear h event payload).Casts h p := by
  cases h <;> exact hs.keep hs.present rfl rfl rfl

theorem Casts.tell (hs : s.Casts h p) (r : Report) : (s.tell r).Casts h p := by
  cases h <;> exact hs.keep hs.present rfl rfl rfl

theorem bus_withSequencer {f : Sequencer → Sequencer} (hh : s.hosts h) :
    (s.withSequencer f h).bus h = s.bus h := by
  cases h with
  | entity n =>
      have hn : n < s.entities.length := hh
      simp [bus, entity, withSequencer, setEntity, hn]
  | scene n =>
      have hn : n < s.scenes.length := hh
      simp [bus, scene, withSequencer, hn]

theorem audio_withSequencer {f : Sequencer → Sequencer} (hh : s.hosts h) :
    (s.withSequencer f h).audio h = s.audio h := by
  cases h with
  | entity n =>
      have hn : n < s.entities.length := hh
      simp [audio, entity, withSequencer, setEntity, hn]
  | scene n =>
      have hn : n < s.scenes.length := hh
      simp [audio, scene, withSequencer, hn]

theorem Casts.start (hs : s.Casts h p) (id : String) :
    (s.withSequencer (·.start id) h).Casts h p := by
  apply hs.keep (hosts_withSequencer.2 hs.present) (bus_withSequencer hs.present)
    (audio_withSequencer hs.present)
  rw [sequencer_withSequencer hs.present]
  rfl

/-- New entities come after those that are there. -/
theorem entity_bringInto {w n : Nat} {e : Entity} (hn : n < s.entities.length) :
    (s.bringInto w e).entity n = s.entity n := by
  have hlater : ¬ s.entities.length = n := by omega
  have hlt : n < (s.bring e).entities.length := by
    simp [bring]
    omega
  have hput : (s.bringInto w e).entity n = ((s.bring e).setEntity s.entities.length
      (((s.bring e).entity s.entities.length).inWorld w)).entity n := rfl
  rw [hput, entity_setEntity hlt, if_neg hlater]
  simp [entity, bring, List.getElem?_append_left hn]

theorem Casts.bringInto (hs : s.Casts h p) (w : Nat) (e : Entity) :
    (s.bringInto w e).Casts h p ∧ (s.bringInto w e).bus h = s.bus h := by
  cases h with
  | entity n =>
      have hn : n < s.entities.length := hs.present
      have hentity := entity_bringInto (w := w) (e := e) hn
      have hbus : (s.bringInto w e).bus (.entity n) = s.bus (.entity n) :=
        congrArg Entity.bus hentity
      have hpresent : n < (s.bringInto w e).entities.length := by
        simp [Stage.bringInto, bring, put, setEntity, setWorld]
        omega
      exact ⟨hs.keep hpresent hbus (congrArg Entity.audio hentity)
        (congrArg (fun e => e.sequencer.sequences) hentity), hbus⟩
  | scene n => exact ⟨hs.keep hs.present rfl rfl rfl, rfl⟩

/-- A run comes to a result and leaves a stage behind. -/
def Ends (x : Play Unit) (s : Stage) (r : Except Fault Unit) (t : Stage) : Prop :=
  result x s = r ∧ after x s = t

section Ends

variable {x y : Play Unit} {r : Except Fault Unit}

theorem Ends.bind (hx : Ends x s (.ok ()) t) (hy : Ends y t r u) :
    Ends (x >>= fun _ => y) s r u := by
  obtain ⟨hresult, hafter⟩ := hx
  constructor
  · rw [result_bind, hresult, hafter]
    exact hy.1
  · rw [after_bind, hresult, hafter]
    exact hy.2

theorem ends_pure (s : Stage) : Ends (pure ()) s (.ok ()) s := ⟨rfl, rfl⟩

theorem Ends.forM_append {α : Type} {f : α → Play Unit} {as bs : List α}
    (has : Ends (as.forM f) s (.ok ()) t) (hbs : Ends (bs.forM f) t r u) :
    Ends ((as ++ bs).forM f) s r u := by
  have hforM : (as ++ bs).forM f = as.forM f >>= fun _ => bs.forM f := List.forM_append
  rw [hforM]
  exact has.bind hbs

theorem ends_report (r : Report) : Ends (report r) s (.ok ()) (s.tell r) := ⟨rfl, rfl⟩

theorem ends_play {id : String} (hid : (s.sequencer h).sequences.has id) :
    Ends (play h id) s (.ok ()) (s.withSequencer (·.start id) h) := by
  have hplay : (s.sequencer h).play? id = some ((s.sequencer h).start id) := if_pos hid
  have hset : s.withSequencer (fun _ => (s.sequencer h).start id) h =
      s.withSequencer (·.start id) h := by
    cases h <;> rfl
  constructor
  · simp [play, hplay]
  · simp [play, hplay, hset]

end Ends

variable [Application]

/-- What a condition spawns has been brought next to the host, if that is in a world. -/
def spawned (s : Stage) (c : SpawnCondition) : Host → Stage
  | .scene _ => s
  | .entity n =>
    match (s.entity n).world with
    | none => s
    | some w =>
      match c.constructor.make with
      | .ok e => s.bringInto w { e with position := (s.entity n).position.add c.offset }
      | .error _ => s

end Stage

/-- What an effect of a host makes of the stage. -/
def Effect.apply [Application] (h : Host) (s : Stage) : Effect → Stage
  | .spawn c => s.spawned c h
  | .sound id =>
    match (s.audio h).get? id with
    | some clip => s.hear h Stage.audioEvent [.clip clip]
    | none => s.tell (s.noSound id h)
  | .start id => s.withSequencer (·.start id) h
  | .notify event => s.hear h event []

namespace Stage

variable [Application] {l : Loader} {s t u : Stage} {h : Host} {p : Part} {event : String}
  {payload : List Payload}

theorem Casts.spawned (hs : s.Casts h p) (c : SpawnCondition) :
    (s.spawned c h).Casts h p ∧ (s.spawned c h).bus h = s.bus h := by
  cases h with
  | scene n => exact ⟨hs, rfl⟩
  | entity n =>
      unfold Stage.spawned
      dsimp only
      split
      · exact ⟨hs, rfl⟩
      · split
        · exact hs.bringInto _ _
        · exact ⟨hs, rfl⟩

/-- A host keeps its part and its handlers whatever effects its reactions have. -/
theorem Casts.apply (hs : s.Casts h p) (x : Effect) :
    (x.apply h s).Casts h p ∧ (x.apply h s).bus h = s.bus h := by
  cases x with
  | spawn c => exact hs.spawned c
  | sound id =>
      unfold Effect.apply
      dsimp only
      split
      · exact ⟨hs.hear, bus_hear h⟩
      · exact ⟨hs.tell _, bus_tell _ h⟩
  | start id => exact ⟨hs.start id, bus_withSequencer hs.present⟩
  | notify event => exact ⟨hs.hear, bus_hear h⟩

theorem Casts.applyAll (hs : s.Casts h p) (xs : List Effect) :
    (xs.foldl (Effect.apply h) s).Casts h p ∧ (xs.foldl (Effect.apply h) s).bus h = s.bus h := by
  induction xs generalizing s with
  | nil => exact ⟨hs, rfl⟩
  | cons x xs ih =>
      obtain ⟨hx, hbus⟩ := hs.apply x
      obtain ⟨hxs, hbuses⟩ := ih hx
      exact ⟨hxs, hbuses.trans hbus⟩

section Ends

variable {r : Except Fault Unit}

/-- An event runs the handlers that are bound when it is fired, one after the other. -/
theorem fire_succ (l : Loader) (k : Nat) (h : Host) (event : String) (payload : List Payload) :
    fire l (k + 1) h event payload = get >>= fun s : Stage =>
      ((s.bus h).bound event).forM (handle l (fire l k) h event payload) := by
  have hforM (hs : List Handler) (f : Handler → Play Unit) :
      hs.foldlM (fun _ handler => f handler) () = hs.forM f := by
    induction hs with
    | nil => rfl
    | cons handler hs ih =>
        rw [List.foldlM_cons]
        exact congrArg (f handler >>= ·) (funext fun _ => ih)
  simp only [fire, hforM, bind_pure_comp, List.forIn_yield_eq_foldlM, id_map']

theorem ends_fire_iff {k : Nat} :
    Ends (fire l (k + 1) h event payload) s r t ↔
      Ends (((s.bus h).bound event).forM (handle l (fire l k) h event payload)) s r t := by
  rw [fire_succ]
  rfl

variable (l h event payload) in
/-- Listeners hear an event one after the other. -/
theorem ends_listeners (fire : Firing) (labels : List String) (s : Stage) :
    Ends ((labels.map Handler.listener).forM (handle l fire h event payload)) s (.ok ())
      { s with reports := s.reports ++ labels.map fun label => .heard label event payload } := by
  induction labels generalizing s with
  | nil => simpa using ends_pure s
  | cons label labels ih =>
      have hrest := ih (s.tell (.heard label event payload))
      have hreports : (s.tell (.heard label event payload)).reports ++
          labels.map (fun label => Report.heard label event payload) =
            s.reports ++ (label :: labels).map fun label => .heard label event payload := by
        simp [tell]
      rw [hreports] at hrest
      exact (ends_report _).bind hrest

theorem ends_spawn {c : SpawnCondition} (hc : ∃ e, c.constructor.make = .ok e) :
    Ends (spawn h c) s (.ok ()) (s.spawned c h) := by
  obtain ⟨e, he⟩ := hc
  cases h with
  | scene n => exact ⟨rfl, rfl⟩
  | entity n =>
      unfold Ends spawn spawned
      rw [result_get_bind, after_get_bind, he]
      dsimp only
      cases (s.entity n).world with
      | none => exact ⟨rfl, rfl⟩
      | some w => exact ⟨rfl, rfl⟩

variable (l h event payload) in
theorem ends_spawns (fire : Firing) (cs : List SpawnCondition)
    (hcs : ∀ c ∈ cs, ∃ e, c.constructor.make = .ok e) (s : Stage) :
    Ends ((cs.map Handler.spawn).forM (handle l fire h event payload)) s (.ok ())
      ((cs.map Effect.spawn).foldl (Effect.apply h) s) := by
  induction cs generalizing s with
  | nil => exact ends_pure s
  | cons c cs ih =>
      have hc := hcs c List.mem_cons_self
      exact (ends_spawn hc).bind (ih (fun d hd => hcs d (List.mem_cons_of_mem c hd)) _)

end Ends

end Stage

end Stagecraft
