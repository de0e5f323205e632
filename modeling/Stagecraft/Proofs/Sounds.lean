import Stagecraft.Proofs.Effects
import Stagecraft.Proofs.Groups

/-!
# Sounds

A sound is played by an event that carries it, and the actions of declared events take nothing. So a
host that has the sound plays it to all who listen if no declared event has the name of that event;
if one has it, the sound fails there, after what is spawned at sounds and before those who listen.
-/

namespace Stagecraft

open Stage

/-- The part of a compiled host, an instance of an entity or a scene, with what the host does at
events. -/
inductive Part.Compiled [Application] (l : Loader) : Part → Reactions → Prop
  | entity {c : Markup.Cursor} {pool : Pool} {id : String} {entry : Entry} {e : Entity}
      (hpool : (Pool.ofElement l c).run.1 = .ok pool) (hentry : pool.get? id = some entry)
      (hstandard : entry.blueprint.Standard) (he : entry.blueprint.build = .ok e) :
      Compiled l e.part entry.blueprint.reactions
  | scene {c : Markup.Cursor} {d : SceneDraft} {bs : List EventBinding}
      (hd : (SceneDraft.ofElement l c).run.1 = .ok d) (hbs : SceneDraft.bindings c = .ok bs) :
      Compiled l d.scene.part ⟨[], bs⟩

namespace Stage

section

variable [Application] {l : Loader} {s t : Stage} {h : Host} {p : Part} {r : Reactions} {k : Nat}

theorem bound_of_compiled (hp : p.Compiled l r) :
    p.bus.bound audioEvent = r.handlersAt audioEvent := by
  cases hp with
  | entity hpool hentry hstandard he => exact (Blueprint.bound_of_build hstandard he).1 audioEvent
  | scene hd hbs =>
      obtain ⟨ts, bs, -, hbs', hbound⟩ :=
        SceneDraft.bound_of_handlers (SceneDraft.handlers_of_ofElement hd)
      cases hbs.symm.trans hbs'
      exact hbound audioEvent

/-- Actions that are given something fail. -/
theorem ends_actions_of_payload (fire : Firing) {b : EventBinding} {hs : List Handler}
    {x : Payload} {xs : List Payload} {event : String} :
    Ends ((Handler.actions b.actions :: hs).forM (handle l fire h event (x :: xs))) s
      (.error .typeMismatch) s := ⟨rfl, rfl⟩

section Compiled

variable (hp : p.Compiled l r) (hs : s.Casts h p) (k : Nat) (id : String) {clip : Clip}

include hp hs

/-- A sound that no declared event takes is heard by all, after what is spawned at sounds. -/
theorem ends_sound_of_nil (hmade : ∀ c ∈ r.spawnsAt audioEvent, c.constructor.make.toOption.isSome)
    (hclip : p.audio.get? id = some clip) (hnone : r.bindingsAt audioEvent = []) :
    Ends (emitAudio (fire l (k + 1)) h id) s (.ok ())
      ((((r.spawnsAt audioEvent).map .spawn).foldl (Effect.apply h) s).hear h audioEvent
        [.clip clip]) := by
  have hspawns := ends_spawns l h audioEvent [.clip clip] (fire l k) (r.spawnsAt audioEvent)
    (fun c hc => Attempt.exists_eq_ok (hmade c hc)) s
  have hbus := (hs.applyAll ((r.spawnsAt audioEvent).map .spawn)).2
  rw [← hs.audio] at hclip
  rw [ends_emitAudio_iff hclip, ends_fire_iff, bound_of_casts (bound_of_compiled hp) hs,
    Reactions.handlersAt, hnone, List.map_nil, List.append_nil]
  exact hspawns.forM_append (ends_hear _ hbus)

/-- A sound fails at the first declared event that takes it. -/
theorem ends_sound_of_ne_nil
    (hmade : ∀ c ∈ r.spawnsAt audioEvent, c.constructor.make.toOption.isSome)
    (hclip : p.audio.get? id = some clip) (hsome : r.bindingsAt audioEvent ≠ []) :
    Ends (emitAudio (fire l (k + 1)) h id) s (.error .typeMismatch)
      (((r.spawnsAt audioEvent).map .spawn).foldl (Effect.apply h) s) := by
  have hspawns := ends_spawns l h audioEvent [.clip clip] (fire l k) (r.spawnsAt audioEvent)
    (fun c hc => Attempt.exists_eq_ok (hmade c hc)) s
  obtain ⟨b, bs, hbs⟩ := List.exists_cons_of_ne_nil hsome
  rw [← hs.audio] at hclip
  rw [ends_emitAudio_iff hclip, ends_fire_iff, bound_of_casts (bound_of_compiled hp) hs,
    Reactions.handlersAt, hbs, List.append_assoc]
  exact hspawns.forM_append (ends_actions_of_payload _)

/-- Playing a sound, which is also what an action does that plays it, goes well if the host does not
have the sound, and then this is reported, or if no declared event is one for sounds, and then all
that is bound to sounds runs in its order. Otherwise what is spawned at sounds comes first, and then
there is an error before anyone has heard the sound. -/
theorem ends_of_sound (hmade : ∀ c ∈ r.spawnsAt audioEvent, c.constructor.make.toOption.isSome) :
    let spawned := ((r.spawnsAt audioEvent).map .spawn).foldl (Effect.apply h) s
    (result (emitAudio (fire l (k + 1)) h id) s = .ok () ↔
        p.audio.get? id = none ∨ r.bindingsAt audioEvent = []) ∧
      (p.audio.get? id = none →
        Ends (emitAudio (fire l (k + 1)) h id) s (.ok ()) (s.tell (s.noSound id h))) ∧
      ∀ clip, p.audio.get? id = some clip →
        (r.bindingsAt audioEvent = [] → Ends (emitAudio (fire l (k + 1)) h id) s (.ok ())
          (spawned.hear h audioEvent [.clip clip])) ∧
        (r.bindingsAt audioEvent ≠ [] →
          Ends (emitAudio (fire l (k + 1)) h id) s (.error .typeMismatch) spawned) := by
  have hmissing (hclip : p.audio.get? id = none) :
      Ends (emitAudio (fire l (k + 1)) h id) s (.ok ()) (s.tell (s.noSound id h)) :=
    ends_emitAudio_of_none (hs.audio ▸ hclip)
  refine ⟨?_, hmissing, fun clip hclip =>
    ⟨ends_sound_of_nil hp hs k id hmade hclip, ends_sound_of_ne_nil hp hs k id hmade hclip⟩⟩
  cases hclip : p.audio.get? id with
  | none => simp [(hmissing hclip).1]
  | some clip =>
      by_cases hnone : r.bindingsAt audioEvent = []
      · simp [(ends_sound_of_nil hp hs k id hmade hclip hnone).1, hnone]
      · simp [(ends_sound_of_ne_nil hp hs k id hmade hclip hnone).1, hnone]

end Compiled

end

/-- A place with one file, which holds a sound. -/
def studio : Loader := { storage := { files := [(["bell.ogg"], .bytes [79, 103, 103, 83])] } }

/-- A pool of one entity with a sound, and with an event that has a name. -/
def chime (event : String) : Markup.Cursor :=
  .ofDocument
    ⟨⟨"entities", [], 1, [.element "entity" [("id", "chime")] 1
      [.element "audio" [] 1 [.element "sound" [("id", "bell"), ("src", "bell.ogg")] 1 []],
        .element "events" [] 1 [.element "event" [("name", event)] 1 []]]]⟩, none⟩

/-- Its instances, and what they have to do with sounds. -/
theorem exists_chime [Application] (event : String)
    (h : ((Pool.ofElement studio (chime event)).run.1.toOption.bind (·.get? "chime")).map
      (fun entry => decide (entry.blueprint.traits.length = 0 ∧
        entry.blueprint.events = [⟨event, []⟩] ∧
        entry.blueprint.audio = [("bell", ⟨"bell.ogg", 4⟩)] ∧
        entry.blueprint.build.toOption.isSome)) = some true) :
    ∃ e : Entity, Part.Compiled studio e.part ⟨[], [⟨event, []⟩]⟩ ∧
      e.part.audio = [("bell", ⟨"bell.ogg", 4⟩)] := by
  obtain ⟨pool, entry, hpool, hentry, hclosed⟩ := Pool.exists_entry _ _ _ _ h
  obtain ⟨htraits, hevents, haudio, hbuild⟩ := of_decide_eq_true hclosed
  obtain ⟨e, he⟩ := Attempt.exists_eq_ok hbuild
  have hstandard := Blueprint.standard_of_ofElement Registrations.standard_of_nil hpool hentry
  have hr : entry.blueprint.reactions = ⟨[], [⟨event, []⟩]⟩ := by
    rw [Blueprint.reactions, hevents, List.length_eq_zero_iff.1 htraits]
    rfl
  refine ⟨e, hr ▸ .entity hpool hentry hstandard he, ?_⟩
  rw [← haudio]
  exact (Blueprint.bound_of_build hstandard he).2.1

open Bare in
theorem ends_of_sound_chime :
    ∃ e : Entity, Part.Compiled studio e.part ⟨[], [⟨"tap", []⟩]⟩ ∧
      Ends (emitAudio (fire studio 1) (.entity 0) "bell") { entities := [e] } (.ok ())
        (({ entities := [e] } : Stage).hear (.entity 0) audioEvent [.clip ⟨"bell.ogg", 4⟩]) := by
  obtain ⟨e, hcompiled, haudio⟩ := exists_chime "tap" (by decide +kernel)
  have hplayed := ends_of_sound hcompiled (casts_entity (s := { entities := [e] }) (n := 0) rfl rfl)
    0 "bell" (by simp [Reactions.spawnsAt])
  refine ⟨e, hcompiled, (hplayed.2.2 ⟨"bell.ogg", 4⟩ ?_).1 (by decide)⟩
  rw [haudio]
  rfl

open Bare in
/-- A declared event for sounds, although it does nothing, makes every sound of its host fail. -/
theorem not_ends_of_sound :
    ¬ ∀ (l : Loader) (s : Stage) (h : Host) (p : Part) (r : Reactions) (id : String),
        p.Compiled l r → s.Casts h p → r.conditions = [] →
        (∀ b ∈ r.bindings, b.name = audioEvent → b.actions = []) →
        (∀ b ∈ r.bindings, ∀ a ∈ b.actions, ∃ id, a = .emitAudio id) →
        ∀ k, result (emitAudio (fire l (k + 1)) h id) s = .ok () := by
  intro hall
  obtain ⟨e, hcompiled, haudio⟩ := exists_chime audioEvent (by decide +kernel)
  have hcasts : Stage.Casts { entities := [e] } (.entity 0) e.part := casts_entity rfl rfl
  have hok := hall studio { entities := [e] } (.entity 0) e.part _ "bell" hcompiled hcasts rfl
    (by simp) (by simp) 0
  have hclip : e.part.audio.get? "bell" = some ⟨"bell.ogg", 4⟩ := by
    rw [haudio]
    rfl
  have hfails := ends_sound_of_ne_nil hcompiled hcasts 0 "bell"
    (by simp [Reactions.spawnsAt]) hclip (by decide)
  cases hok.symm.trans hfails.1

end Stage

end Stagecraft
