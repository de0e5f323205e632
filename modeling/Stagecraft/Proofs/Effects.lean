import Stagecraft.Proofs.Casting
import Stagecraft.Proofs.Declarations

/-!
# What events come to

An event that is fired at a host has the effects that its reactions unfold to, in depth-first order,
and nothing else. The proof follows the unfolding. An event that is emitted is fired one level
deeper, so the number of levels that are left is carried along; it stays above the number of events
that can still follow one another. A sound takes a level too, for those who listen to it. How many
levels there are is up to whoever fires the event; where events do not go round in a circle, some
number is enough.
-/

namespace Stagecraft

namespace Stage

variable {l : Loader} {s t u : Stage} {h : Host} {p : Part} {r : Reactions} {event : String}
  {payload : List Payload} {k : Nat}

/-- Those who listen to an event come after the handlers that react to it. -/
theorem bound_of_casts (hp : p.bus.bound event = r.handlersAt event) (hs : s.Casts h p) :
    (s.bus h).bound event = r.handlersAt event ++ (s.listeners h event).map .listener := by
  obtain ⟨labels, hlabels⟩ := hs.bound event
  have hlisteners : s.listeners h event = labels := by
    unfold listeners
    rw [hlabels, hp]
    simp [Reactions.handlersAt, List.filterMap_map, Function.comp_def, Handler.label?]
  rw [hlisteners, hlabels, hp]

/-- An entity of the stage that has a part is cast for it. -/
theorem casts_entity {e f : Entity} {n : Nat} (hn : s.entities[n]? = some f)
    (hpart : f.part = e.part) : s.Casts (.entity n) e.part := by
  have hf : s.entity n = f := by simp [entity, hn]
  have hlt : n < s.entities.length := (List.getElem?_eq_some_iff.1 hn).1
  refine ⟨hlt, fun event => ⟨[], ?_⟩, ?_, ?_⟩
  · rw [← hpart, bus, hf]
    exact (List.append_nil _).symm
  · rw [← hpart, audio, hf]
    rfl
  · rw [← hpart, sequencer, hf]
    rfl

variable [Application]

/-- A part plays reactions: it has their handlers, none of them for sounds that are played, as well
as the sequences that they start, and what they spawn can be made. -/
structure Plays (p : Part) (r : Reactions) : Prop where
  bound : ∀ event, p.bus.bound event = r.handlersAt event
  audible : r.handlersAt audioEvent = []
  sequences : ∀ b ∈ r.bindings, ∀ id, .play id ∈ b.actions → p.sequences.has id
  constructors : ∀ c ∈ r.conditions, ∃ e, c.constructor.make = .ok e

/-- Those who listen now hear of an event, also if they listen since before. -/
theorem ends_hear (fire : Firing) (hbus : t.bus h = s.bus h) :
    Ends (((s.listeners h event).map .listener).forM (handle l fire h event payload)) t (.ok ())
      (t.hear h event payload) := by
  have hheard := ends_listeners l h event payload fire (s.listeners h event) t
  unfold hear listeners
  rw [hbus]
  exact hheard

/-- A sound that a host does not have is reported. -/
theorem ends_emitAudio_of_none {id : String} (hclip : (s.audio h).get? id = none) :
    Ends (emitAudio (fire l k) h id) s (.ok ()) (s.tell (s.noSound id h)) := by
  unfold emitAudio Ends
  rw [result_get_bind, after_get_bind, hclip]
  exact ends_report _

/-- A sound is an event with the sound as its payload. -/
theorem ends_emitAudio_iff {id : String} {clip : Clip} {x : Except Fault Unit}
    (hclip : (s.audio h).get? id = some clip) :
    Ends (emitAudio (fire l k) h id) s x t ↔ Ends (fire l k h audioEvent [.clip clip]) s x t := by
  unfold emitAudio Ends
  rw [result_get_bind, after_get_bind, hclip]

/-- A sound is heard by those who listen, or reported as missing. -/
theorem ends_emitAudio (hp : Plays p r) (hs : s.Casts h p) (id : String) :
    Ends (emitAudio (fire l (k + 1)) h id) s (.ok ()) ((Effect.sound id).apply h s) := by
  unfold Effect.apply
  dsimp only
  cases hclip : (s.audio h).get? id with
  | none => exact ends_emitAudio_of_none hclip
  | some clip =>
      rw [ends_emitAudio_iff hclip, ends_fire_iff, bound_of_casts (hp.bound _) hs, hp.audible]
      exact ends_hear _ rfl

/-- The actions of several bindings run one after the other. -/
theorem forM_actions (fire : Firing) (bs : List EventBinding) :
    (bs.map fun b => Handler.actions b.actions).forM (handle l fire h event []) =
      performAll fire h (bs.flatMap (·.actions)) := by
  induction bs with
  | nil => rfl
  | cons b bs ih =>
      have hcons : ((b :: bs).map fun b => Handler.actions b.actions).forM
          (handle l fire h event []) = performAll fire h b.actions >>= fun _ =>
            (bs.map fun b => Handler.actions b.actions).forM (handle l fire h event []) := rfl
      have happend : performAll fire h (b.actions ++ bs.flatMap (·.actions)) =
          performAll fire h b.actions >>= fun _ => performAll fire h (bs.flatMap (·.actions)) :=
        List.forM_append
      rw [hcons, ih, List.flatMap_cons, happend]

/-- An event has the effects of its conditions and its actions, and then those hear of it who
listen. -/
theorem ends_fire (hp : Plays p r) (hs : s.Casts h p) (event : String) {es : List Effect}
    (hactions : ∀ t, t.Casts h p → Ends (performAll (fire l k) h (r.actionsAt event)) t (.ok ())
      (es.foldl (Effect.apply h) t)) :
    Ends (fire l (k + 1) h event []) s (.ok ())
      (((r.spawnsAt event).map .spawn ++ es ++ [.notify event] : List Effect).foldl
        (Effect.apply h) s) := by
  have hspawns := ends_spawns l h event [] (fire l k) (r.spawnsAt event)
    (fun c hc => hp.constructors c (List.mem_filter.1 hc).1) s
  obtain ⟨hcast, hbus⟩ := hs.applyAll ((r.spawnsAt event).map .spawn)
  have hacts := hactions _ hcast
  obtain ⟨-, hbus'⟩ := hcast.applyAll es
  rw [ends_fire_iff, bound_of_casts (hp.bound _) hs, Reactions.handlersAt, List.foldl_append,
    List.foldl_append]
  refine (hspawns.forM_append ?_).forM_append (ends_hear _ (hbus'.trans hbus))
  rw [forM_actions]
  exact hacts

/-- What an action needs: a sequence that there is, or an event that leads to chains of `k` events
at most. -/
def Affords (p : Part) (r : Reactions) (k : Nat) : Action → Prop
  | .emitAudio _ => True
  | .play id => p.sequences.has id
  | .emit event => r.Within k event

/-- What an event leads to needs one event less in a chain. -/
theorem affords_of_within (hp : Plays p r) (hk : r.Within (k + 1) event) :
    ∀ a ∈ r.actionsAt event, Affords p r k a := by
  intro a ha
  obtain ⟨b, hb, hab⟩ := List.mem_flatMap.1 ha
  cases a with
  | emitAudio id => trivial
  | play id => exact hp.sequences b (List.mem_filter.1 hb).1 id hab
  | emit other => exact hk.next ha

/-- Actions have the effects that they unfold to, if there is a level for each event of a chain and
one more for sounds. -/
theorem ends_performAll (hp : Plays p r) {as : List Action} {es : List Effect}
    (hunfolds : r.Unfolds as es) (has : ∀ a ∈ as, Affords p r k a) (hs : s.Casts h p) :
    Ends (performAll (fire l (k + 1)) h as) s (.ok ()) (es.foldl (Effect.apply h) s) := by
  induction hunfolds generalizing k s with
  | nil => exact ends_pure s
  | sound rest ih =>
      obtain ⟨-, has⟩ := List.forall_mem_cons.1 has
      exact (ends_emitAudio hp hs _).bind (ih has (hs.apply _).1)
  | start rest ih =>
      obtain ⟨hid, has⟩ := List.forall_mem_cons.1 has
      rw [Affords, ← hs.sequences] at hid
      exact (ends_play hid).bind (ih has (hs.start _))
  | @emit event as es fs inner rest ihinner ihrest =>
      obtain ⟨hevent, has⟩ := List.forall_mem_cons.1 has
      obtain ⟨j, rfl⟩ := Nat.exists_eq_succ_of_ne_zero hevent.pos.ne'
      have hfire := ends_fire (l := l) hp hs event fun t ht =>
        ihinner (affords_of_within hp hevent) ht
      have heffects : (r.spawnsAt event).map .spawn ++ es ++ .notify event :: fs =
          ((r.spawnsAt event).map .spawn ++ es ++ [.notify event] : List Effect) ++ fs := by
        simp
      rw [heffects, List.foldl_append]
      exact hfire.bind (ihrest has (hs.applyAll _).1)

end Stage

/-- An action starts no sequence but one of these. -/
def Action.StartsOf (ds : List SequenceDef) : Action → Prop
  | .play id => ∃ d ∈ ds, d.id = id
  | _ => True

instance (ds : List SequenceDef) (a : Action) : Decidable (a.StartsOf ds) :=
  match a with
  | .play id => inferInstanceAs (Decidable (∃ d ∈ ds, d.id = id))
  | .emit _ => isTrue trivial
  | .emitAudio _ => isTrue trivial

namespace SequenceDef

/-- A sequence is there when all of them have been registered. -/
theorem has_of_register {ds : List SequenceDef} {d : SequenceDef} (hd : d ∈ ds) :
    (ds.foldl Sequencer.register {}).sequences.has d.id := by
  rw [sequences_foldl_register, Catalog.has, Catalog.get?_putAll]
  have hmem : (d.id, d.steps) ∈ (ds.map fun d => (d.id, d.steps)).filter (·.1 = d.id) := by
    rw [List.mem_filter]
    exact ⟨List.mem_map.2 ⟨d, hd, rfl⟩, by simp⟩
  cases hlast : ((ds.map fun d => (d.id, d.steps)).filter (·.1 = d.id)).getLast? with
  | none =>
      rw [List.getLast?_eq_none_iff.1 hlast] at hmem
      cases hmem
  | some last => rfl

end SequenceDef

namespace Blueprint

variable {b : Blueprint}

/-- The events of a blueprint leave the playing of sounds alone and start declared sequences. -/
structure Scripted (b : Blueprint) : Prop where
  spawns : ∀ c ∈ b.reactions.conditions, c.event ≠ Stage.audioEvent
  events : ∀ ev ∈ b.events, ev.name ≠ Stage.audioEvent
  starts : ∀ ev ∈ b.events, ∀ a ∈ ev.actions, a.StartsOf b.sequences

instance (b : Blueprint) : Decidable b.Scripted :=
  decidable_of_iff ((∀ c ∈ b.reactions.conditions, c.event ≠ Stage.audioEvent) ∧
      (∀ ev ∈ b.events, ev.name ≠ Stage.audioEvent) ∧
      ∀ ev ∈ b.events, ∀ a ∈ ev.actions, a.StartsOf b.sequences)
    ⟨fun ⟨hc, he, hs⟩ => ⟨hc, he, hs⟩, fun ⟨hc, he, hs⟩ => ⟨hc, he, hs⟩⟩

variable [Application]

/-- What a blueprint spawns can be made. -/
def Spawnable (b : Blueprint) : Prop :=
  ∀ c ∈ b.reactions.conditions, c.constructor.make.toOption.isSome

instance (b : Blueprint) : Decidable b.Spawnable :=
  inferInstanceAs (Decidable (∀ c ∈ b.reactions.conditions, c.constructor.make.toOption.isSome))

/-- The part of an instance plays the reactions of its blueprint. -/
theorem plays_of_build (hstandard : b.Standard) (hscripted : b.Scripted)
    (hspawnable : b.Spawnable) {e : Entity} (he : b.build = .ok e) :
    Stage.Plays e.part b.reactions := by
  obtain ⟨hbus, haudio, hsequencer⟩ := bound_of_build hstandard he
  refine ⟨hbus, ?_, ?_, ?_⟩
  · have hspawns : b.reactions.spawnsAt Stage.audioEvent = [] := by
      rw [Reactions.spawnsAt, List.filter_eq_nil_iff]
      exact fun c hc => by simpa using hscripted.spawns c hc
    have hevents : b.reactions.bindingsAt Stage.audioEvent = [] := by
      rw [Reactions.bindingsAt, List.filter_eq_nil_iff]
      exact fun ev hev => by simpa using hscripted.events ev hev
    rw [Reactions.handlersAt, hspawns, hevents]
    rfl
  · intro ev hev id hid
    obtain ⟨d, hd, rfl⟩ := hscripted.starts ev hev _ hid
    rw [Entity.part, hsequencer]
    exact SequenceDef.has_of_register hd
  · intro c hc
    exact Attempt.exists_eq_ok (hspawnable c hc)

end Blueprint

namespace Pool

open Stage

/-- The events of a compiled entity, as its item declares them, come to effects that are uniquely
given, unless they go round in a circle. An instance has these effects, one after the other, and no
error, if whoever fires the event has more levels than any chain of events that starts with it, and
some number of levels is enough for all chains. -/
theorem effects_of_trigger [Application] {l : Loader} {c : Markup.Cursor} {pool : Pool}
    (hpool : (Pool.ofElement l c).run.1 = .ok pool) {id : String} {entry : Entry}
    (hentry : pool.get? id = some entry) (hstandard : entry.blueprint.Standard)
    (hscripted : entry.blueprint.Scripted) {event : String}
    (hacyclic : entry.blueprint.reactions.Acyclic event) :
    entry.blueprint.reactions.Declares l.host entry.place ∧
      (∃ k, entry.blueprint.reactions.Within k event) ∧
      ∃ es, entry.blueprint.reactions.Unfolds [.emit event] es ∧
        (∀ fs, entry.blueprint.reactions.Unfolds [.emit event] fs → fs = es) ∧
        (entry.blueprint.Spawnable → ∀ e, entry.blueprint.build = .ok e →
          ∀ s n, s.Casts (.entity n) e.part →
            ∀ k limit, entry.blueprint.reactions.Within k event → k < limit →
              Ends (fire l limit (.entity n) event []) s (.ok ())
                (es.foldl (Effect.apply (.entity n)) s)) := by
  obtain ⟨a, -, -, hentries⟩ := compile_eq_ok hpool
  obtain ⟨item, -, h⟩ := Attempt.exists_mem_of_forall₂ hentries (Catalog.mem_of_get? hentry)
  have hdeclares := Blueprint.declares_reactions h.reads
  obtain ⟨es, hes⟩ := hacyclic.exists_unfolds
  rw [h.place]
  refine ⟨hdeclares, ⟨_, hacyclic.within⟩, es, hes, fun fs hfs => hfs.unique hes, ?_⟩
  intro hspawnable e he s n hs k limit hwithin hlimit
  obtain ⟨j, rfl⟩ := Nat.exists_eq_add_of_lt hlimit
  have hplays := Blueprint.plays_of_build hstandard hscripted hspawnable he
  have haffords : ∀ a ∈ [.emit event], Affords e.part entry.blueprint.reactions (k + j) a := by
    simpa [Affords] using hwithin.mono (Nat.le_add_right k j)
  have hrun := ends_performAll (l := l) hplays hes haffords hs
  have hone : performAll (fire l (k + j + 1)) (.entity n) [.emit event] =
      fire l (k + j + 1) (.entity n) event [] := bind_pure _
  rwa [hone] at hrun

/-- A host application with something to spawn. -/
def hearth : Loader where
  host := { resources := [("object", [("ember", .object (.maker .plain))])] }

theorem standard_hearth [Application] : hearth.host.Standard := by
  constructor <;> rintro name k ⟨⟩

/-- A pool of one entity with an event that leads to another one. -/
def brazier : Markup.Cursor :=
  .ofDocument
    ⟨⟨"entities", [], 1, [.element "entity" [("id", "brazier")] 1
      [.element "traits" [] 1 [.element "trait" [("name", "spawn")] 1
          [.element "item" [("event", "lit"), ("object", "ember")] 1 []]],
        .element "events" [] 1
          [.element "event" [("name", "lit")] 1
            [.element "action" [("type", "emit"), ("event", "warm")] 1 [],
              .element "action" [("type", "sequence"), ("id", "glow")] 1 []],
            .element "event" [("name", "warm")] 1
              [.element "action" [("type", "emit-audio"), ("id", "hiss")] 1 []]],
        .element "sequences" [] 1 [.element "sequence" [("id", "glow")] 1 []]]]⟩, none⟩

open Bare in
theorem effects_of_trigger_brazier :
    ∃ pool entry e es, (Pool.ofElement hearth brazier).run.1 = .ok pool ∧
      pool.get? "brazier" = some entry ∧ entry.blueprint.build = .ok e ∧
      entry.blueprint.reactions.Unfolds [.emit "lit"] es ∧
      Ends (fire hearth 3 (.entity 0) "lit" []) { entities := [e] } (.ok ())
        (es.foldl (Effect.apply (.entity 0)) { entities := [e] }) := by
  obtain ⟨pool, entry, hpool, hentry, hclosed⟩ := exists_entry hearth brazier "brazier"
    (fun entry => entry.blueprint.Scripted ∧ entry.blueprint.Spawnable ∧
      entry.blueprint.build.toOption.isSome ∧
      entry.blueprint.events = [⟨"lit", [.emit "warm", .play "glow"]⟩,
        ⟨"warm", [.emitAudio "hiss"]⟩]) (by decide +kernel)
  obtain ⟨hscripted, hspawnable, hbuild, hevents⟩ := of_decide_eq_true hclosed
  obtain ⟨e, he⟩ := Attempt.exists_eq_ok hbuild
  -- The event that is emitted comes after the one that emits it.
  let rank (event : String) : Nat := if event = "lit" then 1 else 0
  have hrank : ∀ event other, entry.blueprint.reactions.Emits event other →
      rank other < rank event := by
    intro event other
    apply Reactions.rank_of_bindings rank
    simp [Blueprint.reactions, hevents, rank]
  have hstandard := Blueprint.standard_of_ofElement standard_hearth hpool hentry
  obtain ⟨-, -, es, hes, -, hrun⟩ := effects_of_trigger hpool hentry hstandard hscripted
    (Reactions.acyclic_of_rank rank hrank "lit")
  exact ⟨pool, entry, e, es, hpool, hentry, he, hes, hrun hspawnable e he _ 0 (casts_entity rfl rfl)
    2 3 (Reactions.within_of_rank rank hrank) (by decide)⟩

/-- As many levels as there are in a thousand frames of a stack, with three for each of them. -/
def levels : Nat := 330

/-- The name of a rung of a ladder. -/
def rung (n : Nat) : String := String.ofList [Char.ofNat (97 + n / 20), Char.ofNat (97 + n % 20)]

/-- The number of a rung. -/
def height (event : String) : Nat :=
  match event.toList with
  | [a, b] => (a.toNat - 97) * 20 + (b.toNat - 97)
  | _ => 0

theorem height_rung {n : Nat} (hn : n ≤ levels) : height (rung n) = n := by
  have hall : ∀ m ∈ List.range (levels + 1), height (rung m) = m := by decide +kernel
  exact hall n (List.mem_range.2 (Nat.lt_succ_of_le hn))

/-- As many events as there are levels, each of which leads to the next. -/
def rungs : List EventBinding :=
  (List.range levels).map fun n => ⟨rung n, [.emit (rung (n + 1))]⟩

theorem handlersAt_rungs {n : Nat} (hn : n < levels) :
    Reactions.handlersAt ⟨[], rungs⟩ (rung n) = [.actions [.emit (rung (n + 1))]] := by
  have hfilter : (List.range levels).filter (fun m => rung m = rung n) = [n] := by
    have heq : ∀ m ∈ List.range levels, decide (rung m = rung n) = decide (m = n) := by
      intro m hm
      rw [decide_eq_decide]
      constructor
      · intro h
        have hheight := congrArg height h
        rwa [height_rung (List.mem_range.1 hm).le, height_rung hn.le] at hheight
      · rintro rfl
        rfl
    rw [List.filter_congr heq, List.filter_eq, List.count_eq_one_of_mem List.nodup_range
      (List.mem_range.2 hn)]
    rfl
  have hbindings : Reactions.bindingsAt ⟨[], rungs⟩ (rung n) =
      [⟨rung n, [.emit (rung (n + 1))]⟩] := by
    rw [Reactions.bindingsAt, rungs, List.filter_map]
    change ((List.range levels).filter fun m => rung m = rung n).map _ = _
    rw [hfilter]
    rfl
  rw [Reactions.handlersAt, hbindings]
  rfl

/-- Rungs lead up only. -/
theorem acyclic_rungs (event : String) : Reactions.Acyclic ⟨[], rungs⟩ event := by
  let rank (event : String) : Nat := levels - height event
  apply Reactions.acyclic_of_rank rank
  intro event other
  apply Reactions.rank_of_bindings rank
  intro b hb other hother
  obtain ⟨n, hn, rfl⟩ := List.mem_map.1 hb
  have hlt := List.mem_range.1 hn
  cases List.mem_singleton.1 hother
  dsimp only [rank]
  rw [height_rung hlt, height_rung hlt.le]
  omega

/-- Each rung takes a level, until there is none left. -/
theorem result_fire_rung [Application] {l : Loader} {s : Stage} {h : Host}
    (hbus : ∀ n < levels, (s.bus h).bound (rung n) = [.actions [.emit (rung (n + 1))]]) {k n : Nat}
    (hkn : n + k ≤ levels) : result (fire l k h (rung n) []) s = .error .endlessRecursion := by
  induction k generalizing n with
  | zero => rfl
  | succ k ih =>
      have hone : List.forM [Handler.actions [.emit (rung (n + 1))]]
          (handle l (fire l k) h (rung n) []) = fire l k h (rung (n + 1)) [] := by
        change (fire l k h (rung (n + 1)) [] >>= fun _ => pure ()) >>= (fun _ => pure ()) = _
        rw [bind_assoc]
        simp
      rw [fire_succ, result_get_bind, hbus n (by omega), hone, ih (by omega)]

/-- A pool of one entity with these events. -/
def ladder : Markup.Cursor :=
  .ofDocument
    ⟨⟨"entities", [], 1, [.element "entity" [("id", "ladder")] 1
      [.element "events" [] 1 ((List.range levels).map fun n =>
        .element "event" [("name", rung n)] 1
          [.element "action" [("type", "emit"), ("event", rung (n + 1))] 1 []])]]⟩, none⟩

/-- The ladder is compiled and built, and its first event fails. -/
theorem exists_ladder :
    letI := Application.bare
    ∃ pool entry e, (Pool.ofElement {} ladder).run.1 = .ok pool ∧
      pool.get? "ladder" = some entry ∧ entry.blueprint.Standard ∧ entry.blueprint.Scripted ∧
      entry.blueprint.Spawnable ∧ entry.blueprint.reactions.Acyclic (rung 0) ∧
      entry.blueprint.build = .ok e ∧
      result (fire {} levels (.entity 0) (rung 0) []) { entities := [e] } =
        .error .endlessRecursion := by
  let _ := Application.bare
  obtain ⟨pool, entry, hpool, hentry, hclosed⟩ := exists_entry {} ladder "ladder"
    (fun entry => entry.blueprint.Scripted ∧ entry.blueprint.Spawnable ∧
      entry.blueprint.traits.length = 0 ∧ entry.blueprint.events = rungs ∧
      entry.blueprint.build.toOption.isSome) (by decide +kernel)
  obtain ⟨hscripted, hspawnable, htraits, hevents, hbuild⟩ := of_decide_eq_true hclosed
  have hr : entry.blueprint.reactions = ⟨[], rungs⟩ := by
    rw [Blueprint.reactions, hevents, List.length_eq_zero_iff.1 htraits]
    rfl
  obtain ⟨e, he⟩ := Attempt.exists_eq_ok hbuild
  have hstandard : entry.blueprint.Standard :=
    Blueprint.standard_of_ofElement (l := {}) Registrations.standard_of_nil hpool hentry
  have hbus (n : Nat) (hn : n < levels) :
      (Stage.bus { entities := [e] } (.entity 0)).bound (rung n) =
        [.actions [.emit (rung (n + 1))]] := by
    rw [← handlersAt_rungs hn, ← hr, ← (Blueprint.bound_of_build hstandard he).1]
    rfl
  exact ⟨pool, entry, e, hpool, hentry, hstandard, hscripted, hspawnable, hr ▸ acyclic_rungs _, he,
    result_fire_rung hbus (by simp)⟩

/-- A host application whose objects cannot be made, as they have a trait twice. -/
@[reducible] def knot : Application :=
  { Application.bare with construct := fun _ => .error (.traitTaken "solid" none) }

/-- A loader for which such objects are registered. -/
def knotted : Loader where
  host :=
    { resources := [("object", [("twin", .object (.maker (.registered ⟨"Twin", 0⟩)))])] }

/-- A pool of one entity that spawns such an object. -/
def nursery : Markup.Cursor :=
  .ofDocument
    ⟨⟨"entities", [], 1, [.element "entity" [("id", "nursery")] 1
      [.element "traits" [] 1 [.element "trait" [("name", "spawn")] 1
        [.element "item" [("event", "hatch"), ("object", "twin")] 1 []]]]]⟩, none⟩

/-- A host application whose entities start a sequence that they do not have. -/
@[reducible] def haunting : Application :=
  { Application.bare with
    construct := fun _ => .ok { bus := [("creak", [.actions [.play "howl"]])] } }

/-- A loader for which such entities are registered. -/
def haunted : Loader where
  host := { entities := [("Ghost", .registered ⟨"Ghost", 0⟩)] }

/-- A pool of one such entity. -/
def manor : Markup.Cursor :=
  .ofDocument
    ⟨⟨"entities", [], 1, [.element "entity"
      [("id", "ghost"), ("type", "character"), ("source", "Ghost")] 1 []]⟩, none⟩

/-- An entity without bindings of events fails, though there is room for an event inside of another
one and none leads to another one. -/
theorem exists_failure [Application] (l : Loader) (c : Markup.Cursor) (id event : String)
    (q : Entry → Bool)
    (h : ((Pool.ofElement l c).run.1.toOption.bind (·.get? id)).map (fun entry => q entry &&
      decide (entry.blueprint.Scripted ∧ entry.blueprint.events = [] ∧
        (entry.blueprint.build.toOption.map fun e => (result (fire l 2 (.entity 0) event [])
          { entities := [{ e with world := some 0 }], worlds := [{}] }).toOption.isSome) =
            some false)) = some true) :
    ∃ pool entry e s, (Pool.ofElement l c).run.1 = .ok pool ∧ pool.get? id = some entry ∧
      q entry ∧ entry.blueprint.Scripted ∧ entry.blueprint.reactions.Acyclic event ∧
      entry.blueprint.build = .ok e ∧ s.Casts (.entity 0) e.part ∧
      entry.blueprint.reactions.Within 1 event ∧
      result (fire l 2 (.entity 0) event []) s ≠ .ok () := by
  obtain ⟨pool, entry, hpool, hentry, hclosed⟩ := exists_entry l c id _ h
  obtain ⟨hq, hclosed⟩ := (Bool.and_eq_true _ _).mp hclosed
  obtain ⟨hscripted, hevents, hfails⟩ := of_decide_eq_true hclosed
  have hrank : ∀ event other, entry.blueprint.reactions.Emits event other → 0 < 0 := by
    intro event other
    apply Reactions.rank_of_bindings fun _ => 0
    simp [Blueprint.reactions, hevents]
  obtain ⟨e, he, hfails⟩ := Option.map_eq_some_iff.1 hfails
  have hbuild : entry.blueprint.build = .ok e := by
    cases hb : entry.blueprint.build <;> simp_all [Except.toOption]
  refine ⟨pool, entry, e, { entities := [{ e with world := some 0 }], worlds := [{}] }, hpool,
    hentry, hq, hscripted, Reactions.acyclic_of_rank (fun _ => 0) hrank event, hbuild, casts_entity rfl rfl,
    Reactions.within_of_rank (fun _ => 0) hrank, fun hok => ?_⟩
  rw [hok] at hfails
  cases hfails

/-- An event fails where the events of a chain are too many for the levels that there are, where the
host application gives an object to spawn that cannot be made, and where it gives an entity that
reacts to the event by itself. -/
theorem not_effects_of_trigger :
    (letI : Application := Application.bare
    ¬ ∀ (l : Loader) (c : Markup.Cursor) (pool : Pool) (id : String) (entry : Entry)
        (event : String) (e : Entity) (s : Stage) (n : Nat),
        (Pool.ofElement l c).run.1 = .ok pool → pool.get? id = some entry →
        entry.blueprint.Standard → entry.blueprint.Scripted → entry.blueprint.Spawnable →
        entry.blueprint.reactions.Acyclic event → entry.blueprint.build = .ok e →
        s.Casts (.entity n) e.part → result (fire l levels (.entity n) event []) s = .ok ()) ∧
    (letI : Application := knot
    ¬ ∀ (l : Loader) (c : Markup.Cursor) (pool : Pool) (id : String) (entry : Entry)
        (event : String) (e : Entity) (s : Stage) (n : Nat),
        (Pool.ofElement l c).run.1 = .ok pool → pool.get? id = some entry →
        entry.blueprint.Standard → entry.blueprint.Scripted →
        entry.blueprint.reactions.Acyclic event → entry.blueprint.build = .ok e →
        s.Casts (.entity n) e.part → ∀ k limit, entry.blueprint.reactions.Within k event →
          k < limit → result (fire l limit (.entity n) event []) s = .ok ()) ∧
    letI := haunting
    ¬ ∀ (l : Loader) (c : Markup.Cursor) (pool : Pool) (id : String) (entry : Entry)
        (event : String) (e : Entity) (s : Stage) (n : Nat), l.host.traits = [] →
        (Pool.ofElement l c).run.1 = .ok pool → pool.get? id = some entry →
        entry.blueprint.Scripted → entry.blueprint.Spawnable →
        entry.blueprint.reactions.Acyclic event → entry.blueprint.build = .ok e →
        s.Casts (.entity n) e.part → ∀ k limit, entry.blueprint.reactions.Within k event →
          k < limit → result (fire l limit (.entity n) event []) s = .ok () := by
  refine ⟨?_, ?_, ?_⟩
  · let _ := Application.bare
    intro hall
    obtain ⟨pool, entry, e, hpool, hentry, hstandard, hscripted, hspawnable, hacyclic, he, hfails⟩ :=
      exists_ladder
    have hok := hall {} ladder pool "ladder" entry (rung 0) e { entities := [e] } 0 hpool hentry
      hstandard hscripted hspawnable hacyclic he (casts_entity rfl rfl)
    cases hfails.symm.trans hok
  · let _ := knot
    intro hall
    obtain ⟨pool, entry, e, s, hpool, hentry, -, hscripted, hacyclic, he, hcasts, hwithin, hfails⟩ :=
      exists_failure knotted nursery "nursery" "hatch" (fun _ => true) (by decide +kernel)
    have hhost : knotted.host.Standard := by constructor <;> rintro name k ⟨⟩
    exact hfails (hall knotted nursery pool "nursery" entry "hatch" e s 0 hpool hentry
      (Blueprint.standard_of_ofElement hhost hpool hentry) hscripted hacyclic he hcasts 1 2 hwithin
      (by decide))
  · let _ := haunting
    intro hall
    obtain ⟨pool, entry, e, s, hpool, hentry, hspawnable, hscripted, hacyclic, he, hcasts, hwithin,
      hfails⟩ := exists_failure haunted manor "ghost" "creak"
        (fun entry => decide entry.blueprint.Spawnable) (by decide +kernel)
    exact hfails (hall haunted manor pool "ghost" entry "creak" e s 0 rfl hpool hentry hscripted
      (of_decide_eq_true hspawnable) hacyclic he hcasts 1 2 hwithin (by decide))

end Pool

end Stagecraft
