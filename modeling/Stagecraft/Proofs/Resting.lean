import Stagecraft.Proofs.Casting
import Stagecraft.Proofs.Faces
import Stagecraft.Proofs.Redrawing
import Stagecraft.Proofs.Staging
import Stagecraft.Stage.Compilation

/-!
# Worlds at rest

No time passes while a world is settled. What a trait then adds to its fields or to a position reads
as zero, and the animators of an instance draw what they drew when it was built: all of them again,
in the same order. So an instance that is at rest stays so, and settling it any number of times
leaves a scene that reads as it did before, be it a draft or on a stage.
-/

namespace Stagecraft

open Markup
open Binary64 (rational?)

/-- Two values that read as one. -/
inductive Value.Agree : Value → Value → Prop
  | refl (a : Value) : Agree a a
  | real {x y : Float} (h : Binary64.Agree x y) : Agree (.real x) (.real y)

theorem Value.Agree.trans {a b c : Value} (h : a.Agree b) (h' : b.Agree c) : a.Agree c := by
  cases h with
  | refl => exact h'
  | real h =>
      cases h' with
      | refl => exact .real h
      | real h' => exact .real (h.trans h')

/-- Two positions that read as one. -/
structure Vec3.Agree (p q : Vec3) : Prop where
  x : Binary64.Agree p.x q.x
  y : Binary64.Agree p.y q.y
  z : Binary64.Agree p.z q.z

theorem Vec3.Agree.refl (p : Vec3) : p.Agree p := ⟨.refl _, .refl _, .refl _⟩

theorem Vec3.Agree.trans {p q r : Vec3} (h : p.Agree q) (h' : q.Agree r) : p.Agree r :=
  ⟨h.x.trans h'.x, h.y.trans h'.y, h.z.trans h'.z⟩

namespace Catalog

variable {α : Type} {R : α → α → Prop}

/-- Entries of the same key with related values. -/
def Pairs (R : α → α → Prop) (x y : String × α) : Prop := x.1 = y.1 ∧ R x.2 y.2

theorem forall₂_put (hrefl : ∀ a, R a a) {m : Catalog α} {key : String} {a b : α}
    (h : m.get? key = some a) (hab : R a b) : List.Forall₂ (Pairs R) m (m.put key b) := by
  have hsame (rest : Catalog α) : List.Forall₂ (Pairs R) rest rest :=
    List.forall₂_same.2 fun x _ => ⟨rfl, hrefl x.2⟩
  induction m with
  | nil => cases h
  | cons e m ih =>
      obtain ⟨k, c⟩ := e
      rw [get?] at h
      rw [put]
      split at h
      · rename_i hk
        cases h
        rw [if_pos hk]
        exact .cons ⟨rfl, hab⟩ (hsame m)
      · rename_i hk
        rw [if_neg hk]
        exact .cons ⟨rfl, hrefl c⟩ (ih h)

end Catalog

namespace Trait

/-- Two traits that read as one: they differ by what the fields hold, and these agree. -/
structure Agree (t u : Trait) : Prop where
  fields : List.Forall₂ (Catalog.Pairs Value.Agree) t.fields u.fields
  rest : u = { t with fields := u.fields }

variable {t u v : Trait} {name : String}

theorem Agree.refl (t : Trait) : t.Agree t :=
  ⟨List.forall₂_same.2 fun _ _ => ⟨rfl, .refl _⟩, rfl⟩

theorem Agree.trans (h : t.Agree u) (h' : u.Agree v) : t.Agree v := by
  refine ⟨Attempt.forall₂_comp h.fields h'.fields fun _ _ _ ha hb =>
    ⟨ha.1.trans hb.1, ha.2.trans hb.2⟩, ?_⟩
  rw [h'.rest, h.rest]

theorem field_setField_self (t : Trait) (name : String) (a : Value) :
    (t.setField name a).field name = a := by
  rw [field, setField, Catalog.get?_put_self, Option.getD_some]

theorem field_setField_of_ne (t : Trait) {name other : String} (a : Value) (h : other ≠ name) :
    (t.setField name a).field other = t.field other := by
  rw [field, setField, Catalog.get?_put_of_ne _ _ h, field]

theorem agree_setField {x y : Float} (hx : t.field name = .real x) (h : Binary64.Agree x y) :
    t.Agree (t.setField name (.real y)) := by
  refine ⟨Catalog.forall₂_put Value.Agree.refl ?_ (.real h), rfl⟩
  unfold field at hx
  cases hget : t.fields.get? name with
  | none =>
      rw [hget] at hx
      cases hx
  | some a =>
      rw [hget] at hx
      exact congrArg some hx

/-- The fields that a trait runs on hold numbers, and those that are multiplied by the time are
finite. -/
def Numeric (t : Trait) : Prop :=
  match t.kind with
  | .builtIn .disappearing => ∃ x, t.field "time" = .real x
  | .builtIn .lifetime => ∃ x, t.field "time" = .real x
  | .builtIn .rotate => ∃ x y, t.field "angle" = .real x ∧ t.field "speed" = .real y ∧
      y.isFinite = true
  | .builtIn .translate =>
    ∀ v, t.field "velocity" = .vec2 v → v.x.isFinite = true ∧ v.y.isFinite = true
  | _ => True

/-- New traits run on numbers. -/
theorem numeric_new (kind : TraitKind) : (new kind).Numeric := by
  cases kind
  case disappearing => exact ⟨0, rfl⟩
  case lifetime => exact ⟨0, rfl⟩
  case rotate => exact ⟨0, 1, rfl, rfl, by decide⟩
  case translate =>
    rintro v hv
    cases hv
    exact ⟨by decide, by decide⟩
  all_goals exact trivial

/-- A field that counts the time, while none passes. -/
theorem exists_countTime {x : Float} (hx : t.field "time" = .real x) {dt : Elapsed}
    (hdt : dt.toFloat = 0) : ∃ u y, t.countTime dt = .ok u ∧ t.Agree u ∧ u.kind = t.kind ∧
      u.field "time" = .real y := by
  have hcount : t.countTime dt = .ok (t.setField "time" (.real (x + dt.toFloat))) := by
    rw [countTime, hx]
    rfl
  have hagree := Binary64.agree_add x (hdt ▸ Binary64.rational?_zero)
  exact ⟨_, _, hcount, agree_setField hx hagree, rfl, field_setField_self _ _ _⟩

/-- A turn, while no time passes. -/
theorem exists_turn {x y : Float} (hx : t.field "angle" = .real x)
    (hy : t.field "speed" = .real y) (hfinite : y.isFinite = true) {dt : Elapsed}
    (hdt : dt.toFloat = 0) : ∃ u z, (do
      let turn ← Value.times (t.field "speed") dt
      return t.setField "angle" (← Value.add (t.field "angle") turn)) = .ok u ∧ t.Agree u ∧
      u.kind = t.kind ∧ u.field "angle" = .real z ∧ u.field "speed" = .real y := by
  have hagree := Binary64.agree_add x
    (Binary64.rational?_mul hfinite (hdt ▸ Binary64.rational?_zero))
  refine ⟨t.setField "angle" (.real (x + y * dt.toFloat)), _, ?_, agree_setField hx hagree, rfl,
    field_setField_self _ _ _, ?_⟩
  · rw [hx, hy]
    rfl
  · rw [field_setField_of_ne _ _ (by decide), hy]

/-- While no time passes, what the fields of a trait hold reads the same. -/
theorem exists_elapse (h : t.Numeric) {dt : Elapsed} (hdt : dt.toFloat = 0) :
    ∃ u, t.elapse dt = .ok u ∧ t.Agree u ∧ u.Numeric := by
  have hnumeric := h
  unfold Numeric at h
  unfold elapse
  split at h
  · rename_i hkind
    obtain ⟨x, hx⟩ := h
    obtain ⟨u, y, hu, hagree, hkeeps, hy⟩ := exists_countTime hx hdt
    refine ⟨u, ?_, hagree, ?_⟩
    · rw [hkind]
      exact hu
    · rw [Numeric, hkeeps, hkind]
      exact ⟨y, hy⟩
  · rename_i hkind
    obtain ⟨x, hx⟩ := h
    obtain ⟨u, y, hu, hagree, hkeeps, hy⟩ := exists_countTime hx hdt
    refine ⟨u, ?_, hagree, ?_⟩
    · rw [hkind]
      exact hu
    · rw [Numeric, hkeeps, hkind]
      exact ⟨y, hy⟩
  · rename_i hkind
    obtain ⟨x, y, hx, hy, hfinite⟩ := h
    obtain ⟨u, z, hu, hagree, hkeeps, hz, hspeed⟩ := exists_turn hx hy hfinite hdt
    refine ⟨u, ?_, hagree, ?_⟩
    · rw [hkind]
      exact hu
    · rw [Numeric, hkeeps, hkind]
      exact ⟨z, y, hz, hspeed, hfinite⟩
  · rename_i hkind
    refine ⟨t, ?_, .refl t, hnumeric⟩
    rw [hkind]
  · rename_i hdisappearing hlifetime hrotate htranslate
    refine ⟨t, ?_, .refl t, hnumeric⟩
    split
    · rename_i hkind
      exact absurd hkind hdisappearing
    · rename_i hkind
      exact absurd hkind hlifetime
    · rename_i hkind
      exact absurd hkind hrotate
    · rfl

/-- While no time passes, a trait moves its host nowhere. -/
theorem agree_carry (h : t.Numeric) {dt : Elapsed} (hdt : dt.toFloat = 0) (p : Vec3) :
    p.Agree (t.carry dt p) := by
  have hzero : rational? dt.toFloat = some 0 := hdt ▸ Binary64.rational?_zero
  unfold carry
  split
  · rename_i v _ hv
    unfold velocity? at hv
    split at hv
    · rename_i hkind hfield
      cases hv
      rw [Numeric, hkind] at h
      obtain ⟨hx, hy⟩ := h v hfield
      exact ⟨Binary64.agree_add _ (Binary64.rational?_mul hx hzero),
        Binary64.agree_add _ (Binary64.rational?_mul hy hzero), .refl _⟩
    · cases hv
  · exact .refl p

end Trait

namespace Entity

/-- The animators draw what has been drawn, if they draw again. -/
def Standing (e : Entity) : Prop :=
  let planes := (e.model.map (·.plane)).toList
  runAnimators 0 e.animators planes = (e.animators, planes, .ok ())

theorem Standing.congr {e f : Entity} (h : e.Standing) (hanimators : f.animators = e.animators)
    (hplane : f.model.map (·.plane) = e.model.map (·.plane)) : f.Standing := by
  unfold Standing
  rw [hanimators, hplane]
  exact h

theorem updateAnimators_of_standing {e : Entity} (h : e.Standing) :
    e.updateAnimators 0 = (e, .ok ()) := by
  have hmodel : (e.model.map fun m =>
      { m with plane := ((e.model.map (·.plane)).toList.head?).getD m.plane }) = e.model := by
    cases e.model <;> rfl
  unfold updateAnimators
  rw [h]
  dsimp only
  rw [hmodel]

/-- Two entities that read as one: they only differ by their positions and their traits. -/
structure Agree (e f : Entity) : Prop where
  position : e.position.Agree f.position
  traits : List.Forall₂ Trait.Agree e.traits f.traits
  rest : f = { e with position := f.position, traits := f.traits }

theorem Agree.refl (e : Entity) : e.Agree e :=
  ⟨.refl _, List.forall₂_same.2 fun _ _ => .refl _, rfl⟩

theorem Agree.trans {e f g : Entity} (h : e.Agree f) (h' : f.Agree g) : e.Agree g := by
  refine ⟨h.position.trans h'.position,
    Attempt.forall₂_comp h.traits h'.traits fun _ _ _ ht hu => ht.trans hu, ?_⟩
  rw [h'.rest, h.rest]

/-- An entity at rest: its traits run on numbers, and its animators draw what has been drawn. -/
structure Resting (e : Entity) : Prop where
  standing : e.Standing
  traits : ∀ t ∈ e.traits, t.Numeric

theorem exists_runTraits {ts : List Trait} (hts : ∀ t ∈ ts, t.Numeric) {dt : Elapsed}
    (hdt : dt.toFloat = 0) (p : Vec3) : ∃ us q, runTraits dt ts p = (us, q, .ok ()) ∧
      p.Agree q ∧ List.Forall₂ (fun t u => t.Agree u ∧ u.Numeric) ts us := by
  induction ts generalizing p with
  | nil => exact ⟨[], p, rfl, .refl p, .nil⟩
  | cons t ts ih =>
      have ht := hts t List.mem_cons_self
      have hrest := ih fun u hu => hts u (List.mem_cons_of_mem t hu)
      rw [runTraits]
      split
      · obtain ⟨us, q, hrun, hq, hus⟩ := hrest p
        exact ⟨t :: us, q, by rw [hrun], hq, .cons ⟨.refl t, ht⟩ hus⟩
      · obtain ⟨u, hu, hagree, hnumeric⟩ := t.exists_elapse ht hdt
        obtain ⟨us, q, hrun, hq, hus⟩ := hrest (u.carry dt p)
        exact ⟨u :: us, q, by rw [hu]; simp only [hrun], (u.agree_carry hnumeric hdt p).trans hq,
          .cons ⟨hagree, hnumeric⟩ hus⟩

/-- An entity at rest stays so while no time passes, and reads as before. -/
theorem Resting.timeshift {e : Entity} (h : e.Resting) {dt : Elapsed} (hdt : dt.toFloat = 0) :
    ∃ f, e.timeshift dt = (f, .ok ()) ∧ e.Agree f ∧ f.Resting := by
  obtain ⟨us, q, hrun, hq, hus⟩ := exists_runTraits h.traits hdt e.position
  have hstanding : ({ e with traits := us, position := q } : Entity).Standing :=
    h.standing.congr rfl rfl
  refine ⟨{ e with traits := us, position := q }, ?_, ⟨hq, hus.imp fun _ _ hu => hu.1, rfl⟩,
    hstanding, fun u hu => ?_⟩
  · rw [Entity.timeshift, hrun]
    dsimp only
    rw [hdt]
    exact updateAnimators_of_standing hstanding
  · obtain ⟨t, -, ht⟩ := Attempt.exists_mem_of_forall₂ hus hu
    exact ht.2

/-- An entity at rest is so under any number and in any world. -/
theorem Resting.raised {e : Entity} (h : e.Resting) (k n : Nat) :
    ((e.numbered k).inWorld n).Resting where
  standing := h.standing.congr rfl rfl
  traits u hu := by
    obtain ⟨t, ht, rfl⟩ := List.mem_map.1 hu
    exact h.traits t ht

theorem standing_of_unseen {e : Entity} (hmodel : e.model = none) (hanimators : e.animators = []) :
    e.Standing := by
  unfold Standing
  rw [hmodel, hanimators]
  rfl

/-- Animators that have just drawn would draw the same again. -/
theorem standing_of_updateAnimators {e f : Entity} (h : e.updateAnimators 0 = (f, .ok ())) :
    f.Standing := by
  unfold updateAnimators at h
  rcases hrun : runAnimators 0 e.animators (e.model.map (·.plane)).toList with ⟨as, rs, result⟩
  rw [hrun] at h
  cases h
  have hplanes : ((e.model.map fun m => { m with plane := rs.head?.getD m.plane }).map
      (·.plane)).toList = rs := by
    have hlength := (likewise_of_runAnimators hrun).length_eq
    cases hmodel : e.model with
    | none =>
        rw [hmodel] at hlength
        exact (List.length_eq_zero_iff.1 hlength.symm).symm
    | some m =>
        rw [hmodel] at hlength
        obtain ⟨r, rfl⟩ := List.length_eq_one_iff.1 hlength.symm
        rfl
  unfold Standing
  dsimp only
  rw [hplanes]
  exact runAnimators_again hrun

end Entity

namespace World

/-- Two worlds that read as one, with the same objects in the same order. -/
structure Agree (v w : World Entity) : Prop where
  objects : List.Forall₂ Entity.Agree v.objects w.objects
  time : Binary64.Agree v.time w.time
  rest : w = { v with objects := w.objects, time := w.time }

/-- Objects at rest stay so while no time passes. -/
theorem exists_shift {es : List Entity} (h : ∀ e ∈ es, e.Resting) :
    ∃ fs, shift .none es = .ok fs ∧ List.Forall₂ (fun e f => e.Agree f ∧ f.Resting) es fs := by
  induction es with
  | nil => exact ⟨[], rfl, .nil⟩
  | cons e es ih =>
      have hzero : Elapsed.none.toFloat = 0 := rfl
      obtain ⟨f, hf, hagree, hrest⟩ := (h e List.mem_cons_self).timeshift hzero
      obtain ⟨fs, hfs, hall⟩ := ih fun g hg => h g (List.mem_cons_of_mem e hg)
      refine ⟨f :: fs, ?_, .cons ⟨hagree, hrest⟩ hall⟩
      rw [shift, List.mapM_cons, hf]
      exact congrArg (· >>= fun gs => pure (f :: gs)) hfs

/-- A world with objects at rest can be settled, which leaves them at rest. -/
theorem exists_settle {w : World Entity} (h : ∀ e ∈ w.objects, e.Resting) :
    ∃ v, w.settle .none = .ok v ∧ w.Agree v ∧ ∀ e ∈ v.objects, e.Resting := by
  obtain ⟨es, hes, hall⟩ := exists_shift h
  refine ⟨{ w with objects := es, time := w.time + Elapsed.none.toFloat }, ?_,
    ⟨hall.imp fun _ _ he => he.1, Binary64.agree_add _ Binary64.rational?_zero, rfl⟩,
    fun e he => ?_⟩
  · rw [settle, hes]
    rfl
  · obtain ⟨_, -, hrest⟩ := Attempt.exists_mem_of_forall₂ hall he
    exact hrest.2

end World

namespace Stage

/-- Two stages that read as one. Worlds may differ by their time, which agrees. -/
structure Agree (s t : Stage) : Prop where
  entity : ∀ n, (s.entity n).Agree (t.entity n)
  world : ∀ w, Binary64.Agree (s.world w).time (t.world w).time ∧
    t.world w = { s.world w with time := (t.world w).time }
  rest : t = { s with entities := t.entities, worlds := t.worlds }

variable {s t u : Stage}

theorem Agree.refl (s : Stage) : s.Agree s := ⟨fun _ => .refl _, fun _ => ⟨.refl _, rfl⟩, rfl⟩

theorem Agree.trans (h : s.Agree t) (h' : t.Agree u) : s.Agree u := by
  refine ⟨fun n => (h.entity n).trans (h'.entity n), fun w => ?_, ?_⟩
  · obtain ⟨htime, hworld⟩ := h.world w
    obtain ⟨htime', hworld'⟩ := h'.world w
    refine ⟨htime.trans htime', ?_⟩
    rw [hworld', hworld]
  · rw [h'.rest, h.rest]

theorem getD_set {α : Type} (xs : List α) (i j : Nat) (x d : α) :
    (xs.set i x)[j]?.getD d = xs[j]?.getD d ∨ i = j ∧ (xs.set i x)[j]?.getD d = x := by
  rw [List.getElem?_set]
  split
  · rename_i hij
    subst hij
    split
    · exact .inr ⟨rfl, rfl⟩
    · rw [List.getElem?_eq_none (by omega)]
      exact .inl rfl
  · exact .inl rfl

theorem exists_change {n : Nat} (h : (s.entity n).Resting) :
    ∃ t, Ends (change n (·.timeshift (.seconds 0))) s (.ok ()) t ∧ s.Agree t ∧
      t.worlds = s.worlds ∧ ∀ m, (s.entity m).Resting → (t.entity m).Resting := by
  have hzero : (Elapsed.seconds 0).toFloat = 0 := rfl
  obtain ⟨f, hf, hagree, hrest⟩ := h.timeshift hzero
  have hentity (m : Nat) : (s.setEntity n f).entity m = s.entity m ∨
      n = m ∧ (s.setEntity n f).entity m = f := getD_set _ _ _ _ _
  refine ⟨s.setEntity n f, ?_, ⟨fun m => ?_, fun w => ⟨.refl _, rfl⟩, rfl⟩, rfl, fun m hm => ?_⟩
  · unfold Ends change
    rw [result_get_bind, after_get_bind]
    dsimp only
    rw [hf]
    exact ⟨rfl, rfl⟩
  · rcases hentity m with hsame | ⟨rfl, hnew⟩
    · rw [hsame]
      exact .refl _
    · rw [hnew]
      exact hagree
  · rcases hentity m with hsame | ⟨rfl, hnew⟩
    · rwa [hsame]
    · rwa [hnew]

/-- One object after the other. -/
theorem exists_changes {ns : List Nat} (h : ∀ n ∈ ns, (s.entity n).Resting) :
    ∃ t, Ends (forIn ns PUnit.unit fun n _ => do
        change n (·.timeshift (.seconds 0)); pure (ForInStep.yield PUnit.unit)) s (.ok ()) t ∧
      s.Agree t ∧ t.worlds = s.worlds ∧ ∀ m, (s.entity m).Resting → (t.entity m).Resting := by
  induction ns generalizing s with
  | nil => exact ⟨s, ends_pure s, .refl s, rfl, fun _ hm => hm⟩
  | cons n ns ih =>
      obtain ⟨t, hchange, hagree, hworlds, hrest⟩ := exists_change (h n List.mem_cons_self)
      obtain ⟨u, hchanges, hagree', hworlds', hrest'⟩ :=
        ih fun m hm => hrest m (h m (List.mem_cons_of_mem n hm))
      refine ⟨u, ?_, hagree.trans hagree', hworlds'.trans hworlds,
        fun m hm => hrest' m (hrest m hm)⟩
      simp only [List.forIn_cons, bind_assoc, pure_bind]
      exact hchange.bind hchanges

/-- A world with objects at rest can be simulated for no time. The objects stay at rest, and the
stage reads as before. -/
theorem exists_simulate {w : Nat} (h : ∀ e ∈ s.objects w, e.Resting) :
    ∃ t, Ends (simulate w 0) s (.ok ()) t ∧ s.Agree t ∧ ∀ e ∈ t.objects w, e.Resting := by
  have hentities : ∀ n ∈ (s.world w).objects, (s.entity n).Resting := fun n hn =>
    h _ (List.mem_map_of_mem hn)
  obtain ⟨t, hchanges, hagree, hworlds, hrest⟩ := exists_changes hentities
  let counted : World Nat := { t.world w with time := (t.world w).time + 0 }
  have hworld (v : Nat) : (t.setWorld w counted).world v = t.world v ∨
      w = v ∧ (t.setWorld w counted).world v = counted := getD_set _ _ _ _ _
  have htime : t.Agree (t.setWorld w counted) := by
    refine ⟨fun _ => .refl _, fun v => ?_, rfl⟩
    rcases hworld v with hsame | ⟨rfl, hnew⟩
    · rw [hsame]
      exact ⟨.refl _, rfl⟩
    · rw [hnew]
      exact ⟨Binary64.agree_add _ Binary64.rational?_zero, rfl⟩
  refine ⟨t.setWorld w counted, ?_, hagree.trans htime, fun e he => ?_⟩
  · unfold Ends simulate
    rw [result_get_bind, after_get_bind]
    exact hchanges.bind ⟨rfl, rfl⟩
  · obtain ⟨n, hn, rfl⟩ := List.mem_map.1 he
    have hobjects : ((t.setWorld w counted).world w).objects = (s.world w).objects := by
      have hsame : t.world w = s.world w := by rw [world, world, hworlds]
      rw [← hsame]
      rcases hworld w with h | ⟨-, h⟩ <;> rw [h]
    rw [hobjects] at hn
    exact hrest n (hentities n hn)

/-- Letting no time pass in a world, again and again. -/
def settleTimes (w : Nat) : Nat → Play Unit
  | 0 => pure ()
  | n + 1 => simulate w 0 >>= fun _ => settleTimes w n

theorem exists_settleTimes {w : Nat} (h : ∀ e ∈ s.objects w, e.Resting) (n : Nat) :
    ∃ t, Ends (settleTimes w n) s (.ok ()) t ∧ s.Agree t := by
  induction n generalizing s with
  | zero => exact ⟨s, ends_pure s, .refl s⟩
  | succ n ih =>
      obtain ⟨t, hsimulate, hagree, hrest⟩ := exists_simulate h
      obtain ⟨u, hagain, hagree'⟩ := ih hrest
      exact ⟨u, hsimulate.bind hagain, hagree.trans hagree'⟩

end Stage

namespace SceneDraft

/-- Two drafts that read as one. -/
structure Agree (d e : SceneDraft) : Prop where
  world : d.world.Agree e.world
  rest : e = { d with world := e.world }

/-- Settling some number of times. -/
def settleTimes : Nat → SceneDraft → Except Fault SceneDraft
  | 0, d => .ok d
  | n + 1, d => settle d >>= settleTimes n

theorem Agree.refl (d : SceneDraft) : d.Agree d :=
  ⟨⟨List.forall₂_same.2 fun _ _ => .refl _, .refl _, rfl⟩, rfl⟩

theorem Agree.trans {d e f : SceneDraft} (h : d.Agree e) (h' : e.Agree f) : d.Agree f := by
  refine ⟨⟨Attempt.forall₂_comp h.world.objects h'.world.objects fun _ _ _ he hf => he.trans hf,
    h.world.time.trans h'.world.time, ?_⟩, ?_⟩
  · rw [h'.world.rest, h.world.rest]
  · rw [h'.rest, h.rest]

theorem exists_settle {d : SceneDraft} (h : ∀ e ∈ d.world.objects, e.Resting) :
    ∃ f, d.settle = .ok f ∧ d.Agree f ∧ ∀ e ∈ f.world.objects, e.Resting := by
  obtain ⟨w, hw, hagree, hrest⟩ := World.exists_settle h
  refine ⟨{ d with world := w }, ?_, ⟨hagree, rfl⟩, hrest⟩
  rw [settle, hw]
  rfl

/-- Settling again and again. -/
theorem exists_settleTimes {d : SceneDraft} (h : ∀ e ∈ d.world.objects, e.Resting) (n : Nat) :
    ∃ f, d.settleTimes n = .ok f ∧ d.Agree f := by
  induction n generalizing d with
  | zero => exact ⟨d, rfl, .refl d⟩
  | succ n ih =>
      obtain ⟨e, he, hagree, hrest⟩ := exists_settle h
      obtain ⟨f, hf, hagree'⟩ := ih hrest
      exact ⟨f, Attempt.bind_eq_ok_iff.2 ⟨e, he, hf⟩, hagree.trans hagree'⟩

end SceneDraft

section

variable [Application]

/-- What has been drawn on the plane of an instance is what would be drawn again. -/
theorem Blueprint.standing_of_build {b : Blueprint} {e : Entity} (h : b.build = .ok e) :
    e.Standing := by
  obtain ⟨base, f, -, -, hdrawn⟩ := stages_of_build h
  exact Entity.standing_of_updateAnimators hdrawn

namespace Entity

/-- What is put into a world: an instance of a compiled entity, or an entity that shows nothing.
Anything about it may have been changed since, but for what it shows. -/
inductive Placed : Entity → Prop
  | built {b : Blueprint} {e : Entity} (h : b.build = .ok e) : Placed e
  | unseen {e : Entity} (hmodel : e.model = none) (hanimators : e.animators = []) : Placed e
  | change {e f : Entity} (he : Placed e) (hanimators : f.animators = e.animators)
      (hplane : f.model.map (·.plane) = e.model.map (·.plane)) : Placed f

variable {e f : Entity}

theorem Placed.standing (h : e.Placed) : e.Standing := by
  induction h with
  | built h => exact Blueprint.standing_of_build h
  | unseen hmodel hanimators => exact standing_of_unseen hmodel hanimators
  | change _ hanimators hplane he => exact he.congr hanimators hplane

theorem Placed.attach {t : Trait} (he : e.Placed) (ht : t.kind.Ordinary)
    (h : e.withTrait t = .ok f) : f.Placed := by
  have hrest := (attached_of_withTrait ht h).rest
  exact he.change (by rw [hrest]) (by rw [hrest])

theorem Placed.inWorld (h : e.Placed) (n : Nat) : (e.inWorld n).Placed := h.change rfl rfl

end Entity

namespace Placement

variable {l : Loader} {pool : Pool} {o : Cursor} {origin : Origin} {e f : Entity}

theorem placed_of_behavior (h : behavior o = .ok (origin, e)) : e.Placed := by
  obtain ⟨b, -, h⟩ := Attempt.bind_eq_ok_iff.1 h
  obtain ⟨r, -, h⟩ := Attempt.bind_eq_ok_iff.1 h
  obtain ⟨f, hf, h⟩ := Attempt.bind_eq_ok_iff.1 h
  cases h
  refine (Entity.Placed.unseen rfl rfl).attach ?_ hf
  cases b <;> exact TraitClass.ordinary_builtIn _

theorem placed_of_rescale (he : e.Placed) (h : rescale o e = .ok f) : f.Placed := by
  unfold rescale at h
  split at h
  · cases h
    exact he
  · rename_i m hmodel
    obtain ⟨scale, -, h⟩ := Attempt.bind_eq_ok_iff.1 h
    cases h
    exact he.change rfl (by rw [hmodel]; rfl)

theorem placed_of_dress (hhost : l.host.Standard) (he : e.Placed) (h : dress l o e = .ok f) :
    f.Placed := by
  obtain ⟨direction, -, h⟩ := Attempt.bind_eq_ok_iff.1 h
  obtain ⟨position, -, h⟩ := Attempt.bind_eq_ok_iff.1 h
  obtain ⟨scaled, hscaled, h⟩ := Attempt.bind_eq_ok_iff.1 h
  obtain ⟨ts, -, hatt⟩ := writes_of_attachAll hhost h
  have hplaced : scaled.Placed := by
    refine placed_of_rescale ?_ hscaled
    exact he.change rfl rfl
  exact hplaced.change (by rw [hatt.rest]) (by rw [hatt.rest])

/-- What an element of a layout puts into a world, if what the application makes by itself shows
nothing. -/
theorem placed_of_object (hhost : l.host.Standard)
    (hmakers : ∀ name k, l.host.object? name = some (.maker k) → k.Blank)
    (h : object l pool o = .ok (origin, e)) : e.Placed := by
  obtain ⟨origin', horigin, h⟩ := Attempt.bind_eq_ok_iff.1 h
  obtain ⟨built, hbuilt, h⟩ := Attempt.bind_eq_ok_iff.1 h
  obtain ⟨dressed, hdressed, h⟩ := Attempt.bind_eq_ok_iff.1 h
  cases h
  refine placed_of_dress hhost ?_ hdressed
  unfold Origin.find at horigin
  split at horigin
  · cases horigin
    exact .built hbuilt
  · split at horigin
    · rename_i prebuilt hprebuilt
      cases horigin
      obtain ⟨name, -, hname⟩ := Option.bind_eq_some_iff.1 hprebuilt
      cases prebuilt with
      | maker k =>
          have hblank := hmakers name k hname built hbuilt
          exact .unseen hblank.model hblank.animators
      | entry entry => exact .built hbuilt
    · cases horigin

end Placement

namespace SceneDraft

/-- What a compiled scene holds before it is settled has been placed, if what the application makes
by itself shows nothing. -/
theorem placed_of_unsettled {l : Loader} (hhost : l.host.Standard)
    (hmakers : ∀ name k, l.host.object? name = some (.maker k) → k.Blank) {c : Cursor} {s : Start}
    {d : SceneDraft} (h : (unsettled l c s).result = .ok d) : ∀ e ∈ d.world.objects, e.Placed := by
  obtain ⟨camera, -, h⟩ := Timed.bind_eq_ok_iff.1 h
  obtain ⟨bus, -, h⟩ := Timed.bind_eq_ok_iff.1 h
  obtain ⟨⟨w, behaviors⟩, hbehaviors, h⟩ := Timed.bind_eq_ok_iff.1 h
  obtain ⟨gravity, -, h⟩ := Timed.bind_eq_ok_iff.1 h
  obtain ⟨sequences, -, h⟩ := Timed.bind_eq_ok_iff.1 h
  obtain ⟨⟨audio, pool⟩, -, h⟩ := Timed.bind_eq_ok_iff.1 h
  obtain ⟨⟨w', layout⟩, hlayout, h⟩ := Timed.bind_eq_ok_iff.1 h
  obtain ⟨-, -, h⟩ := Timed.bind_eq_ok_iff.1 h
  cases h
  obtain ⟨rects, rfl, hrects, -⟩ := Placement.all_eq_ok hbehaviors
  obtain ⟨es, rfl, hes, -⟩ := Placement.all_eq_ok hlayout
  intro e he
  rcases List.mem_append.1 he with he | he
  · obtain ⟨r, hr, rfl⟩ := List.mem_map.1 he
    obtain ⟨o, -, origin, ho⟩ := Attempt.exists_mem_of_forall₂ hrects hr
    exact (Placement.placed_of_behavior ho).inWorld _
  · obtain ⟨r, hr, rfl⟩ := List.mem_map.1 he
    obtain ⟨o, -, origin, ho⟩ := Attempt.exists_mem_of_forall₂ hes hr
    exact (Placement.placed_of_object hhost hmakers ho).inWorld _

/-- However often a scene is settled, it reads as before: the same objects in the same order, with
positions, fields of traits and the time of the world that agree, and with all else the same, down
to the times of the animators and the corners of the faces. On a stage it is the same. -/
theorem agree_of_settleTimes {d : SceneDraft} (hplaced : ∀ e ∈ d.world.objects, e.Placed)
    (hnumeric : ∀ e ∈ d.world.objects, ∀ t ∈ e.traits, t.Numeric) (n : Nat) :
    (∃ f, d.settleTimes n = .ok f ∧ d.Agree f) ∧
      ∀ s : Stage, ∃ t, Stage.Ends (Stage.settleTimes s.worlds.length n) (s.raise d) (.ok ()) t ∧
        (s.raise d).Agree t := by
  have hresting : ∀ e ∈ d.world.objects, e.Resting := fun e he =>
    ⟨(hplaced e he).standing, hnumeric e he⟩
  refine ⟨exists_settleTimes hresting n, fun s => Stage.exists_settleTimes ?_ n⟩
  intro e he
  rw [Stage.objects_raise] at he
  obtain ⟨i, hi, rfl⟩ := List.mem_mapIdx.1 he
  exact (hresting _ (List.getElem_mem hi)).raised _ _

end SceneDraft

end

namespace SceneDraft

/-- A trait that turns its host backwards. -/
def spinning : Trait := (Trait.new .rotate).setField "speed" (.real (-2))

open Bare in
theorem agree_of_settleTimes_lamp : ∃ (e : Entity) (d f : SceneDraft), d.world.objects = [e] ∧
    e.animators.length = 2 ∧ e.traits = [spinning.hostedBy 0] ∧
    d.settleTimes 2 = .ok f ∧ d.Agree f ∧
    ∃ t, Stage.Ends (Stage.settleTimes 0 2) (Stage.raise {} d) (.ok ()) t ∧
      (Stage.raise {} d).Agree t := by
  obtain ⟨pool, entry, e, hpool, hentry, he, hcount⟩ : ∃ pool entry e,
      (Pool.ofElement Pool.lampLoader Pool.lamp).run.1 = .ok pool ∧
        pool.get? "lamp" = some entry ∧ entry.blueprint.build = .ok e ∧
        some (e.number, e.traits.length, e.animators.length) = some (0, 0, 2) :=
    Pool.exists_built _ _ _ _ (by decide +kernel)
  simp only [Option.some.injEq, Prod.mk.injEq, List.length_eq_zero_iff] at hcount
  obtain ⟨hnumber, htraits, hanimators⟩ := hcount
  have hspinning : spinning.kind.Ordinary := TraitClass.ordinary_builtIn .rotate
  obtain ⟨f, hf, hatt⟩ := Entity.withTrait_of_new (e := e) hspinning (by simp [htraits])
  let g : Entity := { f with id := some "left", position := ⟨3, -4, 0⟩, direction := ⟨-1, 0⟩ }
  have hplaced : g.Placed := ((Entity.Placed.built he).attach hspinning hf).change rfl rfl
  have hspins : g.traits = [spinning.hostedBy 0] := by
    change f.traits = _
    rw [hatt.traits, htraits, hnumber]
    rfl
  let d : SceneDraft :=
    { scene := {}, world := { objects := [g] }, pool, behaviors := [], layout := [] }
  obtain ⟨⟨d', hd', hagree⟩, hstage⟩ := agree_of_settleTimes (d := d)
    (fun x hx => List.mem_singleton.1 hx ▸ hplaced)
    (fun x hx t ht => by
      rw [List.mem_singleton.1 hx, hspins, List.mem_singleton] at ht
      rw [ht]
      exact ⟨0, -2, rfl, rfl, by decide⟩) 2
  refine ⟨g, d, d', rfl, ?_, hspins, hd', hagree, hstage {}⟩
  change f.animators.length = 2
  rw [hatt.rest]
  exact hanimators

end SceneDraft

end Stagecraft
