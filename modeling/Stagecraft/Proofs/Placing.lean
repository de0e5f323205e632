import Stagecraft.Proofs.Constructors
import Stagecraft.Stage.Placement

/-!
# Placing instances

A layout puts one instance into the world for each of its elements, and in the end the world is
settled. What an instance has is followed from the constructor, which builds every instance afresh,
over what its own element sets, to what settling leaves. Nothing on the way looks at another
element or at another instance.
-/

namespace Stagecraft

open Markup

namespace Trait

/-- A trait as it is after settling: no time has passed for it, unless it is switched off. -/
def Settles (t u : Trait) : Prop := (if t.isEnabled then t.elapse .none else .ok t) = .ok u

end Trait

namespace Entity

theorem settles_of_runTraits {ts us : List Trait} {p q : Vec3}
    (h : runTraits .none ts p = (us, q, .ok ())) : List.Forall₂ Trait.Settles ts us := by
  induction ts generalizing us p with
  | nil =>
      cases h
      exact .nil
  | cons t ts ih =>
      rw [runTraits] at h
      cases henabled : t.isEnabled with
      | false =>
          rcases hrest : runTraits .none ts p with ⟨vs, r, result⟩
          simp only [henabled, hrest, Bool.not_false, if_true] at h
          cases h
          refine .cons ?_ (ih hrest)
          simp [Trait.Settles, henabled]
      | true =>
          simp only [henabled, Bool.not_true, Bool.false_eq_true, if_false] at h
          cases helapse : t.elapse .none with
          | error f =>
              rw [helapse] at h
              cases h
          | ok u =>
              rcases hrest : runTraits .none ts (u.carry .none p) with ⟨vs, r, result⟩
              simp only [helapse, hrest] at h
              cases h
              refine .cons ?_ (ih hrest)
              simp [Trait.Settles, henabled, helapse]

structure Settled (e f : Entity) : Prop where
  traits : List.Forall₂ Trait.Settles e.traits f.traits
  model : Option.Rel (fun m n => n = { m with plane := n.plane }) e.model f.model
  rest : f = { e with
    traits := f.traits, position := f.position, animators := f.animators, model := f.model }

theorem settled_of_timeshift {e f : Entity} (h : e.timeshift .none = (f, .ok ())) :
    Settled e f := by
  unfold timeshift at h
  rcases hrun : runTraits .none e.traits e.position with ⟨ts, p, result⟩
  rw [hrun] at h
  cases result with
  | error g => cases h
  | ok _ =>
      obtain rfl : (updateAnimators _ _).1 = f := congrArg Prod.fst h
      refine ⟨settles_of_runTraits hrun, ?_, rfl⟩
      change Option.Rel _ e.model (e.model.map _)
      cases e.model with
      | none => exact .none
      | some m => exact .some rfl

end Entity

theorem Elapsed.zero_add_toFloat_none : (0 : Float) + Elapsed.none.toFloat = 0 := by decide +kernel

namespace World

theorem forall₂_of_shift {dt : Elapsed} {es fs : List Entity} (h : shift dt es = .ok fs) :
    List.Forall₂ (fun e f => e.timeshift dt = (f, .ok ())) es fs := by
  refine (Attempt.mapM_eq_ok_iff.1 h).imp fun e f he => ?_
  split at he
  · rename_i hshift
    cases he
    exact hshift
  · cases he

theorem settle_eq_ok {dt : Elapsed} {w v : World Entity} (h : settle dt w = .ok v) :
    List.Forall₂ (fun e f => e.timeshift dt = (f, .ok ())) w.objects v.objects ∧
      v = { w with objects := v.objects, time := w.time + dt.toFloat } := by
  obtain ⟨es, hes, h⟩ := Attempt.bind_eq_ok_iff.1 h
  cases h
  exact ⟨forall₂_of_shift hes, rfl⟩

end World

namespace Behavior

theorem timeshift_of_make [Application] {b : Behavior} {r : Rect} {e : Entity}
    (h : b.make r = .ok e) (n : Nat) :
    (e.inWorld n).timeshift .none = (e.inWorld n, .ok ()) := by
  cases b <;> cases h <;> rfl

end Behavior

namespace Placement

/-- The factor that an element scales a model by, which is one unless it is given and not zero. -/
def factor (scale : Option Float) : Float := (scale.filter fun x => !(x == 0)).getD 1

def Scaled (o : Cursor) (m n : Model) : Prop :=
  ∃ scale, o.real? "scale" = .ok scale ∧ n.scale = m.scale.scale (factor scale)

theorem scaled_of_rescale {o : Cursor} {e f : Entity} (h : rescale o e = .ok f) :
    Option.Rel (Scaled o) e.model f.model ∧ f = { e with model := f.model } := by
  unfold rescale at h
  split at h
  · rename_i hmodel
    cases h
    refine ⟨?_, rfl⟩
    rw [hmodel]
    exact .none
  · rename_i m hmodel
    obtain ⟨scale, hscale, h⟩ := Attempt.bind_eq_ok_iff.1 h
    cases h
    rw [hmodel]
    exact ⟨.some ⟨scale, hscale, rfl⟩, rfl⟩

theorem scaled_of_drawn {o : Cursor} {x y z : Option Model} (hxy : Option.Rel (Scaled o) x y)
    (hyz : Option.Rel (fun m n => n = { m with plane := n.plane }) y z) :
    Option.Rel (Scaled o) x z := by
  cases hxy with
  | none =>
      cases hyz
      exact .none
  | some hm =>
      cases hyz with
      | some hn =>
          obtain ⟨scale, hscale, heq⟩ := hm
          exact .some ⟨scale, hscale, (congrArg Model.scale hn).trans heq⟩

section All

variable {make : Cursor → Except Fault (Origin × Entity)} {w w' : World Entity} {cs : List Cursor}
  {placed : List Placement}

/-- A placement stands for an element, and its seat is that of the instance. -/
def Seats (make : Cursor → Except Fault (Origin × Entity)) (w : World Entity) (c : Cursor)
    (p : Placement) : Prop :=
  p.place = c ∧ ∃ e, make c = .ok (p.origin, e) ∧
    w.objects[p.seat]? = some (e.inWorld w.number)

def step (make : Cursor → Except Fault (Origin × Entity)) (p : World Entity × List Placement)
    (c : Cursor) : Except Fault (World Entity × List Placement) := do
  let (origin, e) ← make c
  return (p.1.add e, p.2 ++ [⟨c, origin, p.1.objects.length⟩])

theorem all_eq_foldlM (make : Cursor → Except Fault (Origin × Entity)) (w : World Entity)
    (cs : List Cursor) : all make w cs = cs.foldlM (step make) (w, []) := rfl

theorem steps_eq_ok {before after : List Placement}
    (h : cs.foldlM (step make) (w, before) = .ok (w', after)) :
    ∃ es more, after = before ++ more ∧
      w' = { w with objects := w.objects ++ es.map (·.inWorld w.number) } ∧
      List.Forall₂ (fun c e => ∃ origin, make c = .ok (origin, e)) cs es ∧
      List.Forall₂ (Seats make w') cs more ∧
      more.map (·.seat) = List.range' w.objects.length cs.length := by
  induction cs generalizing w before with
  | nil =>
      cases h
      exact ⟨[], [], by simp, by simp, .nil, .nil, rfl⟩
  | cons c cs ih =>
      obtain ⟨_, hc, h⟩ := Attempt.bind_eq_ok_iff.1 h
      obtain ⟨⟨origin, e⟩, hmake, hc⟩ := Attempt.bind_eq_ok_iff.1 hc
      cases hc
      obtain ⟨es, more, rfl, rfl, hes, hmore, hseats⟩ := ih h
      refine ⟨e :: es, ⟨c, origin, w.objects.length⟩ :: more, by simp,
        by simp [World.add, World.push], .cons ⟨origin, hmake⟩ hes,
        .cons ⟨rfl, e, hmake, by simp [World.add, World.push]⟩ hmore, ?_⟩
      rw [List.map_cons, hseats, World.add, World.objects_push, List.length_append,
        List.length_singleton]
      rfl

/-- Placing adds one instance and one placement for each element, in order. -/
theorem all_eq_ok (h : all make w cs = .ok (w', placed)) :
    ∃ es, w' = { w with objects := w.objects ++ es.map (·.inWorld w.number) } ∧
      List.Forall₂ (fun c e => ∃ origin, make c = .ok (origin, e)) cs es ∧
      List.Forall₂ (Seats make w') cs placed ∧
      placed.map (·.seat) = List.range' w.objects.length cs.length := by
  rw [all_eq_foldlM] at h
  obtain ⟨es, more, rfl, hall⟩ := steps_eq_ok h
  exact ⟨es, hall⟩

theorem all_eq_error {before after : List Cursor} {c : Cursor} {f : Fault}
    (hbefore : ∀ b ∈ before, ∃ r, make b = .ok r) (hc : make c = .error f) :
    all make w (before ++ c :: after) = .error f := by
  have hsteps (p : World Entity × List Placement) :
      ∃ q, before.foldlM (step make) p = .ok q := by
    induction before generalizing p with
    | nil => exact ⟨p, rfl⟩
    | cons b before ih =>
        obtain ⟨r, hr⟩ := hbefore b List.mem_cons_self
        obtain ⟨q, hq⟩ := ih (fun d hd => hbefore d (List.mem_cons_of_mem b hd))
          (p.1.add r.2, p.2 ++ [⟨b, r.1, p.1.objects.length⟩])
        refine ⟨q, Attempt.bind_eq_ok_iff.2 ⟨_, ?_, hq⟩⟩
        exact Attempt.bind_eq_ok_iff.2 ⟨r, hr, rfl⟩
  obtain ⟨q, hq⟩ := hsteps (w, [])
  rw [all_eq_foldlM]
  refine Attempt.foldlM_of_first_error hq ?_
  exact Attempt.bind_eq_error_iff.2 (.inl hc)

end All

variable [Application]

def Writes (l : Loader) (c : Cursor) (t : Trait) : Prop :=
  ∃ m, TraitMaker.ofElement (some l.host) c = .ok m ∧ m.make = .ok t

def traitElements (o : Cursor) : List Cursor := o.find (Selector.ofString "trait")

theorem writes_of_attach {l : Loader} (hhost : l.host.Standard) {id : Option String}
    {e f : Entity} {c : Cursor} (h : attach l id e c = .ok f) :
    ∃ t, Writes l c t ∧ e.Attached f [t] := by
  obtain ⟨m, hm, h⟩ := Attempt.bind_eq_ok_iff.1 h
  obtain ⟨t, ht, h⟩ := Attempt.bind_eq_ok_iff.1 h
  have hordinary : m.base.Ordinary := TraitMaker.ordinary_of_ofElement hhost.traits hm
  have hkind : t.kind.Ordinary := by rwa [TraitMaker.kind_of_make hordinary ht]
  split at h
  · cases h
  · exact ⟨t, ⟨m, hm, ht⟩, Entity.attached_of_withTrait hkind h⟩

theorem writes_of_attachAll {l : Loader} (hhost : l.host.Standard) {id : Option String}
    {e f : Entity} {cs : List Cursor} (h : cs.foldlM (attach l id) e = .ok f) :
    ∃ ts, List.Forall₂ (Writes l) cs ts ∧ e.Attached f ts := by
  induction cs generalizing e with
  | nil =>
      cases h
      exact ⟨[], .nil, .nil _⟩
  | cons c cs ih =>
      obtain ⟨d, hd, h⟩ := Attempt.bind_eq_ok_iff.1 h
      obtain ⟨t, ht, hd⟩ := writes_of_attach hhost hd
      obtain ⟨ts, hts, hatt⟩ := ih h
      exact ⟨t :: ts, .cons ht hts, hd.cons hatt⟩

/-- An instance has been built and then placed by an element of a layout, and settled. -/
structure Stems (l : Loader) (o : Cursor) (built e : Entity) : Prop where
  id : e.id = o.get? "instance-id"
  direction : facing o = .ok e.direction
  traits : ∃ ts, List.Forall₂ (Writes l) (traitElements o) ts ∧
    List.Forall₂ Trait.Settles (built.traits ++ ts.map (·.hostedBy built.number)) e.traits
  model : Option.Rel (Scaled o) built.model e.model
  rest : e = { built with
    id := e.id, direction := e.direction, position := e.position, model := e.model,
    animators := e.animators, traits := e.traits, bus := e.bus, world := e.world }

/-- An instance that has been placed stems from a fresh one of the object that was found. -/
theorem stems_of_dress {l : Loader} (hhost : l.host.Standard) {o : Cursor} {built e f : Entity}
    {n : Nat} (h : dress l o built = .ok e)
    (hf : (e.inWorld n).timeshift .none = (f, .ok ())) : Stems l o built f := by
  unfold dress at h
  obtain ⟨direction, hdirection, h⟩ := Attempt.bind_eq_ok_iff.1 h
  obtain ⟨position, -, h⟩ := Attempt.bind_eq_ok_iff.1 h
  obtain ⟨scaled, hscaled, h⟩ := Attempt.bind_eq_ok_iff.1 h
  obtain ⟨hmodel, hrescaled⟩ := scaled_of_rescale hscaled
  obtain ⟨ts, hts, hatt⟩ := writes_of_attachAll hhost h
  have hsettled := Entity.settled_of_timeshift hf
  refine ⟨?_, ?_, ⟨ts, hts, ?_⟩, ?_, ?_⟩
  · rw [hsettled.rest, hatt.rest, hrescaled]
    rfl
  · rw [hsettled.rest, hatt.rest, hrescaled]
    exact hdirection
  · have htraits := hatt.traits
    rw [hrescaled] at htraits
    have hshift := hsettled.traits
    rw [Entity.inWorld, htraits] at hshift
    exact hshift
  · have hsame : (e.inWorld n).model = scaled.model := by rw [hatt.rest]; rfl
    exact scaled_of_drawn hmodel (hsame ▸ hsettled.model)
  · rw [hsettled.rest, hatt.rest, hrescaled]
    rfl

end Placement

end Stagecraft
