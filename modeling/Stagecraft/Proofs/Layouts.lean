import Stagecraft.Proofs.Flaws
import Stagecraft.Proofs.Settling

/-!
# Layouts

A layout puts instances into a world, one for each of its elements. What can go wrong on the way
without being reported is listed for one object of a layout (`Placement.Flaw`): its entity cannot be
built, the side it looks to is no number, or it has a trait that cannot be run later on. So along a
layout two things are carried: which faults there are, and that the world holds sound entities only.
-/

namespace Stagecraft

open Markup

namespace Behavior

theorem reports_ofElement (c : Cursor) : Reports (ofElement c) := by
  unfold ofElement
  dsimp only
  split
  · exact .ok _
  · exact .error rfl

variable [Application]

theorem ordinary_trait (b : Behavior) : b.trait.kind.Ordinary := by
  cases b <;> exact TraitClass.ordinary_builtIn _

/-- An entity that behaves in some way draws nothing, and its trait can be run. -/
theorem exists_make (b : Behavior) (r : Rect) : ∃ e, b.make r = .ok e ∧ e.Sound False := by
  obtain ⟨e, he, hatt⟩ := Entity.withTrait_of_new b.ordinary_trait
    (e := { collision := [.rect r.w r.h 0 0], position := ⟨r.x, r.y, 0⟩ }) List.not_mem_nil
  refine ⟨e, he, Entity.Sound.attached ⟨⟨fun _ => rfl, ?_, ?_⟩, ?_⟩ hatt fun _ hstalls => ?_⟩
  · exact fun _ ha => absurd ha List.not_mem_nil
  · exact fun _ hm => nomatch hm
  · exact fun _ ht => absurd ht List.not_mem_nil
  · cases b <;> exact hstalls

end Behavior

namespace Placement

section All

variable {make : Cursor → Except Fault (Origin × Entity)} {cs : List Cursor} {w : World Entity}

theorem failsIn_all {P : Fault → Prop} (h : ∀ c ∈ cs, Attempt.FailsIn P (make c)) :
    Attempt.FailsIn P (all make w cs) :=
  .foldlM fun _ c hc => (h c hc).bind fun _ _ => .ok _

/-- A world that holds sound entities still does when sound ones are put into it. -/
theorem sound_of_all {reason : Prop} {w' : World Entity} {placed : List Placement}
    (hw : ∀ e ∈ w.objects, e.Sound reason)
    (hmake : ∀ c ∈ cs, ∀ origin e, make c = .ok (origin, e) → e.Sound reason)
    (h : all make w cs = .ok (w', placed)) : ∀ e ∈ w'.objects, e.Sound reason := by
  refine Attempt.foldlM_keeps (P := fun p : World Entity × List Placement =>
    ∀ e ∈ p.1.objects, e.Sound reason) hw (fun p c q hp hc hq => ?_) h
  obtain ⟨⟨origin, e⟩, he, hq⟩ := Attempt.bind_eq_ok_iff.1 hq
  cases hq
  intro d hd
  rcases List.mem_append.1 hd with hd | hd
  · exact hp d hd
  · rw [List.mem_singleton.1 hd]
    exact (hmake c hc origin e he).of_same rfl rfl rfl

end All

theorem origin_of_find {l : Loader} {pool : Pool} {c : Cursor} (hhost : l.host = {})
    {origin : Origin} (h : Origin.find l pool c = .ok origin) :
    ∃ id entry, c.get? "id" = some id ∧ pool.get? id = some entry ∧ origin = .pool entry := by
  unfold Origin.find at h
  split at h
  · rename_i entry hentry
    cases h
    obtain ⟨id, hid, hget⟩ := Option.bind_eq_some_iff.1 hentry
    exact ⟨id, entry, hid, hget, rfl⟩
  · rw [hhost] at h
    have hnone (o : Option String) : o.bind ({} : Registrations).object? = none := by
      cases o <;> rfl
    rw [hnone] at h
    cases h

theorem reports_find {l : Loader} {pool : Pool} {c : Cursor} : Reports (Origin.find l pool c) := by
  unfold Origin.find
  split
  · exact .ok _
  · split
    · exact .ok _
    · exact .error rfl

theorem exists_ofInt?_one : ∃ x, Binary64.ofInt? 1 = some x := by
  refine ⟨_, if_neg ?_⟩
  decide +kernel

theorem reports_rescale {c : Cursor} (e : Entity) : Reports (rescale c e) := by
  unfold rescale
  split
  · exact .ok _
  · exact (c.reports_real? "scale").bind fun _ _ => .ok _

theorem sound_of_rescale {c : Cursor} {reason : Prop} {e f : Entity} (he : e.Sound reason)
    (h : rescale c e = .ok f) : f.Sound reason := by
  unfold rescale at h
  split at h
  · cases h
    exact he
  · rename_i m hm
    obtain ⟨x, -, h⟩ := Attempt.bind_eq_ok_iff.1 h
    cases h
    exact he.of_same rfl rfl (by rw [hm]; rfl)

theorem tag_of_mem_find {c t : Cursor} (h : t ∈ c.find (Selector.ofString "trait")) :
    t.tag = "trait" := by
  have hsel : Selector.ofString "trait" = [["trait"]] := by decide
  rw [hsel, Cursor.find_singleton c (by decide)] at h
  simpa using (List.mem_filter.1 h).2

variable [Application]

theorem reports_behavior (c : Cursor) : Reports (behavior c) := by
  unfold behavior
  refine (Behavior.reports_ofElement c).bind fun b _ => c.reports_rect.bind fun r _ => ?_
  obtain ⟨e, he, -⟩ := b.exists_make r
  rw [he]
  exact .ok _

theorem sound_of_behavior {c : Cursor} {origin : Origin} {e : Entity}
    (h : behavior c = .ok (origin, e)) : e.Sound False := by
  obtain ⟨b, -, h⟩ := Attempt.bind_eq_ok_iff.1 h
  obtain ⟨r, -, h⟩ := Attempt.bind_eq_ok_iff.1 h
  obtain ⟨f, hf, h⟩ := Attempt.bind_eq_ok_iff.1 h
  cases h
  obtain ⟨g, hg, hsound⟩ := b.exists_make r
  cases hg.symm.trans hf
  exact hsound

/-- The flaws of an object of a layout, given the pool that its entity is from: the entity cannot be
built, its direction is beyond all numbers, or one of its own traits or of those of the entity
cannot be run. -/
inductive Flaw (l : Loader) (pool : Pool) (c : Cursor) : Fault → Prop
  | unbuildable {id : String} {entry : Entry} {f : Fault} (hid : c.get? "id" = some id)
      (hentry : pool.get? id = some entry) (hbuild : ¬ entry.blueprint.Buildable)
      (hf : f = .indexRange ∨ ∃ label, f = .traitTaken label (some id)) : Flaw l pool c f
  | facing {n : Int} (hn : c.integer? "dir" = .ok (some n)) (h : Binary64.ofInt? n = none) :
      Flaw l pool c .invalidModel
  | entity {id : String} {entry : Entry} {m : TraitMaker} (hid : c.get? "id" = some id)
      (hentry : pool.get? id = some entry) (hm : m ∈ entry.blueprint.traits) (h : m.Stalls) :
      Flaw l pool c .typeMismatch
  | trait {t : Cursor} {m : TraitMaker} (ht : t ∈ c.find (Selector.ofString "trait"))
      (hm : TraitMaker.ofElement (some l.host) t = .ok m) (h : m.Stalls) :
      Flaw l pool c .typeMismatch

section Object

variable {l : Loader} {pool : Pool} {c : Cursor}

theorem failsIn_facing : Attempt.FailsIn (Fault.ReportedOr (Flaw l pool c)) (facing c) := by
  unfold facing
  refine Attempt.FailsIn.bind (Reports.or (c.reports_integer? "dir") _) fun dir hdir => ?_
  dsimp only
  split
  · exact .ok _
  · rename_i hnone
    cases hn : dir.filter (· ≠ 0) with
    | none =>
        obtain ⟨x, hx⟩ := exists_ofInt?_one
        rw [hn, Option.getD_none, hx] at hnone
        cases hnone
    | some n =>
        rw [hn, Option.getD_some] at hnone
        have hsome : dir = some n := (Option.filter_eq_some_iff.1 hn).1
        exact .error (.inr (.facing (hsome ▸ hdir) hnone))

/-- With nothing registered, a trait that is read can be made. -/
theorem ready_of_ofElement (hhost : l.host = {}) {t : Cursor} {m : TraitMaker}
    (h : TraitMaker.ofElement (some l.host) t = .ok m) : m.Ready := by
  rw [hhost] at h
  exact TraitMaker.ready_of_ofElement (TraitMaker.suits_of_unregistered fun _ _ => rfl) h

theorem reports_attach (hhost : l.host = {}) (id : Option String) (e : Entity) {t : Cursor}
    (htag : t.tag = "trait") (hclean : t.element.Clean) : Reports (attach l id e t) := by
  unfold attach
  refine (TraitMaker.reports_ofElement (by rw [hhost]) htag hclean).bind fun m hm => ?_
  have hready := ready_of_ofElement hhost hm
  obtain ⟨u, hu, hkind⟩ := TraitMaker.make_of_ready hready
  rw [hu]
  refine Attempt.FailsIn.bind (.ok u) fun v hv => ?_
  cases hv
  split
  · exact .error rfl
  · rename_i hnew
    have hlabel : u.label ∉ e.traits.map Trait.label := by
      rwa [← Entity.isSome_trait?_iff]
    obtain ⟨f, hf, -⟩ := Entity.withTrait_of_new (hkind.symm ▸ hready.ordinary) hlabel
    rw [hf]
    exact .ok f

theorem sound_of_attach (hhost : l.host = {}) {reason : Prop} {id : Option String} {e f : Entity}
    {t : Cursor} (he : e.Sound reason)
    (hreason : ∀ m, TraitMaker.ofElement (some l.host) t = .ok m → m.Stalls → reason)
    (h : attach l id e t = .ok f) : f.Sound reason := by
  unfold attach at h
  obtain ⟨m, hm, h⟩ := Attempt.bind_eq_ok_iff.1 h
  obtain ⟨u, hu, h⟩ := Attempt.bind_eq_ok_iff.1 h
  have hordinary := (ready_of_ofElement hhost hm).ordinary
  split at h
  · cases h
  · have hatt := Entity.attached_of_withTrait
      ((TraitMaker.kind_of_make hordinary hu).symm ▸ hordinary) h
    exact he.attached hatt fun henabled hstalls => hreason m hm ⟨u, hu, henabled, hstalls⟩

/-- What goes wrong with an object of a layout is reported, or stems from one of its flaws. -/
theorem failsIn_object (hhost : l.host = {})
    (hpool : ∀ id entry, pool.get? id = some entry → entry.blueprint.Plain id)
    (hclean : c.element.Clean) :
    Attempt.FailsIn (Fault.ReportedOr (Flaw l pool c)) (object l pool c) := by
  unfold object
  refine Attempt.FailsIn.bind (Reports.or reports_find _) fun origin horigin => ?_
  obtain ⟨id, entry, hid, hentry, rfl⟩ := origin_of_find hhost horigin
  obtain ⟨rfl, hbase, hready⟩ := hpool id entry hentry
  refine Attempt.FailsIn.bind (fun f hf => ?_) fun e _ => ?_
  · by_cases hb : entry.blueprint.Buildable
    · obtain ⟨_, e, he, -⟩ := Blueprint.build_of_buildable hbase hready hb
      cases he.symm.trans hf
    · refine .inr (.unbuildable hid hentry hb ?_)
      rcases Blueprint.build_of_not_buildable hbase hready hb with h | ⟨label, h⟩
      · exact .inl (Except.error.inj (hf.symm.trans h))
      · exact .inr ⟨label, Except.error.inj (hf.symm.trans h)⟩
  · refine Attempt.FailsIn.bind ?_ fun _ _ => .ok _
    unfold dress
    refine failsIn_facing.bind fun direction _ => ?_
    refine Attempt.FailsIn.bind (Reports.or c.reports_position? _) fun position _ => ?_
    refine Attempt.FailsIn.bind (Reports.or (reports_rescale _) _) fun e _ => ?_
    refine Reports.or (.foldlM fun e t ht => ?_) _
    exact reports_attach hhost _ e (tag_of_mem_find ht) (Cursor.clean_of_mem_find hclean ht)

/-- The instance is sound, unless a trait is flawed. -/
theorem sound_of_object (hhost : l.host = {})
    (hpool : ∀ id entry, pool.get? id = some entry → entry.blueprint.Plain id) {origin : Origin}
    {e : Entity} (h : object l pool c = .ok (origin, e)) :
    e.Sound (Flaw l pool c .typeMismatch) := by
  unfold object at h
  obtain ⟨origin', horigin, h⟩ := Attempt.bind_eq_ok_iff.1 h
  obtain ⟨id, entry, hid, hentry, rfl⟩ := origin_of_find hhost horigin
  obtain ⟨rfl, hbase, hready⟩ := hpool id entry hentry
  obtain ⟨built, hbuilt, h⟩ := Attempt.bind_eq_ok_iff.1 h
  obtain ⟨last, hdress, h⟩ := Attempt.bind_eq_ok_iff.1 h
  cases h
  obtain ⟨direction, -, hdress⟩ := Attempt.bind_eq_ok_iff.1 hdress
  obtain ⟨position, -, hdress⟩ := Attempt.bind_eq_ok_iff.1 hdress
  obtain ⟨scaled, hscaled, hlast⟩ := Attempt.bind_eq_ok_iff.1 hdress
  -- It has been built, and only what is buildable is.
  have hb : entry.blueprint.Buildable := by
    by_contra hb
    rcases Blueprint.build_of_not_buildable hbase hready hb with h | ⟨_, h⟩
    · cases hbuilt.symm.trans h
    · cases hbuilt.symm.trans h
  obtain ⟨ts, b, hb', hts, hout⟩ := Blueprint.build_of_buildable hbase hready hb
  cases hb'.symm.trans hbuilt
  have hsound : built.Sound (Flaw l pool c .typeMismatch) :=
    Blueprint.sound_of_outfitted hout hb hts fun m hm hstalls => .entity hid hentry hm hstalls
  have hplaced : scaled.Sound (Flaw l pool c .typeMismatch) := by
    refine sound_of_rescale ?_ hscaled
    exact hsound.of_same rfl rfl rfl
  exact Attempt.foldlM_keeps hplaced
    (fun e t f he ht hf => sound_of_attach hhost he (fun m hm hstalls => .trait ht hm hstalls) hf)
    hlast

end Object

end Placement

/-- Settling sound entities fails only if there is a reason for a trait that cannot be run. -/
theorem World.failsIn_settle {reason : Prop} {w : World Entity}
    (h : ∀ e ∈ w.objects, e.Sound reason) :
    Attempt.FailsIn (fun f => f = .typeMismatch ∧ reason) (settle .none w) := by
  refine Attempt.FailsIn.bind (.mapM fun e he => ?_) fun _ _ => .ok _
  split
  · exact .ok _
  · rename_i d f hf
    obtain ⟨rfl, t, ht, henabled, hstalls⟩ :=
      Entity.timeshift_none_eq_error (h e he).drawable (congrArg (·.2) hf)
    exact .error ⟨rfl, (h e he).traits t ht henabled hstalls⟩

end Stagecraft
