import Stagecraft.Animation.FaceBinding
import Stagecraft.Proofs.Drawing

/-!
# Painting planes

An animator paints its current frame over quads of all the planes it is attached to. Here it is said
face by face what comes of it. A number beyond the last quad of a plane is passed over; a negative
one counts faces from the end, so that it paints a quad of the plane after all, or stops the
painting where it counts beyond the first face.
-/

namespace Stagecraft

/-- The triangle that a quad shows on a face of a plane. -/
def TextureQuad.face (q : TextureQuad) (k : Nat) : Face := if k % 2 = 0 then q.lower else q.upper

namespace Plane

/-- A plane has two faces for each of its segments. -/
def Segmented (p : Plane) : Prop := p.faceCount = (p.across * p.down * 2).toNat

theorem segmented_new (width height : Float) (across down : Int) :
    (new width height across down).Segmented := faceCount_new width height across down

theorem Segmented.even {p : Plane} (h : p.Segmented) : p.faceCount % 2 = 0 := by
  unfold Segmented at h
  omega

theorem Redrawn.segmented {p r : Plane} (h : p.Redrawn r) (hp : p.Segmented) : r.Segmented := by
  unfold Segmented at hp ⊢
  rw [h.faceCount, h.across, h.down, hp]

/-- A number means a quad of the plane: the quad with this number or, from a negative number, the
quad that begins at the face it counts to from the end. -/
def Means (p : Plane) (number : Int) (quad : Nat) : Prop :=
  2 * quad + 1 < p.faceCount ∧ (number = quad ∨ 2 * number + p.faceCount = 2 * quad)

instance (p : Plane) (number : Int) (quad : Nat) : Decidable (p.Means number quad) :=
  inferInstanceAs (Decidable (_ ∧ _))

theorem means_iff_of_nonneg {p : Plane} {number : Int} (h : 0 ≤ number) {quad : Nat} :
    p.Means number quad ↔ number = quad ∧ 2 * quad + 1 < p.faceCount := by
  unfold Means
  omega

theorem takes_of_nonneg (p : Plane) {number : Int} (h : 0 ≤ number) : p.Takes number := by
  rw [takes_iff]
  omega

theorem Redrawn.means_iff {p r : Plane} (h : p.Redrawn r) (number : Int) (quad : Nat) :
    r.Means number quad ↔ p.Means number quad := by
  unfold Means
  rw [h.faceCount]

/-- A plane after a frame has been painted over quads: only these show it. -/
structure Overdrawn (quad : TextureQuad) (numbers : List Int) (p r : Plane) : Prop where
  redrawn : p.Redrawn r
  face : ∀ k, r.faces[k]? =
    if ∃ n ∈ numbers, p.Means n (k / 2) then some (quad.face k) else p.faces[k]?

namespace Overdrawn

variable {quad : TextureQuad} {numbers more : List Int} {p r t : Plane}

theorem nil (quad : TextureQuad) (p : Plane) : Overdrawn quad [] p p := ⟨.refl p, by simp⟩

theorem congr (h : Overdrawn quad numbers p r) (hmem : ∀ n, n ∈ numbers ↔ n ∈ more) :
    Overdrawn quad more p r := by
  refine ⟨h.redrawn, fun k => ?_⟩
  simp only [h.face k, hmem]

theorem append (h : Overdrawn quad numbers p r) (h' : Overdrawn quad more r t) :
    Overdrawn quad (numbers ++ more) p t := by
  refine ⟨h.redrawn.trans h'.redrawn, fun k => ?_⟩
  have hsplit : (∃ n ∈ numbers ++ more, p.Means n (k / 2)) ↔
      (∃ n ∈ numbers, p.Means n (k / 2)) ∨ ∃ n ∈ more, p.Means n (k / 2) := by
    simp only [List.mem_append, or_and_right, exists_or]
  simp only [h'.face k, h.face k, h.redrawn.means_iff, hsplit]
  by_cases hmore : ∃ n ∈ more, p.Means n (k / 2)
  · rw [if_pos hmore, if_pos (.inr hmore)]
  · rw [if_neg hmore]
    simp only [hmore, or_false]

end Overdrawn

/-- Painting the two faces of a quad, which both are there. -/
theorem exists_overdrawn {p : Plane} (hp : p.Segmented) {number : Int} (htakes : p.Takes number)
    (hfit : 2 * number + 1 < p.faceCount) (quad : TextureQuad) :
    ∃ r t, p.setFace? (2 * number) quad.lower = some r ∧
      r.setFace? (2 * number + 1) quad.upper = some t ∧ Overdrawn quad [number] p t := by
  have heven := hp.even
  rw [takes_iff] at htakes
  -- The position of the lower face, which is the same by both ways of counting.
  let x := (if number < 0 then 2 * number + p.faceCount else 2 * number).toNat
  have hlower : position? p.faceCount (2 * number) = some x := by
    unfold position? x
    split <;> split <;> simp <;> omega
  have hupper : position? p.faceCount (2 * number + 1) = some (x + 1) := by
    unfold position? x
    split <;> split <;> simp <;> omega
  have hmeans (j : Nat) : p.Means number j ↔ 2 * j = x := by
    unfold Means x
    split <;> omega
  have hx : x + 1 < p.faceCount := by
    unfold x
    split <;> omega
  let r : Plane := { p with faces := p.faces.set x quad.lower }
  have hr : p.setFace? (2 * number) quad.lower = some r := by
    rw [setFace?, hlower]
    rfl
  have hcount : r.faceCount = p.faceCount := faceCount_setFace? hr
  let t : Plane := { r with faces := r.faces.set (x + 1) quad.upper }
  have ht : r.setFace? (2 * number + 1) quad.upper = some t := by
    rw [setFace?, hcount, hupper]
    rfl
  refine ⟨r, t, hr, ht, (Redrawn.of_setFace? hr).trans (.of_setFace? ht), fun k => ?_⟩
  have hfaces : t.faces[k]? = ((p.faces.set x quad.lower).set (x + 1) quad.upper)[k]? := rfl
  have hxlt : x < p.faces.length := Nat.lt_of_succ_lt hx
  simp only [hfaces, List.mem_singleton, exists_eq_left, hmeans, List.getElem?_set,
    List.length_set, TextureQuad.face]
  by_cases hupperFace : x + 1 = k
  · subst hupperFace
    have hodd : ¬ (x + 1) % 2 = 0 := by
      unfold x
      split <;> omega
    rw [if_pos rfl, if_pos (show x + 1 < p.faces.length from hx), if_pos (by omega), if_neg hodd]
  · rw [if_neg hupperFace]
    by_cases hlowerFace : x = k
    · subst hlowerFace
      have hzero : x % 2 = 0 := by
        unfold x
        split <;> omega
      rw [if_pos rfl, if_pos hxlt, if_pos (by omega), if_pos hzero]
    · have hother : ¬ 2 * (k / 2) = x := by omega
      rw [if_neg hlowerFace, if_neg hother]

end Plane

namespace Animator

/-- Quads to paint, each with the plane it is on. -/
abbrev Targets := List (Nat × Int)

namespace Targets

/-- The quads to paint on one of the planes. -/
def on (ts : Targets) (i : Nat) : List Int := (ts.filter (·.1 = i)).map (·.2)

theorem on_append (ts us : Targets) (i : Nat) : on (ts ++ us) i = on ts i ++ on us i := by
  simp [on]

theorem mem_on_iff {ts : Targets} {i : Nat} {n : Int} : n ∈ on ts i ↔ (i, n) ∈ ts := by
  simp [on]

end Targets

/-- The planes take all that is to be painted. -/
def Taken (ts : Targets) (ps : List Plane) : Prop := ∀ t ∈ ts, ∀ p ∈ ps[t.1]?, p.Takes t.2

/-- Planes after a frame has been painted on them. -/
def Painted (quad : TextureQuad) (ts : Targets) (ps rs : List Plane) : Prop :=
  ∀ i, Option.Rel (Plane.Overdrawn quad (ts.on i)) ps[i]? rs[i]?

/-- Work that paints a frame, as far as the planes take it. -/
def Paints (quad : TextureQuad) (ts : Targets) (x : Draw Unit) : Prop :=
  ∀ ps : List Plane, (∀ p ∈ ps, p.Segmented) →
    (Taken ts ps → ∃ rs, x.run.run ps = (.ok (), rs) ∧ Painted quad ts ps rs) ∧
      (¬ Taken ts ps → ∃ rs, x.run.run ps = (.error .indexRange, rs))

variable {quad : TextureQuad} {ts us : Targets} {ps rs : List Plane}

theorem Painted.taken_iff (h : Painted quad ts ps rs) : Taken us rs ↔ Taken us ps := by
  refine forall_congr' fun t => forall_congr' fun _ => ?_
  have hi := h t.1
  generalize ps[t.1]? = p at hi ⊢
  generalize rs[t.1]? = r at hi ⊢
  cases hi with
  | none => exact Iff.rfl
  | some hpr => simp [hpr.redrawn.takes_iff]

theorem Painted.segmented (h : Painted quad ts ps rs) (hps : ∀ p ∈ ps, p.Segmented) :
    ∀ r ∈ rs, r.Segmented := by
  intro r hr
  obtain ⟨i, hi⟩ := List.mem_iff_getElem?.1 hr
  have hrel := h i
  rw [hi] at hrel
  generalize hp : ps[i]? = p at hrel
  cases hrel with
  | some hpr => exact hpr.redrawn.segmented (hps _ (List.mem_of_getElem? hp))

theorem Painted.append {ss : List Plane} (h : Painted quad ts ps rs) (h' : Painted quad us rs ss) :
    Painted quad (ts ++ us) ps ss := by
  intro i
  have hi := h i
  have hi' := h' i
  rw [Targets.on_append]
  generalize ps[i]? = p at hi ⊢
  generalize rs[i]? = r at hi hi'
  generalize ss[i]? = s at hi' ⊢
  cases hi with
  | none =>
      cases hi'
      exact .none
  | some hpr =>
      cases hi' with
      | some hrs => exact .some (hpr.append hrs)

theorem painted_nil (quad : TextureQuad) (ps : List Plane) : Painted quad [] ps ps := by
  intro i
  cases ps[i]? with
  | none => exact .none
  | some p => exact .some (.nil quad p)

theorem paints_nil (quad : TextureQuad) : Paints quad [] (pure ()) :=
  fun ps _ => ⟨fun _ => ⟨ps, rfl, painted_nil quad ps⟩, fun h => absurd (fun _ => nofun) h⟩

/-- Painting some quads and then others paints all of them. -/
theorem Paints.andThen {x y : Draw Unit} (hx : Paints quad ts x) (hy : Paints quad us y) :
    Paints quad (ts ++ us) (x >>= fun _ => y) := by
  intro ps hps
  have hsplit : Taken (ts ++ us) ps ↔ Taken ts ps ∧ Taken us ps := by
    simp only [Taken, List.mem_append, or_imp, forall_and]
  rw [hsplit]
  by_cases hts : Taken ts ps
  · obtain ⟨rs, hrs, hpaint⟩ := (hx ps hps).1 hts
    have hrest := hy rs (hpaint.segmented hps)
    rw [hpaint.taken_iff] at hrest
    have hrun : (x >>= fun _ => y).run.run ps = y.run.run rs := by
      rw [ExceptT.run_bind, StateT.run_bind, hrs]
      rfl
    rw [hrun]
    refine ⟨fun h => ?_, fun h => hrest.2 fun hus => h ⟨hts, hus⟩⟩
    obtain ⟨ss, hss, hpaint'⟩ := hrest.1 h.2
    exact ⟨ss, hss, hpaint.append hpaint'⟩
  · obtain ⟨rs, hrs⟩ := (hx ps hps).2 hts
    refine ⟨fun h => absurd h.1 hts, fun _ => ⟨rs, ?_⟩⟩
    rw [ExceptT.run_bind, StateT.run_bind, hrs]
    rfl

theorem painted_set {i : Nat} {p r : Plane} {n : Int} (hi : ps[i]? = some p)
    (h : p.Overdrawn quad [n] r) : Painted quad [(i, n)] ps (ps.set i r) := by
  intro j
  have hlt := (List.getElem?_eq_some_iff.1 hi).1
  by_cases hij : i = j
  · subst hij
    rw [List.getElem?_set_self hlt, hi]
    exact .some (by simpa [Targets.on] using h)
  · have hon : Targets.on [(i, n)] j = [] := by simp [Targets.on, hij]
    rw [List.getElem?_set_ne hij, hon]
    exact painted_nil quad ps j

theorem paints_drawQuad (quad : TextureQuad) (i : Nat) (n : Int) :
    Paints quad [(i, n)] (drawQuad quad i n) := by
  intro ps hps
  have htaken : Taken [(i, n)] ps ↔ ∀ p ∈ ps[i]?, p.Takes n := by simp [Taken]
  rw [htaken]
  cases hi : ps[i]? with
  | none =>
      have hrun := run_drawQuad_of_none quad hi n
      refine ⟨fun _ => ⟨ps, hrun, fun j => ?_⟩, fun h => absurd (fun _ => nofun) h⟩
      by_cases hij : i = j
      · subst hij
        rw [hi]
        exact .none
      · have hon : Targets.on [(i, n)] j = [] := by simp [Targets.on, hij]
        rw [hon]
        exact painted_nil quad ps j
  | some p =>
      have hp := hps p (List.mem_of_getElem? hi)
      have hone : (∀ r ∈ some p, r.Takes n) ↔ p.Takes n := by simp
      rw [hone, run_drawQuad_of_plane quad hi]
      by_cases hfit : (p.faceCount : Int) ≤ 2 * n + 1
      · rw [if_pos hfit]
        refine ⟨fun _ => ⟨ps, rfl, ?_⟩, fun h => absurd (p.takes_of_nonneg (by omega)) h⟩
        have hkeep : p.Overdrawn quad [n] p := by
          refine ⟨.refl p, fun k => ?_⟩
          rw [if_neg]
          rintro ⟨m, hm, hmeans⟩
          rw [List.mem_singleton.1 hm] at hmeans
          unfold Plane.Means at hmeans
          omega
        have hset : ps.set i p = ps := by
          obtain ⟨hlt, rfl⟩ := List.getElem?_eq_some_iff.1 hi
          exact List.set_getElem_self hlt
        have hpaint := painted_set hi hkeep
        rwa [hset] at hpaint
      · rw [if_neg hfit]
        constructor
        · intro htakes
          obtain ⟨r, t, hr, ht, hover⟩ := Plane.exists_overdrawn hp htakes (by omega) quad
          rw [hr]
          dsimp only
          rw [ht]
          exact ⟨ps.set i t, rfl, painted_set hi hover⟩
        · intro htakes
          have hr : p.setFace? (2 * n) quad.lower = none := by
            rw [Plane.takes_iff] at htakes
            rw [Plane.setFace?_eq_none_iff]
            omega
          rw [hr]
          exact ⟨ps, rfl⟩

theorem paints_quads (quad : TextureQuad) (i : Nat) (ns : List Int) :
    Paints quad (ns.map (i, ·)) (ns.forM (drawQuad quad i)) := by
  induction ns with
  | nil => exact paints_nil quad
  | cons n ns ih => exact (paints_drawQuad quad i n).andThen ih

theorem paints_planes (quad : TextureQuad) (is : List Nat) (ns : List Int) :
    Paints quad (is.flatMap fun i => ns.map (i, ·))
      (is.forM fun i => ns.forM (drawQuad quad i)) := by
  induction is with
  | nil => exact paints_nil quad
  | cons i is ih => exact (paints_quads quad i ns).andThen ih

/-- What an animator has to paint. -/
def targets (a : Animator) : Targets := a.planes.flatMap fun i => a.quads.map (i, ·)

theorem mem_targets_iff {a : Animator} {i : Nat} {n : Int} :
    (i, n) ∈ a.targets ↔ i ∈ a.planes ∧ n ∈ a.quads := by
  simp [targets]

theorem paints_draw {a : Animator} (h : a.currentQuad? = some quad) :
    Paints quad a.targets a.draw := by
  unfold draw
  rw [h]
  exact paints_planes quad a.planes a.quads

theorem update_eq (a : Animator) (dt : Float) (ps : List Plane) :
    a.update dt ps = (a.advance dt, ((a.advance dt).draw.run.run ps).2,
      ((a.advance dt).draw.run.run ps).1) := rfl

/-- An animator paints the quads that the planes have, and passes over all other numbers. -/
def PassesOver (a : Animator) (dt : Float) (planes : List Plane) : Prop :=
  ∃ quad, (a.advance dt).currentQuad? = some quad ∧ (a.update dt planes).2.2 = .ok () ∧
    ∀ i, Option.Rel (fun p r => ∀ k, r.faces[k]? =
        if i ∈ a.planes ∧ ((k / 2 : Nat) : Int) ∈ a.quads ∧ 2 * (k / 2) + 1 < p.faceCount then
          some (quad.face k)
        else p.faces[k]?)
      planes[i]? (a.update dt planes).2.1[i]?

theorem exists_currentQuad? {a : Animator} {animation : Animation}
    (ha : a.animation = some animation) (hframes : animation.frames ≠ []) (dt : Float) :
    ∃ quad, (a.advance dt).currentQuad? = some quad := by
  have hshows : (a.advance dt).shows = true := by
    have hadvance : (a.advance dt).animation = some animation := ha
    simp [shows, hadvance, hframes]
  rw [← isSome_currentQuad?] at hshows
  exact Option.isSome_iff_exists.1 hshows

theorem passesOver_of_nonneg {a : Animator} {dt : Float} (hn : ∀ n ∈ a.quads, 0 ≤ n)
    (hquad : (a.advance dt).currentQuad? = some quad) (hok : (a.update dt ps).2.2 = .ok ())
    (hpaint : ∀ i, Option.Rel (Plane.Overdrawn quad (if i ∈ a.planes then a.quads else []))
      ps[i]? (a.update dt ps).2.1[i]?) :
    a.PassesOver dt ps := by
  refine ⟨quad, hquad, hok, fun i => ?_⟩
  have hi := hpaint i
  generalize ps[i]? = p at hi ⊢
  generalize (a.update dt ps).2.1[i]? = r at hi ⊢
  cases hi with
  | none => exact .none
  | @some p r hpr =>
      refine .some fun k => ?_
      have hmeans : (∃ n ∈ (if i ∈ a.planes then a.quads else []), p.Means n (k / 2)) ↔
          i ∈ a.planes ∧ ((k / 2 : Nat) : Int) ∈ a.quads ∧ 2 * (k / 2) + 1 < p.faceCount := by
        by_cases hi : i ∈ a.planes
        · simp only [hi, if_true, true_and]
          constructor
          · rintro ⟨n, hmem, hmeans⟩
            obtain ⟨rfl, hfit⟩ := (Plane.means_iff_of_nonneg (hn n hmem)).1 hmeans
            exact ⟨hmem, hfit⟩
          · rintro ⟨hmem, hfit⟩
            exact ⟨_, hmem, (Plane.means_iff_of_nonneg (hn _ hmem)).2 ⟨rfl, hfit⟩⟩
        · simp [hi]
      simp only [hpr.face k, hmeans]

/-- An update paints the current frame over the quads that its numbers mean on the planes it is
attached to, and nothing else, unless a number counts beyond the first face of one of them. Numbers
that are not negative mean the quads of their own, and all others are passed over. -/
theorem painted_of_update {a : Animator} {animation : Animation}
    (ha : a.animation = some animation) (hframes : animation.frames ≠ []) {planes : List Plane}
    (hplanes : ∀ p ∈ planes, p.Segmented) (dt : Float) :
    ∃ quad, (a.advance dt).currentQuad? = some quad ∧
      (a.update dt planes).1 = a.advance dt ∧
      ((∀ i ∈ a.planes, ∀ p ∈ planes[i]?, ∀ n ∈ a.quads, p.Takes n) →
        (a.update dt planes).2.2 = .ok () ∧
          ∀ i, Option.Rel (Plane.Overdrawn quad (if i ∈ a.planes then a.quads else []))
            planes[i]? (a.update dt planes).2.1[i]?) ∧
      ((∃ i ∈ a.planes, ∃ p ∈ planes[i]?, ∃ n ∈ a.quads, ¬ p.Takes n) →
        (a.update dt planes).2.2 = .error .indexRange) ∧
      ((∀ n ∈ a.quads, 0 ≤ n) → a.PassesOver dt planes) := by
  obtain ⟨quad, hquad⟩ := exists_currentQuad? ha hframes dt
  obtain ⟨htaken, hrefused⟩ := paints_draw hquad planes hplanes
  have hall : Taken (a.advance dt).targets planes ↔
      ∀ i ∈ a.planes, ∀ p ∈ planes[i]?, ∀ n ∈ a.quads, p.Takes n := by
    constructor
    · exact fun h i hi p hp n hn => h (i, n) (mem_targets_iff.2 ⟨hi, hn⟩) p hp
    · exact fun h t ht p hp =>
        h t.1 (mem_targets_iff.1 ht).1 p hp t.2 (mem_targets_iff.1 ht).2
  have hpaint (h : ∀ i ∈ a.planes, ∀ p ∈ planes[i]?, ∀ n ∈ a.quads, p.Takes n) :
      (a.update dt planes).2.2 = .ok () ∧
        ∀ i, Option.Rel (Plane.Overdrawn quad (if i ∈ a.planes then a.quads else []))
          planes[i]? (a.update dt planes).2.1[i]? := by
    obtain ⟨rs, hrun, hrs⟩ := htaken (hall.2 h)
    rw [update_eq, hrun]
    refine ⟨rfl, fun i => ?_⟩
    have hnumbers (n : Int) : n ∈ Targets.on (a.advance dt).targets i ↔
        n ∈ if i ∈ a.planes then a.quads else [] := by
      rw [Targets.mem_on_iff, mem_targets_iff]
      by_cases hi : i ∈ a.planes <;> simp [advance, hi]
    have hi := hrs i
    generalize planes[i]? = p at hi ⊢
    generalize rs[i]? = r at hi ⊢
    cases hi with
    | none => exact .none
    | some hpr => exact .some (hpr.congr hnumbers)
  refine ⟨quad, hquad, rfl, hpaint, ?_, ?_⟩
  · rintro ⟨i, hi, p, hp, n, hn, hrefuse⟩
    obtain ⟨rs, hrun⟩ := hrefused fun h => hrefuse (hall.1 h i hi p hp n hn)
    rw [update_eq, hrun]
  · intro hn
    obtain ⟨hok, hover⟩ := hpaint fun i _ p _ n hmem => p.takes_of_nonneg (hn n hmem)
    exact passesOver_of_nonneg hn hquad hok hover

/-- An animator of one frame, whose second number counts from the end. -/
def sign : Animator :=
  { animation := some ⟨none, none, [⟨⟨0, 1, 0.5, 0.5⟩, none⟩], 0⟩
    quads := [3, -1]
    planes := [0] }

theorem painted_of_update_sign :
    (∀ p ∈ [Plane.new 32 16 2 1], p.Segmented) ∧
      ∃ (quad : TextureQuad) (r : Plane), (sign.update 0 [Plane.new 32 16 2 1]).2.2 = .ok () ∧
        (sign.update 0 [Plane.new 32 16 2 1]).2.1[0]? = some r ∧
        r.faces[0]? = some Plane.blankFace ∧ r.faces[2]? = some (quad.face 2) := by
  have hplanes : ∀ p ∈ [Plane.new 32 16 2 1], p.Segmented := by
    intro p hp
    rw [List.mem_singleton.1 hp]
    exact Plane.segmented_new 32 16 2 1
  have htakes : ∀ i ∈ sign.planes, ∀ p ∈ [Plane.new 32 16 2 1][i]?, ∀ n ∈ sign.quads,
      p.Takes n := by decide
  obtain ⟨quad, -, -, hpaint, -⟩ :=
    painted_of_update (a := sign) rfl (List.cons_ne_nil _ _) hplanes 0
  obtain ⟨hok, hover⟩ := hpaint htakes
  have hzero := hover 0
  generalize (sign.update 0 [Plane.new 32 16 2 1]).2.1[0]? = r at hzero ⊢
  cases hzero with
  | some h => exact ⟨hplanes, quad, _, hok, rfl, h.face 0, h.face 2⟩

/-- A face that names a quad before the first one stops the painting. -/
theorem not_passesOver_of_update :
    ¬ ∀ (face : Markup.Cursor) (quads : List Int) (animation : Animation) (attached : List Nat)
        (planes : List Plane) (dt : Float), FaceBinding.quads face = .ok quads →
        animation.frames ≠ [] → (∀ p ∈ planes, p.Segmented) →
        PassesOver { animation := some animation, quads, planes := attached } dt planes := by
  intro hall
  let face : Markup.Cursor := .ofDocument ⟨⟨"face", [("index", "-2")], 1, []⟩, none⟩
  let animation : Animation := ⟨none, none, [⟨⟨0, 1, 0.5, 0.5⟩, none⟩], 0⟩
  have hquads : (FaceBinding.quads face).toOption = some [-2] := by decide +kernel
  cases h : FaceBinding.quads face with
  | error f =>
      rw [h] at hquads
      cases hquads
  | ok quads =>
      rw [h] at hquads
      cases hquads
      have hplanes : ∀ p ∈ [Plane.new 16 16 1 1], p.Segmented := by
        intro p hp
        rw [List.mem_singleton.1 hp]
        exact Plane.segmented_new 16 16 1 1
      obtain ⟨quad, -, hok, -⟩ :=
        hall face [-2] animation [0] [Plane.new 16 16 1 1] 0 h (List.cons_ne_nil _ _) hplanes
      have hfails : (Animator.update { animation := some animation, quads := [-2], planes := [0] }
          0 [Plane.new 16 16 1 1]).2.2.toOption.isSome = false := by decide +kernel
      rw [hok] at hfails
      cases hfails

end Animator

end Stagecraft
