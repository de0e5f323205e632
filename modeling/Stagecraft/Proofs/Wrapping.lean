import Stagecraft.Proofs.Additions
import Stagecraft.Proofs.Edits
import Stagecraft.Proofs.Repeats
import Stagecraft.Proofs.Sizes

/-!
# Loops around frames

Frames of an animation are put into a loop that runs once. What is read from each frame is the same
unless the loop puts the element that the frame has its size from out of reach, and a loop that runs
once repeats nothing. So the animation is the same, or it is refused because a frame has lost its
size (`wrapped_of_ofElement`).
-/

namespace Stagecraft

open Markup

namespace Markup

namespace Element

/-- An element has a width and a height. -/
def sized (e : Element) : Bool := (e.get? "w").isSome && (e.get? "h").isSome

theorem get?_of_start {e f : Element} (h : e.start = f.start) : e.get? = f.get? := by
  have hattributes : e.attributes = f.attributes := congrArg Prod.snd h
  unfold get?
  rw [hattributes]

theorem sized_of_start {e f : Element} (h : e.start = f.start) : e.sized = f.sized := by
  rw [sized, sized, get?_of_start h]

theorem find?_sized_of_start {es fs : List Element} (h : es.map start = fs.map start) :
    (es.find? sized).map start = (fs.find? sized).map start := by
  induction es generalizing fs with
  | nil => rw [List.map_eq_nil_iff.1 h.symm]
  | cons e es ih =>
      cases fs with
      | nil => cases h
      | cons f fs =>
          obtain ⟨hef, hrest⟩ := List.cons.inj h
          rw [List.find?_cons, List.find?_cons, sized_of_start hef]
          cases f.sized with
          | true => exact congrArg some hef
          | false => exact ih hrest

end Element

namespace Cursor

variable {x y : Cursor}

theorem get?_of_start (h : x.element.start = y.element.start) (name : String) :
    x.get? name = y.get? name := congrFun (Element.get?_of_start h) name

/-- Numbers are read from attributes alone, but for the place of what is reported. -/
theorem toOption_real?_of_start (h : x.element.start = y.element.start) (name : String) :
    (x.real? name).toOption = (y.real? name).toOption := by
  have hgiven : x.given? name = y.given? name := by
    unfold given?
    rw [get?_of_start h]
  unfold real?
  rw [hgiven]
  cases y.given? name with
  | none => rfl
  | some value =>
      dsimp only
      cases Numeral.float? value <;> rfl

theorem toOption_real_of_start (h : x.element.start = y.element.start) (name : String)
    (default : Float) : (x.real name default).toOption = (y.real name default).toOption :=
  Attempt.toOption_bind_congr (toOption_real?_of_start h name) fun _ => rfl

theorem toOption_vec2?_of_start (h : x.element.start = y.element.start) (a b : String) :
    (x.vec2? a b).toOption = (y.vec2? a b).toOption := by
  unfold vec2?
  rw [get?_of_start h, get?_of_start h]
  split
  · rfl
  · exact Attempt.toOption_bind_congr (toOption_real_of_start h a 0) fun _ =>
      Attempt.toOption_bind_congr (toOption_real_of_start h b 0) fun _ => rfl

theorem vec2?_eq_none_iff : x.vec2? "w" "h" = .ok none ↔ x.element.sized = false := by
  have hsized : x.element.sized = !((x.get? "w").isNone || (x.get? "h").isNone) := by
    simp [Element.sized, get?]
  unfold vec2?
  rw [hsized]
  cases (x.get? "w").isNone || (x.get? "h").isNone with
  | true => exact iff_of_true rfl rfl
  | false =>
      refine iff_of_false (fun h => ?_) Bool.noConfusion
      obtain ⟨w, -, h⟩ := Attempt.bind_eq_ok_iff.1 h
      obtain ⟨_, -, h⟩ := Attempt.bind_eq_ok_iff.1 h
      cases h

end Cursor

end Markup

namespace Animation

variable {id : Option String} {sheet : Vec2} {x y : Cursor}

/-- The size that an element gives, if it can be read and is not refused. -/
def sizeIn? (d : Cursor) : Option Vec2 :=
  ((d.vec2? "w" "h").toOption.bind fun size => size).filter fun size => !(size.x ≤ 0 || size.y ≤ 0)

theorem toOption_sizeAmong (id : Option String) (x : Cursor) (candidates : List Cursor) :
    (sizeAmong id x candidates).toOption =
      (candidates.find? (·.element.sized)).bind sizeIn? := by
  induction candidates with
  | nil => rfl
  | cons candidate rest ih =>
      unfold sizeAmong
      cases hsized : candidate.element.sized with
      | false =>
          rw [Cursor.vec2?_eq_none_iff.2 hsized, List.find?_cons_of_neg (by simp [hsized])]
          exact ih
      | true =>
          rw [List.find?_cons_of_pos (by simp [hsized]), Option.bind_some, sizeIn?]
          cases hvec : candidate.vec2? "w" "h" with
          | error f => rfl
          | ok size =>
              cases size with
              | none => simp [Cursor.vec2?_eq_none_iff.1 hvec] at hsized
              | some size =>
                  change (if (decide (size.x ≤ 0) || decide (size.y ≤ 0)) = true then _
                    else .ok size : Except Fault Vec2).toOption = Option.filter _ (some size)
                  cases hrefused : decide (size.x ≤ 0) || decide (size.y ≤ 0) <;>
                    simp [Option.filter, hrefused] <;> rfl

/-- The element that a frame takes its size from. -/
def sizer? (x : Cursor) : Option Element := (x.element :: x.above.take 2).find? Element.sized

theorem map_element_find?_sizeSources (x : Cursor) :
    ((sizeSources x).find? (·.element.sized)).map Cursor.element = sizer? x := by
  rw [sizer?, ← map_element_sizeSources, List.find?_map]
  rfl

/-- A frame is read from its own start tag and that of the element that it takes its size from. -/
theorem toOption_frame (id : Option String) (sheet : Vec2) (h : x.element.start = y.element.start)
    (hsizer : (sizer? x).map Element.start = (sizer? y).map Element.start) :
    (frame id sheet x).toOption = (frame id sheet y).toOption := by
  have hsize : (sizeAmong id x (sizeSources x)).toOption =
      (sizeAmong id y (sizeSources y)).toOption := by
    rw [← map_element_find?_sizeSources, ← map_element_find?_sizeSources, Option.map_map,
      Option.map_map] at hsizer
    rw [toOption_sizeAmong, toOption_sizeAmong]
    cases hx : (sizeSources x).find? (·.element.sized) with
    | none =>
        rw [hx] at hsizer
        rw [Option.map_eq_none_iff.1 hsizer.symm]
    | some u =>
        rw [hx] at hsizer
        obtain ⟨v, hy, huv⟩ := Option.map_eq_some_iff.1 hsizer.symm
        rw [hy, Option.bind_some, Option.bind_some, sizeIn?, sizeIn?,
          Cursor.toOption_vec2?_of_start huv.symm]
  unfold frame
  refine Attempt.toOption_bind_congr (Cursor.toOption_vec2?_of_start h "x" "y") fun offset =>
    Attempt.toOption_bind_congr hsize fun size => ?_
  dsimp only
  split
  · rfl
  · exact Attempt.toOption_bind_congr (Cursor.toOption_real?_of_start h "duration") fun _ => rfl

theorem isSome_sizer?_of_frame {f : Frame} (h : frame id sheet x = .ok f) : (sizer? x).isSome := by
  unfold frame at h
  obtain ⟨offset, -, h⟩ := Attempt.bind_eq_ok_iff.1 h
  obtain ⟨size, hsize, -⟩ := Attempt.bind_eq_ok_iff.1 h
  have hsome := toOption_sizeAmong id x (sizeSources x)
  rw [hsize] at hsome
  obtain ⟨p, hp, -⟩ := Option.bind_eq_some_iff.1 hsome.symm
  rw [← map_element_find?_sizeSources, hp]
  rfl

/-! ### Reading along -/

/-- Frames that correspond are read the same. Some of them are in no loop, and those that they
correspond to are in one that runs once. -/
structure Corresponds (id : Option String) (sheet : Vec2) (R : Cursor → Cursor → Prop)
    (Inside : Cursor → Prop) : Prop where
  frame : ∀ x y, R x y → (frame id sheet x).toOption = (Animation.frame id sheet y).toOption
  once : ∀ x y, R x y → Inside x →
    loop? x = none ∧ ∃ l, loop? y = some l ∧ loopCount l.element = .ok 1
  loop : ∀ x y, R x y → ¬Inside x →
    (loop? x).map (loopCount ·.element) = (loop? y).map (loopCount ·.element)
  together : ∀ x y u v, R x y → R u v → Inside x → (sameParent y v = true ↔ Inside u)
  same : ∀ x y u v, R x y → R u v → (loop? x).isSome → sameParent y v = sameParent x u
  run : ∀ x y u v, R x y → R u v → (loop? x).isSome → sameParent x u = true → (loop? u).isSome

/-- Frames that correspond are shown the same. The runs that are collected differ only inside of a
loop that runs once, where they are not used. -/
theorem Corresponds.toOption_framesOf {R : Cursor → Cursor → Prop} {Inside : Cursor → Prop}
    (hR : Corresponds id sheet R Inside) {xs ys : List Cursor} (h : List.Forall₂ R xs ys)
    {run run' : List Frame}
    (hrun : ∀ x ∈ xs.head?, (loop? x = none → run = []) ∧ (¬Inside x → run' = run)) :
    (framesOf id sheet run xs).toOption = (framesOf id sheet run' ys).toOption := by
  induction h generalizing run run' with
  | nil => rfl
  | @cons x y xs ys hxy hrest ih =>
      have hmore {before after : List Frame} (f : Frame)
          (hrun : ∀ u ∈ xs.head?, (loop? u = none → before = []) ∧ (¬Inside u → after = before)) :
          (do pure (f :: (← framesOf id sheet before xs)) : Except Fault _).toOption =
            (do pure (f :: (← framesOf id sheet after ys)) : Except Fault _).toOption :=
        Attempt.toOption_bind_congr (ih hrun) fun _ => rfl
      obtain ⟨hloose, hout⟩ := hrun x rfl
      unfold framesOf
      refine Attempt.toOption_bind_congr (hR.frame x y hxy) fun f => ?_
      by_cases hinside : Inside x
      · obtain ⟨hx, l, hy, hcount⟩ := hR.once x y hxy hinside
        obtain rfl := hloose hx
        rw [hx, hy]
        dsimp only
        split
        · rename_i hsame
          -- The next frame is in the same loop, where it does not matter what has been collected.
          refine hmore f fun u hu => ⟨fun _ => rfl, fun hnot => ?_⟩
          cases hrest with
          | nil => cases hu
          | @cons u v _ _ huv _ =>
              cases hu
              exact absurd ((hR.together x y u v hxy huv hinside).1 hsame) hnot
        · rw [hcount]
          exact hmore f fun u _ => ⟨fun _ => rfl, fun _ => rfl⟩
      · have hloop := hR.loop x y hxy hinside
        obtain rfl := hout hinside
        have hnext (hx : (loop? x).isSome) :
            ys.head?.map (sameParent y) = xs.head?.map (sameParent x) := by
          cases hrest with
          | nil => rfl
          | cons huv _ => exact congrArg some (hR.same x y _ _ hxy huv hx)
        cases hx : loop? x with
        | none =>
            rw [hx] at hloop
            obtain rfl := hloose hx
            rw [Option.map_eq_none_iff.1 hloop.symm]
            exact hmore f fun u _ => ⟨fun _ => rfl, fun _ => rfl⟩
        | some l =>
            rw [hx] at hloop
            obtain ⟨m, hy, hlm⟩ := Option.map_eq_some_iff.1 hloop.symm
            rw [hy, hnext (by simp [hx])]
            dsimp only
            split
            · rename_i hsame
              refine hmore f fun u hu => ⟨fun hu' => ?_, fun _ => rfl⟩
              cases hrest with
              | nil => cases hu
              | @cons u v _ _ huv _ =>
                  cases hu
                  have hlooped := hR.run x y u v hxy huv (by simp [hx]) hsame
                  rw [hu'] at hlooped
                  cases hlooped
            · refine Attempt.toOption_bind_congr (congrArg _ hlm.symm) fun n => ?_
              exact Attempt.toOption_bind_congr (ih fun u _ => ⟨fun _ => rfl, fun _ => rfl⟩)
                fun _ => rfl

/-! ### Sizes that are lost -/

/-- A frame takes its size from some levels up. -/
def SizedAt (x : Cursor) (k : Nat) : Prop :=
  (∃ p, x.ancestor? k = some p ∧ p.element.sized = true) ∧
    ∀ j < k, ∀ p, x.ancestor? j = some p → p.element.sized = false

/-- A frame takes its size from two levels up, and it is a child of an element, one of `count`
children from `first` on, or a child of one of those. -/
structure Loses (c : Cursor) (first count : Nat) (x : Cursor) : Prop where
  near : ∃ i steps, first ≤ i ∧ i < first + count ∧ steps.length ≤ 1 ∧
    c.follow? (i :: steps) = some x
  frame : x.tag = "frame"
  size : SizedAt x 2

theorem sizedAt_two_iff : SizedAt x 2 ↔ x.element.sized = false ∧
    ∃ p g above, x.above = p :: g :: above ∧ p.sized = false ∧ g.sized = true := by
  obtain ⟨e, above, address, url⟩ := x
  constructor
  · rintro ⟨⟨g, hg, hsized⟩, hnone⟩
    rcases above with _ | ⟨p, _ | ⟨f, above⟩⟩
    · cases hg
    · cases hg
    · cases hg
      exact ⟨hnone 0 Nat.two_pos _ rfl, p, f, above, rfl, hnone 1 Nat.one_lt_two _ rfl, hsized⟩
  · rintro ⟨he, p, g, above, rfl, hp, hg⟩
    refine ⟨⟨_, rfl, hg⟩, fun j hj q hq => ?_⟩
    obtain _ | _ | j := j
    · cases hq
      exact he
    · cases hq
      exact hp
    · omega

/-- What a loop around some frames is put between. -/
structure LoopsOnce (c d : Cursor) (l : Element) (before after : List Node) : Prop where
  tag : c.tag = "animation"
  children : c.element.children = before ++ (l.children ++ after)
  put : d.element.children = before ++ l.toNode :: after
  start : d.element.start = c.element.start
  above : d.above.map Element.start = c.above.map Element.start
  address : d.address = c.address
  loop : l.tag = "loop"
  count : l.attributes = [("count", "1")]

namespace LoopsOnce

variable {c d : Cursor} {l : Element} {before after : List Node}

theorem not_sized (h : LoopsOnce c d l before after) : l.sized = false := by
  unfold Element.sized Element.get?
  rw [h.count]
  rfl

theorem loopCount_eq (h : LoopsOnce c d l before after) : loopCount l = .ok 1 := by
  unfold loopCount Element.get?
  rw [h.count]
  rfl

/-- A frame that does not lose its size takes it from an element with the same start tag. -/
theorem sizer?_eq (h : LoopsOnce c d l before after) (hxy : Cursor.Wrapped c d l (width before) x y)
    (hx : x ∈ c.tagged "frame") (hkeeps : ¬Loses c (width before) (width l.children) x) :
    (sizer? x).map Element.start = (sizer? y).map Element.start := by
  obtain ⟨helement, way, i, steps, hlength, hxa, haddress, hya, -⟩ := hxy
  have hnot (hi : width before ≤ i ∧ i < width before + width l.children)
      (hsteps : steps.length ≤ 1) : ¬SizedAt x 2 := by
    intro hsize
    obtain ⟨hdesc, htag⟩ := List.mem_filter.1 hx
    obtain ⟨down, -, hdown⟩ := Cursor.mem_descendants_iff_follow?.1 hdesc
    rw [Cursor.address_of_follow? hdown, List.append_cancel_left_eq] at haddress
    exact hkeeps ⟨⟨i, steps, hi.1, hi.2, hsteps, haddress ▸ hdown⟩, by simpa using htag, hsize⟩
  have hstart := Element.sized_of_start h.start
  rw [sizedAt_two_iff, hxa, helement] at hnot
  rw [sizer?, sizer?, hxa, hya, helement]
  by_cases hi : width before ≤ i ∧ i < width before + width l.children
  · rw [if_pos hi]
    rcases way with _ | ⟨s, _ | ⟨t, way⟩⟩
    · -- The frame is in the loop, and the animation has become its grandparent.
      cases he : y.element.sized with
      | true => simp [he]
      | false =>
          cases hcsized : c.element.sized with
          | true => simp [he, hcsized, h.not_sized, hstart.trans hcsized, h.start]
          | false =>
              cases habove : c.above with
              | nil => simp [he, hcsized, h.not_sized, hstart.trans hcsized]
              | cons g above =>
                  cases hg : g.sized with
                  | true =>
                      refine absurd ⟨he, c.element, g, above, ?_, hcsized, hg⟩
                        (hnot hi (hlength ▸ Nat.zero_le 1))
                      rw [habove]
                      rfl
                  | false => simp [he, hcsized, hg, h.not_sized, hstart.trans hcsized]
    · -- The loop has become its grandparent in place of the animation.
      cases he : y.element.sized with
      | true => simp [he]
      | false =>
          cases hs : s.sized with
          | true => simp [he, hs]
          | false =>
              cases hcsized : c.element.sized with
              | true =>
                  exact absurd ⟨he, s, c.element, c.above, rfl, hs, hcsized⟩
                    (hnot hi (hlength ▸ Nat.le_refl 1))
              | false => simp [he, hs, hcsized, h.not_sized]
    · rfl
  · rw [if_neg hi]
    refine Element.find?_sized_of_start ?_
    rw [List.map_cons, List.map_cons, List.map_take, List.map_take, List.map_append,
      List.map_append, List.nil_append, List.map_cons, List.map_cons, h.above, h.start]

theorem sizer?_eq_none (h : LoopsOnce c d l before after)
    (hxy : Cursor.Wrapped c d l (width before) x y)
    (hloses : Loses c (width before) (width l.children) x) : sizer? y = none := by
  obtain ⟨helement, way, i, steps, hlength, hxa, haddress, hya, -⟩ := hxy
  obtain ⟨⟨j, more, hlow, hhigh, hmore, hfollow⟩, -, hsize⟩ := hloses
  obtain ⟨he, p, g, above, habove, hp, hg⟩ := sizedAt_two_iff.1 hsize
  rw [Cursor.address_of_follow? hfollow, List.append_cancel_left_eq] at haddress
  obtain ⟨rfl, rfl⟩ := List.cons.inj haddress
  have hstart := Element.sized_of_start h.start
  rw [hxa] at habove
  rw [sizer?, hya, if_pos ⟨hlow, hhigh⟩, ← helement]
  rcases way with _ | ⟨s, _ | ⟨t, way⟩⟩
  · obtain ⟨rfl, -⟩ := List.cons.inj habove
    simp [he, hstart.trans hp, h.not_sized]
  · obtain ⟨rfl, -⟩ := List.cons.inj habove
    simp [he, hp, h.not_sized]
  · simp at hlength
    omega

/-- A frame is in the loop itself. -/
def Inside (c : Cursor) (first count : Nat) (x : Cursor) : Prop :=
  ∃ i, first ≤ i ∧ i < first + count ∧ x.address = c.address ++ [i]

theorem map_loopCount_loop? (x : Cursor) : (loop? x).map (loopCount ·.element) =
    (x.above.head?.filter (·.tag = "loop")).map loopCount := by
  rw [← map_element_loop?, Option.map_map]
  rfl

/-- The frames that are children of an animation are in no loop. -/
theorem loop?_of_child (h : LoopsOnce c d l before after) (hx : x.above = c.element :: c.above) :
    loop? x = none := by
  have htag : c.element.tag = "animation" := h.tag
  have hloop := map_element_loop? x
  rw [hx, List.head?_cons, Option.filter_some, if_neg (by simp [htag])] at hloop
  exact Option.map_eq_none_iff.1 hloop

theorem sameParent_iff_dropLast {address xs ys : List Nat} (hxs : xs ≠ []) (hys : ys ≠ [])
    (hx : x.address = address ++ xs) (hy : y.address = address ++ ys) :
    sameParent x y = true ↔ xs.dropLast = ys.dropLast := by
  rw [sameParent, hx, hy, List.dropLast_append_of_ne_nil hxs, List.dropLast_append_of_ne_nil hys,
    beq_iff_eq, List.append_cancel_left_eq]

/-- Frames that keep their sizes are read along in the same way with and without the loop. -/
theorem corresponds (h : LoopsOnce c d l before after) (id : Option String) (sheet : Vec2) :
    Corresponds id sheet
      (fun x y => (x ∈ c.tagged "frame" ∧ ¬Loses c (width before) (width l.children) x) ∧
        Cursor.Wrapped c d l (width before) x y)
      (Inside c (width before) (width l.children)) where
  frame := by
    rintro x y ⟨⟨hx, hkeeps⟩, hxy⟩
    exact toOption_frame id sheet (congrArg Element.start hxy.element) (h.sizer?_eq hxy hx hkeeps)
  once := by
    rintro x y ⟨-, -, way, i, steps, hlength, hxa, haddress, hya, -⟩ ⟨j, hlow, hhigh, hj⟩
    rw [haddress, List.append_cancel_left_eq] at hj
    obtain ⟨rfl, rfl⟩ := List.cons.inj hj
    obtain rfl := List.eq_nil_of_length_eq_zero hlength
    rw [if_pos ⟨hlow, hhigh⟩] at hya
    have hloop := map_element_loop? y
    rw [hya, List.nil_append, List.singleton_append, List.head?_cons, Option.filter_some,
      if_pos (by simp [h.loop])] at hloop
    obtain ⟨m, hm, rfl⟩ := Option.map_eq_some_iff.1 hloop
    exact ⟨h.loop?_of_child hxa, m, hm, h.loopCount_eq⟩
  loop := by
    rintro x y ⟨-, -, way, i, steps, hlength, hxa, haddress, hya, -⟩ hnot
    rw [map_loopCount_loop?, map_loopCount_loop?, hxa, hya]
    cases way with
    | cons s way => rfl
    | nil =>
        obtain rfl := List.eq_nil_of_length_eq_zero hlength.symm
        have hout : ¬(width before ≤ i ∧ i < width before + width l.children) :=
          fun hi => hnot ⟨i, hi.1, hi.2, haddress⟩
        have htag : c.element.tag = "animation" := h.tag
        have htag' : d.element.tag = "animation" := (congrArg Prod.fst h.start).trans htag
        simp [if_neg hout, Option.filter, htag, htag']
  together := by
    rintro x y u v ⟨-, -, -, i, steps, -, -, hx, -, hy⟩ ⟨-, -, -, k, more, -, -, hu, -, hv⟩
      ⟨j, hlow, hhigh, hj⟩
    rw [hx, List.append_cancel_left_eq] at hj
    obtain ⟨rfl, rfl⟩ := List.cons.inj hj
    rw [sameParent_iff_dropLast (Cursor.lift_append_ne _ _ _ _).1 (Cursor.lift_append_ne _ _ _ _).1
      hy hv, Cursor.dropLast_lift_append_eq_iff.2 ⟨⟨hlow, hhigh⟩, rfl⟩, eq_comm,
      Cursor.dropLast_lift_append_eq_iff]
    unfold Inside
    rw [hu]
    constructor
    · rintro ⟨hk, rfl⟩
      exact ⟨k, hk.1, hk.2, rfl⟩
    · rintro ⟨j, hlow', hhigh', hj⟩
      rw [List.append_cancel_left_eq] at hj
      obtain ⟨rfl, rfl⟩ := List.cons.inj hj
      exact ⟨⟨hlow', hhigh'⟩, rfl⟩
  same := by
    rintro x y u v ⟨-, -, way, i, steps, hlength, hxa, hx, -, hy⟩
      ⟨-, -, -, k, more, -, -, hu, -, hv⟩ hloop
    have hsteps : steps ≠ [] := by
      rintro rfl
      obtain rfl := List.eq_nil_of_length_eq_zero hlength
      rw [h.loop?_of_child hxa] at hloop
      cases hloop
    rw [Bool.eq_iff_iff, sameParent_iff_dropLast (Cursor.lift_append_ne _ _ _ _).1
      (Cursor.lift_append_ne _ _ _ _).1 hy hv, sameParent_iff_dropLast (by simp) (by simp) hx hu]
    exact Cursor.dropLast_lift_append_congr hsteps
  run := by
    rintro x y u v ⟨⟨hx, -⟩, -⟩ ⟨⟨hu, -⟩, -⟩ hloop hsame
    have hparent := (sameParent_iff (List.mem_filter.1 hx).1 (List.mem_filter.1 hu).1).1 hsame
    unfold loop? at hloop ⊢
    rwa [← hparent]

theorem wrapped_tagged (h : LoopsOnce c d l before after) :
    List.Forall₂ (Cursor.Wrapped c d l (width before)) (c.tagged "frame") (d.tagged "frame") := by
  obtain ⟨front, back, hsplit, hwrapped⟩ := Cursor.wrapped_descendants h.children h.put h.address
  have htagged : d.tagged "frame" = (front ++ back).filter (·.tag = "frame") := by
    rw [Cursor.tagged, hsplit, List.filter_append,
      List.filter_cons_of_neg (by simp [Cursor.tag, h.loop]), List.filter_append]
  rw [htagged]
  refine List.rel_filter (fun x y hxy => ?_) hwrapped
  have htag : x.tag = y.tag := congrArg Element.tag hxy.element
  simp [htag]

theorem frameElements_eq (h : LoopsOnce c d l before after) :
    frameElements d = d.tagged "frame" :=
  frameElements_eq_tagged ((congrArg Prod.fst h.start).trans h.tag)

/-- If every frame keeps its size, the animation is the same. -/
theorem toOption_ofElement (h : LoopsOnce c d l before after)
    (hkeeps : ¬∃ x, Loses c (width before) (width l.children) x) (sheet : Option Vec2) :
    (ofElement d sheet).toOption = (ofElement c sheet).toOption := by
  unfold ofElement
  rw [frameElements_eq_tagged h.tag, h.frameElements_eq, Cursor.get?_of_start h.start,
    Cursor.get?_of_start h.start]
  cases usableSheet sheet with
  | none => rfl
  | some whole =>
      refine Attempt.toOption_bind_congr ?_ fun _ => rfl
      refine ((h.corresponds _ whole).toOption_framesOf ?_ fun _ _ =>
        ⟨fun _ => rfl, fun _ => rfl⟩).symm
      exact (List.forall₂_and_left _ _).2 ⟨fun x hx => ⟨hx, fun hloses => hkeeps ⟨x, hloses⟩⟩,
        h.wrapped_tagged⟩

/-- If a frame loses its size, the animation is refused. -/
theorem toOption_ofElement_eq_none (h : LoopsOnce c d l before after)
    (hloses : ∃ x, Loses c (width before) (width l.children) x) (sheet : Option Vec2) :
    (ofElement d sheet).toOption = none := by
  obtain ⟨x, hx⟩ := hloses
  obtain ⟨i, steps, -, -, -, hfollow⟩ := hx.near
  have hmem : x ∈ c.tagged "frame" := List.mem_filter.2
    ⟨Cursor.mem_descendants_iff_follow?.2 ⟨_, List.cons_ne_nil i steps, hfollow⟩,
      by simpa using hx.frame⟩
  obtain ⟨y, hy, hxy⟩ := Attempt.exists_mem_of_forall₂_left h.wrapped_tagged hmem
  cases hresult : ofElement d sheet with
  | error f => rfl
  | ok a =>
      obtain ⟨whole, -, hframes⟩ := framesOf_of_ofElement hresult
      rw [h.frameElements_eq] at hframes
      obtain ⟨f, hf⟩ := (frame_of_framesOf hframes).1 y hy
      have hsome := isSome_sizer?_of_frame hf
      rw [h.sizer?_eq_none hxy hx] at hsome
      cases hsome

end LoopsOnce

/-- The document with a loop around some of the nodes of an element. -/
def loopOnce (doc : Document) (steps : List Nat) (before run after : List Node) (line : Nat) :
    Document :=
  doc.editAt (fun e => { e with
    children := before ++ .element "loop" [("count", "1")] line run :: after }) steps

/-- Frames of an animation, or any nodes, are put into a loop that runs once. The animation is the
same then, and refused if it was refused before. But if a frame among these nodes, or right below
one of them, takes its size from its grandparent, the loop puts that out of reach, and the animation
is refused. -/
theorem wrapped_of_ofElement (doc : Document) (steps : List Nat) (c : Cursor)
    (before run after : List Node) (line : Nat)
    (hc : (Cursor.ofDocument doc).follow? steps = some c) (htag : c.tag = "animation")
    (hchildren : c.element.children = before ++ (run ++ after)) :
    ∃ d, (Cursor.ofDocument (loopOnce doc steps before run after line)).follow? steps = some d ∧
      d.element = { c.element with
        children := before ++ .element "loop" [("count", "1")] line run :: after } ∧
      ∀ sheet,
        ((¬∃ x, Loses c (width before) (width run) x) →
          (ofElement d sheet).toOption = (ofElement c sheet).toOption) ∧
        ((∃ x, Loses c (width before) (width run) x) → (ofElement d sheet).toOption = none) := by
  obtain ⟨d, hd, helement, habove, haddress, -⟩ := Cursor.follow?_editAt (fun e =>
    { e with children := before ++ .element "loop" [("count", "1")] line run :: after }) hc
    (rfl : ([] : List Element).map Element.start = _)
  have hloop : LoopsOnce c d ⟨"loop", [("count", "1")], line, run⟩ before after :=
    { tag := htag, children := hchildren, put := by rw [helement]; rfl,
      start := by rw [helement]; rfl, above := habove, address := haddress, loop := rfl,
      count := rfl }
  exact ⟨d, hd, helement, fun sheet => ⟨fun h => hloop.toOption_ofElement h sheet,
    fun h => hloop.toOption_ofElement_eq_none h sheet⟩⟩

/-- A document of an animation of two frames, with the attributes of the group and the animation. -/
def strip (group animation : List (String × String)) : Document :=
  ⟨⟨"animations", group, 1, [.element "animation" animation 1
    [.element "frame" [] 1 [], .element "frame" [("x", "8"), ("y", "0")] 1 []]]⟩, none⟩

/-- The animation of such a document. -/
def stripped (group animation : List (String × String)) : Cursor :=
  let kids : List Node := [.element "frame" [] 1 [], .element "frame" [("x", "8"), ("y", "0")] 1 []]
  ⟨⟨"animation", animation, 1, kids⟩,
    [⟨"animations", group, 1, [.element "animation" animation 1 kids]⟩], [0], none⟩

theorem wrapped_of_ofElement_strip :
    (∃ d, (Cursor.ofDocument (loopOnce (strip [] [("w", "8"), ("h", "8")]) [0] []
        (stripped [] [("w", "8"), ("h", "8")]).element.children [] 1)).follow? [0] = some d ∧
      (ofElement d (some ⟨16, 16⟩)).toOption =
        (ofElement (stripped [] [("w", "8"), ("h", "8")]) (some ⟨16, 16⟩)).toOption) ∧
    ∃ d, (Cursor.ofDocument (loopOnce (strip [("w", "8"), ("h", "8")] []) [0] []
        (stripped [("w", "8"), ("h", "8")] []).element.children [] 1)).follow? [0] = some d ∧
      (ofElement d (some ⟨16, 16⟩)).toOption = none := by
  have hfollow (group animation : List (String × String)) :
      (Cursor.ofDocument (strip group animation)).follow? [0] = some (stripped group animation) :=
    rfl
  have hchildren (group animation : List (String × String)) :
      (stripped group animation).element.children =
        [] ++ ((stripped group animation).element.children ++ []) := rfl
  obtain ⟨d, hd, -, hkept⟩ := wrapped_of_ofElement _ [0] _ [] _ [] 1
    (hfollow [] [("w", "8"), ("h", "8")]) rfl (hchildren _ _)
  obtain ⟨e, he, -, hlost⟩ := wrapped_of_ofElement _ [0] _ [] _ [] 1
    (hfollow [("w", "8"), ("h", "8")] []) rfl (hchildren _ _)
  refine ⟨⟨d, hd, (hkept _).1 ?_⟩, e, he, (hlost _).2 ?_⟩
  · rintro ⟨x, ⟨i, steps, -, -, -, hx⟩, -, hsize⟩
    obtain ⟨-, p, g, above, habove, hp, -⟩ := sizedAt_two_iff.1 hsize
    obtain ⟨s, hs, hx⟩ := Option.bind_eq_some_iff.1 hx
    obtain ⟨e, he, rfl⟩ := Cursor.child?_eq_some_iff.1 hs
    have hleaf : e.children = [] := by
      obtain _ | _ | i := i <;> cases he <;> rfl
    cases steps with
    | nil =>
        cases hx
        obtain ⟨rfl, -⟩ := List.cons.inj habove
        cases hp
    | cons k steps =>
        obtain ⟨t, ht, -⟩ := Option.bind_eq_some_iff.1 hx
        obtain ⟨f, hf, -⟩ := Cursor.child?_eq_some_iff.1 ht
        rw [hleaf] at hf
        cases hf
  · refine ⟨_, ⟨0, [], Nat.le_refl 0, by decide, Nat.zero_le 1, rfl⟩, rfl, ?_⟩
    exact sizedAt_two_iff.2 ⟨rfl, _, _, _, rfl, rfl, rfl⟩

/-- The size of the group is not found from inside of the loop. -/
theorem not_wrapped_of_ofElement :
    ¬∀ (doc : Document) (steps : List Nat) (c d : Cursor) (before run after : List Node)
      (line : Nat) (sheet : Option Vec2),
      (Cursor.ofDocument doc).follow? steps = some c → c.tag = "animation" →
      (∃ group, c.parent? = some group ∧ group.tag = "animations") →
      c.element.children = before ++ (run ++ after) →
      (∀ e ∈ run.filterMap Node.element?, e.tag = "frame") →
      (Cursor.ofDocument (loopOnce doc steps before run after line)).follow? steps = some d →
      (ofElement d sheet).toOption = (ofElement c sheet).toOption := by
  intro h
  have hsame := h (strip [("w", "8"), ("h", "8")] []) [0] (stripped [("w", "8"), ("h", "8")] []) _
    [] (stripped [("w", "8"), ("h", "8")] []).element.children [] 1 (some ⟨16, 16⟩) rfl rfl
    ⟨_, rfl, rfl⟩ rfl (by decide) rfl
  have hread : (ofElement (stripped [("w", "8"), ("h", "8")] [])
      (some ⟨16, 16⟩)).toOption.isSome = true := by decide +kernel
  rw [← hsame] at hread
  revert hread
  decide +kernel

end Animation

end Stagecraft
