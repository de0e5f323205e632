import Stagecraft.Proofs.Groups

/-!
# Additions to a document

Textures and animations are found anywhere in a document and then read without looking at the place
they were found at, other than for the elements right around them. So what is added elsewhere does
not change them: places may count other siblings and lie below other ancestors, but what was there
is found in the same order (`Cursor.find_of_grows`) and read the same.
-/

namespace Stagecraft

namespace Markup

namespace Cursor

variable {c d x y x' y' : Cursor}

/-- Two places below two others, reached in the same way. -/
def Moved (c d x y : Cursor) : Prop :=
  ∃ e way steps, steps ≠ [] ∧
    x = ⟨e, way ++ c.element :: c.above, c.address ++ steps, c.url⟩ ∧
    y = ⟨e, way ++ d.element :: d.above, d.address ++ steps, d.url⟩

mutual

theorem moved_subtreeOf (c d : Cursor) (way : List Element) (steps : List Nat) (index : Nat) :
    (node : Node) → List.Forall₂ (Moved c d)
      (subtreeOf c.url (way ++ c.element :: c.above) (c.address ++ steps) index node)
      (subtreeOf d.url (way ++ d.element :: d.above) (d.address ++ steps) index node)
  | .element tag attributes line kids => by
      have hkids := moved_subtree c d (⟨tag, attributes, line, kids⟩ :: way) (steps ++ [index])
        0 kids
      unfold subtreeOf
      rw [List.append_assoc, List.append_assoc]
      exact .cons ⟨_, way, steps ++ [index], by simp, rfl, rfl⟩ hkids
  | .text _ => .nil
  | .comment _ => .nil
  | .instruction _ _ => .nil

theorem moved_subtree (c d : Cursor) (way : List Element) (steps : List Nat) (index : Nat) :
    (nodes : List Node) → List.Forall₂ (Moved c d)
      (subtree c.url (way ++ c.element :: c.above) (c.address ++ steps) index nodes)
      (subtree d.url (way ++ d.element :: d.above) (d.address ++ steps) index nodes)
  | [] => .nil
  | node :: rest => by
      unfold subtree
      exact List.rel_append (moved_subtreeOf c d way steps index node)
        (moved_subtree c d way steps (index + node.width) rest)

end

/-- The same element has the same places below it, wherever it stands. -/
theorem moved_descendants (h : c.element = d.element) :
    List.Forall₂ (Moved c d) c.descendants d.descendants := by
  have hmoved := moved_subtree c d [] [] 0 c.element.children
  simp only [List.nil_append, List.append_nil] at hmoved
  unfold descendants
  rwa [← h] at hmoved ⊢

namespace Moved

theorem element (h : Moved c d x y) : x.element = y.element := by
  obtain ⟨e, way, steps, -, rfl, rfl⟩ := h
  rfl

theorem url (h : Moved c d x y) (hurl : c.url = d.url) : x.url = y.url := by
  obtain ⟨e, way, steps, -, rfl, rfl⟩ := h
  exact hurl

theorem parent (h : Moved c d x y) (helement : c.element = d.element) :
    x.above.head? = y.above.head? := by
  obtain ⟨e, way, steps, -, rfl, rfl⟩ := h
  cases way <;> simp [helement]

/-- Two elements up nothing has changed, if it has not above the place that was moved. -/
theorem nearest (h : Moved c d x y) (helement : c.element = d.element)
    (hparent : c.above.head? = d.above.head?) : x.above.take 2 = y.above.take 2 := by
  obtain ⟨e, way, steps, -, rfl, rfl⟩ := h
  have htake (above : List Element) : above.take 1 = above.head?.toList := by cases above <;> rfl
  rcases way with _ | ⟨f, _ | ⟨g, way⟩⟩
  · simp [helement, htake, hparent]
  · simp [helement]
  · rfl

theorem sameParent (h : Moved c d x y) (h' : Moved c d x' y') :
    Animation.sameParent x x' = Animation.sameParent y y' := by
  obtain ⟨e, way, steps, hsteps, rfl, rfl⟩ := h
  obtain ⟨e', way', steps', hsteps', rfl, rfl⟩ := h'
  rw [Bool.eq_iff_iff]
  simp only [Animation.sameParent, List.dropLast_append_of_ne_nil hsteps,
    List.dropLast_append_of_ne_nil hsteps', beq_iff_eq, List.append_cancel_left_eq]

end Moved

theorem moved_tagged (h : c.element = d.element) (tag : String) :
    List.Forall₂ (Moved c d) (c.tagged tag) (d.tagged tag) := by
  refine List.rel_filter (fun x y hxy => ?_) (moved_descendants h)
  have htag : x.tag = y.tag := congrArg Element.tag hxy.element
  simp [htag]

theorem tagged_congr (h : c.element = d.element) (tag : String) :
    (c.tagged tag).map element = (d.tagged tag).map element :=
  List.forall₂_eq_eq_eq ▸ List.forall₂_map_left_iff.2
    (List.forall₂_map_right_iff.2 ((moved_tagged h tag).imp fun _ _ => Moved.element))

theorem vec2?_congr (h : x.element = y.element) (a b : String) : x.vec2? a b = y.vec2? a b := by
  obtain ⟨e, _, _, _⟩ := x
  obtain ⟨_, _, _, _⟩ := y
  cases h
  rfl

theorem real?_congr (h : x.element = y.element) (a : String) : x.real? a = y.real? a := by
  obtain ⟨e, _, _, _⟩ := x
  obtain ⟨_, _, _, _⟩ := y
  cases h
  rfl

end Cursor

end Markup

open Markup

namespace Animation

variable {c d x y : Cursor}

theorem sizeAmong_congr (id : Option String) (h : x.element = y.element) {xs ys : List Cursor}
    (hs : xs.map Cursor.element = ys.map Cursor.element) :
    sizeAmong id x xs = sizeAmong id y ys := by
  induction xs generalizing ys with
  | nil => rw [List.map_eq_nil_iff.1 hs.symm, sizeAmong, sizeAmong, h]
  | cons u xs ih =>
      cases ys with
      | nil => cases hs
      | cons v ys =>
          obtain ⟨huv, hrest⟩ := List.cons.inj hs
          rw [sizeAmong, sizeAmong, Cursor.vec2?_congr huv, h, ih hrest]

theorem map_element_sizeSources (x : Cursor) :
    (sizeSources x).map Cursor.element = x.element :: x.above.take 2 := by
  obtain ⟨e, _ | ⟨f, _ | ⟨g, above⟩⟩, address, url⟩ := x <;> rfl

theorem map_element_loop? (x : Cursor) :
    (loop? x).map Cursor.element = x.above.head?.filter (·.tag = "loop") := by
  obtain ⟨e, _ | ⟨f, above⟩, address, url⟩ := x
  · rfl
  · by_cases h : f.tag = "loop" <;> simp [loop?, Cursor.parent?, Option.filter, Cursor.tag, h]

theorem frame_congr (id : Option String) (sheet : Vec2) (h : x.element = y.element)
    (habove : x.above.take 2 = y.above.take 2) : frame id sheet x = frame id sheet y := by
  have hsources : (sizeSources x).map Cursor.element = (sizeSources y).map Cursor.element := by
    rw [map_element_sizeSources, map_element_sizeSources, h, habove]
  rw [frame, frame, Cursor.vec2?_congr h, Cursor.real?_congr h, sizeAmong_congr id h hsources]

/-- Frame elements that have been moved together are read the same. -/
theorem framesOf_congr (id : Option String) (sheet : Vec2) (helement : c.element = d.element)
    (hparent : c.above.head? = d.above.head?) {xs ys : List Cursor}
    (h : List.Forall₂ (Cursor.Moved c d) xs ys) (run : List Frame) :
    framesOf id sheet run xs = framesOf id sheet run ys := by
  induction h generalizing run with
  | nil => rfl
  | @cons x y xs ys hxy hrest ih =>
      have hframe := frame_congr id sheet hxy.element (hxy.nearest helement hparent)
      have hloop : (loop? x).map Cursor.element = (loop? y).map Cursor.element := by
        rw [map_element_loop?, map_element_loop?, hxy.parent helement]
      have hnext : xs.head?.map (sameParent x) = ys.head?.map (sameParent y) := by
        cases hrest with
        | nil => rfl
        | cons hnext _ => exact congrArg some (hxy.sameParent hnext)
      rw [framesOf, framesOf, hframe, hnext]
      cases hx : loop? x with
      | none =>
          rw [hx] at hloop
          rw [Option.map_eq_none_iff.1 hloop.symm]
          simp only [ih]
      | some l =>
          rw [hx] at hloop
          obtain ⟨m, hy, hlm⟩ := Option.map_eq_some_iff.1 hloop.symm
          rw [hy]
          simp only [ih, hlm]

/-- An animation is read the same below the same parent, whatever is around that. -/
theorem ofElement_congr (helement : c.element = d.element)
    (hparent : c.above.head? = d.above.head?) (htag : c.tag = "animation") (sheet : Option Vec2) :
    ofElement c sheet = ofElement d sheet := by
  have htag' : d.tag = "animation" := by rwa [Cursor.tag, ← helement]
  have hid (name : String) : c.get? name = d.get? name := by
    unfold Cursor.get?
    rw [helement]
  unfold ofElement
  rw [frameElements_eq_tagged htag, frameElements_eq_tagged htag', hid, hid, helement]
  simp only [framesOf_congr _ _ helement hparent (Cursor.moved_tagged helement "frame")]

end Animation

namespace Markup

/-- The tags of the elements that a whole document shares, and of those right around them. -/
def sharedTags : List String := ["textures", "texture", "animations", "animation"]

mutual

/-- There is nothing in a node that a document shares. -/
def Node.isOwn : Node → Bool
  | .element tag _ _ children => !sharedTags.contains tag && areOwn children
  | .text _ => true
  | .comment _ => true
  | .instruction _ _ => true

/-- There is nothing in nodes that a document shares. -/
def areOwn : List Node → Bool
  | [] => true
  | node :: rest => node.isOwn && areOwn rest

end

/-- Nodes are added among others and inside of them, but for what a document shares. -/
inductive Grows : List Node → List Node → Prop
  | nil : Grows [] []
  | keep (node : Node) {nodes more : List Node} : Grows nodes more →
      Grows (node :: nodes) (node :: more)
  | add {node : Node} {nodes more : List Node} : node.isOwn → Grows nodes more →
      Grows nodes (node :: more)
  | inside {tag : String} (attributes : List (String × String)) (line : Nat)
      {kids kids' nodes more : List Node} : tag ∉ sharedTags → Grows kids kids' →
      Grows nodes more →
      Grows (.element tag attributes line kids :: nodes)
        (.element tag attributes line kids' :: more)

/-- A document with additions. -/
structure Document.Grows (d d' : Document) : Prop where
  url : d'.url = d.url
  tag : d'.root.tag = d.root.tag
  attributes : d'.root.attributes = d.root.attributes
  root : d.root.tag ∉ sharedTags
  children : Markup.Grows d.root.children d'.root.children

namespace Cursor

mutual

theorem tag_of_mem_subtreeOf {url : Option String} {above : List Element} {address : List Nat}
    {index : Nat} : {node : Node} → node.isOwn →
      ∀ x ∈ subtreeOf url above address index node, x.tag ∉ sharedTags
  | .element tag attributes line kids, h, x, hx => by
      unfold Node.isOwn at h
      obtain ⟨htag, hkids⟩ := Bool.and_eq_true_iff.1 h
      unfold subtreeOf at hx
      rcases List.mem_cons.1 hx with rfl | hx
      · have hnot : tag ∉ sharedTags := by simpa using htag
        exact hnot
      · exact tag_of_mem_subtree hkids x hx
  | .text _, _, _, hx => nomatch hx
  | .comment _, _, _, hx => nomatch hx
  | .instruction _ _, _, _, hx => nomatch hx

theorem tag_of_mem_subtree {url : Option String} {above : List Element} {address : List Nat}
    {index : Nat} : {nodes : List Node} → areOwn nodes →
      ∀ x ∈ subtree url above address index nodes, x.tag ∉ sharedTags
  | [], _, _, hx => nomatch hx
  | node :: rest, h, x, hx => by
      unfold areOwn at h
      obtain ⟨hnode, hrest⟩ := Bool.and_eq_true_iff.1 h
      unfold subtree at hx
      rcases List.mem_append.1 hx with hx | hx
      · exact tag_of_mem_subtreeOf hnode x hx
      · exact tag_of_mem_subtree hrest x hx

end

/-- Two places with the same element and the same one right around it. -/
structure Alike (x y : Cursor) : Prop where
  element : x.element = y.element
  url : x.url = y.url
  parent : x.above.head? = y.above.head?

variable {outer inner : String} {x y : Cursor}

theorem matchesSelector_pair (houter : outer ∈ sharedTags) (hinner : inner ∈ sharedTags)
    (x : Cursor) : x.matchesSelector [[outer, inner]] =
      decide (x.tag = inner ∧ x.above.head?.map (·.tag) = some outer) := by
  have hstar : "*" ∉ sharedTags := by decide
  have houter' : outer ≠ "*" := ne_of_mem_of_not_mem houter hstar
  have hinner' : inner ≠ "*" := ne_of_mem_of_not_mem hinner hstar
  obtain ⟨e, _ | ⟨f, above⟩, address, url⟩ := x <;>
    simp [matchesSelector, Selector.lineageMatches, Selector.tagMatches, lineage, houter', hinner',
      Cursor.tag]

theorem not_matches_of_tag (houter : outer ∈ sharedTags) (hinner : inner ∈ sharedTags)
    (hx : x.tag ∉ sharedTags) : ¬ x.matchesSelector [[outer, inner]] := by
  rw [matchesSelector_pair houter hinner, decide_eq_true_iff]
  rintro ⟨rfl, -⟩
  exact hx hinner

theorem not_matches_of_parent (houter : outer ∈ sharedTags) (hinner : inner ∈ sharedTags)
    {e : Element} (he : e.tag ∉ sharedTags) (hx : x.above.head? = some e) :
    ¬ x.matchesSelector [[outer, inner]] := by
  rw [matchesSelector_pair houter hinner, decide_eq_true_iff, hx]
  rintro ⟨-, htag⟩
  obtain rfl : e.tag = outer := Option.some.inj htag
  exact he houter

/-- An element that has been kept holds the same matches, and is none itself below a parent with
additions. -/
theorem alike_of_kept (houter : outer ∈ sharedTags) (hinner : inner ∈ sharedTags)
    (helement : x.element = y.element) (hurl : x.url = y.url) {e e' : Element}
    (he : e.tag ∉ sharedTags) (he' : e'.tag ∉ sharedTags) (hx : x.above.head? = some e)
    (hy : y.above.head? = some e') :
    List.Forall₂ Alike ((x :: x.descendants).filter (·.matchesSelector [[outer, inner]]))
      ((y :: y.descendants).filter (·.matchesSelector [[outer, inner]])) := by
  have hxnot := not_matches_of_parent houter hinner he hx
  have hynot := not_matches_of_parent houter hinner he' hy
  rw [List.filter_cons_of_neg (by exact hxnot), List.filter_cons_of_neg (by exact hynot)]
  have hbelow : List.Forall₂ Alike x.descendants y.descendants :=
    (moved_descendants helement).imp fun _ _ hmoved =>
      ⟨hmoved.element, hmoved.url hurl, hmoved.parent helement⟩
  refine List.rel_filter (fun u v huv => ?_) hbelow
  have htags : u.tag = v.tag := congrArg Element.tag huv.element
  simp [matchesSelector_pair houter hinner, htags, huv.parent]

/-- In what has grown, the places that match are found again, in the same order. -/
theorem alike_of_grows (houter : outer ∈ sharedTags) (hinner : inner ∈ sharedTags)
    (url : Option String) {nodes more : List Node} (h : Grows nodes more) (e e' : Element)
    (he : e.tag ∉ sharedTags) (he' : e'.tag ∉ sharedTags) (above above' : List Element)
    (address address' : List Nat) (index index' : Nat) :
    List.Forall₂ Alike
      ((subtree url (e :: above) address index nodes).filter (·.matchesSelector [[outer, inner]]))
      ((subtree url (e' :: above') address' index' more).filter
        (·.matchesSelector [[outer, inner]])) := by
  induction h generalizing e e' above above' address address' index index' with
  | nil => exact .nil
  | @keep node nodes more _ ih =>
      have hrest := ih e e' he he' above above' address address' (index + node.width)
        (index' + node.width)
      unfold subtree
      rw [List.filter_append, List.filter_append]
      refine List.rel_append ?_ hrest
      cases node with
      | text => exact .nil
      | comment => exact .nil
      | instruction => exact .nil
      | element tag attributes line kids =>
          let kept : Element := ⟨tag, attributes, line, kids⟩
          exact alike_of_kept (x := ⟨kept, e :: above, address ++ [index], url⟩)
            (y := ⟨kept, e' :: above', address' ++ [index'], url⟩) houter hinner rfl rfl he he' rfl
            rfl
  | @add node nodes more hown _ ih =>
      have hnone : (subtreeOf url (e' :: above') address' index' node).filter
          (·.matchesSelector [[outer, inner]]) = [] := by
        rw [List.filter_eq_nil_iff]
        exact fun x hx => not_matches_of_tag houter hinner (tag_of_mem_subtreeOf hown x hx)
      have hcons : subtree url (e' :: above') address' index' (node :: more) =
          subtreeOf url (e' :: above') address' index' node ++
            subtree url (e' :: above') address' (index' + node.width) more := by rw [subtree]
      rw [hcons, List.filter_append, hnone]
      exact ih e e' he he' above above' address address' index _
  | @inside tag attributes line kids kids' nodes more hown _ _ ihkids ihrest =>
      let x : Cursor := ⟨⟨tag, attributes, line, kids⟩, e :: above, address ++ [index], url⟩
      let y : Cursor := ⟨⟨tag, attributes, line, kids'⟩, e' :: above', address' ++ [index'], url⟩
      have hkids := ihkids x.element y.element hown hown x.above y.above x.address y.address 0 0
      have hrest := ihrest e e' he he' above above' address address' (index + 1) (index' + 1)
      unfold subtree
      rw [List.filter_append, List.filter_append]
      refine List.rel_append ?_ hrest
      have hxnot : ¬ x.matchesSelector [[outer, inner]] := not_matches_of_tag houter hinner hown
      have hynot : ¬ y.matchesSelector [[outer, inner]] := not_matches_of_tag houter hinner hown
      change List.Forall₂ Alike ((x :: x.descendants).filter _) ((y :: y.descendants).filter _)
      rwa [List.filter_cons_of_neg (by exact hxnot), List.filter_cons_of_neg (by exact hynot)]

/-- What matches in a document is found again in the same document with additions. -/
theorem find_of_grows (houter : outer ∈ sharedTags) (hinner : inner ∈ sharedTags)
    {d d' : Document} (h : d.Grows d') :
    List.Forall₂ (fun x y => x.tag = inner ∧ x.Alike y) ((ofDocument d).find [[outer, inner]])
      ((ofDocument d').find [[outer, inner]]) := by
  have hroot : d'.root.tag ∉ sharedTags := h.tag ▸ h.root
  rw [List.forall₂_and_left]
  constructor
  · intro x hx
    have hmatch := (List.mem_filter.1 hx).2
    rw [matchesSelector_pair houter hinner, decide_eq_true_iff] at hmatch
    exact hmatch.1
  · have hfound := alike_of_grows houter hinner d.url h.children d.root d'.root h.root hroot [] []
      [] [] 0 0
    unfold find descendants ofDocument
    rwa [h.url]

end Cursor

end Markup

namespace Pool

variable {x y : Cursor}

theorem texture_congr (l : Loader) (serial : Nat) (h : x.Alike y) :
    texture l serial x = texture l serial y := by
  obtain ⟨e, _, _, url⟩ := x
  obtain ⟨_, _, _, _⟩ := y
  obtain ⟨helement, hurl, -⟩ := h
  cases helement
  cases hurl
  rfl

theorem animation_congr (a : Atlas) (serial : Nat) (h : x.Alike y) (htag : x.tag = "animation") :
    animation a serial x = animation a serial y := by
  have hsheet (z : Cursor) : z.parent?.bind (·.get? "texture") =
      z.above.head?.bind (·.get? "texture") := by
    obtain ⟨e, _ | ⟨f, above⟩, address, url⟩ := z <;> rfl
  unfold animation
  rw [hsheet, hsheet, h.parent, h.element]
  simp only [Animation.ofElement_congr h.element h.parent htag]

/-- Additions to a document leave its textures and animations as they are. -/
theorem atlas_of_grows (l : Loader) {d d' : Document} (h : d.Grows d') :
    atlas l (.ofDocument d) = atlas l (.ofDocument d') := by
  have htextureSel : Selector.ofString "textures > texture" = [["textures", "texture"]] := by
    decide
  have hanimationSel : Selector.ofString "animations > animation" =
      [["animations", "animation"]] := by decide
  have htextures : textures l (.ofDocument d) = textures l (.ofDocument d') := by
    have hfound := Cursor.find_of_grows (show "textures" ∈ sharedTags by decide)
      (show "texture" ∈ sharedTags by decide) h
    have hmap := Attempt.map_zipIdx_congr (f := fun e => texture l e.2 e.1)
      (g := fun e => texture l e.2 e.1) hfound (fun x y i hxy => texture_congr l i hxy.2) 0
    unfold textures
    simp only [htextureSel, hmap]
  have hanimations (a : Atlas) :
      (((Cursor.ofDocument d).find [["animations", "animation"]]).zipIdx.mapM
          fun e => animation a e.2 e.1 : Except Fault _) =
        ((Cursor.ofDocument d').find [["animations", "animation"]]).zipIdx.mapM
          fun e => animation a e.2 e.1 :=
    Attempt.mapM_of_map_eq (Attempt.map_zipIdx_congr
      (Cursor.find_of_grows (by decide) (by decide) h)
      (fun x y i hxy => animation_congr a i hxy.2 hxy.1) 0)
  unfold atlas
  rw [htextures, hanimationSel]
  simp only [hanimations]

end Pool

end Stagecraft
