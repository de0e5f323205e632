import Mathlib
import Stagecraft.Proofs.Selecting

/-!
# Edits of a document

An element of a document is put in the place of another, with everything around it as it was. The
place is found again in the edited document, and above it the start tags are the same
(`follow?_editAt`). Nodes that are taken to another place are walked in the same order, each below
the same elements up to the place (`shifted_subtree`).
-/

namespace Stagecraft

namespace Markup

namespace Element

/-- What the start tag of an element says. -/
def start (e : Element) : String × List (String × String) := (e.tag, e.attributes)

def toNode (e : Element) : Node := .element e.tag e.attributes e.line e.children

end Element

/-- The nodes with one of the elements among them edited. -/
def updateChild (edit : Element → Element) : Nat → List Node → List Node
  | _, [] => []
  | index, node :: rest =>
    match node.element?, index with
    | none, index => node :: updateChild edit index rest
    | some e, 0 => (edit e).toNode :: rest
    | some _, index + 1 => node :: updateChild edit index rest

/-- The element with the one at an address below it edited. -/
def Element.editAt (edit : Element → Element) : List Nat → Element → Element
  | [], e => edit e
  | index :: address, e =>
    { e with children := updateChild (editAt edit address) index e.children }

/-- The document with the element at an address edited. -/
def Document.editAt (edit : Element → Element) (address : List Nat) (d : Document) : Document :=
  { d with root := d.root.editAt edit address }

/-- How many places nodes take among the elements around them. -/
def width (nodes : List Node) : Nat := (nodes.map Node.width).sum

theorem getElem?_updateChild (edit : Element → Element) (nodes : List Node) (i : Nat) :
    ((updateChild edit i nodes).filterMap Node.element?)[i]? =
      ((nodes.filterMap Node.element?)[i]?).map edit := by
  induction nodes generalizing i with
  | nil => rfl
  | cons node nodes ih =>
      unfold updateChild
      cases hnode : node.element? with
      | none =>
          dsimp only
          rw [List.filterMap_cons_none hnode, List.filterMap_cons_none hnode, ih]
      | some e =>
          rw [List.filterMap_cons_some hnode]
          cases i with
          | zero => rfl
          | succ i =>
              dsimp only
              rw [List.filterMap_cons_some hnode, List.getElem?_cons_succ, List.getElem?_cons_succ,
                ih]

namespace Cursor

/-- An edited element is found at the address where it was. -/
theorem follow?_editAt (edit : Element → Element) {steps : List Nat} {e : Element}
    {above above' : List Element} {address : List Nat} {url : Option String} {c : Cursor}
    (h : (⟨e, above, address, url⟩ : Cursor).follow? steps = some c)
    (habove : above'.map Element.start = above.map Element.start) :
    ∃ c', (⟨e.editAt edit steps, above', address, url⟩ : Cursor).follow? steps = some c' ∧
      c'.element = edit c.element ∧ c'.above.map Element.start = c.above.map Element.start ∧
      c'.address = c.address ∧ c'.url = c.url := by
  induction steps generalizing e above above' address with
  | nil =>
      cases h
      exact ⟨_, rfl, rfl, habove, rfl, rfl⟩
  | cons i steps ih =>
      obtain ⟨d, hd, h⟩ := Option.bind_eq_some_iff.1 h
      obtain ⟨f, hf, rfl⟩ := child?_eq_some_iff.1 hd
      have hlineage : (e.editAt edit (i :: steps) :: above').map Element.start =
          (e :: above).map Element.start := by
        rw [List.map_cons, List.map_cons, habove]
        rfl
      obtain ⟨c', hc', hedit⟩ := ih h hlineage
      refine ⟨c', Option.bind_eq_some_iff.2 ⟨_, child?_eq_some_iff.2 ⟨f.editAt edit steps, ?_, rfl⟩,
        hc'⟩, hedit⟩
      change ((updateChild (Element.editAt edit steps) i e.children).filterMap
        Node.element?)[i]? = _
      rw [getElem?_updateChild, hf]
      rfl

theorem address_of_follow? {c x : Cursor} {steps : List Nat} (h : c.follow? steps = some x) :
    x.address = c.address ++ steps := by
  induction steps generalizing c with
  | nil =>
      cases h
      exact (List.append_nil _).symm
  | cons i steps ih =>
      obtain ⟨d, hd, h⟩ := Option.bind_eq_some_iff.1 h
      obtain ⟨e, -, rfl⟩ := child?_eq_some_iff.1 hd
      rw [ih h, List.append_assoc]
      rfl

/-! ### Nodes at another place -/

theorem subtree_append (url : Option String) (above : List Element) (address : List Nat)
    (index : Nat) (xs ys : List Node) :
    subtree url above address index (xs ++ ys) =
      subtree url above address index xs ++ subtree url above address (index + width xs) ys := by
  induction xs generalizing index with
  | nil => rfl
  | cons node xs ih =>
      rw [List.cons_append, subtree, subtree, ih, List.append_assoc, width, width, List.map_cons,
        List.sum_cons, Nat.add_assoc]

/-- Two places among nodes or below them, reached in the same way from where the nodes stand. -/
def Shifted (above above' : List Element) (address address' : List Nat) (index index' count : Nat)
    (x y : Cursor) : Prop :=
  ∃ way step steps, way.length = steps.length ∧ step < count ∧ x.element = y.element ∧
    x.above = way ++ above ∧ y.above = way ++ above' ∧
    x.address = address ++ (index + step) :: steps ∧
    y.address = address' ++ (index' + step) :: steps

mutual

theorem shifted_subtreeOf (url url' : Option String) (above above' : List Element)
    (address address' : List Nat) (index index' : Nat) : (node : Node) →
      List.Forall₂ (Shifted above above' address address' index index' node.width)
        (subtreeOf url above address index node) (subtreeOf url' above' address' index' node)
  | .element tag attributes line kids => by
      have hkids := shifted_subtree url url' (⟨tag, attributes, line, kids⟩ :: above)
        (⟨tag, attributes, line, kids⟩ :: above') (address ++ [index]) (address' ++ [index']) 0 0
        kids
      unfold subtreeOf
      refine .cons ⟨[], 0, [], rfl, Nat.zero_lt_one, rfl, rfl, rfl, rfl, rfl⟩ (hkids.imp ?_)
      rintro x y ⟨way, step, steps, hlength, -, helement, hx, hy, hxa, hya⟩
      refine ⟨way ++ [⟨tag, attributes, line, kids⟩], 0, step :: steps, by simp [hlength],
        Nat.zero_lt_one, helement, by simp [hx], by simp [hy], by simp [hxa], by simp [hya]⟩
  | .text _ => .nil
  | .comment _ => .nil
  | .instruction _ _ => .nil

/-- The places among nodes and below them correspond when the nodes are taken to another place. -/
theorem shifted_subtree (url url' : Option String) (above above' : List Element)
    (address address' : List Nat) (index index' : Nat) : (nodes : List Node) →
      List.Forall₂ (Shifted above above' address address' index index' (width nodes))
        (subtree url above address index nodes) (subtree url' above' address' index' nodes)
  | [] => .nil
  | node :: rest => by
      have hnode := shifted_subtreeOf url url' above above' address address' index index' node
      have hrest := shifted_subtree url url' above above' address address' (index + node.width)
        (index' + node.width) rest
      have hwidth : width (node :: rest) = node.width + width rest := rfl
      unfold subtree
      refine List.rel_append (hnode.imp ?_) (hrest.imp ?_)
      · rintro x y ⟨way, step, steps, hlength, hstep, hplace⟩
        exact ⟨way, step, steps, hlength, by omega, hplace⟩
      · rintro x y ⟨way, step, steps, hlength, hstep, helement, hx, hy, hxa, hya⟩
        exact ⟨way, node.width + step, steps, hlength, by omega, helement, hx, hy,
          by rw [hxa, Nat.add_assoc], by rw [hya, Nat.add_assoc]⟩

end

/-! ### Child elements in one of their own -/

/-- The first steps down to what was a child of an element, when some of its child elements, `count`
of them from `first` on, are put into one. -/
def lift (first count i : Nat) : List Nat :=
  if i < first then [i] else if i < first + count then [first, i - first] else [i + 1 - count]

section Lift

variable {first count i j : Nat} {steps more : List Nat}

theorem lift_cases (first count i : Nat) :
    (i < first ∧ lift first count i = [i]) ∨
      ((first ≤ i ∧ i < first + count) ∧ lift first count i = [first, i - first]) ∨
      (first + count ≤ i ∧ lift first count i = [i + 1 - count]) := by
  unfold lift
  split
  · exact .inl ⟨‹_›, rfl⟩
  · split
    · exact .inr (.inl ⟨by omega, rfl⟩)
    · exact .inr (.inr ⟨by omega, rfl⟩)

theorem dropLast_lift (first count i : Nat) :
    (lift first count i).dropLast = if first ≤ i ∧ i < first + count then [first] else [] := by
  rcases lift_cases first count i with ⟨hi, h⟩ | ⟨hi, h⟩ | ⟨hi, h⟩
  · rw [h, if_neg (by omega)]
    rfl
  · rw [h, if_pos hi]
    rfl
  · rw [h, if_neg (by omega)]
    rfl

theorem lift_append_ne (first count i : Nat) (steps : List Nat) :
    lift first count i ++ steps ≠ [] ∧ lift first count i ++ steps ≠ [first] := by
  rcases lift_cases first count i with ⟨hi, h⟩ | ⟨hi, h⟩ | ⟨hi, h⟩
  · simp [h]
    omega
  · simp [h]
  · simp [h]
    omega

/-- Different ways lead to different places. -/
theorem lift_append_injective
    (h : lift first count i ++ steps = lift first count j ++ more) : i = j ∧ steps = more := by
  rcases lift_cases first count i with ⟨hi, hi'⟩ | ⟨hi, hi'⟩ | ⟨hi, hi'⟩ <;>
    rcases lift_cases first count j with ⟨hj, hj'⟩ | ⟨hj, hj'⟩ | ⟨hj, hj'⟩ <;>
      rw [hi', hj'] at h <;>
      simp only [List.cons_append, List.nil_append, List.cons.injEq] at h <;>
      exact ⟨by omega, by first | exact h.2 | exact h.2.2 | omega⟩

/-- The places right inside of the element are those of the children that were put into it. -/
theorem dropLast_lift_append_eq_iff : (lift first count i ++ steps).dropLast = [first] ↔
    (first ≤ i ∧ i < first + count) ∧ steps = [] := by
  by_cases hsteps : steps = []
  · rw [hsteps, List.append_nil, dropLast_lift]
    split <;> simp_all
  · rw [List.dropLast_append_of_ne_nil hsteps]
    exact iff_of_false (lift_append_ne first count i _).2 fun h => hsteps h.2

/-- Further down, places have the same parent as they had before. -/
theorem dropLast_lift_append_congr (hsteps : steps ≠ []) :
    (lift first count i ++ steps).dropLast = (lift first count j ++ more).dropLast ↔
      (i :: steps).dropLast = (j :: more).dropLast := by
  rw [List.dropLast_append_of_ne_nil hsteps, List.dropLast_cons_of_ne_nil hsteps]
  by_cases hmore : more = []
  · refine iff_of_false (fun h => ?_) (by simp [hmore])
    rw [hmore, List.append_nil, dropLast_lift] at h
    split at h
    · exact (lift_append_ne first count i _).2 h
    · exact (lift_append_ne first count i _).1 h
  · rw [List.dropLast_append_of_ne_nil hmore, List.dropLast_cons_of_ne_nil hmore,
      List.cons.injEq]
    constructor
    · exact lift_append_injective
    · rintro ⟨rfl, h⟩
      rw [h]

end Lift

/-- A place below an element, and the same one when some child elements are put into one. -/
structure Wrapped (c d : Cursor) (l : Element) (first : Nat) (x y : Cursor) : Prop where
  element : x.element = y.element
  way : ∃ way i steps, way.length = steps.length ∧
    x.above = way ++ c.element :: c.above ∧ x.address = c.address ++ i :: steps ∧
    y.above = way ++
      ((if first ≤ i ∧ i < first + width l.children then [l] else []) ++ d.element :: d.above) ∧
    y.address = c.address ++ (lift first (width l.children) i ++ steps)

/-- What is below an element is found in the same order when some child elements are put into one,
which comes on top of it. -/
theorem wrapped_descendants {c d : Cursor} {l : Element} {before after : List Node}
    (hc : c.element.children = before ++ (l.children ++ after))
    (hd : d.element.children = before ++ l.toNode :: after) (haddress : d.address = c.address) :
    ∃ front back, d.descendants = front ++
        ⟨l, d.element :: d.above, d.address ++ [width before], d.url⟩ :: back ∧
      List.Forall₂ (Wrapped c d l (width before)) c.descendants (front ++ back) := by
  have hsplit : d.descendants =
      subtree d.url (d.element :: d.above) d.address 0 before ++
        ⟨l, d.element :: d.above, d.address ++ [width before], d.url⟩ ::
          (subtree d.url (l :: d.element :: d.above) (d.address ++ [width before]) 0 l.children ++
            subtree d.url (d.element :: d.above) d.address (width before + 1) after) := by
    rw [descendants, hd, subtree_append, subtree, Element.toNode, subtreeOf, Nat.zero_add]
    rfl
  refine ⟨_, _, hsplit, ?_⟩
  have hbefore := shifted_subtree c.url d.url (c.element :: c.above) (d.element :: d.above)
    c.address d.address 0 0 before
  have hinside := shifted_subtree c.url d.url (c.element :: c.above) (l :: d.element :: d.above)
    c.address (d.address ++ [width before]) (width before) 0 l.children
  have hafter := shifted_subtree c.url d.url (c.element :: c.above) (d.element :: d.above)
    c.address d.address (width before + width l.children) (width before + 1) after
  rw [descendants, hc, subtree_append, subtree_append, Nat.zero_add]
  refine List.rel_append (hbefore.imp ?_) (List.rel_append (hinside.imp ?_) (hafter.imp ?_))
  · rintro x y ⟨way, step, steps, hlength, hstep, helement, hx, hy, hxa, hya⟩
    rw [Nat.zero_add] at hxa hya
    refine ⟨helement, way, step, steps, hlength, hx, hxa, ?_, ?_⟩
    · rw [if_neg (by omega), hy, List.nil_append]
    · rw [lift, if_pos hstep, hya, haddress, List.singleton_append]
  · rintro x y ⟨way, step, steps, hlength, hstep, helement, hx, hy, hxa, hya⟩
    refine ⟨helement, way, width before + step, steps, hlength, hx, hxa, ?_, ?_⟩
    · rw [if_pos (by omega), hy, List.singleton_append]
    · rw [lift, if_neg (by omega), if_pos (by omega), hya, haddress, Nat.add_sub_cancel_left,
        Nat.zero_add, List.append_assoc]
      rfl
  · rintro x y ⟨way, step, steps, hlength, hstep, helement, hx, hy, hxa, hya⟩
    refine ⟨helement, way, width before + width l.children + step, steps, hlength, hx, hxa, ?_, ?_⟩
    · rw [if_neg (by omega), hy, List.nil_append]
    · have hindex : width before + width l.children + step + 1 - width l.children =
          width before + 1 + step := by omega
      rw [lift, if_neg (by omega), if_neg (by omega), hya, haddress, hindex, List.singleton_append]

end Cursor

end Markup

end Stagecraft
