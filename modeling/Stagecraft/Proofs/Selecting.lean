import Mathlib.Data.List.Induction
import Mathlib.Data.List.Lex
import Stagecraft.Proofs.Pieces
import Stagecraft.Proofs.Places

/-!
# Selections

What a selector selects is said here without walking through the document. A place matches if its
nearest ancestors carry the tags of an alternative, read off the text of the selector
(`Cursor.Matches`); the ancestors of a place are those it has in the whole document, also above the
element that is searched. A selection holds the places that match, each once, and it is in document
order, which is the order of the addresses (`Cursor.Lists`).
-/

namespace Stagecraft

namespace Markup

namespace Cursor

variable {c d x : Cursor}

/-- The ancestor that is some steps up; without a step, the place itself. -/
def ancestor? (c : Cursor) : Nat → Option Cursor
  | 0 => some c
  | k + 1 => (c.ancestor? k).bind parent?

theorem ancestor?_succ (c : Cursor) (k : Nat) :
    c.ancestor? (k + 1) = c.parent?.bind (·.ancestor? k) := by
  induction k with
  | zero => cases h : c.parent? <;> simp [ancestor?, h]
  | succ k ih =>
      rw [ancestor?, ih]
      cases c.parent? <;> rfl

theorem map_element_ancestor? (c : Cursor) (k : Nat) :
    (c.ancestor? k).map element = c.lineage[k]? := by
  obtain ⟨e, above, address, url⟩ := c
  induction above generalizing e address k with
  | nil =>
      cases k with
      | zero => rfl
      | succ k => rw [ancestor?_succ]; rfl
  | cons f above ih =>
      cases k with
      | zero => rfl
      | succ k =>
          rw [ancestor?_succ]
          exact ih k f address.dropLast

/-- The tags of an alternative are carried by a place and its nearest ancestors, the last tag by the
place itself. -/
def Carries (x : Cursor) (tags : List String) : Prop :=
  ∀ k tag, tags.reverse[k]? = some tag → ∃ y, x.ancestor? k = some y ∧ (tag = "*" ∨ y.tag = tag)

/-- A place matches a selector: it carries the tags of an alternative. -/
def Matches (x : Cursor) (text : String) : Prop :=
  ∃ alternatives alternative parts tags, Text.Cut ',' text alternatives ∧
    alternative ∈ alternatives ∧ Text.Cut '>' alternative parts ∧
    List.Forall₂ (fun part tag => Text.TrimmedOf Text.isBlank part.toList tag.toList) parts tags ∧
    x.Carries tags

theorem lineageMatches_iff {patterns : List String} {es : List Element} :
    Selector.lineageMatches patterns es = true ↔
      ∀ (k : Nat) (tag : String), patterns[k]? = some tag →
        ∃ e, es[k]? = some e ∧ (tag = "*" ∨ Element.tag e = tag) := by
  induction patterns generalizing es with
  | nil => simp [Selector.lineageMatches]
  | cons pattern patterns ih =>
      cases es with
      | nil =>
          refine iff_of_false (by simp [Selector.lineageMatches]) fun h => ?_
          obtain ⟨e, he, -⟩ := h 0 pattern rfl
          cases he
      | cons e es =>
          rw [Selector.lineageMatches, Bool.and_eq_true, ih, Selector.tagMatches, Bool.or_eq_true,
            decide_eq_true_eq, decide_eq_true_eq]
          constructor
          · rintro ⟨hhead, htail⟩ k tag hk
            cases k with
            | zero =>
                cases hk
                exact ⟨e, rfl, hhead⟩
            | succ k => exact htail k tag hk
          · intro h
            obtain ⟨f, hf, htag⟩ := h 0 pattern rfl
            cases hf
            exact ⟨htag, fun k tag hk => h (k + 1) tag hk⟩

theorem carries_iff {tags : List String} :
    Selector.lineageMatches tags.reverse x.lineage = true ↔ x.Carries tags := by
  rw [lineageMatches_iff]
  refine forall_congr' fun k => forall_congr' fun tag => imp_congr_right fun _ => ?_
  rw [← map_element_ancestor?]
  simp only [Option.map_eq_some_iff]
  constructor
  · rintro ⟨e, ⟨y, hy, rfl⟩, htag⟩
    exact ⟨y, hy, htag⟩
  · rintro ⟨y, hy, htag⟩
    exact ⟨y.element, ⟨y, hy, rfl⟩, htag⟩

theorem matches_iff {text : String} :
    x.matchesSelector (.ofString text) = true ↔ x.Matches text := by
  unfold matchesSelector Selector.ofString
  simp only [List.any_map, List.any_eq_true, Function.comp_apply]
  constructor
  · rintro ⟨alternative, halternative, h⟩
    refine ⟨_, alternative, _, _, Text.cut_iff.2 rfl, halternative, Text.cut_iff.2 rfl, ?_,
      carries_iff.1 h⟩
    rw [List.forall₂_map_right_iff, List.forall₂_same]
    exact fun part _ => Text.trimmed_iff.2 rfl
  · rintro ⟨alternatives, alternative, parts, tags, halternatives, hmem, hparts, htags, h⟩
    rw [Text.cut_iff] at halternatives hparts
    subst halternatives hparts
    have hstrip : (Text.splitOn '>' alternative).map Text.strip = tags := by
      rw [← List.forall₂_eq_eq_eq, List.forall₂_map_left_iff]
      exact htags.imp fun part tag htag => Text.trimmed_iff.1 htag
    refine ⟨alternative, hmem, ?_⟩
    rw [hstrip]
    exact carries_iff.2 h

/-! ### The way down -/

theorem follow?_append_singleton (c : Cursor) (steps : List Nat) (i : Nat) :
    c.follow? (steps ++ [i]) = (c.follow? steps).bind (·.child? i) := by
  induction steps generalizing c with
  | nil => cases h : c.child? i <;> simp [follow?, h]
  | cons j steps ih =>
      rw [List.cons_append, follow?, follow?]
      cases c.child? j with
      | none => rfl
      | some d => exact ih d

/-- Going down and up again by as many steps leads back, and further up the ancestors are those of
the place that the way down began at. -/
theorem ancestor?_of_follow? {steps : List Nat} (h : c.follow? steps = some x) (k : Nat) :
    x.ancestor? (steps.length + k) = c.ancestor? k := by
  induction steps using List.reverseRecOn generalizing x k with
  | nil =>
      cases h
      rw [List.length_nil, Nat.zero_add]
  | append_singleton steps i ih =>
      rw [follow?_append_singleton] at h
      obtain ⟨p, hp, hx⟩ := Option.bind_eq_some_iff.1 h
      have hparent := parent?_of_mem_children (List.mem_of_getElem? hx)
      rw [List.length_append, List.length_singleton, Nat.add_right_comm, ancestor?_succ, hparent]
      exact ih hp k

/-- What is below a place is what some steps down lead to. -/
theorem mem_descendants_iff_follow? :
    x ∈ c.descendants ↔ ∃ steps, steps ≠ [] ∧ c.follow? steps = some x := by
  constructor
  · intro h
    induction hn : x.address.length using Nat.strongRecOn generalizing x with
    | ind n ih =>
        obtain ⟨p, hp, hx⟩ := exists_parent h
        obtain ⟨i, hi⟩ := exists_child? hx
        have hdown {steps : List Nat} (hsteps : c.follow? steps = some p) :
            ∃ steps, steps ≠ [] ∧ c.follow? steps = some x := by
          refine ⟨steps ++ [i], by simp, ?_⟩
          rw [follow?_append_singleton, hsteps]
          exact hi
        rcases List.mem_cons.1 hp with rfl | hp
        · exact @hdown [] rfl
        · have hlength := length_address_of_mem_children hx
          obtain ⟨steps, -, hsteps⟩ := ih p.address.length (by omega) hp rfl
          exact hdown hsteps
  · rintro ⟨steps, hne, h⟩
    induction steps using List.reverseRecOn generalizing x with
    | nil => exact absurd rfl hne
    | append_singleton steps i ih =>
        rw [follow?_append_singleton] at h
        obtain ⟨p, hp, hx⟩ := Option.bind_eq_some_iff.1 h
        have hchild : x ∈ p.children := List.mem_of_getElem? hx
        rw [mem_descendants_iff]
        by_cases hsteps : steps = []
        · subst hsteps
          cases hp
          exact .inl hchild
        · exact .inr ⟨p, ih hsteps hp, hchild⟩

/-! ### Document order -/

mutual

/-- The addresses of a subtree go on from that of its root. -/
theorem address_of_mem_subtreeOf {url : Option String} {above : List Element}
    {address : List Nat} {index : Nat} : {node : Node} →
      ∀ y ∈ subtreeOf url above address index node,
        ∃ steps, y.address = address ++ index :: steps ∧ node.width = 1
  | .element tag attributes line kids, y, hy => by
      unfold subtreeOf at hy
      rcases List.mem_cons.1 hy with rfl | hy
      · exact ⟨[], rfl, rfl⟩
      · obtain ⟨i, steps, hsteps, -⟩ := address_of_mem_subtree y hy
        exact ⟨i :: steps, by simpa using hsteps, rfl⟩
  | .text _, _, hy => nomatch hy
  | .comment _, _, hy => nomatch hy
  | .instruction _ _, _, hy => nomatch hy

/-- The addresses among siblings and below them go on from that of the parent. -/
theorem address_of_mem_subtree {url : Option String} {above : List Element}
    {address : List Nat} {index : Nat} : {nodes : List Node} →
      ∀ y ∈ subtree url above address index nodes,
        ∃ i steps, y.address = address ++ i :: steps ∧ index ≤ i
  | [], _, hy => nomatch hy
  | node :: rest, y, hy => by
      unfold subtree at hy
      rcases List.mem_append.1 hy with hy | hy
      · obtain ⟨steps, hsteps, -⟩ := address_of_mem_subtreeOf y hy
        exact ⟨index, steps, hsteps, le_refl index⟩
      · obtain ⟨i, steps, hsteps, hi⟩ := address_of_mem_subtree y hy
        exact ⟨i, steps, hsteps, by omega⟩

end

theorem append_lt_append_left {xs ys : List Nat} (address : List Nat) (h : xs < ys) :
    address ++ xs < address ++ ys := List.Lex.append_left (· < ·) h address

mutual

theorem pairwise_subtreeOf (url : Option String) (above : List Element) (address : List Nat)
    (index : Nat) : (node : Node) →
      (subtreeOf url above address index node).Pairwise fun x y => x.address < y.address
  | .element tag attributes line kids => by
      unfold subtreeOf
      refine List.Pairwise.cons (fun y hy => ?_) (pairwise_subtree url _ _ 0 kids)
      obtain ⟨i, steps, hsteps, -⟩ := address_of_mem_subtree y hy
      rw [hsteps, List.append_assoc]
      exact append_lt_append_left address (.cons .nil)
  | .text _ => .nil
  | .comment _ => .nil
  | .instruction _ _ => .nil

theorem pairwise_subtree (url : Option String) (above : List Element) (address : List Nat)
    (index : Nat) : (nodes : List Node) →
      (subtree url above address index nodes).Pairwise fun x y => x.address < y.address
  | [] => .nil
  | node :: rest => by
      unfold subtree
      refine List.pairwise_append.2 ⟨pairwise_subtreeOf url above address index node,
        pairwise_subtree url above address _ rest, fun x hx y hy => ?_⟩
      obtain ⟨steps, hsteps, hwidth⟩ := address_of_mem_subtreeOf x hx
      obtain ⟨i, more, hmore, hi⟩ := address_of_mem_subtree y hy
      rw [hsteps, hmore]
      exact append_lt_append_left address (.rel (by omega))

end

theorem siblings_sublist_subtree (url : Option String) (above : List Element)
    (address : List Nat) (index : Nat) (nodes : List Node) :
    (siblings url above address index nodes).Sublist (subtree url above address index nodes) := by
  induction nodes generalizing index with
  | nil => exact .slnil
  | cons node nodes ih =>
      unfold siblings subtree
      cases node with
      | element tag attributes line kids =>
          unfold subtreeOf
          exact ((ih (index + 1)).trans (List.sublist_append_right _ _)).cons_cons _
      | text content => exact ih index
      | comment content => exact ih index
      | instruction target content => exact ih index

/-- Places with a property, each once and in document order. -/
structure Lists (xs : List Cursor) (P : Cursor → Prop) : Prop where
  mem : ∀ x, x ∈ xs ↔ P x
  order : xs.Pairwise fun x y => x.address < y.address

theorem lists_find (c : Cursor) (text : String) :
    Lists (c.find (.ofString text)) fun x =>
      (∃ steps, steps ≠ [] ∧ c.follow? steps = some x) ∧ x.Matches text where
  mem x := by rw [find, List.mem_filter, mem_descendants_iff_follow?, matches_iff]
  order := (pairwise_subtree c.url _ c.address 0 c.element.children).filter _

theorem lists_select (c : Cursor) (text : String) :
    Lists (c.select (.ofString text)) fun x => (∃ i, c.child? i = some x) ∧ x.Matches text where
  mem x := by
    rw [select, List.mem_filter, matches_iff, List.mem_iff_getElem?]
    rfl
  order := ((pairwise_subtree c.url _ c.address 0 c.element.children).sublist
    (siblings_sublist_subtree c.url _ c.address 0 c.element.children)).filter _

/-! ### The way up -/

/-- The nearest among a place and its ancestors with a property. -/
def Nearest (P : Cursor → Prop) (c x : Cursor) : Prop :=
  ∃ k, c.ancestor? k = some x ∧ P x ∧ ∀ j < k, ∀ y, c.ancestor? j = some y → ¬ P y

variable {P : Cursor → Prop}

theorem nearest_of_holds (h : P c) : Nearest P c x ↔ c = x := by
  constructor
  · rintro ⟨_ | k, hk, -, hnone⟩
    · exact Option.some.inj hk
    · exact absurd h (hnone 0 k.succ_pos c rfl)
  · rintro rfl
    exact ⟨0, rfl, h, fun j hj => absurd hj j.not_lt_zero⟩

theorem nearest_of_not (h : ¬ P c) :
    Nearest P c x ↔ ∃ p, c.parent? = some p ∧ Nearest P p x := by
  constructor
  · rintro ⟨_ | k, hk, hx, hnone⟩
    · cases hk
      exact absurd hx h
    · rw [ancestor?_succ] at hk
      obtain ⟨p, hp, hk⟩ := Option.bind_eq_some_iff.1 hk
      refine ⟨p, hp, k, hk, hx, fun j hj y hy => hnone (j + 1) (by omega) y ?_⟩
      rw [ancestor?_succ, hp]
      exact hy
  · rintro ⟨p, hp, k, hk, hx, hnone⟩
    refine ⟨k + 1, ?_, hx, fun j hj y hy => ?_⟩
    · rw [ancestor?_succ, hp]
      exact hk
    · cases j with
      | zero =>
          cases hy
          exact h
      | succ j =>
          rw [ancestor?_succ, hp] at hy
          exact hnone j (by omega) y hy

theorem closest?_eq (c : Cursor) (s : Selector) :
    c.closest? s = if c.matchesSelector s then some c else c.parent?.bind (·.closest? s) := by
  obtain ⟨e, _ | ⟨f, above⟩, address, url⟩ := c <;> rfl

theorem closest?_eq_some_iff {text : String} :
    c.closest? (.ofString text) = some x ↔ Nearest (·.Matches text) c x := by
  induction hn : c.above.length using Nat.strongRecOn generalizing c with
  | ind n ih =>
      rw [closest?_eq]
      by_cases h : c.matchesSelector (.ofString text) = true
      · rw [if_pos h, nearest_of_holds (matches_iff.1 h), Option.some.injEq]
      · rw [if_neg h, nearest_of_not (mt matches_iff.2 h), Option.bind_eq_some_iff]
        refine exists_congr fun p => and_congr_right fun hp => ih p.above.length ?_ rfl
        -- On the way up there is one ancestor less each time.
        obtain ⟨e, _ | ⟨f, above⟩, address, url⟩ := c
        · cases hp
        · cases hp
          exact hn ▸ Nat.lt_succ_self _

/-- Does a node below some elements match? Only an element does. -/
def nodeMatches (s : Selector) (above : List Element) (node : Node) : Bool :=
  node.element?.any fun e => s.any fun chain => Selector.lineageMatches chain.reverse (e :: above)

theorem nodeMatches_iff {text : String} {above : List Element} {node : Node} :
    nodeMatches (.ofString text) above node = true ↔
      ∃ x : Cursor, node.element? = some x.element ∧ x.above = above ∧ x.Matches text := by
  unfold nodeMatches
  rw [Option.any_eq_true]
  constructor
  · rintro ⟨e, he, h⟩
    exact ⟨⟨e, above, [], none⟩, he, rfl, matches_iff.1 h⟩
  · rintro ⟨x, he, rfl, h⟩
    exact ⟨x.element, he, matches_iff.2 h⟩

/-- The children that match are the matching ones among all child nodes. -/
theorem map_element_select (c : Cursor) (s : Selector) :
    (c.select s).map element =
      (c.element.children.filter (nodeMatches s c.lineage)).filterMap Node.element? := by
  have hsiblings (index : Nat) (nodes : List Node) :
      ((siblings c.url c.lineage c.address index nodes).filter (·.matchesSelector s)).map element =
        (nodes.filter (nodeMatches s c.lineage)).filterMap Node.element? := by
    induction nodes generalizing index with
    | nil => rfl
    | cons node nodes ih =>
        unfold siblings
        cases hnode : node.element? with
        | none =>
            have hnot : nodeMatches s c.lineage node = false := by rw [nodeMatches, hnode]; rfl
            rw [List.filter_cons_of_neg (by simp [hnot])]
            exact ih index
        | some e =>
            have hsame : nodeMatches s c.lineage node =
                (⟨e, c.lineage, c.address ++ [index], c.url⟩ : Cursor).matchesSelector s := by
              rw [nodeMatches, hnode]
              rfl
            rw [List.filter_cons, List.filter_cons, hsame]
            split
            · rw [List.map_cons, List.filterMap_cons_some hnode, ih (index + 1)]
            · exact ih (index + 1)
  exact hsiblings 0 c.element.children

/-- What a selector finds below an element are the places there that match, each once and in
document order; the first of them comes first. Among the children it selects those that match, and
upwards it finds the nearest that does. Ancestors count up to the root of the document, and nothing
but elements matches. -/
theorem selections_of_text (c : Cursor) (text : String) :
    (∀ x : Cursor, x.matchesSelector (.ofString text) = true ↔ x.Matches text) ∧
    Lists (c.find (.ofString text)) (fun x =>
      (∃ steps, steps ≠ [] ∧ c.follow? steps = some x) ∧ x.Matches text) ∧
    c.first? (.ofString text) = (c.find (.ofString text)).head? ∧
    Lists (c.select (.ofString text)) (fun x => (∃ i, c.child? i = some x) ∧ x.Matches text) ∧
    (∀ x, c.closest? (.ofString text) = some x ↔ Nearest (·.Matches text) c x) ∧
    (∀ steps x, c.follow? steps = some x →
      ∀ k, x.ancestor? (steps.length + k) = c.ancestor? k) ∧
    (c.select (.ofString text)).map element =
      (c.element.children.filter (nodeMatches (.ofString text) c.lineage)).filterMap
        Node.element? ∧
    ∀ above node, nodeMatches (.ofString text) above node = true ↔
      ∃ x : Cursor, node.element? = some x.element ∧ x.above = above ∧ x.Matches text :=
  ⟨fun _ => matches_iff, lists_find c text, first?_eq_head? c _, lists_select c text,
    fun _ => closest?_eq_some_iff, fun _ _ h k => ancestor?_of_follow? h k,
    map_element_select c _, fun _ _ => nodeMatches_iff⟩

end Cursor

end Markup

end Stagecraft
