import Mathlib.Data.List.Perm.Basic
import Stagecraft.Markup.Selector

/-!
# Places below an element

The walk over everything below an element takes each element along with its own children, once and
nothing else: what it meets is, up to the order, the children of the root and those of what it
meets (`descendants_perm`). An address grows by one number with each step down, so that inside one
document it tells the places apart (`eq_of_address`).
-/

namespace Stagecraft

namespace Markup

namespace Cursor

variable {c d p : Cursor}

theorem getElem?_siblings (url : Option String) (above : List Element) (address : List Nat)
    (index i : Nat) (nodes : List Node) :
    (siblings url above address index nodes)[i]? =
      (nodes.filterMap Node.element?)[i]?.map fun e => ⟨e, above, address ++ [index + i], url⟩ := by
  induction nodes generalizing index i with
  | nil => rfl
  | cons node nodes ih =>
      unfold siblings
      cases hnode : node.element? with
      | none => rw [List.filterMap_cons_none hnode, ← ih]
      | some e =>
          rw [List.filterMap_cons_some hnode]
          cases i with
          | zero => rfl
          | succ i =>
              simp only [List.getElem?_cons_succ, ih]
              rw [Nat.add_right_comm index 1 i, Nat.add_assoc index i 1]

theorem child?_eq_some_iff {i : Nat} :
    c.child? i = some d ↔ ∃ e, (c.element.children.filterMap Node.element?)[i]? = some e ∧
      d = ⟨e, c.element :: c.above, c.address ++ [i], c.url⟩ := by
  unfold child? children
  rw [getElem?_siblings, Option.map_eq_some_iff, Nat.zero_add]
  exact exists_congr fun e => and_congr_right fun _ => eq_comm

theorem exists_child? (h : d ∈ p.children) : ∃ i, p.child? i = some d :=
  List.mem_iff_getElem?.1 h

theorem parent?_of_mem_children (h : d ∈ p.children) : d.parent? = some p := by
  obtain ⟨i, hi⟩ := exists_child? h
  obtain ⟨e, -, rfl⟩ := child?_eq_some_iff.1 hi
  simp [parent?]

theorem length_address_of_mem_children (h : d ∈ p.children) :
    d.address.length = p.address.length + 1 := by
  obtain ⟨i, hi⟩ := exists_child? h
  obtain ⟨e, -, rfl⟩ := child?_eq_some_iff.1 hi
  simp

theorem dropLast_address_of_mem_children (h : d ∈ p.children) :
    d.address.dropLast = p.address := by
  obtain ⟨i, hi⟩ := exists_child? h
  obtain ⟨e, -, rfl⟩ := child?_eq_some_iff.1 hi
  simp

theorem eq_of_address_children (hc : c ∈ p.children) (hd : d ∈ p.children)
    (h : c.address = d.address) : c = d := by
  obtain ⟨i, hi⟩ := exists_child? hc
  obtain ⟨j, hj⟩ := exists_child? hd
  obtain ⟨e, he, rfl⟩ := child?_eq_some_iff.1 hi
  obtain ⟨f, hf, rfl⟩ := child?_eq_some_iff.1 hj
  have hij : i = j := by simpa using h
  subst hij
  cases he.symm.trans hf
  rfl

mutual

theorem subtreeOf_perm (url : Option String) (above : List Element) (address : List Nat)
    (index : Nat) : (node : Node) → (subtreeOf url above address index node).Perm
      (siblings url above address index [node] ++
        (subtreeOf url above address index node).flatMap children)
  | .element tag attributes line kids => by
      -- The children of the element are the siblings that the walk goes on with.
      have hkids := subtree_perm url (⟨tag, attributes, line, kids⟩ :: above) (address ++ [index])
        0 kids
      unfold subtreeOf
      rw [List.flatMap_cons]
      exact hkids.cons _
  | .text content => by simp [subtreeOf, siblings, Node.element?]
  | .comment content => by simp [subtreeOf, siblings, Node.element?]
  | .instruction target content => by simp [subtreeOf, siblings, Node.element?]

theorem subtree_perm (url : Option String) (above : List Element) (address : List Nat)
    (index : Nat) : (nodes : List Node) → (subtree url above address index nodes).Perm
      (siblings url above address index nodes ++
        (subtree url above address index nodes).flatMap children)
  | [] => by simp [subtree, siblings]
  | node :: rest => by
      have hnode := subtreeOf_perm url above address index node
      have hrest := subtree_perm url above address (index + node.width) rest
      have hsplit : siblings url above address index (node :: rest) =
          siblings url above address index [node] ++
            siblings url above address (index + node.width) rest := by
        cases node <;> simp [siblings, Node.element?, Node.width]
      unfold subtree
      rw [hsplit, List.flatMap_append, List.append_assoc]
      refine (hnode.append hrest).trans ?_
      rw [List.append_assoc]
      refine List.Perm.append_left _ ?_
      rw [← List.append_assoc, ← List.append_assoc]
      exact List.perm_append_comm.append_right _

end

/-- What is below an element are its children and the children of what is below it, each once. -/
theorem descendants_perm (c : Cursor) :
    c.descendants.Perm (c.children ++ c.descendants.flatMap children) :=
  subtree_perm c.url (c.element :: c.above) c.address 0 c.element.children

theorem mem_descendants_iff :
    d ∈ c.descendants ↔ d ∈ c.children ∨ ∃ p ∈ c.descendants, d ∈ p.children := by
  rw [(descendants_perm c).mem_iff, List.mem_append, List.mem_flatMap]

/-- What is below an element has its parent there, or it is one of the children. -/
theorem exists_parent (h : d ∈ c.descendants) : ∃ p ∈ c :: c.descendants, d ∈ p.children := by
  rcases mem_descendants_iff.1 h with h | ⟨p, hp, h⟩
  · exact ⟨c, List.mem_cons_self, h⟩
  · exact ⟨p, List.mem_cons_of_mem c hp, h⟩

theorem length_address_lt (h : d ∈ c.descendants) : c.address.length < d.address.length := by
  -- The way up from a place gets to the root, as every step makes the address shorter.
  induction hn : d.address.length using Nat.strongRecOn generalizing d with
  | ind n ih =>
      obtain ⟨p, hp, hd⟩ := exists_parent h
      have hlength := length_address_of_mem_children hd
      rcases List.mem_cons.1 hp with rfl | hp
      · omega
      · have := ih p.address.length (by omega) hp rfl
        omega

/-- Inside one document, an address is that of one place only. -/
theorem eq_of_address {a b : Cursor} (ha : a ∈ c :: c.descendants) (hb : b ∈ c :: c.descendants)
    (h : a.address = b.address) : a = b := by
  induction hn : a.address.length using Nat.strongRecOn generalizing a b with
  | ind n ih =>
      have hlength := congrArg List.length h
      rcases List.mem_cons.1 ha with rfl | ha
      · rcases List.mem_cons.1 hb with rfl | hb
        · rfl
        · have := length_address_lt hb
          omega
      · rcases List.mem_cons.1 hb with rfl | hb
        · have := length_address_lt ha
          omega
        · obtain ⟨p, hp, hap⟩ := exists_parent ha
          obtain ⟨q, hq, hbq⟩ := exists_parent hb
          have hup : p.address = q.address := by
            rw [← dropLast_address_of_mem_children hap, h, dropLast_address_of_mem_children hbq]
          have hshort := length_address_of_mem_children hap
          obtain rfl := ih p.address.length (by omega) hp hq hup rfl
          exact eq_of_address_children hap hbq h

/-- Places of one document have the same parent exactly when their addresses differ in the last
number at most. -/
theorem parent?_eq_iff {a b : Cursor} (ha : a ∈ c.descendants) (hb : b ∈ c.descendants) :
    a.parent? = b.parent? ↔ a.address.dropLast = b.address.dropLast := by
  obtain ⟨p, hp, hap⟩ := exists_parent ha
  obtain ⟨q, hq, hbq⟩ := exists_parent hb
  rw [parent?_of_mem_children hap, parent?_of_mem_children hbq,
    dropLast_address_of_mem_children hap, dropLast_address_of_mem_children hbq, Option.some.injEq]
  exact ⟨fun h => h ▸ rfl, eq_of_address hp hq⟩

end Cursor

end Markup

end Stagecraft
