import Stagecraft.Loading.Loader
import Stagecraft.Proofs.Waiting

/-!
# The characters of attribute values

A document is read from characters that documents may hold, and references stand for such characters
only. So none of its attribute values has any other, wherever in the document the attribute stands:
a token is clean, then what has been read is clean after each token, and in the end the root is.
-/

namespace Stagecraft

namespace Markup

/-- A text of characters that documents may hold. -/
def IsClean (cs : List Char) : Prop := ∀ c ∈ cs, Token.isAllowed c = true

theorem isClean_nil : IsClean [] := fun _ h => absurd h List.not_mem_nil

theorem IsClean.cons {c : Char} {cs : List Char} (hc : Token.isAllowed c = true)
    (hcs : IsClean cs) : IsClean (c :: cs) := by
  intro d hd
  rcases List.mem_cons.1 hd with rfl | hd
  · exact hc
  · exact hcs d hd

/-- The values of attributes are clean. -/
def CleanValues (attributes : List (String × String)) : Prop :=
  ∀ a ∈ attributes, IsClean a.2.toList

mutual

/-- The attribute values of a node and below it are clean. -/
def Node.Clean : Node → Prop
  | .element _ attributes _ children => CleanValues attributes ∧ AllClean children
  | .text _ => True
  | .comment _ => True
  | .instruction _ _ => True

/-- The attribute values of nodes and below them are clean. -/
def AllClean : List Node → Prop
  | [] => True
  | node :: rest => node.Clean ∧ AllClean rest

end

theorem allClean_iff {nodes : List Node} : AllClean nodes ↔ ∀ n ∈ nodes, n.Clean := by
  induction nodes with
  | nil => simp [AllClean]
  | cons n nodes ih => simp [AllClean, ih]

/-- The attribute values of an element and below it are clean. -/
structure Element.Clean (e : Element) : Prop where
  values : CleanValues e.attributes
  children : AllClean e.children

namespace Token

theorem isAllowed_of_ofReference? {base : Nat} {digits : Option (List Nat)} {c : Char}
    (h : ofReference? base digits = some c) : isAllowed c = true := by
  unfold ofReference? at h
  obtain ⟨ds, -, h⟩ := Option.bind_eq_some_iff.1 h
  dsimp only at h
  split at h
  · rename_i hc
    cases h
    simp only [Bool.and_eq_true] at hc
    exact hc.2
  · cases h

theorem isAllowed_of_reference? {cs : List Char} {c : Char} (h : reference? cs = some c) :
    isAllowed c = true := by
  unfold reference? at h
  split at h
  · exact isAllowed_of_ofReference? h
  · exact isAllowed_of_ofReference? h
  · split at h <;> cases h <;> decide

theorem isAllowed_of_attributeChar? {c d : Char} (h : attributeChar? c = some d) :
    isAllowed d = true := by
  unfold attributeChar? at h
  split at h
  · cases h
  · rename_i hc
    split at h
    · cases h
      decide
    · cases h
      simp only [Bool.or_eq_true, not_or] at hc
      simpa using hc.2

theorem isClean_of_resolve? {raw : Char → Option Char}
    (hraw : ∀ c d, raw c = some d → isAllowed d = true) {fuel : Nat} {cs ds : List Char}
    (h : resolve? raw fuel cs = some ds) : IsClean ds := by
  induction fuel generalizing cs ds with
  | zero =>
      cases cs with
      | nil =>
          cases h
          exact isClean_nil
      | cons c cs => cases h
  | succ fuel ih =>
      unfold resolve? at h
      split at h
      · cases h
        exact isClean_nil
      · cases h
      · rename_i hfuel
        obtain rfl := Nat.succ.inj hfuel
        obtain ⟨r, -, h⟩ := Option.bind_eq_some_iff.1 h
        obtain ⟨c, hc, h⟩ := Option.bind_eq_some_iff.1 h
        obtain ⟨es, hes, h⟩ := Option.bind_eq_some_iff.1 h
        cases h
        exact .cons (isAllowed_of_reference? hc) (ih hes)
      · rename_i hfuel
        obtain rfl := Nat.succ.inj hfuel
        obtain ⟨d, hd, h⟩ := Option.bind_eq_some_iff.1 h
        obtain ⟨es, hes, h⟩ := Option.bind_eq_some_iff.1 h
        cases h
        exact .cons (hraw _ d hd) (ih hes)

theorem isClean_of_attribute? {cs rest : List Char} {a : String × String}
    (h : attribute? cs = some (a, rest)) : IsClean a.2.toList := by
  unfold attribute? at h
  obtain ⟨n, -, h⟩ := Option.bind_eq_some_iff.1 h
  dsimp only at h
  split at h
  · split at h
    · split at h
      · obtain ⟨u, -, h⟩ := Option.bind_eq_some_iff.1 h
        obtain ⟨value, hvalue, h⟩ := Option.bind_eq_some_iff.1 h
        cases h
        dsimp only
        rw [String.toList_ofList]
        exact isClean_of_resolve? (fun _ _ => isAllowed_of_attributeChar?) hvalue
      · cases h
    · cases h
  · cases h

theorem cleanValues_of_attributes? {fuel : Nat} {found attributes : List (String × String)}
    {cs rest : List Char} (hfound : CleanValues found)
    (h : attributes? fuel found cs = some (attributes, rest)) : CleanValues attributes := by
  induction fuel generalizing found cs with
  | zero => cases h
  | succ fuel ih =>
      unfold attributes? at h
      split at h
      · cases h
        exact hfound
      · cases h
        exact hfound
      · split at h
        · obtain ⟨r, hr, h⟩ := Option.bind_eq_some_iff.1 h
          dsimp only at h
          split at h
          · cases h
          · refine ih (fun a ha => ?_) h
            rcases List.mem_append.1 ha with ha | ha
            · exact hfound a ha
            · rw [List.mem_singleton.1 ha]
              exact isClean_of_attribute? hr
        · cases h

/-- The attribute values of a token are clean. -/
def Clean : Token → Prop
  | opening _ attributes _ _ => CleanValues attributes
  | _ => True

theorem clean_of_opening? {total : Nat} {cs rest : List Char} {t : Token}
    (h : opening? total cs = some (t, rest)) : t.Clean := by
  unfold opening? at h
  obtain ⟨n, -, h⟩ := Option.bind_eq_some_iff.1 h
  obtain ⟨r, hr, h⟩ := Option.bind_eq_some_iff.1 h
  have hclean : CleanValues r.1 :=
    cleanValues_of_attributes? (fun _ ha => absurd ha List.not_mem_nil) hr
  dsimp only at h
  split at h
  · cases h
    exact hclean
  · cases h
    exact hclean
  · cases h

theorem clean_of_instruction? {cs rest : List Char} {t : Token}
    (h : instruction? cs = some (t, rest)) : t.Clean := by
  unfold instruction? at h
  obtain ⟨n, -, h⟩ := Option.bind_eq_some_iff.1 h
  obtain ⟨r, -, h⟩ := Option.bind_eq_some_iff.1 h
  dsimp only at h
  split at h
  · cases h
  · split at h
    · cases h
      trivial
    · split at h
      · cases h
        trivial
      · cases h

theorem clean_of_next? {total : Nat} {cs rest : List Char} {t : Token}
    (h : next? total cs = some (t, rest)) : t.Clean := by
  -- Only an opening tag has attributes, so the other tokens have to be told apart and no more.
  unfold next? at h
  split at h
  · obtain ⟨r, -, h⟩ := Option.bind_eq_some_iff.1 h
    dsimp only at h
    split at h
    · cases h
      trivial
    · cases h
  · obtain ⟨r, -, h⟩ := Option.bind_eq_some_iff.1 h
    dsimp only at h
    split at h
    · cases h
      trivial
    · cases h
  · obtain ⟨r, -, h⟩ := Option.map_eq_some_iff.1 h
    cases h
    trivial
  · exact clean_of_instruction? h
  · unfold closing? at h
    obtain ⟨n, -, h⟩ := Option.bind_eq_some_iff.1 h
    dsimp only at h
    split at h
    · cases h
      trivial
    · cases h
  · exact clean_of_opening? h
  · dsimp only at h
    split at h
    · cases h
    · obtain ⟨content, -, h⟩ := Option.bind_eq_some_iff.1 h
      cases h
      trivial

theorem clean_of_readAll? {total fuel : Nat} {cs : List Char} {ts : List Token}
    (h : readAll? total fuel cs = some ts) : ∀ t ∈ ts, t.Clean := by
  induction fuel generalizing cs ts with
  | zero =>
      cases cs with
      | nil =>
          cases h
          exact fun _ ht => absurd ht List.not_mem_nil
      | cons c cs => cases h
  | succ fuel ih =>
      cases cs with
      | nil =>
          cases h
          exact fun _ ht => absurd ht List.not_mem_nil
      | cons c cs =>
          obtain ⟨r, hr, h⟩ := Option.bind_eq_some_iff.1 h
          obtain ⟨us, hus, h⟩ := Option.bind_eq_some_iff.1 h
          cases h
          intro t ht
          rcases List.mem_cons.1 ht with rfl | ht
          · exact clean_of_next? hr
          · exact ih hus t ht

end Token

namespace Scope

variable {scope : Scope}

/-- Resolving the name of an attribute leaves its value. -/
theorem value_of_attribute? {a b : String × String} (h : scope.attribute? a = some b) :
    b.2 = a.2 := by
  obtain ⟨name, -, h⟩ := Option.bind_eq_some_iff.1 h
  dsimp only at h
  split at h
  · cases h
    rfl
  · obtain ⟨address, -, h⟩ := Option.bind_eq_some_iff.1 h
    cases h
    rfl

theorem cleanValues_of_attributes? {attributes resolved : List (String × String)}
    (hclean : CleanValues attributes) (h : scope.attributes? attributes = some resolved) :
    CleanValues resolved := by
  obtain ⟨found, hfound, h⟩ := Option.bind_eq_some_iff.1 h
  split at h
  · cases h
    intro b hb
    obtain ⟨a, ha, hab⟩ := Attempt.exists_mem_of_forall₂ (Attempt.mapM_eq_some_iff.1 hfound) hb
    rw [value_of_attribute? hab]
    exact hclean a (List.mem_filter.1 ha).1
  · cases h

end Scope

/-- An open element is clean so far. -/
structure OpenElement.Clean (o : OpenElement) : Prop where
  values : CleanValues o.attributes
  children : AllClean o.reversed

namespace OpenElement

variable {o : OpenElement}

theorem Clean.push (ho : o.Clean) {n : Node} (hn : n.Clean) : (o.push n).Clean :=
  ⟨ho.values, ⟨hn, ho.children⟩⟩

theorem Clean.pushText (ho : o.Clean) (content : String) : (o.pushText content).Clean := by
  unfold OpenElement.pushText
  split
  · rename_i before rest hreversed
    have hchildren := ho.children
    rw [hreversed] at hchildren
    exact ⟨ho.values, ⟨trivial, hchildren.2⟩⟩
  · exact ho.push trivial

theorem Clean.close (ho : o.Clean) : o.close.Clean := by
  refine ⟨ho.values, allClean_iff.2 fun n hn => ?_⟩
  exact allClean_iff.1 ho.children n (List.mem_reverse.1 hn)

end OpenElement

/-- What has been read is clean. -/
structure Reading.Clean (r : Reading) : Prop where
  stack : ∀ o ∈ r.stack, o.Clean
  root : ∀ e, r.root? = some e → e.Clean

namespace Reading

variable {r : Reading}

theorem Clean.withTop (hr : r.Clean) {o : OpenElement} {rest : List OpenElement}
    (hstack : r.stack = o :: rest) {p : OpenElement} (hp : p.Clean) :
    Clean { r with stack := p :: rest } := by
  refine ⟨fun q hq => ?_, hr.root⟩
  rcases List.mem_cons.1 hq with rfl | hq
  · exact hp
  · exact hr.stack q (hstack ▸ List.mem_cons_of_mem o hq)

theorem Clean.add (hr : r.Clean) {n : Node} (hn : n.Clean) : (r.add n).Clean := by
  unfold Reading.add
  split
  · rename_i o rest hstack
    exact hr.withTop hstack ((hr.stack o (hstack ▸ List.mem_cons_self)).push hn)
  · exact hr

theorem Clean.finish (hr : r.Clean) {e : Element} (he : e.Clean) {s : Reading}
    (h : r.finish? e = some s) : s.Clean := by
  unfold finish? at h
  split at h
  · rename_i o rest hstack
    cases h
    have hnode : Node.Clean (.element e.tag e.attributes e.line e.children) :=
      ⟨he.values, he.children⟩
    exact hr.withTop hstack ((hr.stack o (hstack ▸ List.mem_cons_self)).push hnode)
  · cases h
    refine ⟨hr.stack, fun f hf => ?_⟩
    cases hf
    exact he
  · cases h

theorem clean_of_opened? {name : String} {attributes : List (String × String)} {line : Nat}
    {o : OpenElement} (hvalues : CleanValues attributes)
    (h : r.opened? name attributes line = some o) : o.Clean := by
  obtain ⟨scope, -, h⟩ := Option.bind_eq_some_iff.1 h
  obtain ⟨tag, -, h⟩ := Option.bind_eq_some_iff.1 h
  obtain ⟨resolved, hresolved, h⟩ := Option.bind_eq_some_iff.1 h
  cases h
  exact ⟨Scope.cleanValues_of_attributes? hvalues hresolved, trivial⟩

/-- A clean token keeps what has been read clean. -/
theorem Clean.step (hr : r.Clean) {t : Token} (ht : t.Clean) {s : Reading}
    (h : r.step? t = some s) : s.Clean := by
  cases t with
  | opening name attributes line closed =>
      dsimp only [step?] at h
      split at h
      · cases h
      · obtain ⟨p, hp, h⟩ := Option.bind_eq_some_iff.1 h
        have hclean : p.Clean := clean_of_opened? ht hp
        split at h
        · exact hr.finish hclean.close h
        · cases h
          refine ⟨fun o ho => ?_, hr.root⟩
          rcases List.mem_cons.1 ho with rfl | ho
          · exact hclean
          · exact hr.stack o ho
  | closing tag =>
      dsimp only [step?] at h
      split at h
      · rename_i o rest hstack
        split at h
        · have hrest : Clean { r with stack := rest } :=
            ⟨fun p hp => hr.stack p (hstack ▸ List.mem_cons_of_mem o hp), hr.root⟩
          exact hrest.finish (hr.stack o (hstack ▸ List.mem_cons_self)).close h
        · cases h
      · cases h
  | text content =>
      dsimp only [step?] at h
      split at h
      · rename_i o rest hstack
        cases h
        exact hr.withTop hstack ((hr.stack o (hstack ▸ List.mem_cons_self)).pushText _)
      · -- blanks outside the root are dropped
        split at h
        · cases h
          exact hr
        · cases h
  | literal content =>
      dsimp only [step?] at h
      split at h
      · rename_i o rest hstack
        cases h
        exact hr.withTop hstack ((hr.stack o (hstack ▸ List.mem_cons_self)).pushText _)
      · cases h
  | comment content =>
      cases h
      exact hr.add trivial
  | instruction target content =>
      cases h
      exact hr.add trivial
  | doctype =>
      dsimp only [step?] at h
      split at h
      · cases h
        exact ⟨hr.stack, hr.root⟩
      · cases h

theorem Clean.run (hr : r.Clean) {ts : List Token} (hts : ∀ t ∈ ts, t.Clean) {s : Reading}
    (h : ts.foldlM step? r = some s) : s.Clean := by
  induction ts generalizing r with
  | nil =>
      cases h
      exact hr
  | cons t ts ih =>
      obtain ⟨q, hq, h⟩ := Option.bind_eq_some_iff.1 h
      exact ih (hr.step (hts t List.mem_cons_self) hq)
        (fun u hu => hts u (List.mem_cons_of_mem t hu)) h

end Reading

/-- The attribute values of a document are clean. -/
theorem clean_of_parse? {s : String} {e : Element} (h : parse? s = some e) : e.Clean := by
  obtain ⟨ts, hts, h⟩ := Option.bind_eq_some_iff.1 h
  obtain ⟨cs, -, hts⟩ := Option.bind_eq_some_iff.1 hts
  obtain ⟨r, hr, h⟩ := Option.bind_eq_some_iff.1 h
  have hempty : Reading.Clean {} :=
    ⟨fun _ ho => absurd ho List.not_mem_nil, fun _ he => nomatch he⟩
  split at h
  · exact (hempty.run (Token.clean_of_readAll? hts) hr).root e h
  · cases h

namespace Cursor

variable {c d : Cursor}

theorem clean_of_mem_siblings {url : Option String} {above : List Element} {address : List Nat}
    {index : Nat} {nodes : List Node} (hnodes : AllClean nodes)
    (h : d ∈ siblings url above address index nodes) : d.element.Clean := by
  induction nodes generalizing index with
  | nil => cases h
  | cons node rest ih =>
      unfold siblings at h
      split at h
      · rename_i e he
        rcases List.mem_cons.1 h with rfl | h
        · cases node with
          | element tag attributes line children =>
              cases he
              exact ⟨hnodes.1.1, hnodes.1.2⟩
          | text content => cases he
          | comment content => cases he
          | instruction target content => cases he
        · exact ih hnodes.2 h
      · exact ih hnodes.2 h

theorem clean_of_mem_children (hc : c.element.Clean) (h : d ∈ c.children) : d.element.Clean :=
  clean_of_mem_siblings hc.children h

theorem clean_of_mem_childrenTagged (hc : c.element.Clean) {tag : String}
    (h : d ∈ c.childrenTagged tag) : d.element.Clean :=
  clean_of_mem_children hc (List.mem_filter.1 h).1

mutual

theorem clean_of_mem_subtreeOf {url : Option String} {above : List Element} {address : List Nat}
    {index : Nat} : {node : Node} → node.Clean → d ∈ subtreeOf url above address index node →
    d.element.Clean
  | .element tag attributes line children, hnode, h => by
      rcases List.mem_cons.1 h with rfl | h
      · exact ⟨hnode.1, hnode.2⟩
      · exact clean_of_mem_subtree hnode.2 h
  | .text _, _, h => nomatch h
  | .comment _, _, h => nomatch h
  | .instruction _ _, _, h => nomatch h

theorem clean_of_mem_subtree {url : Option String} {above : List Element} {address : List Nat}
    {index : Nat} : {nodes : List Node} → AllClean nodes →
    d ∈ subtree url above address index nodes → d.element.Clean
  | [], _, h => nomatch h
  | node :: rest, hnodes, h => by
      rcases List.mem_append.1 h with h | h
      · exact clean_of_mem_subtreeOf hnodes.1 h
      · exact clean_of_mem_subtree hnodes.2 h

end

theorem clean_of_mem_find (hc : c.element.Clean) {s : Selector} (h : d ∈ c.find s) :
    d.element.Clean :=
  clean_of_mem_subtree hc.children (List.mem_filter.1 h).1

end Cursor

end Markup

namespace Loader

open Markup

/-- The characters of attributes are ones that documents may hold, whoever reads the documents. -/
def ReadsClean (l : Loader) : Prop :=
  ∀ url content d, l.read url content = .ok d → d.root.Clean

/-- So it is where nobody else reads. -/
theorem clean_of_asDocument {url : String} {content : Content} {d : Document}
    (h : content.asDocument url = .ok d) : d.root.Clean := by
  unfold Content.asDocument at h
  split at h
  · rename_i root hroot
    cases h
    obtain ⟨text, -, htext⟩ := Option.bind_eq_some_iff.1 hroot
    exact clean_of_parse? htext
  · cases h

variable {l : Loader} {s : Start} {root : Cursor}

/-- Documents that are loaded are clean. -/
theorem clean_of_loadDocument (hl : l.ReadsClean) {url : String}
    (h : (l.loadDocument url s).result = .ok root) : root.element.Clean := by
  obtain ⟨content, -, h⟩ := Timed.bind_eq_ok_iff.1 h
  obtain ⟨d, hd, h⟩ := Timed.bind_eq_ok_iff.1 h
  cases h
  rw [Timed.lift_result] at hd
  unfold documentOf at hd
  cases hread : l.read url content with
  | error refusal =>
      rw [hread] at hd
      cases hd
  | ok d' =>
      rw [hread] at hd
      cases hd
      exact hl url content d hread

theorem clean_of_follow (hl : l.ReadsClean) {c : Cursor} (hc : c.element.Clean)
    (h : (l.follow c s).result = .ok root) : root.element.Clean := by
  obtain ⟨url, -, h⟩ := Timed.bind_eq_ok_iff.1 h
  cases url with
  | none =>
      cases h
      exact hc
  | some url => exact clean_of_loadDocument hl h

end Loader

end Stagecraft
