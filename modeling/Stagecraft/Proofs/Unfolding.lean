import Mathlib.Data.List.Chain
import Mathlib.Data.List.Perm.Subperm
import Mathlib.Logic.Relation
import Stagecraft.Proofs.Reactions

/-!
# Effects of actions

An action that emits an event stands for everything that the event leads to, in its place.
`Unfolds as es` says that the actions `as` come to the effects `es` in this way: in place of an
emission there are the conditions of the event, the effects of its actions and, in the end, the
notice to those who listen. There is one such list at most, and there is one unless events go round
in a circle: the events of a chain are then different from each other, and all of them but the last
are among those that are declared.
-/

namespace Stagecraft

/-- What a host does in the end, other than emitting events. -/
inductive Effect where
  | spawn (c : SpawnCondition)
  | sound (id : String)
  | start (sequence : String)
  | notify (event : String)

namespace Reactions

variable {r : Reactions} {event other : String} {k : Nat} {as : List Action} {es : List Effect}

/-- The effects of actions, in depth-first order. -/
inductive Unfolds (r : Reactions) : List Action → List Effect → Prop
  | nil : Unfolds r [] []
  | sound {id : String} {as : List Action} {es : List Effect} (rest : Unfolds r as es) :
      Unfolds r (.emitAudio id :: as) (.sound id :: es)
  | start {id : String} {as : List Action} {es : List Effect} (rest : Unfolds r as es) :
      Unfolds r (.play id :: as) (.start id :: es)
  | emit {event : String} {as : List Action} {es fs : List Effect}
      (inner : Unfolds r (r.actionsAt event) es) (rest : Unfolds r as fs) :
      Unfolds r (.emit event :: as)
        ((r.spawnsAt event).map .spawn ++ es ++ .notify event :: fs)

theorem Unfolds.unique {fs : List Effect} (h : r.Unfolds as es) (h' : r.Unfolds as fs) :
    es = fs := by
  induction h generalizing fs with
  | nil =>
      cases h'
      rfl
  | sound _ ih =>
      cases h' with
      | sound rest => rw [ih rest]
  | start _ ih =>
      cases h' with
      | start rest => rw [ih rest]
  | emit _ _ ihinner ihrest =>
      cases h' with
      | emit inner rest => rw [ihinner inner, ihrest rest]

/-- The actions of an event emit another one. -/
def Emits (r : Reactions) (event other : String) : Prop := .emit other ∈ r.actionsAt event

instance (r : Reactions) (event other : String) : Decidable (r.Emits event other) :=
  inferInstanceAs (Decidable (.emit other ∈ r.actionsAt event))

/-- From an event on, no event leads back to itself. -/
def Acyclic (r : Reactions) (event : String) : Prop :=
  ∀ other, Relation.ReflTransGen r.Emits event other → ¬ Relation.TransGen r.Emits other other

/-- A chain of events that starts with this one, each emitting the next, has `k` of them at most. -/
def Within (r : Reactions) (k : Nat) (event : String) : Prop :=
  ∀ chain, List.IsChain r.Emits (event :: chain) → chain.length < k

theorem Within.pos (h : r.Within k event) : 0 < k := h [] (.singleton event)

theorem Within.mono {j : Nat} (h : r.Within k event) (hkj : k ≤ j) : r.Within j event :=
  fun chain hchain => (h chain hchain).trans_le hkj

theorem Within.next (h : r.Within (k + 1) event) (hemits : r.Emits event other) :
    r.Within k other := by
  intro chain hchain
  have hlonger := h (other :: chain) (.cons_cons hemits hchain)
  rw [List.length_cons] at hlonger
  omega

/-- An event that emits another one is declared. -/
theorem mem_names_of_emits (h : r.Emits event other) :
    event ∈ r.bindings.map EventBinding.name := by
  obtain ⟨b, hb, -⟩ := List.mem_flatMap.1 h
  obtain ⟨hmem, hname⟩ := List.mem_filter.1 hb
  exact List.mem_map.2 ⟨b, hmem, by simpa using hname⟩

theorem dropLast_subset_names {chain : List String} (h : List.IsChain r.Emits chain) :
    chain.dropLast ⊆ r.bindings.map EventBinding.name := by
  induction chain with
  | nil => simp
  | cons event chain ih =>
      cases chain with
      | nil => simp
      | cons other chain =>
          obtain ⟨hemits, hrest⟩ := List.isChain_cons_cons.1 h
          rw [List.dropLast_cons_cons, List.cons_subset]
          exact ⟨mem_names_of_emits hemits, ih hrest⟩

/-- Without circles no event comes twice in a chain. -/
theorem Acyclic.nodup {chain : List String} (hr : r.Acyclic event)
    (h : List.IsChain r.Emits (event :: chain)) : (event :: chain).Nodup := by
  have hpairs : (event :: chain).Pairwise (Relation.TransGen r.Emits) :=
    List.isChain_iff_pairwise.1 (h.imp fun _ _ => .single)
  have hreach : ∀ e ∈ event :: chain, Relation.ReflTransGen r.Emits event e := by
    intro e he
    rcases List.mem_cons.1 he with rfl | he
    · exact .refl
    · exact ((List.pairwise_cons.1 hpairs).1 e he).to_reflTransGen
  apply hpairs.imp_of_mem
  rintro e f he - hef rfl
  exact hr e (hreach e he) hef

/-- Without circles a chain has no more events than are declared, and one more that is not. -/
theorem Acyclic.within (hr : r.Acyclic event) : r.Within (r.bindings.length + 1) event := by
  intro chain h
  have hnodup := (hr.nodup h).sublist (List.dropLast_sublist _)
  have hlength := (List.subperm_of_subset hnodup (dropLast_subset_names h)).length_le
  simp only [List.length_dropLast, List.length_cons, List.length_map] at hlength
  omega

/-- A rank that goes down from event to event bounds chains. -/
theorem within_of_rank (rank : String → Nat)
    (h : ∀ event other, r.Emits event other → rank other < rank event) :
    r.Within (rank event + 1) event := by
  intro chain hchain
  induction chain generalizing event with
  | nil => simp
  | cons other chain ih =>
      obtain ⟨hemits, hrest⟩ := List.isChain_cons_cons.1 hchain
      have hlt := h event other hemits
      have hlength := ih hrest
      rw [List.length_cons]
      omega

theorem acyclic_of_rank (rank : String → Nat)
    (h : ∀ event other, r.Emits event other → rank other < rank event) (event : String) :
    r.Acyclic event := by
  have hdown {e f : String} (hef : Relation.TransGen r.Emits e f) : rank f < rank e := by
    induction hef with
    | single hef => exact h _ _ hef
    | tail _ hfg ih => exact (h _ _ hfg).trans ih
  intro other _ hcircle
  exact (hdown hcircle).false

/-- It is enough to look for the rank at what is declared. -/
theorem rank_of_bindings (rank : String → Nat)
    (h : ∀ b ∈ r.bindings, ∀ other, .emit other ∈ b.actions → rank other < rank b.name)
    {event other : String} (hemits : r.Emits event other) : rank other < rank event := by
  obtain ⟨b, hb, hother⟩ := List.mem_flatMap.1 hemits
  obtain ⟨hmem, hname⟩ := List.mem_filter.1 hb
  have hrank := h b hmem other hother
  rwa [of_decide_eq_true hname] at hrank

/-- Actions whose chains of events come to an end have effects. -/
theorem exists_unfolds (h : ∀ event, .emit event ∈ as → r.Within k event) :
    ∃ es, r.Unfolds as es := by
  -- The chains get shorter with each emission; within a list the actions are taken one by one.
  induction k generalizing as with
  | zero =>
      induction as with
      | nil => exact ⟨[], .nil⟩
      | cons a as ih =>
          obtain ⟨es, hes⟩ := ih fun event hevent => h event (List.mem_cons_of_mem a hevent)
          cases a with
          | emitAudio id => exact ⟨_, .sound hes⟩
          | play id => exact ⟨_, .start hes⟩
          | emit event => exact absurd (h event List.mem_cons_self).pos (Nat.lt_irrefl 0)
  | succ k ihk =>
      induction as with
      | nil => exact ⟨[], .nil⟩
      | cons a as ih =>
          obtain ⟨es, hes⟩ := ih fun event hevent => h event (List.mem_cons_of_mem a hevent)
          cases a with
          | emitAudio id => exact ⟨_, .sound hes⟩
          | play id => exact ⟨_, .start hes⟩
          | emit event =>
              obtain ⟨inner, hinner⟩ := ihk fun other hother =>
                (h event List.mem_cons_self).next hother
              exact ⟨_, .emit hinner hes⟩

/-- Without circles every event has effects. -/
theorem Acyclic.exists_unfolds (hr : r.Acyclic event) : ∃ es, r.Unfolds [.emit event] es := by
  apply Reactions.exists_unfolds (k := r.bindings.length + 1)
  intro other hother
  cases List.mem_singleton.1 hother
  exact hr.within

end Reactions

end Stagecraft
