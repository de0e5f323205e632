import Stagecraft.Router.Expression

/-!
# Constructs of expressions

An expression is searched for forbidden constructs level by level. The search meets every construct
that is in it anywhere, and each one as often as it occurs, so that what it says holds of the parts
of the expression as well. `Plain` says what an expression without forbidden constructs is made of.
-/

namespace Stagecraft

namespace Router

namespace Form

mutual

/-- All constructs, each one before those of its parts. -/
def constructs : Form → List String
  | node c parts => c :: constructsAll parts

/-- The constructs of shapes side by side. -/
def constructsAll : List Form → List String
  | [] => []
  | f :: fs => constructs f ++ constructsAll fs

end

theorem constructsAll_eq_flatMap (fs : List Form) : constructsAll fs = fs.flatMap constructs := by
  induction fs with
  | nil => rfl
  | cons f fs ih => simp [constructsAll, ih]

theorem constructsAll_append (fs gs : List Form) :
    constructsAll (fs ++ gs) = constructsAll fs ++ constructsAll gs := by
  simp [constructsAll_eq_flatMap]

/-- Merging levels keeps what is on them. -/
theorem flatten_mergeLevels_perm (as bs : List (List String)) :
    (mergeLevels as bs).flatten.Perm (as.flatten ++ bs.flatten) := by
  induction as generalizing bs with
  | nil => simp [mergeLevels]
  | cons a as ih =>
      cases bs with
      | nil => simp [mergeLevels]
      | cons b bs =>
          -- The second level of the one comes before the first level of the other.
          simp only [mergeLevels, List.flatten_cons, List.append_assoc]
          refine List.Perm.append_left a ?_
          have hswap := (@List.perm_append_comm _ b as.flatten).append_right bs.flatten
          simp only [List.append_assoc] at hswap
          exact ((ih bs).append_left b).trans hswap

mutual

theorem flatten_levels_perm : (f : Form) → f.levels.flatten.Perm f.constructs
  | node c parts => by
      simpa [levels, constructs] using flatten_levelsAll_perm parts

theorem flatten_levelsAll_perm : (fs : List Form) →
    (levelsAll fs).flatten.Perm (constructsAll fs)
  | [] => .refl _
  | f :: fs =>
      (flatten_mergeLevels_perm _ _).trans
        ((flatten_levels_perm f).append (flatten_levelsAll_perm fs))

end

/-- The walk meets the same constructs, as often as they occur. -/
theorem walk_perm (f : Form) : f.walk.Perm f.constructs := flatten_levels_perm f

end Form

namespace Expr

/-- The constructs of an expression and of all of its parts. -/
def constructs (e : Expr) : List String := e.form.constructs

theorem forbidden?_eq_none_iff {e : Expr} :
    e.forbidden? = none ↔ ∀ c ∈ e.constructs, c ∈ permitted := by
  simp [forbidden?, constructs, (Form.walk_perm e.form).mem_iff]

/-- What routers are made of, in the functions inside of them as well: constants, sequences, a few
operators, comparisons, choices and functions. -/
inductive Plain : Expr → Prop
  | constant (d : Datum) : Plain (.constant d)
  | tuple {items : List Expr} (h : ∀ e ∈ items, Plain e) : Plain (.tuple items)
  | list {items : List Expr} (h : ∀ e ∈ items, Plain e) : Plain (.list items)
  | unary {op : UnaryOp} {e : Expr} (hop : op = .not ∨ op = .negative) (h : Plain e) :
      Plain (.unary op e)
  | binary {op : BinaryOp} {a b : Expr} (hop : op = .add ∨ op = .sub ∨ op = .div) (ha : Plain a)
      (hb : Plain b) : Plain (.binary op a b)
  | logic (op : LogicOp) {items : List Expr} (h : ∀ e ∈ items, Plain e) : Plain (.logic op items)
  | compare {first : Expr} (ops : List CompareOp) {rest : List Expr} (hfirst : Plain first)
      (hrest : ∀ e ∈ rest, Plain e) : Plain (.compare first ops rest)
  | choice {test body other : Expr} (htest : Plain test) (hbody : Plain body)
      (hother : Plain other) : Plain (.choice test body other)
  | lambda (names : List String) {keywordDefaults defaults : List Expr} {body : Expr}
      (hkeywords : ∀ e ∈ keywordDefaults, Plain e) (hdefaults : ∀ e ∈ defaults, Plain e)
      (hbody : Plain body) : Plain (.lambda names keywordDefaults defaults body)

theorem unary_plain_of_mem {op : UnaryOp} (h : op.construct ∈ permitted) :
    op = .not ∨ op = .negative := by
  cases op <;> revert h <;> decide

theorem binary_plain_of_mem {op : BinaryOp} (h : op.construct ∈ permitted) :
    op = .add ∨ op = .sub ∨ op = .div := by
  cases op <;> revert h <;> decide

theorem foreign_not_mem (c : Foreign) : c.construct ∉ permitted := by
  cases c <;> decide

mutual

/-- What is made of permitted constructs is plain. -/
theorem plain_of_subset : (e : Expr) → e.constructs ⊆ permitted → e.Plain
  | constant d, _ => .constant d
  | tuple items, h => .tuple (plain_of_subsetAll items (List.cons_subset.1 h).2)
  | list items, h => .list (plain_of_subsetAll items (List.cons_subset.1 h).2)
  | unary op operand, h => by
      simp only [constructs, form, Form.constructs, Form.constructsAll, Form.leaf,
        List.cons_append, List.nil_append, List.append_nil, List.cons_subset] at h
      exact .unary (unary_plain_of_mem h.2.1) (plain_of_subset operand h.2.2)
  | binary op left right, h => by
      simp only [constructs, form, Form.constructs, Form.constructsAll, Form.leaf,
        List.cons_append, List.nil_append, List.append_nil, List.cons_subset,
        List.append_subset] at h
      exact .binary (binary_plain_of_mem h.2.2.1) (plain_of_subset left h.2.1)
        (plain_of_subset right h.2.2.2)
  | logic op items, h =>
      .logic op (plain_of_subsetAll items (List.cons_subset.1 (List.cons_subset.1 h).2).2)
  | compare first ops rest, h => by
      simp only [constructs, form, Form.constructs, Form.constructsAll, Form.constructsAll_append,
        List.cons_subset, List.append_subset] at h
      exact .compare ops (plain_of_subset first h.2.1) (plain_of_subsetAll rest h.2.2.2)
  | choice test body other, h => by
      simp only [constructs, form, Form.constructs, Form.constructsAll, List.append_nil,
        List.cons_subset, List.append_subset] at h
      exact .choice (plain_of_subset test h.2.1) (plain_of_subset body h.2.2.1)
        (plain_of_subset other h.2.2.2)
  | lambda names keywordDefaults defaults body, h => by
      simp only [constructs, form, Form.constructs, Form.constructsAll, Form.constructsAll_append,
        List.append_nil, List.cons_append, List.cons_subset, List.append_subset] at h
      exact .lambda names (plain_of_subsetAll keywordDefaults h.2.2.1.1)
        (plain_of_subsetAll defaults h.2.2.1.2) (plain_of_subset body h.2.2.2)
  | foreign c parts, h => absurd (h List.mem_cons_self) (foreign_not_mem c)

theorem plain_of_subsetAll : (es : List Expr) →
    Form.constructsAll (formAll es) ⊆ permitted → ∀ e ∈ es, e.Plain
  | [], _ => by simp
  | e :: es, h => by
      have ⟨he, hes⟩ := List.append_subset.1 h
      simpa using ⟨plain_of_subset e he, plain_of_subsetAll es hes⟩

end

end Expr

end Router

end Stagecraft
