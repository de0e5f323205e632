import Mathlib
import Stagecraft.Entity.Application
import Stagecraft.Proofs.Attempt
import Stagecraft.Proofs.Constructs
import Stagecraft.Router.Inline

/-!
# What inline routers give

An inline router has no loops, names or calls, and none of its operators makes more than there was
before: adding two values makes one that is no larger than both together. So the value of a router,
if it has one, is no larger than the expression it is written as, and the only faults are those of
operators. This is an induction on what plain expressions are made of.
-/

namespace Stagecraft

namespace Router

/-- The faults that operators have. -/
def operational : List Fault := [.typeMismatch, .badValue, .divisionByZero, .overflow]

section Yields

variable {α β : Type} {P Q : α → Prop} {x : Except Fault α}

/-- Work that ends with such a value or with the fault of an operator. -/
def Yields (P : α → Prop) : Except Fault α → Prop
  | .ok a => P a
  | .error f => f ∈ operational

theorem Yields.bind {R : β → Prop} {g : α → Except Fault β} (hx : Yields P x)
    (hg : ∀ a, P a → Yields R (g a)) : Yields R (x >>= g) := by
  cases x with
  | ok a => exact hg a hx
  | error f => exact hx

theorem Yields.map {R : β → Prop} {g : α → β} (hx : Yields P x) (hg : ∀ a, P a → R (g a)) :
    Yields R (x.map g) := by
  cases x with
  | ok a => exact hg a hx
  | error f => exact hx

theorem Yields.mono (hx : Yields P x) (h : ∀ a, P a → Q a) : Yields Q x := by
  cases x with
  | ok a => exact h a hx
  | error f => exact hx

end Yields

namespace Datum

mutual

/-- What is held besides the value itself: the bits of an integer, the characters of a text, the
items of a sequence. Truth values count as integers. -/
@[simp] def content : Datum → Nat
  | truth b => b.toNat
  | integer n => n.natAbs.size
  | text codes => codes.length
  | bytes octets => octets.length
  | tuple items => contentAll items
  | list items => contentAll items
  | _ => 0

/-- The items of a sequence with what they hold. -/
@[simp] def contentAll : List Datum → Nat
  | [] => 0
  | d :: ds => (1 + content d) + contentAll ds

end

def size (d : Datum) : Nat := 1 + d.content

@[simp] theorem size_truth (b : Bool) : (truth b).size = 1 + b.toNat := by
  simp [size, content]

@[simp] theorem size_text (codes : List Nat) : (text codes).size = 1 + codes.length := by
  simp [size, content]

@[simp] theorem size_bytes (octets : List Nat) : (bytes octets).size = 1 + octets.length := by
  simp [size, content]

@[simp] theorem size_real (x : Float) : (real x).size = 1 := by simp [size, content]

@[simp] theorem size_complex (re im : Float) : (complex re im).size = 1 := by simp [size, content]

theorem contentAll_eq_sum (ds : List Datum) : contentAll ds = (ds.map size).sum := by
  induction ds with
  | nil => rfl
  | cons d ds ih => simp [contentAll, size, ih]

@[simp] theorem size_tuple (items : List Datum) :
    (tuple items).size = 1 + (items.map size).sum := by
  simp [size, content, contentAll_eq_sum]

@[simp] theorem size_list (items : List Datum) :
    (list items).size = 1 + (items.map size).sum := by
  simp [size, content, contentAll_eq_sum]

theorem size_pos (d : Datum) : 1 ≤ d.size := Nat.le_add_right 1 _

variable {a b d : Datum}

/-- What counts as an integer has its bits. -/
theorem size_of_integer? {n : Int} (h : d.integer? = some n) : d.size = 1 + n.natAbs.size := by
  cases d with
  | truth b =>
      cases b <;> cases h <;> decide
  | integer m =>
      cases h
      simp [size, content]
  | _ => cases h

/-- An integer that is not larger than two others together has one bit more at most. -/
theorem size_natAbs_le {k m n : Int} (h : k.natAbs ≤ m.natAbs + n.natAbs) :
    k.natAbs.size ≤ 1 + m.natAbs.size + n.natAbs.size := by
  rw [Nat.size_le]
  have hm := Nat.lt_size_self m.natAbs
  have hn := Nat.lt_size_self n.natAbs
  have hm' : 2 ^ m.natAbs.size ≤ 2 ^ (m.natAbs.size + n.natAbs.size) :=
    Nat.pow_le_pow_right (by decide) (Nat.le_add_right _ _)
  have hn' : 2 ^ n.natAbs.size ≤ 2 ^ (m.natAbs.size + n.natAbs.size) :=
    Nat.pow_le_pow_right (by decide) (Nat.le_add_left _ _)
  calc k.natAbs ≤ m.natAbs + n.natAbs := h
    _ < 2 * 2 ^ (m.natAbs.size + n.natAbs.size) := by omega
    _ = 2 ^ (1 + m.natAbs.size + n.natAbs.size) := by rw [← Nat.pow_succ']; congr 1; omega

theorem yields_ordered_scalars (r : OrderRelation) (x y : Option Exact) :
    Yields (fun _ => True) (match x, y with
      | some x, some y => .ok ((x.compare? y).any r.holds)
      | _, _ => .error .typeMismatch : Except Fault Bool) := by
  split <;> simp [Yields, operational]

mutual

theorem yields_ordered (r : OrderRelation) (a b : Datum) :
    Yields (fun _ => True) (a.ordered r b) := by
  unfold ordered
  split
  · exact yields_orderedAll r _ _
  · exact yields_orderedAll r _ _
  · trivial
  · trivial
  · exact yields_ordered_scalars r _ _

theorem yields_orderedAll (r : OrderRelation) (as bs : List Datum) :
    Yields (fun _ => True) (orderedAll r as bs) := by
  unfold orderedAll
  split
  · trivial
  · trivial
  · trivial
  · split
    · exact yields_orderedAll r _ _
    · exact yields_ordered r _ _

end

theorem yields_within (a b : Datum) : Yields (fun _ => True) (a.within b) := by
  unfold within
  repeat' split
  all_goals simp [Yields, operational]

theorem yields_parts (d : Datum) : Yields (fun _ => True) d.parts := by
  unfold parts
  repeat' split
  all_goals simp [Yields, operational]

theorem yields_negate (d : Datum) : Yields (fun c => c.size ≤ d.size) d.negate := by
  unfold negate
  split
  · simp [Yields]
  · simp [Yields]
  · split
    · rename_i n h
      rw [size_of_integer? h]
      simp [Yields, size, content]
    · simp [Yields, operational]

end Datum

namespace Arithmetic

theorem yields_divide (m n : Int) : Yields (fun d => d.size = 1) (divide m n) := by
  unfold divide
  repeat' split
  all_goals simp [Yields, operational]

theorem yields_onIntegers (op : Arithmetic) (m n : Int) :
    Yields (fun d => d.size ≤ (1 + m.natAbs.size) + (1 + n.natAbs.size)) (op.onIntegers m n) := by
  cases op with
  | sum =>
      have h : (m + n).natAbs.size ≤ 1 + m.natAbs.size + n.natAbs.size :=
        Datum.size_natAbs_le (by omega)
      simp only [onIntegers, Yields, Datum.size, Datum.content]
      omega
  | difference =>
      have h : (m - n).natAbs.size ≤ 1 + m.natAbs.size + n.natAbs.size :=
        Datum.size_natAbs_le (by omega)
      simp only [onIntegers, Yields, Datum.size, Datum.content]
      omega
  | quotient => exact (yields_divide m n).mono fun d hd => by omega

theorem yields_onReals (op : Arithmetic) (x y : Float) :
    Yields (fun d => d.size = 1) (op.onReals x y) := by
  cases op with
  | sum => exact Datum.size_real _
  | difference => exact Datum.size_real _
  | quotient =>
      simp only [onReals]
      split <;> simp [Yields, operational]

theorem yields_divideComplex (a b c d : Float) :
    Yields (fun d => d.size = 1) (divideComplex a b c d) := by
  unfold divideComplex
  repeat' split
  all_goals simp [Yields, operational]

theorem yields_onComplex (op : Arithmetic) (x y : Float × Float) :
    Yields (fun d => d.size = 1) (op.onComplex x y) := by
  cases op with
  | sum => exact Datum.size_complex _ _
  | difference => exact Datum.size_complex _ _
  | quotient => exact yields_divideComplex _ _ _ _

theorem yields_onNumbers (op : Arithmetic) (a b : Datum) :
    Yields (fun d => d.size ≤ a.size + b.size) (op.onNumbers a b) := by
  have hpos := a.size_pos
  unfold onNumbers
  split
  · rename_i m n hm hn
    rw [Datum.size_of_integer? hm, Datum.size_of_integer? hn]
    exact op.yields_onIntegers m n
  · split
    · simp [Yields, operational]
    · refine a.yields_parts.bind fun x _ => b.yields_parts.bind fun y _ => ?_
      split
      · exact (op.yields_onComplex x y).mono fun d hd => by omega
      · exact (op.yields_onReals x.1 y.1).mono fun d hd => by omega

/-- No operation on two values makes more than there was before. -/
theorem yields_apply (op : Arithmetic) (a b : Datum) :
    Yields (fun d => d.size ≤ a.size + b.size) (op.apply a b) := by
  unfold apply
  split
  · simp only [Yields, Datum.size_text, List.length_append]
    omega
  · simp only [Yields, Datum.size_bytes, List.length_append]
    omega
  · simp only [Yields, Datum.size_tuple, List.map_append, List.sum_append]
    omega
  · simp only [Yields, Datum.size_list, List.map_append, List.sum_append]
    omega
  · exact op.yields_onNumbers a b

end Arithmetic

theorem Held.yields_arithmetic (op : Arithmetic) (a b : Held) :
    Yields (fun c => c.datum.size ≤ a.datum.size + b.datum.size) (Held.arithmetic op a b) := by
  unfold Held.arithmetic
  refine (op.yields_apply a.datum b.datum).bind fun d hd => ?_
  repeat' split
  · exact hd
  · exact Nat.le_add_left _ _
  · exact Nat.le_add_right _ _
  · exact hd

theorem CompareOp.yields_holds (op : CompareOp) (a b : Held) :
    Yields (fun _ => True) (op.holds a b) := by
  cases op with
  | ordered r => exact Datum.yields_ordered r _ _
  | within => exact Datum.yields_within _ _
  | notWithin => exact (Datum.yields_within _ _).map fun _ _ => trivial
  | _ => trivial

namespace Expr

mutual

/-- What the constants of an expression hold. -/
@[simp] def content : Expr → Nat
  | constant d => d.content
  | tuple items => contentAll items
  | list items => contentAll items
  | unary _ operand => operand.content
  | binary _ left right => left.content + right.content
  | logic _ items => contentAll items
  | compare first _ rest => first.content + contentAll rest
  | choice test body other => test.content + body.content + other.content
  | lambda _ keywordDefaults defaults body =>
    contentAll keywordDefaults + contentAll defaults + body.content
  | foreign _ parts => contentAll parts

/-- What the constants of expressions side by side hold. -/
@[simp] def contentAll : List Expr → Nat
  | [] => 0
  | e :: es => e.content + contentAll es

end

/-- The number of constructs in an expression, and what its constants hold. -/
def size (e : Expr) : Nat := e.constructs.length + e.content

section Size

variable {a b e test body other : Expr} {es : List Expr}

theorem length_constructsAll_add (es : List Expr) :
    (Form.constructsAll (formAll es)).length + contentAll es = (es.map size).sum := by
  induction es with
  | nil => rfl
  | cons e es ih =>
      simp only [formAll, Form.constructsAll, contentAll, List.length_append, List.map_cons,
        List.sum_cons, ← ih, size, constructs]
      omega

theorem size_tuple : (tuple es).size = 1 + (es.map size).sum := by
  simp only [← length_constructsAll_add, size, constructs, form, Form.constructs, content,
    List.length_cons]
  omega

theorem size_list : (list es).size = 1 + (es.map size).sum := size_tuple

theorem size_unary {op : UnaryOp} : (unary op e).size = 2 + e.size := by
  simp only [size, constructs, form, Form.constructs, Form.constructsAll, Form.leaf, content,
    List.length_cons, List.length_append, List.length_nil]
  omega

theorem size_binary {op : BinaryOp} : (binary op a b).size = 2 + a.size + b.size := by
  simp only [size, constructs, form, Form.constructs, Form.constructsAll, Form.leaf, content,
    List.length_cons, List.length_append, List.length_nil]
  omega

theorem size_logic {op : LogicOp} : (logic op es).size = 2 + (es.map size).sum := by
  simp only [← length_constructsAll_add, size, constructs, form, Form.constructs,
    Form.constructsAll, Form.leaf, content, List.length_cons, List.length_append, List.length_nil]
  omega

theorem size_le_compare (ops : List CompareOp) : 1 + e.size ≤ (compare e ops es).size := by
  simp only [size, constructs, form, Form.constructs, Form.constructsAll, content,
    List.length_cons, List.length_append]
  omega

theorem size_choice : (choice test body other).size = 1 + test.size + body.size + other.size := by
  simp only [size, constructs, form, Form.constructs, Form.constructsAll, content,
    List.length_cons, List.length_append, List.length_nil]
  omega

theorem size_body_le {names : List String} {keywordDefaults defaults : List Expr} :
    body.size ≤ (lambda names keywordDefaults defaults body).size := by
  simp only [size, constructs, form, Form.constructs, Form.constructsAll, content,
    List.length_cons, List.length_append]
  omega

theorem size_pos (e : Expr) : 1 ≤ e.size := by
  have h : 1 ≤ e.constructs.length := by
    cases e <;> exact Nat.le_add_left 1 _
  exact Nat.le_add_right_of_le h

end Size

/-- The value of an expression is no larger than the expression. -/
def Bounded (e : Expr) : Prop := Yields (fun a => a.datum.size ≤ e.size) e.evaluate

section Bounded

variable {e : Expr} {es : List Expr}

theorem yields_evaluateAll (h : ∀ e ∈ es, e.Bounded) :
    Yields (fun held => ((held.map (·.datum)).map Datum.size).sum ≤ (es.map size).sum)
      (evaluateAll es) := by
  induction es with
  | nil => simp [evaluateAll, Yields]
  | cons e es ih =>
      simp only [evaluateAll]
      refine Yields.bind (h e List.mem_cons_self) fun a ha => ?_
      refine Yields.bind (ih fun e he => h e (List.mem_cons_of_mem _ he)) fun held hheld => ?_
      simp only [Yields, pure, Except.pure, List.map_cons, List.sum_cons]
      omega

theorem yields_evaluateLogic (op : LogicOp) (h : ∀ e ∈ es, e.Bounded) :
    Yields (fun a => a.datum.size ≤ 1 + (es.map size).sum) (evaluateLogic op es) := by
  induction es with
  | nil => simp [evaluateLogic, Yields, Datum.size, Datum.content]
  | cons e es ih =>
      simp only [evaluateLogic]
      refine Yields.bind (h e List.mem_cons_self) fun a ha => ?_
      simp only [List.map_cons, List.sum_cons]
      split
      · exact Nat.le_add_left_of_le (Nat.le_add_right_of_le ha)
      · exact (ih fun e he => h e (List.mem_cons_of_mem _ he)).mono fun b hb => by omega

theorem yields_evaluateChain (ops : List CompareOp) (a : Held) (h : ∀ e ∈ es, e.Bounded) :
    Yields (fun _ => True) (evaluateChain a ops es) := by
  induction es generalizing a ops with
  | nil => cases ops <;> trivial
  | cons e es ih =>
      cases ops with
      | nil => trivial
      | cons op ops =>
          simp only [evaluateChain]
          refine Yields.bind (h e List.mem_cons_self) fun b _ => ?_
          refine Yields.bind (op.yields_holds a b) fun holds _ => ?_
          split
          · exact ih ops b fun e he => h e (List.mem_cons_of_mem _ he)
          · trivial

end Bounded

/-- Plain expressions have no faults but those of operators, and values no larger than they are. -/
theorem bounded_of_plain {e : Expr} (h : e.Plain) : e.Bounded := by
  induction h with
  | constant d => exact Nat.le_refl d.size
  | tuple _ ih =>
      simp only [Bounded, evaluate, size_tuple]
      refine Yields.bind (yields_evaluateAll ih) fun held hheld => ?_
      simpa [Yields, pure, Except.pure] using hheld
  | list _ ih =>
      simp only [Bounded, evaluate, size_list]
      refine Yields.bind (yields_evaluateAll ih) fun held hheld => ?_
      simpa [Yields, pure, Except.pure] using hheld
  | unary hop _ ih =>
      simp only [Bounded, evaluate, size_unary]
      refine Yields.bind ih fun a ha => ?_
      rcases hop with rfl | rfl
      · have hnot := (!a.datum.isTrue).toNat_le
        simp only [UnaryOp.apply, Yields, Datum.size_truth]
        omega
      · exact (Datum.yields_negate a.datum).map fun d hd => by
          change d.size ≤ _
          omega
  | binary hop _ _ iha ihb =>
      simp only [Bounded, evaluate, size_binary]
      refine Yields.bind iha fun a ha => Yields.bind ihb fun b hb => ?_
      rcases hop with rfl | rfl | rfl
      · exact (Held.yields_arithmetic .sum a b).mono fun c hc => by omega
      · exact (Held.yields_arithmetic .difference a b).mono fun c hc => by omega
      · exact (Held.yields_arithmetic .quotient a b).mono fun c hc => by omega
  | logic op _ ih =>
      simp only [Bounded, evaluate, size_logic]
      exact (yields_evaluateLogic op ih).mono fun a ha => by omega
  | @compare first ops rest _ _ ihfirst ihrest =>
      have hsize : 1 + first.size ≤ (compare first ops rest).size := size_le_compare ops
      have hpos := first.size_pos
      simp only [Bounded, evaluate]
      refine Yields.bind ihfirst fun a _ => ?_
      refine Yields.bind (yields_evaluateChain ops a ihrest) fun b _ => ?_
      have hb := b.toNat_le
      simp only [Yields, pure, Except.pure, Datum.size_truth]
      omega
  | choice _ _ _ ihtest ihbody ihother =>
      simp only [Bounded, evaluate, size_choice]
      refine Yields.bind ihtest fun a _ => ?_
      split
      · refine Yields.bind ihbody fun b hb => ?_
        change b.datum.size ≤ _
        omega
      · refine Yields.bind ihother fun b hb => ?_
        change b.datum.size ≤ _
        omega
  | lambda names _ _ _ ihkeywords ihdefaults _ =>
      simp only [Bounded, evaluate]
      refine Yields.bind (yields_evaluateAll ihdefaults) fun _ _ => ?_
      refine Yields.bind (yields_evaluateAll ihkeywords) fun _ _ => ?_
      exact size_pos _

end Expr

/-- The whole text is read as a function without parameters, and it is searched. -/
theorem tree_of_compile [CharacterNames] {source : String} {place : Option Markup.Element}
    {body : Expr} (h : compile source place = .ok body) :
    ∃ keywordDefaults defaults,
      Expr.ofChars? (sourceChars source) = some (.lambda [] keywordDefaults defaults body) ∧
        (Expr.lambda [] keywordDefaults defaults body).constructs ⊆ Expr.permitted := by
  simp only [compile] at h
  split at h
  · cases h
  · rename_i names keywordDefaults defaults tree hsource
    by_cases hnames : names = []
    · subst hnames
      cases hforbidden : (Expr.lambda [] keywordDefaults defaults tree).forbidden? with
      | some construct => simp [hforbidden] at h
      | none =>
          by_cases husable : tree.namesAreUsable
          · simp only [List.isEmpty_nil, hforbidden, husable] at h
            cases h
            exact ⟨keywordDefaults, defaults, hsource, Expr.forbidden?_eq_none_iff.1 hforbidden⟩
          · simp [hforbidden, husable] at h
    · simp [hnames] at h
  · cases h

/-- The router of an accepted text is made of permitted constructs only, in the functions inside of
it as well. So there are no names, attributes, subscripts, calls, comprehensions or formatted texts
in it, no products, powers or remainders. Every entity that it is the router of is told the same:
the fault of an operator, or a value that is no larger than the text's expression. This holds
whatever names of characters the platform knows. -/
theorem outcome_of_compile [Application] {source : String} {place : Option Markup.Element}
    {body : Expr} (h : compile source place = .ok body) :
    ∃ keywordDefaults defaults,
      let tree := Expr.lambda [] keywordDefaults defaults body
      Expr.ofChars? (sourceChars source) = some tree ∧
        tree.Plain ∧ tree.constructs ⊆ Expr.permitted ∧
        (∀ c : Foreign, c.construct ∉ tree.constructs) ∧
        (∀ op ∈ [BinaryOp.mult, .pow, .mod], op.construct ∉ tree.constructs) ∧
        ∃ outcome : Except Fault Datum, Yields (fun d => d.size ≤ tree.size) outcome ∧
          ∀ e : Entity, e.router = some (.inline body) →
            e.route? = some (outcome.map .datum) := by
  obtain ⟨keywordDefaults, defaults, htree, hpermitted⟩ := tree_of_compile h
  have hplain := Expr.plain_of_subset _ hpermitted
  refine ⟨keywordDefaults, defaults, htree, hplain, hpermitted, ?_, ?_, body.value, ?_, ?_⟩
  · exact fun c hc => Expr.foreign_not_mem c (hpermitted hc)
  · intro op hop hc
    have hmem := hpermitted hc
    revert hmem
    simp only [List.mem_cons, List.not_mem_nil, or_false] at hop
    rcases hop with rfl | rfl | rfl <;> decide
  · cases hplain with
    | lambda _ _ _ hbody =>
      exact (Expr.bounded_of_plain hbody).map fun a ha => Nat.le_trans ha Expr.size_body_le
  · intro e he
    simp [Entity.route?, he]

/-- A platform that knows one character by its name. -/
@[reducible] def bulletin : Application :=
  { Application.bare with
    named? := fun name => if name = "BULLET" then some (Char.ofNat 0x2022) else none }

/-- A bullet and a letter. -/
def bulletBody : Expr := .binary .add (.constant (.text [0x2022])) (.constant (.text [97]))

theorem outcome_of_compile_bullet :
    letI := bulletin
    compile "lambda: '\\N\x7bBULLET\x7d' + 'a'" none = .ok bulletBody ∧
      ∃ outcome : Except Fault Datum,
        Yields (fun d => d.size ≤ (Expr.lambda [] [] [] bulletBody).size) outcome ∧
          ∀ e : Entity, e.router = some (.inline bulletBody) →
            e.route? = some (outcome.map .datum) := by
  let _ := bulletin
  have hcompile : compile "lambda: '\\N\x7bBULLET\x7d' + 'a'" none = .ok bulletBody := by cbv
  obtain ⟨keywordDefaults, defaults, htree, -, -, -, -, houtcome⟩ := outcome_of_compile hcompile
  have hsource : Expr.ofChars? (sourceChars "lambda: '\\N\x7bBULLET\x7d' + 'a'") =
      some (.lambda [] [] [] bulletBody) := by cbv
  rw [hsource] at htree
  cases htree
  exact ⟨hcompile, houtcome⟩

end Router

end Stagecraft
