import Stagecraft.Proofs.Addresses
import Stagecraft.Proofs.Characters
import Stagecraft.Proofs.Declarations
import Stagecraft.Proofs.Numerals

/-!
# Flaws that are not reported

A few things that documents can say are neither accepted nor reported, but fail in whatever reads
them. Each kind of definition has its flaws listed here, with the faults they lead to, and the
reader of the definition is shown to have no others besides those that it reports. The flaws of a
pool are those of its parts and of the addresses that they refer to. Classes and fonts that the
application registers fail in ways of their own, of which is only said what is asked for.
-/

namespace Stagecraft

open Markup

namespace Animation

/-- The digits of the number that a text begins with. -/
def leadingDigits (s : String) : List Char :=
  (Numeral.takeSign (s.toList.dropWhile Text.isBlank)).2.takeWhile Text.isDecimal

/-- The count of a loop has more digits than are read. -/
def TooLong (loop : Element) : Prop :=
  ∃ text, loop.get? "count" = some text ∧ Numeral.digitLimit < (leadingDigits text).length

/-- A frame stands in a loop whose count is too long. -/
def Flaw (c : Cursor) (f : Fault) : Prop :=
  f = .badValue ∧ ∃ frame ∈ frameElements c, ∃ loop, loop? frame = some loop ∧ TooLong loop.element

theorem leadingInt?_eq_some {s : String} {cs : List Char} (h : leadingInt? s = some cs) :
    ∃ sign ∈ Numeral.signs, cs = sign ++ leadingDigits s ∧ leadingDigits s ≠ [] := by
  unfold leadingInt? at h
  dsimp only at h
  split at h
  · rename_i rest hrest
    dsimp only at h
    split at h
    · cases h
    · rename_i hne
      cases h
      have hsign : Numeral.takeSign ('-' :: rest) = (true, rest) := rfl
      unfold leadingDigits
      rw [hrest, hsign]
      exact ⟨['-'], by decide, rfl, by simpa using hne⟩
  · rename_i rest hrest
    dsimp only at h
    split at h
    · cases h
    · rename_i hne
      cases h
      have hsign : Numeral.takeSign ('+' :: rest) = (false, rest) := rfl
      unfold leadingDigits
      rw [hrest, hsign]
      exact ⟨['+'], by decide, rfl, by simpa using hne⟩
  · rename_i hminus hplus
    dsimp only at h
    split at h
    · cases h
    · rename_i hne
      cases h
      unfold leadingDigits
      rw [Numeral.takeSign_of_no_sign hminus hplus]
      exact ⟨[], by decide, rfl, by simpa using hne⟩

theorem failsIn_loopCount (loop : Element) :
    Attempt.FailsIn (fun f => f = .badValue ∧ TooLong loop) (loopCount loop) := by
  unfold loopCount
  split
  · exact .ok _
  · rename_i cs hcs
    split
    · exact .ok _
    · rename_i hnone
      obtain ⟨sign, hsign, rfl, hne⟩ := leadingInt?_eq_some hcs
      rw [Numeral.integerChars?_eq_none_iff hsign hne fun _ hc => List.mem_takeWhile_imp hc]
        at hnone
      refine .error ⟨rfl, ?_⟩
      cases hcount : loop.get? "count" with
      | none =>
          rw [hcount] at hne
          exact absurd rfl hne
      | some text =>
          rw [hcount] at hnone
          exact ⟨text, hcount, hnone⟩

theorem reports_sizeAmong (id : Option String) (frame : Cursor) (candidates : List Cursor) :
    Reports (sizeAmong id frame candidates) := by
  induction candidates with
  | nil => exact .error rfl
  | cons candidate rest ih =>
      unfold sizeAmong
      refine (candidate.reports_vec2? "w" "h").bind fun size _ => ?_
      cases size with
      | none => exact ih
      | some size =>
          dsimp only
          split
          · exact .error rfl
          · exact .ok _

/-- What equals is at most as large. -/
theorem le_of_beq {x y : Float} (h : (x == y) = true) : x ≤ y := by
  change decide (x.toModel ≤ y.toModel) = true
  have h' : (x.toModel == y.toModel) = true := h
  rw [decide_eq_true_iff]
  change (Float.Model.UnpackedFloat.compare x.toModel.unpack y.toModel.unpack == some .eq) = true
    at h'
  change (Float.Model.UnpackedFloat.compare x.toModel.unpack y.toModel.unpack).any (·.isLE) = true
  rw [beq_iff_eq.1 h']
  rfl

/-- There is a quad on every sheet that is not refused. -/
theorem exists_ofPixels? {sheet : Option Vec2} {usable : Vec2} (h : usableSheet sheet = some usable)
    (offset size : Vec2) : ∃ quad, TextureQuad.ofPixels? offset size usable = some quad := by
  obtain ⟨-, hpositive⟩ := Option.filter_eq_some_iff.1 h
  rw [Bool.not_eq_true', Bool.or_eq_false_iff, decide_eq_false_iff_not, decide_eq_false_iff_not]
    at hpositive
  have hx : (usable.x == 0) = false := by
    by_contra hx
    exact hpositive.1 (le_of_beq (by simpa using hx))
  have hy : (usable.y == 0) = false := by
    by_contra hy
    exact hpositive.2 (le_of_beq (by simpa using hy))
  refine ⟨⟨offset.x / usable.x, 1 - offset.y / usable.y, (offset.x + size.x) / usable.x,
    1 - (offset.y + size.y) / usable.y⟩, ?_⟩
  unfold TextureQuad.ofPixels?
  rw [hx, hy]
  rfl

theorem reports_frame {sheet : Option Vec2} {usable : Vec2} (h : usableSheet sheet = some usable)
    (id : Option String) (c : Cursor) : Reports (frame id usable c) := by
  unfold frame
  refine (c.reports_vec2? "x" "y").bind fun offset _ =>
    (reports_sizeAmong id c (sizeSources c)).bind fun size _ => ?_
  obtain ⟨quad, hquad⟩ := exists_ofPixels? h (offset.getD {}) size
  dsimp only
  rw [hquad]
  exact (c.reports_real? "duration").bind fun _ _ => .ok _

/-- The frames are read one after the other, and a loop is counted at its last one. -/
theorem failsIn_framesOf {sheet : Option Vec2} {usable : Vec2}
    (h : usableSheet sheet = some usable) (id : Option String) (run : List Frame)
    (cs : List Cursor) :
    Attempt.FailsIn (Fault.DefectOr fun f => f = .badValue ∧
      ∃ c ∈ cs, ∃ loop, loop? c = some loop ∧ TooLong loop.element)
      (framesOf id usable run cs) := by
  induction cs generalizing run with
  | nil => exact .ok _
  | cons c rest ih =>
      have hrest (run : List Frame) : Attempt.FailsIn (Fault.DefectOr fun f => f = .badValue ∧
          ∃ d ∈ c :: rest, ∃ loop, loop? d = some loop ∧ TooLong loop.element)
          (framesOf id usable run rest) :=
        (ih run).mono <| Fault.DefectOr.mono fun _ ⟨hf, d, hd, hloop⟩ =>
          ⟨hf, d, List.mem_cons_of_mem c hd, hloop⟩
      unfold framesOf
      refine Attempt.FailsIn.bind (Reports.defectOr (reports_frame h id c) _) fun frame _ => ?_
      split
      · exact (hrest run).bind fun _ _ => .ok _
      · rename_i loop hloop
        dsimp only
        split
        · exact (hrest _).bind fun _ _ => .ok _
        · refine Attempt.FailsIn.bind ((failsIn_loopCount loop.element).mono fun f hf => .inr ?_)
            fun n _ => (hrest []).bind fun _ _ => .ok _
          exact ⟨hf.1, c, List.mem_cons_self, loop, hloop, hf.2⟩

theorem failsIn_ofElement (c : Cursor) (sheet : Option Vec2) :
    Attempt.FailsIn (Fault.DefectOr (Flaw c)) (ofElement c sheet) := by
  unfold ofElement
  dsimp only
  split
  · exact .error (.inl rfl)
  · rename_i usable husable
    exact (failsIn_framesOf husable _ [] (frameElements c)).bind fun _ _ => .ok _

end Animation

namespace FaceBinding

/-- A range that is well-formed otherwise has a step of zero or a number with more digits than are
read. -/
inductive Span.Flaw (s : Span) : Prop
  | tooLong {ds : List Char} (hds : ds ∈ s.first :: s.last :: s.step.toList)
      (h : Numeral.digitLimit < ds.length)
  | still {ds : List Char} (hds : s.step = some ds) (h : value ds = .ok 0)

/-- One of the ranges of a face is flawed. -/
def Flaw (face : Cursor) (f : Fault) : Prop :=
  f = .badValue ∧ ∃ text part span, face.get? "range" = some text ∧ part ∈ Text.splitOn ',' text ∧
    Span.ofChars? part.toList = some span ∧ span.Flaw

namespace Span

theorem digits?_eq_some {cs ds rest : List Char} (h : digits? cs = some (ds, rest)) :
    ds ≠ [] ∧ ∀ c ∈ ds, Text.isDecimal c = true := by
  unfold digits? at h
  dsimp only at h
  split at h
  · cases h
  · rename_i hne
    cases h
    exact ⟨by simpa using hne, fun _ hc => List.mem_takeWhile_imp hc⟩

/-- The parts of a range are runs of digits. -/
theorem digits_of_ofChars? {cs : List Char} {s : Span} (h : ofChars? cs = some s) :
    ∀ ds ∈ s.first :: s.last :: s.step.toList, ds ≠ [] ∧ ∀ c ∈ ds, Text.isDecimal c = true := by
  unfold ofChars? at h
  obtain ⟨⟨first, cs⟩, hfirst, h⟩ := Option.bind_eq_some_iff.1 h
  obtain ⟨_, -, h⟩ := Option.bind_eq_some_iff.1 h
  obtain ⟨⟨last, cs⟩, hlast, h⟩ := Option.bind_eq_some_iff.1 h
  have hfirst := digits?_eq_some hfirst
  have hlast := digits?_eq_some hlast
  dsimp only at h
  split at h
  · cases h
    simpa using ⟨hfirst, hlast⟩
  · obtain ⟨_, -, h⟩ := Option.bind_eq_some_iff.1 h
    obtain ⟨⟨step, cs⟩, hstep, h⟩ := Option.bind_eq_some_iff.1 h
    have hstep := digits?_eq_some hstep
    dsimp only at h
    split at h
    · cases h
      simpa using ⟨hfirst, hlast, hstep⟩
    · cases h

theorem failsIn_value {ds : List Char} (hne : ds ≠ []) (h : ∀ c ∈ ds, Text.isDecimal c = true) :
    Attempt.FailsIn (fun f => f = .badValue ∧ Numeral.digitLimit < ds.length) (value ds) := by
  unfold value
  split
  · exact .ok _
  · rename_i hnone
    exact .error ⟨rfl, (Numeral.integerChars?_eq_none_iff List.mem_cons_self hne h).1 hnone⟩

theorem failsIn_numbers {s : Span}
    (h : ∀ ds ∈ s.first :: s.last :: s.step.toList, ds ≠ [] ∧ ∀ c ∈ ds, Text.isDecimal c = true) :
    Attempt.FailsIn (fun f => f = .badValue ∧ s.Flaw) s.numbers := by
  have hvalue (ds : List Char) (hds : ds ∈ s.first :: s.last :: s.step.toList) :
      Attempt.FailsIn (fun f => f = .badValue ∧ s.Flaw) (value ds) :=
    (failsIn_value (h ds hds).1 (h ds hds).2).mono fun _ hf => ⟨hf.1, .tooLong hds hf.2⟩
  unfold numbers
  refine (hvalue s.first (by simp)).bind fun first _ =>
    (hvalue s.last (by simp)).bind fun last _ => ?_
  cases hstep : s.step with
  | none => exact .ok _
  | some ds =>
      refine Attempt.FailsIn.bind (hvalue ds (by simp [hstep])) fun step hds => ?_
      split
      · rename_i hzero
        exact .error ⟨rfl, .still hstep (hzero ▸ hds)⟩
      · exact .ok _

end Span

theorem reports_listed (c : Cursor) (text : String) : Reports (listed c text) := by
  unfold listed
  split
  · exact .ok _
  · exact .error rfl

theorem failsIn_quads (c : Cursor) :
    Attempt.FailsIn (Fault.DefectOr (Flaw c)) (quads c) := by
  have hspanned (text : String) (htext : (c.get? "range").filter (· ≠ "") = some text) :
      Attempt.FailsIn (Fault.DefectOr (Flaw c)) ((Text.splitOn ',' text).mapM (spanned c)) := by
    obtain ⟨htext, -⟩ := Option.filter_eq_some_iff.1 htext
    refine Attempt.FailsIn.mapM fun part hpart => ?_
    unfold spanned
    split
    · rename_i span hspan
      refine (Span.failsIn_numbers (Span.digits_of_ofChars? hspan)).mono fun f hf => .inr ?_
      exact ⟨hf.1, text, part, span, htext, hpart, hspan, hf.2⟩
    · exact .error (.inl rfl)
  unfold quads
  cases (c.get? "index").filter (· ≠ "") with
  | none =>
      cases htext : (c.get? "range").filter (· ≠ "") with
      | none => exact .ok _
      | some text => exact (hspanned text htext).bind fun _ _ => .ok _
  | some index =>
      refine Attempt.FailsIn.bind (Reports.defectOr (reports_listed c index) _) fun _ _ => ?_
      cases htext : (c.get? "range").filter (· ≠ "") with
      | none => exact .ok _
      | some text => exact (hspanned text htext).bind fun _ _ => .ok _

theorem failsIn_animator (animations : Catalog Animation) (c : Cursor) :
    Attempt.FailsIn (Fault.DefectOr (Flaw c)) (animator animations c) := by
  unfold animator
  split
  · exact .error (.inl rfl)
  · split
    · exact .error (.inl rfl)
    · exact (failsIn_quads c).bind fun _ _ =>
        Attempt.FailsIn.bind (Reports.defectOr (c.reports_real "offset" 0) _) fun _ _ => .ok _

end FaceBinding

namespace Router

variable [CharacterNames]

/-- An inline router is all that it may be, but for a function inside that has a parameter twice or
one with the reserved name. -/
def Misnamed (source : String) : Prop :=
  ∃ keywordDefaults defaults body,
    Expr.ofChars? (sourceChars source) = some (.lambda [] keywordDefaults defaults body) ∧
      (Expr.lambda [] keywordDefaults defaults body).forbidden? = none ∧
      body.namesAreUsable = false

theorem failsIn_compile (source : String) (place : Option Element) :
    Attempt.FailsIn (Fault.DefectOr fun f => f = .routerCode ∧ Misnamed source)
      (compile source place) := by
  unfold compile
  dsimp only
  split
  · exact .error (.inl rfl)
  · rename_i names keywordDefaults defaults body hlambda
    split
    · exact .error (.inl rfl)
    · rename_i hnames
      have hnil : names = [] := by simpa using hnames
      subst hnil
      split
      · exact .error (.inl rfl)
      · rename_i hpermitted
        split
        · exact .ok _
        · rename_i hunusable
          exact .error (.inr ⟨rfl, keywordDefaults, defaults, body, hlambda, hpermitted,
            by simpa using hunusable⟩)
  · exact .error (.inl rfl)

end Router

/-- What the application raises on its own account is a matter of one place: two items with one id
and loads are the library's to tell. -/
structure Application.Discreet [Application] : Prop where
  fresh : ∀ f, Attempt.FailsIn (fun g => g.isLocal) (Application.fresh f)
  typeset : ∀ f s, Attempt.FailsIn (fun g => g.isLocal) (Application.typeset f s)

open Bare in
theorem Application.discreet_bare : Application.Discreet :=
  ⟨fun _ => .error rfl, fun _ _ => .error rfl⟩

namespace TraitMaker

variable [Application]

/-- Everything about a trait element is read or reported, but for the values of its attributes and
what the application says to a new trait. -/
theorem failsIn_ofElement {P : Fault → Prop} (hdefect : ∀ f, f.isDefect = true → P f)
    {host : Registrations} {c : Cursor} (htag : c.tag = "trait")
    (hfresh : ∀ name k, host.traits.get? name = some k → Attempt.FailsIn P k.make)
    (hvalues : ∀ a ∈ c.element.attributes, Attempt.FailsIn P (parseValue a.2)) :
    Attempt.FailsIn P (ofElement (some host) c) := by
  unfold ofElement
  rw [Cursor.ensure_of_mem (by simp [htag])]
  refine Attempt.FailsIn.bind (.ok _) fun _ _ => ?_
  split
  · exact .error (hdefect _ rfl)
  · refine ((reports_resolve _ _ c).mono hdefect).bind fun base hbase => ?_
    refine Attempt.FailsIn.bind ?_ fun template _ => ?_
    · rcases resolve_eq_ok hbase with hk | ⟨kind, -, rfl⟩
      · exact hfresh _ base hk
      · exact .ok _
    · refine Attempt.FailsIn.bind ?_ fun _ _ =>
        ((reports_structured host _ c).mono hdefect).bind fun _ _ => .ok _
      refine Attempt.FailsIn.foldlM fun found a ha => ?_
      dsimp only
      split
      · exact .ok _
      · exact (hvalues a ha).map

/-- In a document that was read, the values of attributes are what they should be. -/
theorem reports_ofElement {host : Registrations} (hhost : host.traits = []) {c : Cursor}
    (htag : c.tag = "trait") (hc : c.element.Clean) : Reports (ofElement (some host) c) := by
  refine failsIn_ofElement (fun _ hf => hf) htag (fun name k hk => ?_) fun a ha => ?_
  · rw [hhost] at hk
    cases hk
  · obtain ⟨v, hv⟩ := exists_parseValue (hc.values a ha)
    rw [hv]
    exact .ok v

theorem reports_declared {host : Registrations} (hhost : host.traits = []) {c : Cursor}
    (hc : c.element.Clean) : Reports (declared c "traits" (allOf (some host))) :=
  failsIn_declared fun _ hd => .mapM fun _ he =>
    reports_ofElement hhost (Cursor.tag_of_mem_childrenTagged he)
      (Cursor.clean_of_mem_childrenTagged (Cursor.clean_of_mem_childrenTagged hc hd) he)

/-- Whatever the values of attributes are, what goes wrong is the matter of a trait alone. -/
theorem local_declared (happ : Application.Discreet) (host : Registrations) (c : Cursor) :
    Attempt.FailsIn (Fault.DefectOr fun f => f.isLocal)
      (declared c "traits" (allOf (some host))) := by
  refine failsIn_declared fun _ _ => .mapM fun d hd => ?_
  refine failsIn_ofElement (fun _ => .inl) (Cursor.tag_of_mem_childrenTagged hd) ?_ ?_
  · rintro name (kind | ⟨f, label⟩) -
    · exact .ok _
    · exact (happ.fresh f).mono fun _ => .inr
  · intro a _
    unfold parseValue
    split
    · exact .ok _
    · split
      · exact .ok _
      · split
        · split
          · exact .ok _
          · exact .error (.inr rfl)
        · exact .ok _

end TraitMaker

/-- Sounds are asked for when all of them have an id. -/
theorem Clip.failsIn_allOf (l : Loader) (c : Cursor) :
    Timed.FailsIn (Fault.SingleOr fun f => ∃ sound ∈ sources c, l.StraysToSound sound f)
      (allOf l c) := by
  refine Timed.FailsIn.bind (.lift (Reports.singleOr (reports_elements c) _))
    fun sounds _ hsounds => ?_
  refine Timed.FailsIn.bind (.gather fun w hw => ?_) fun _ _ _ => .pure _
  obtain ⟨e, he, rfl⟩ := List.mem_map.1 hw
  obtain ⟨sound, hsound, -, rfl⟩ := Attempt.exists_mem_of_forall₂ (forall₂_of_elements hsounds) he
  exact fun s f h => (l.failsIn_clipOf e.2 s f h).imp_right fun hf => ⟨e.2, hsound, hf⟩

namespace Blueprint

variable [Application]

/-- The flaws of an entity: those of its faces, its router and the addresses of its sounds. -/
inductive Flaw (l : Loader) (item : Cursor) : Fault → Prop
  | face {geometry face : Cursor} {f : Fault}
      (hgeometry : geometry ∈ item.find (Selector.ofString "geometry"))
      (hface : face ∈ geometry.find (Selector.ofString "face")) (h : FaceBinding.Flaw face f) :
      Flaw l item f
  | router {router : Cursor}
      (hrouter : (item.childrenTagged "animation-router").head? = some router)
      (h : Router.Misnamed (Text.strip router.element.leadingText)) : Flaw l item .routerCode
  | sound {sound : Cursor} {f : Fault} (hsound : sound ∈ Clip.sources item)
      (h : l.StraysToSound sound f) : Flaw l item f

variable {l : Loader}

theorem Flaw.isLocal {c : Cursor} {f : Fault} (h : Flaw l c f) : f.isLocal := by
  cases h with
  | face _ _ h =>
      rw [h.1]
      rfl
  | router _ _ => rfl
  | sound _ h => exact h.isLocal

/-- The fonts that the application has registered fail in these ways only. -/
def FontsFailIn (P : Fault → Prop) (host : Registrations) : Prop :=
  ∀ name font, host.resources.find? "font" name = some (.font font) →
    ∀ s, Attempt.FailsIn P (Application.typeset font s)

theorem failsIn_figure {P : Fault → Prop} (a : Atlas) (id : String) {c : Cursor}
    (hflaw : ∀ f, Flaw l c f → P f) (hfonts : FontsFailIn P l.host) :
    Attempt.FailsIn (Fault.DefectOr P) (Figure.ofElement l.host a id c) := by
  unfold Figure.ofElement
  split
  · exact .ok _
  · exact Figure.failsIn_ofText (fun _ => .inl)
      (fun name font hfont s => (hfonts name font hfont s).mono fun _ => .inr) _ _
  · refine Attempt.FailsIn.bind (.mapM fun geometry hgeometry => ?_) fun _ _ => .ok _
    refine Attempt.FailsIn.bind (Reports.defectOr geometry.reports_plane _) fun _ _ => ?_
    refine Attempt.FailsIn.bind
      (Attempt.FailsIn.bind (.mapM fun face hface => ?_) fun bound _ => ?_) fun _ _ => .ok _
    · exact (FaceBinding.failsIn_animator _ face).mono <|
        Fault.DefectOr.mono fun _ hf => hflaw _ (.face hgeometry hface hf)
    · split
      · exact .ok _
      · exact .ok _

theorem failsIn_router (c : Cursor) :
    Attempt.FailsIn (Fault.DefectOr (Flaw l c)) (AnimationRouter.ofElement l.host c) := by
  unfold AnimationRouter.ofElement
  split
  · exact .ok _
  · rename_i router hrouter
    split
    · split
      · exact .ok _
      · exact .error (.inl rfl)
    · dsimp only
      split
      · exact .ok _
      · refine Attempt.FailsIn.map ((Router.failsIn_compile _ _).mono ?_)
        refine Fault.DefectOr.mono ?_
        rintro f ⟨rfl, hf⟩
        exact .router hrouter hf

/-- What an entity says is as flawed as its traits and fonts are, but for the flaws that are
listed. -/
theorem failsIn_silent {P : Fault → Prop} (a : Atlas) {c : Cursor}
    (hflaw : ∀ f, Flaw l c f → P f) (hfonts : FontsFailIn P l.host)
    (htraits : Attempt.FailsIn (Fault.DefectOr P)
      (declared c "traits" (TraitMaker.allOf (some l.host)))) :
    Attempt.FailsIn (Fault.DefectOr P) (silent l.host a c) := by
  unfold silent
  refine Attempt.FailsIn.bind (Reports.defectOr (reports_baseOf l.host c) _) fun _ _ => ?_
  refine (failsIn_figure a _ hflaw hfonts).bind fun _ _ => ?_
  refine Attempt.FailsIn.bind (Reports.defectOr (Zone.reports_allOf c) _) fun _ _ => ?_
  refine Attempt.FailsIn.bind (Reports.defectOr (reports_events c) _) fun _ _ => ?_
  refine htraits.bind fun _ _ => ?_
  refine Attempt.FailsIn.bind (Reports.defectOr (reports_sequences c) _) fun _ _ => ?_
  exact ((failsIn_router c).mono (Fault.DefectOr.mono hflaw)).bind fun _ _ => .ok _

theorem failsIn_ofElement {P : Fault → Prop} (a : Atlas) {c : Cursor}
    (hflaw : ∀ f, Flaw l c f → P f) (hfonts : FontsFailIn P l.host)
    (htraits : Attempt.FailsIn (Fault.DefectOr P)
      (declared c "traits" (TraitMaker.allOf (some l.host)))) :
    Timed.FailsIn (Fault.SingleOr P) (ofElement l a c) := by
  refine Timed.FailsIn.bind
    (.lift ((failsIn_silent a hflaw hfonts htraits).mono Fault.DefectOr.singleOr)) fun _ _ _ => ?_
  refine Timed.FailsIn.bind (fun s f h => ?_) fun _ _ _ => .pure _
  refine (Clip.failsIn_allOf l c s f h).imp_right ?_
  rintro ⟨sound, hsound, hstrays⟩
  exact hflaw _ (.sound hsound hstrays)

end Blueprint

namespace Pool

/-- Telling which blueprints have no default texture does not go wrong. -/
theorem failsIn_told {P : Fault → Prop} (blueprints : List Blueprint) (pool : Pool) :
    Timed.FailsIn P (do
      for b in blueprints do
        unless b.hasDefaultTexture do Timed.notice (.noDefaultTexture b.id)
      return pool) := by
  refine Timed.FailsIn.bind (.forIn fun b _ _ => ?_) fun _ _ _ => .pure _
  split
  · exact .pure _
  · exact (Timed.FailsIn.notice _).bind fun _ _ _ => .pure _

variable [Application]

/-- The flaws of a pool: those of its animations and items, and of the addresses of its pictures. -/
inductive Flaw (l : Loader) (root : Cursor) : Fault → Prop
  | picture {c : Cursor} {f : Fault}
      (hc : c ∈ root.find (Selector.ofString "textures > texture")) (h : l.StraysToPicture c f) :
      Flaw l root f
  | animation {c : Cursor} {f : Fault}
      (hc : c ∈ root.find (Selector.ofString "animations > animation")) (h : Animation.Flaw c f) :
      Flaw l root f
  | item {c : Cursor} {f : Fault} (hc : c ∈ root.childrenTagged (itemTag root))
      (h : Blueprint.Flaw l c f) : Flaw l root f

variable {l : Loader} {root : Cursor}

theorem Flaw.isLocal {f : Fault} (h : Flaw l root f) : f.isLocal := by
  cases h with
  | picture _ h => exact h.isLocal
  | animation _ h =>
      rw [h.1]
      rfl
  | item _ h => exact h.isLocal

theorem failsIn_textures : Timed.FailsIn (Fault.SingleOr (Flaw l root)) (textures l root) := by
  refine Timed.FailsIn.bind (.gather fun w hw => ?_) fun _ _ _ => .pure _
  obtain ⟨e, he, rfl⟩ := List.mem_map.1 hw
  have hmem : e.1 ∈ root.find (Selector.ofString "textures > texture") :=
    List.fst_mem_of_mem_zipIdx he
  refine Timed.FailsIn.bind (fun s f h => ?_) fun _ _ _ => ?_
  · exact (l.failsIn_pictureOf e.1 s f h).imp_right (.picture hmem)
  · exact Timed.FailsIn.bind (.lift (Reports.singleOr (e.1.reports_vec2? "w" "h") _))
      fun _ _ _ => .pure _

theorem failsIn_atlas : Timed.FailsIn (Fault.SingleOr (Flaw l root)) (atlas l root) := by
  refine failsIn_textures.bind fun ts _ _ => Timed.FailsIn.bind (.lift (.mapM fun e he => ?_))
    fun _ _ _ => .pure _
  have hmem : e.1 ∈ root.find (Selector.ofString "animations > animation") :=
    List.fst_mem_of_mem_zipIdx he
  refine Attempt.FailsIn.bind (Reports.singleOr (Atlas.reports_texture _ _ _) _) fun _ _ => ?_
  refine Attempt.FailsIn.bind ?_ fun _ _ => .ok _
  exact ((Animation.failsIn_ofElement e.1 _).mono (Fault.DefectOr.mono fun _ hf =>
    .animation hmem hf)).mono Fault.DefectOr.singleOr

/-- A pool goes wrong as its list of items, its atlas and its items do. -/
theorem failsIn_parts {P : Fault → Prop} (hitems : Attempt.FailsIn P (items root))
    (hatlas : Timed.FailsIn P (atlas l root))
    (hitem : ∀ item ∈ root.childrenTagged (itemTag root), ∀ a,
      Timed.FailsIn P (Blueprint.ofElement l a item)) :
    Timed.FailsIn P (ofElement l root) := by
  refine Timed.FailsIn.task ?_ 1 2
  refine Timed.FailsIn.bind (.lift hitems) fun items _ hitems => ?_
  refine hatlas.bind fun a _ _ => Timed.FailsIn.bind (.gather fun w hw => ?_)
    fun blueprints _ _ => failsIn_told blueprints _
  obtain ⟨e, he, rfl⟩ := List.mem_map.1 hw
  obtain ⟨item, hmem, -, -, rfl⟩ := Attempt.exists_mem_of_forall₂ (items_eq_ok hitems).2 he
  exact hitem e.2 hmem a

/-- With nothing registered, what goes wrong with a pool is reported, or stems from one of its
flaws. -/
theorem failsIn_ofElement (hhost : l.host = {}) (hroot : root.element.Clean) :
    Timed.FailsIn (Fault.ReportedOr (Flaw l root)) (ofElement l root) := by
  refine failsIn_parts ((failsIn_items root).mono fun _ => .inl)
    (fun s => (failsIn_atlas s).mono Fault.SingleOr.reportedOr) fun item hitem a => ?_
  have hclean := Cursor.clean_of_mem_childrenTagged hroot hitem
  have hfonts : Blueprint.FontsFailIn (Flaw l root) l.host := by
    intro name font hfont
    rw [hhost] at hfont
    cases hfont
  intro s
  refine Attempt.FailsIn.mono ?_ Fault.SingleOr.reportedOr
  exact Blueprint.failsIn_ofElement a (fun _ hf => .item hitem hf) hfonts
    (Reports.defectOr (TraitMaker.reports_declared (by rw [hhost]) hclean) _) s

end Pool

end Stagecraft
