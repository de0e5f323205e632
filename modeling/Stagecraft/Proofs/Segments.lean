import Stagecraft.Address.Url
import Stagecraft.Proofs.Pieces

/-!
# Segments of addresses

The path of an address is cut at its slashes. A directory is a list of segments, of which only the
first may be empty: then the path starts at the root. Here a reference that only leads on is
resolved at the path of a document (`join_eq`). It comes after the directory of what is left of the
path in front of the first query, fragment or parameter.
-/

namespace Stagecraft

namespace Url

/-- A segment that leads on. -/
structure IsStep (s : List Char) : Prop where
  ne_nil : s ≠ []
  no_slash : '/' ∉ s
  ne_dot : s ≠ ['.']
  ne_dots : s ≠ ['.', '.']

instance (s : List Char) : Decidable (IsStep s) :=
  decidable_of_iff (s ≠ [] ∧ '/' ∉ s ∧ s ≠ ['.'] ∧ s ≠ ['.', '.'])
    ⟨fun ⟨hnil, hslash, hdot, hdots⟩ => ⟨hnil, hslash, hdot, hdots⟩,
      fun ⟨hnil, hslash, hdot, hdots⟩ => ⟨hnil, hslash, hdot, hdots⟩⟩

/-- The segments of a directory. All lead on, but the first is empty if the directory is given from
the root. -/
structure IsDirectory (ds : List (List Char)) : Prop where
  first : ∀ d ∈ ds.head?, d = [] ∨ IsStep d
  rest : ∀ d ∈ ds.tail, IsStep d

theorem isDirectory_nil : IsDirectory [] := ⟨nofun, nofun⟩

theorem IsDirectory.step {ds : List (List Char)} (h : IsDirectory ds) {d : List Char}
    (hd : d ∈ ds) : d = [] ∨ IsStep d := by
  cases ds with
  | nil => cases hd
  | cons e ds =>
      rcases List.mem_cons.1 hd with rfl | hd
      · exact h.first d rfl
      · exact .inr (h.rest d hd)

theorem IsDirectory.no_slash {ds : List (List Char)} (h : IsDirectory ds) : ∀ d ∈ ds, '/' ∉ d := by
  intro d hd
  rcases h.step hd with rfl | hd
  · exact List.not_mem_nil
  · exact hd.no_slash

/-- Segments in front of others, each with the slash behind it. -/
def lead (ds : List (List Char)) : List Char := ds.flatMap (· ++ ['/'])

@[simp] theorem lead_nil : lead [] = [] := rfl

@[simp] theorem lead_cons (d : List Char) (ds : List (List Char)) :
    lead (d :: ds) = d ++ '/' :: lead ds := by
  simp [lead]

theorem lead_append_intercalate (ds : List (List Char)) {ss : List (List Char)} (h : ss ≠ []) :
    lead ds ++ ['/'].intercalate ss = ['/'].intercalate (ds ++ ss) := by
  induction ds with
  | nil => rfl
  | cons d ds ih =>
      cases hrest : ds ++ ss with
      | nil => exact absurd (List.append_eq_nil_iff.1 hrest).2 h
      | cons s rest =>
          rw [lead_cons, List.append_assoc, List.cons_append, ih, hrest, List.cons_append, hrest,
            List.intercalate_cons_cons]
          simp

/-- The segments of a path are those of its directory and one more. -/
theorem splitChars_lead {ds : List (List Char)} {f : List Char} (hds : ∀ d ∈ ds, '/' ∉ d)
    (hf : '/' ∉ f) : Text.splitChars '/' (lead ds ++ f) = ds ++ [f] := by
  have hjoin := lead_append_intercalate ds (List.cons_ne_nil f [])
  rw [List.intercalate_singleton] at hjoin
  rw [hjoin, Text.splitChars_eq_splitOn, List.splitOn_intercalate '/']
  · intro d hd
    rcases List.mem_append.1 hd with hd | hd
    · exact hds d hd
    · rwa [List.mem_singleton.1 hd]
  · simp

theorem lead_injective {ds es : List (List Char)} (hds : ∀ d ∈ ds, '/' ∉ d)
    (hes : ∀ e ∈ es, '/' ∉ e) (h : lead ds = lead es) : ds = es := by
  have hsplit := congrArg (Text.splitChars '/') (congrArg (· ++ []) h)
  rw [splitChars_lead hds List.not_mem_nil, splitChars_lead hes List.not_mem_nil] at hsplit
  exact (List.append_left_inj _).1 hsplit

/-! ### Joining paths -/

theorem directory_lead {ds : List (List Char)} {f : List Char} (hds : ∀ d ∈ ds, '/' ∉ d)
    (hf : '/' ∉ f) : directory (lead ds ++ f) = if f = [] then ds ++ [[]] else ds := by
  unfold directory
  rw [splitChars_lead hds hf]
  cases f <;> simp

theorem dropEmptyInside_cons (s : List Char) {rest : List (List Char)} (h : rest ≠ []) :
    dropEmptyInside (s :: rest) =
      s :: rest.dropLast.filter (!·.isEmpty) ++ rest.getLast?.toList := by
  cases rest with
  | nil => exact absurd rfl h
  | cons => rfl

/-- Of segments that lead on in the end, only empty ones in the middle are left out. -/
theorem dropEmptyInside_append (d : List Char) (middle : List (List Char))
    {ss : List (List Char)} (hne : ss ≠ []) (hss : ∀ s ∈ ss, s ≠ []) :
    dropEmptyInside (d :: middle ++ ss) = d :: middle.filter (!·.isEmpty) ++ ss := by
  have hfull : ss.dropLast.filter (!·.isEmpty) = ss.dropLast :=
    List.filter_eq_self.2 fun s hs => by simpa using hss s (List.dropLast_subset ss hs)
  have hwhole : ss.dropLast ++ ss.getLast?.toList = ss := by
    rw [List.getLast?_eq_some_getLast hne]
    exact List.dropLast_concat_getLast hne
  have hlast : (middle ++ ss).getLast? = ss.getLast? := by
    rw [List.getLast?_append, List.getLast?_eq_some_getLast hne, Option.some_or]
  have hrest : middle ++ ss ≠ [] := fun h => hne (List.append_eq_nil_iff.1 h).2
  rw [List.cons_append, dropEmptyInside_cons d hrest, List.dropLast_append_of_ne_nil hne,
    List.filter_append, hfull, hlast, List.cons_append, List.append_assoc, hwhole, List.cons_append]

theorem dropEmptyInside_of_steps {ss : List (List Char)} (h : ∀ s ∈ ss, s ≠ []) :
    dropEmptyInside ss = ss := by
  cases ss with
  | nil => rfl
  | cons s rest =>
      cases rest with
      | nil => rfl
      | cons t rest =>
          exact dropEmptyInside_append s [] (List.cons_ne_nil t rest)
            fun u hu => h u (List.mem_cons_of_mem s hu)

theorem follow_of_steps {ss : List (List Char)} (h : ∀ s ∈ ss, s ≠ ['.'] ∧ s ≠ ['.', '.']) :
    follow ss = ss := by
  have henter (acc : List (List Char)) (ts : List (List Char))
      (hts : ∀ t ∈ ts, t ≠ ['.'] ∧ t ≠ ['.', '.']) : ts.foldl enter acc = ts.reverse ++ acc := by
    induction ts generalizing acc with
    | nil => rfl
    | cons t ts ih =>
        obtain ⟨hdot, hdots⟩ := hts t List.mem_cons_self
        rw [List.foldl_cons, ih _ fun u hu => hts u (List.mem_cons_of_mem t hu), enter,
          if_neg hdots, if_neg hdot]
        simp
  unfold follow
  rw [henter [] ss h, List.append_nil, List.reverse_reverse]
  cases hlast : ss.getLast? with
  | none => rfl
  | some last =>
      obtain ⟨hdot, hdots⟩ := h last (List.mem_of_getLast? hlast)
      simp [hdot, hdots]

/-- The directory that a reference leads on from: that of the path, or the root if there is no path
at all. -/
def reached (ds : List (List Char)) (f : List Char) : List (List Char) :=
  if ds = [] ∧ f = [] then [[]] else ds

theorem IsDirectory.reached {ds : List (List Char)} (h : IsDirectory ds) (f : List Char) :
    IsDirectory (reached ds f) := by
  unfold Url.reached
  split
  · exact ⟨fun d hd => .inl (Option.some.inj hd).symm, nofun⟩
  · exact h

section Join

variable {ds ss : List (List Char)} {f : List Char}

theorem exists_intercalate (s : List Char) (ss : List (List Char)) :
    ∃ rest, ['/'].intercalate (s :: ss) = s ++ rest := by
  cases ss with
  | nil => exact ⟨[], by rw [List.intercalate_singleton, List.append_nil]⟩
  | cons t ss => exact ⟨_, by rw [List.intercalate_cons_cons, List.append_assoc]⟩

theorem head?_intercalate (hss : ∀ s ∈ ss, IsStep s) :
    (['/'].intercalate ss).head? = ss.head?.bind List.head? := by
  cases ss with
  | nil => rfl
  | cons s ss =>
      obtain ⟨rest, hrest⟩ := exists_intercalate s ss
      obtain ⟨c, cs, rfl⟩ := List.exists_cons_of_ne_nil (hss s List.mem_cons_self).ne_nil
      rw [hrest]
      rfl

theorem intercalate_ne_nil (hne : ss ≠ []) (hss : ∀ s ∈ ss, IsStep s) :
    ['/'].intercalate ss ≠ [] := by
  obtain ⟨s, ss, rfl⟩ := List.exists_cons_of_ne_nil hne
  obtain ⟨rest, hrest⟩ := exists_intercalate s ss
  rw [hrest]
  exact fun h => (hss s List.mem_cons_self).ne_nil (List.append_eq_nil_iff.1 h).1

theorem head?_intercalate_ne (hss : ∀ s ∈ ss, IsStep s) :
    (['/'].intercalate ss).head? ≠ some '/' := by
  intro h
  rw [head?_intercalate hss] at h
  obtain ⟨s, hs, hc⟩ := Option.bind_eq_some_iff.1 h
  exact (hss s (List.mem_of_mem_head? hs)).no_slash (List.mem_of_mem_head? hc)

theorem dropEmptyInside_directory (hds : IsDirectory ds) (hf : '/' ∉ f) (hne : ss ≠ [])
    (hss : ∀ s ∈ ss, IsStep s) :
    dropEmptyInside (directory (lead ds ++ f) ++ ss) = reached ds f ++ ss := by
  have hfull : ∀ s ∈ ss, s ≠ [] := fun s hs => (hss s hs).ne_nil
  rw [directory_lead hds.no_slash hf]
  cases ds with
  | nil =>
      cases f with
      | nil => exact dropEmptyInside_append [] [] hne hfull
      | cons c cs => exact dropEmptyInside_of_steps hfull
  | cons d ds =>
      have hrest : ds.filter (!·.isEmpty) = ds :=
        List.filter_eq_self.2 fun e he => by simpa using (hds.rest e he).ne_nil
      have hreached : reached (d :: ds) f = d :: ds := if_neg fun h => List.cons_ne_nil d ds h.1
      rw [hreached]
      split
      · have hgap := dropEmptyInside_append d (ds ++ [[]]) hne hfull
        rwa [List.filter_append, hrest, List.filter_cons_of_neg (by simp), List.filter_nil,
          List.append_nil] at hgap
      · rw [dropEmptyInside_append d ds hne hfull, hrest]

theorem joinPaths_lead (hds : IsDirectory ds) (hf : '/' ∉ f) (hne : ss ≠ [])
    (hss : ∀ s ∈ ss, IsStep s) : joinPaths (lead ds ++ f) (['/'].intercalate ss) =
      lead (reached ds f) ++ ['/'].intercalate ss := by
  have hsplit : Text.splitChars '/' (['/'].intercalate ss) = ss := by
    rw [Text.splitChars_eq_splitOn,
      List.splitOn_intercalate '/' (fun s hs => (hss s hs).no_slash) hne]
  have hplain : ∀ s ∈ reached ds f ++ ss, s ≠ ['.'] ∧ s ≠ ['.', '.'] := by
    have hstep : ∀ s ∈ reached ds f ++ ss, s = [] ∨ IsStep s := fun s hs =>
      (List.mem_append.1 hs).elim (hds.reached f).step fun hs => .inr (hss s hs)
    intro s hs
    rcases hstep s hs with rfl | hs
    · exact ⟨nofun, nofun⟩
    · exact ⟨hs.ne_dot, hs.ne_dots⟩
  unfold joinPaths
  rw [if_neg (head?_intercalate_ne hss), hsplit, dropEmptyInside_directory hds hf hne hss]
  dsimp only
  rw [follow_of_steps hplain, ← lead_append_intercalate _ hne, if_neg]
  intro h
  exact intercalate_ne_nil hne hss (List.append_eq_nil_iff.1 (List.isEmpty_iff.1 h)).2

end Join

/-! ### Taking addresses apart -/

/-- Characters that stay in an address: all but tabs and line ends. -/
def isKept (c : Char) : Bool := c ≠ '\t' && c ≠ '\x0d' && c ≠ '\n'

/-- Characters of a path, which end neither at a query nor at a fragment. -/
def isPlain (c : Char) : Bool := c ≠ '?' && c ≠ '#'

/-- The first segment of a path, if nothing is dropped in front of it and it begins no scheme. -/
structure IsStart (s : List Char) : Prop where
  visible : ∀ c ∈ s.head?, 32 < c.toNat
  kept : ∀ c ∈ s, isKept c = true
  no_scheme : hasScheme s = false

theorem isStart_iff {s : List Char} : IsStart s ↔
    (s.head?.all (32 < ·.toNat) && s.all isKept && !hasScheme s) = true := by
  rw [Bool.and_eq_true, Bool.and_eq_true, Option.all_eq_true, List.all_eq_true, and_assoc]
  simp only [decide_eq_true_eq, Bool.not_eq_true']
  exact ⟨fun h => ⟨h.visible, h.kept, h.no_scheme⟩,
    fun ⟨hvisible, hkept, hscheme⟩ => ⟨hvisible, hkept, hscheme⟩⟩

instance (s : List Char) : Decidable (IsStart s) := decidable_of_iff _ isStart_iff.symm

theorem cut_of_not_mem {mark : Char} {cs : List Char} (h : mark ∉ cs) :
    cut mark cs = (cs, none) := by
  have hall : ∀ c ∈ cs, decide (c ≠ mark) = true := fun c hc =>
    decide_eq_true fun hmark => h (hmark ▸ hc)
  rw [cut, List.takeWhile_eq_self_iff.2 hall, List.dropWhile_eq_nil_iff.2 hall]
  rfl

theorem cut_append {mark : Char} {before : List Char} (h : mark ∉ before) (rest : List Char) :
    cut mark (before ++ mark :: rest) = (before, some rest) := by
  have hall : ∀ c ∈ before, decide (c ≠ mark) = true := fun c hc =>
    decide_eq_true fun hmark => h (hmark ▸ hc)
  have hhead : ∀ c ∈ (mark :: rest).head?, decide (c ≠ mark) = false := by simp
  rw [cut, Text.takeWhile_append_of_head hall hhead, Text.dropWhile_append_of_head hall hhead]
  rfl

/-- A scheme ends inside the first segment of a path. -/
theorem scheme?_append {n rest : List Char} (hn : hasScheme n = false)
    (hrest : ∀ c ∈ rest.head?, c = '/') : scheme? (n ++ rest) = none := by
  by_cases hcolon : ':' ∈ n
  · obtain ⟨before, after, rfl, hbefore⟩ := List.eq_append_cons_of_mem hcolon
    unfold hasScheme scheme? at hn
    rw [cut_append hbefore] at hn
    dsimp only at hn
    split at hn
    · cases hn
    · rename_i hcond
      unfold scheme?
      rw [List.append_assoc, List.cons_append, cut_append hbefore]
      exact if_neg hcond
  · cases rest with
    | nil =>
        unfold scheme?
        rw [List.append_nil, cut_of_not_mem hcolon]
    | cons c rest =>
        obtain rfl : c = '/' := hrest c rfl
        have hslash (tail : List Char) : (n ++ '/' :: tail).all isSchemeChar = false := by
          simp [isSchemeChar]
        unfold scheme?
        by_cases hrest : ':' ∈ rest
        · obtain ⟨before, after, rfl, hbefore⟩ := List.eq_append_cons_of_mem hrest
          have hfree : ':' ∉ n ++ '/' :: before := by simp [hcolon, hbefore]
          have hcut := cut_append hfree after
          rw [List.append_assoc, List.cons_append] at hcut
          rw [hcut]
          dsimp only
          rw [hslash, Bool.and_false, if_neg Bool.false_ne_true]
        · rw [cut_of_not_mem (by simp [hcolon, hrest])]

theorem head?_lead {ds : List (List Char)} (hds : ∀ d ∈ ds, IsStep d) {f : List Char}
    (hf : f.head? ≠ some '/') : (lead ds ++ f).head? ≠ some '/' := by
  cases ds with
  | nil => exact hf
  | cons d ds =>
      have hd := hds d List.mem_cons_self
      obtain ⟨c, cs, rfl⟩ := List.exists_cons_of_ne_nil hd.ne_nil
      rintro h
      cases h
      exact hd.no_slash List.mem_cons_self

theorem not_doubled {ds : List (List Char)} (hds : IsDirectory ds) {f : List Char}
    (hf : f.head? ≠ some '/') : ['/', '/'].isPrefixOf (lead ds ++ f) = false := by
  have hsingle {cs : List Char} (h : cs.head? ≠ some '/') (rest : List Char) :
      ('/' :: rest).isPrefixOf cs = false := by
    cases cs with
    | nil => rfl
    | cons c cs =>
        have hc : ('/' == c) = false := beq_eq_false_iff_ne.2 fun heq => h (congrArg some heq.symm)
        rw [List.isPrefixOf, hc, Bool.false_and]
  cases ds with
  | nil => exact hsingle hf _
  | cons d ds =>
      rcases hds.first d rfl with rfl | hd
      · exact hsingle (head?_lead hds.rest hf) []
      · refine hsingle (head?_lead (fun e he => ?_) hf) _
        rcases List.mem_cons.1 he with rfl | he
        · exact hd
        · exact hds.rest e he

theorem splitAuthority_of_not_doubled {cs : List Char} (h : ['/', '/'].isPrefixOf cs = false) :
    splitAuthority cs = ([], cs) := by
  unfold splitAuthority
  split
  · simp at h
  · rfl

/-- What is in front of the first character of some kind ends inside the first segment that holds
one. -/
theorem takeWhile_lead {p : Char → Bool} (hp : p '/' = true) {ds : List (List Char)}
    (hds : ∀ d ∈ ds, '/' ∉ d) {f : List Char} (hf : '/' ∉ f) :
    ∃ g, '/' ∉ g ∧ (lead ds ++ f).takeWhile p = lead (ds.takeWhile (·.all p)) ++ g ∧
      (ds = [] → g = f.takeWhile p) := by
  have hfree {cs : List Char} (h : '/' ∉ cs) : '/' ∉ cs.takeWhile p :=
    fun hmem => h ((List.takeWhile_sublist p).subset hmem)
  induction ds with
  | nil => exact ⟨f.takeWhile p, hfree hf, rfl, fun _ => rfl⟩
  | cons d ds ih =>
      by_cases hall : d.all p = true
      · obtain ⟨g, hg, htake, -⟩ := ih fun e he => hds e (List.mem_cons_of_mem d he)
        have hkept : (d :: ds).takeWhile (·.all p) = d :: ds.takeWhile (·.all p) :=
          List.takeWhile_cons_of_pos hall
        refine ⟨g, hg, ?_, nofun⟩
        rw [hkept, lead_cons, lead_cons, List.append_assoc, List.cons_append,
          List.takeWhile_append_of_pos (List.all_eq_true.1 hall), List.takeWhile_cons_of_pos hp,
          htake, List.append_assoc, List.cons_append]
      · have hnone : (d :: ds).takeWhile (·.all p) = [] := List.takeWhile_cons_of_neg hall
        refine ⟨d.takeWhile p, hfree (hds d List.mem_cons_self), ?_, nofun⟩
        rw [hnone, lead_nil, List.nil_append, lead_cons, List.append_assoc, List.takeWhile_append,
          if_neg]
        intro hlength
        have hwhole := (List.takeWhile_prefix p).eq_of_length hlength
        exact hall (List.all_eq_true.2 (List.takeWhile_eq_self_iff.1 hwhole))

theorem head?_reverse_lead (ds : List (List Char)) : ∀ c ∈ (lead ds).reverse.head?, c = '/' := by
  rcases List.eq_nil_or_concat ds with rfl | ⟨es, e, rfl⟩
  · exact nofun
  · simp [lead]

/-- Parameters are cut off the last segment. -/
theorem splitParams_lead (ds : List (List Char)) {g : List Char} (hg : '/' ∉ g) :
    (splitParams (lead ds ++ g)).1 = lead ds ++ g.takeWhile (· ≠ ';') := by
  have hlast : ((lead ds ++ g).reverse.takeWhile (· ≠ '/')).reverse = g := by
    rw [List.reverse_append, Text.takeWhile_append_of_head, List.reverse_reverse]
    · simp only [List.mem_reverse, decide_eq_true_eq]
      exact fun c hc hslash => hg (hslash ▸ hc)
    · simpa using head?_reverse_lead ds
  change _ = lead ds ++ (cut ';' g).1
  unfold splitParams
  rw [hlast]
  dsimp only
  cases hcut : cut ';' g with
  | mk name params =>
      cases params with
      | some params =>
          dsimp only
          rw [List.length_append, Nat.add_sub_cancel, List.take_left]
      | none =>
          by_cases hmark : ';' ∈ g
          · obtain ⟨before, after, rfl, hbefore⟩ := List.eq_append_cons_of_mem hmark
            rw [cut_append hbefore] at hcut
            cases hcut
          · rw [cut_of_not_mem hmark] at hcut
            cases hcut
            rfl

/-- An address is read as its characters, but for those that are dropped. -/
theorem ofChars_of_path {cs rest : List Char} (hvisible : ∀ c ∈ cs.head?, 32 < c.toNat)
    (hrest : cs.filter isKept = rest) (hscheme : scheme? rest = none)
    (hdoubled : ['/', '/'].isPrefixOf rest = false) :
    ofChars [] cs = .ok
      { scheme := [], authority := []
        path := (splitParams (cut '?' (cut '#' rest).1).1).1
        params := (splitParams (cut '?' (cut '#' rest).1).1).2
        query := (cut '?' (cut '#' rest).1).2.getD []
        fragment := (cut '#' rest).2.getD [] } := by
  have hclean : ((cs.dropWhile fun c => c.toNat ≤ 32).filter fun c =>
      c ≠ '\t' && c ≠ '\x0d' && c ≠ '\n') = rest := by
    have hdrop : ([] ++ cs).dropWhile (fun c => decide (c.toNat ≤ 32)) = cs :=
      Text.dropWhile_append_of_head nofun (by simpa using hvisible)
    rw [← hrest, ← List.nil_append cs, hdrop]
    rfl
  have hauthority : isAuthority [] = true := by decide
  have hparams : paramSchemes.contains (String.ofList []) = true := by decide
  simp only [ofChars, hclean, hscheme, splitAuthority_of_not_doubled hdoubled, Option.getD_none,
    hauthority, hparams]
  rfl

variable {ds ss : List (List Char)} {f : List Char}

/-- What is left of the path of a document when it is taken for an address: the directories in front
of the first that holds a query or a fragment, and a part of the next segment. -/
theorem ofChars_lead (hds : IsDirectory ds) (hf : '/' ∉ f) (hne : f ≠ [])
    (hkept : ∀ d ∈ ds, ∀ c ∈ d, isKept c = true)
    (hstart : ∀ s ∈ (ds ++ [f]).head?, s = [] ∨ IsStart s) :
    ∃ g u, '/' ∉ g ∧ ofChars [] (lead ds ++ f) = .ok u ∧ u.scheme = [] ∧ u.authority = [] ∧
      u.path = lead (ds.takeWhile (·.all isPlain)) ++ g ∧
      (ds = [] → (g = [] ↔ ∃ c ∈ f.head?, c = '?' ∨ c = '#' ∨ c = ';')) := by
  have hf' : '/' ∉ f.filter isKept := fun h => hf (List.mem_filter.1 h).1
  have hlead : (lead ds).filter isKept = lead ds := by
    refine List.filter_eq_self.2 fun c hc => ?_
    obtain ⟨d, hd, hc⟩ := List.mem_flatMap.1 hc
    rcases List.mem_append.1 hc with hc | hc
    · exact hkept d hd c hc
    · rw [List.mem_singleton.1 hc]
      rfl
  have hrest : (lead ds ++ f).filter isKept = lead ds ++ f.filter isKept := by
    rw [List.filter_append, hlead]
  have hfile : ds = [] → IsStart f := by
    rintro rfl
    exact (hstart f rfl).resolve_left hne
  have hvisible : ∀ c ∈ (lead ds ++ f).head?, 32 < c.toNat := by
    cases ds with
    | nil => exact (hfile rfl).visible
    | cons d ds =>
        cases d with
        | nil =>
            rintro c ⟨⟩
            decide
        | cons c cs => exact ((hstart (c :: cs) rfl).resolve_left (List.cons_ne_nil c cs)).visible
  have hscheme : scheme? (lead ds ++ f.filter isKept) = none := by
    cases ds with
    | nil =>
        have hname : scheme? (f ++ []) = none := scheme?_append (hfile rfl).no_scheme nofun
        rwa [List.append_nil, ← List.filter_eq_self.2 (hfile rfl).kept] at hname
    | cons d ds =>
        rw [lead_cons, List.append_assoc]
        refine scheme?_append ?_ fun c hc => (Option.some.inj hc).symm
        rcases hstart d rfl with rfl | hd
        · rfl
        · exact hd.no_scheme
  have hdoubled := not_doubled hds (f := f.filter isKept) fun h => hf' (List.mem_of_mem_head? h)
  obtain ⟨g, hg, htake, hsame⟩ :=
    takeWhile_lead (p := isPlain) rfl hds.no_slash hf'
  have hcut : (cut '?' (cut '#' (lead ds ++ f.filter isKept)).1).1 =
      (lead ds ++ f.filter isKept).takeWhile isPlain := by
    change ((lead ds ++ f.filter isKept).takeWhile (· ≠ '#')).takeWhile (· ≠ '?') = _
    rw [List.takeWhile_takeWhile]
    congr 1
    funext c
    simp [isPlain]
  refine ⟨g.takeWhile (· ≠ ';'), _, fun h => hg ((List.takeWhile_sublist _).subset h),
    ofChars_of_path hvisible hrest hscheme hdoubled, rfl, rfl, ?_, fun hnil => ?_⟩
  · dsimp only
    rw [hcut, htake, splitParams_lead _ hg]
  · rw [hsame hnil, List.filter_eq_self.2 (hfile hnil).kept]
    obtain ⟨c, cs, rfl⟩ := List.exists_cons_of_ne_nil hne
    rw [List.takeWhile_takeWhile, List.takeWhile_eq_nil_iff]
    suffices h : (¬c = ';' → ¬c = '?' → c = '#') ↔ c = '?' ∨ c = '#' ∨ c = ';' by
      simpa [isPlain] using h
    grind

/-- The segments of a reference that only leads on: nothing of it is dropped, or is more than a
path. -/
structure IsReference (ss : List (List Char)) : Prop where
  ne_nil : ss ≠ []
  step : ∀ s ∈ ss, IsStep s
  kept : ∀ s ∈ ss, ∀ c ∈ s, isKept c = true
  plain : ∀ s ∈ ss, ∀ c ∈ s, c ∉ [':', '?', '#', ';']
  visible : ∀ s ∈ ss.head?, ∀ c ∈ s.head?, 32 < c.toNat

theorem mem_intercalate {c : Char} (h : c ∈ ['/'].intercalate ss) : c = '/' ∨ ∃ s ∈ ss, c ∈ s := by
  induction ss with
  | nil => cases h
  | cons s ss ih =>
      cases ss with
      | nil =>
          rw [List.intercalate_singleton] at h
          exact .inr ⟨s, List.mem_cons_self, h⟩
      | cons t ss =>
          rw [List.intercalate_cons_cons, List.append_assoc, List.mem_append, List.mem_append,
            List.mem_singleton] at h
          rcases h with h | h | h
          · exact .inr ⟨s, List.mem_cons_self, h⟩
          · exact .inl h
          · refine (ih h).imp_right ?_
            rintro ⟨u, hu, hc⟩
            exact ⟨u, List.mem_cons_of_mem s hu, hc⟩

theorem ofChars_reference (hss : IsReference ss) :
    ofChars [] (['/'].intercalate ss) = .ok ⟨[], [], ['/'].intercalate ss, [], [], []⟩ := by
  have hfree {mark : Char} (hmark : mark ∈ [':', '?', '#', ';']) : mark ∉ ['/'].intercalate ss := by
    intro h
    rcases mem_intercalate h with rfl | ⟨s, hs, hc⟩
    · simp at hmark
    · exact hss.plain s hs mark hc hmark
  have hkept : ∀ c ∈ ['/'].intercalate ss, isKept c = true := by
    intro c h
    rcases mem_intercalate h with rfl | ⟨s, hs, hc⟩
    · rfl
    · exact hss.kept s hs c hc
  have hvisible : ∀ c ∈ (['/'].intercalate ss).head?, 32 < c.toNat := by
    intro c hc
    rw [head?_intercalate hss.step] at hc
    obtain ⟨s, hs, hc⟩ := Option.bind_eq_some_iff.1 hc
    exact hss.visible s hs c hc
  have hscheme : scheme? (['/'].intercalate ss) = none := by
    unfold scheme?
    rw [cut_of_not_mem (hfree (by simp))]
  have hdoubled : ['/', '/'].isPrefixOf (['/'].intercalate ss) = false :=
    not_doubled isDirectory_nil (head?_intercalate_ne hss.step)
  have hparams : splitParams (['/'].intercalate ss) = (['/'].intercalate ss, []) := by
    have hlast : ';' ∉ (((['/'].intercalate ss).reverse.takeWhile (· ≠ '/')).reverse) := by
      intro h
      have hmem := (List.takeWhile_sublist _).subset (List.mem_reverse.1 h)
      exact hfree (by simp) (List.mem_reverse.1 hmem)
    unfold splitParams
    dsimp only
    rw [cut_of_not_mem hlast]
  rw [ofChars_of_path hvisible (List.filter_eq_self.2 hkept) hscheme hdoubled,
    cut_of_not_mem (hfree (by simp)), cut_of_not_mem (hfree (by simp)), hparams]
  rfl

theorem IsDirectory.takeWhile (h : IsDirectory ds) (p : List Char → Bool) :
    IsDirectory (ds.takeWhile p) := by
  cases ds with
  | nil => exact h
  | cons d ds =>
      rw [List.takeWhile_cons]
      split
      · exact ⟨h.first, fun e he => h.rest e ((List.takeWhile_sublist p).subset he)⟩
      · exact ⟨nofun, nofun⟩

theorem toChars_of_path {path : List Char} (h : ['/', '/'].isPrefixOf path = false) :
    toChars ⟨[], [], path, [], [], []⟩ = path := by
  simp [toChars, marked, h]

/-- Joining addresses that are paths alone joins the paths. -/
theorem join_of_path {base reference : List Char} {u : Url} (hne : base ≠ [])
    (hne' : reference ≠ []) (hu : ofChars [] base = .ok u) (hscheme : u.scheme = [])
    (hauthority : u.authority = [])
    (hreference : ofChars [] reference = .ok ⟨[], [], reference, [], [], []⟩)
    (hdoubled : ['/', '/'].isPrefixOf (joinPaths u.path reference) = false) :
    join (.ofList base) (.ofList reference) = .ok (.ofList (joinPaths u.path reference)) := by
  have hisEmpty {cs : List Char} (h : cs ≠ []) : (String.ofList cs).isEmpty = false := by
    simpa [← Bool.not_eq_true, String.isEmpty_iff, String.ofList_eq_empty_iff] using h
  have hfilled : ¬ (reference.isEmpty && true) = true := by simpa using hne'
  unfold join
  rw [hisEmpty hne, hisEmpty hne', if_neg Bool.false_ne_true, if_neg Bool.false_ne_true,
    String.toList_ofList, String.toList_ofList, hu]
  change (ofChars u.scheme reference >>= _) = _
  rw [hscheme, hreference]
  -- Neither has a scheme, and no scheme at all is one whose references may be relative.
  change (if (reference.isEmpty && true) = true then _ else
    Except.ok (String.ofList
      (toChars ⟨[], u.authority, joinPaths u.path reference, [], [], []⟩))) = _
  rw [if_neg hfilled, hauthority, toChars_of_path hdoubled]

/-- A reference that leads on comes after the directories in front of the first one that holds a
query or a fragment. If nothing is left of the path, then it comes after the root. -/
theorem join_lead (hds : IsDirectory ds) (hf : '/' ∉ f) (hne : f ≠ [])
    (hkept : ∀ d ∈ ds, ∀ c ∈ d, isKept c = true)
    (hstart : ∀ s ∈ (ds ++ [f]).head?, s = [] ∨ IsStart s) (hss : IsReference ss) :
    ∃ g, (ds = [] → (g = [] ↔ ∃ c ∈ f.head?, c = '?' ∨ c = '#' ∨ c = ';')) ∧
      join (.ofList (lead ds ++ f)) (.ofList (['/'].intercalate ss)) =
        .ok (.ofList
          (lead (reached (ds.takeWhile (·.all isPlain)) g) ++ ['/'].intercalate ss)) := by
  obtain ⟨g, u, hg, hu, hscheme, hauthority, hpath, hfirst⟩ :=
    ofChars_lead hds hf hne hkept hstart
  have hkeeps := hds.takeWhile (·.all isPlain)
  have hpaths := joinPaths_lead hkeeps hg hss.ne_nil hss.step
  have hdoubled := not_doubled (hkeeps.reached g) (head?_intercalate_ne hss.step)
  rw [← hpath] at hpaths
  rw [← hpaths] at hdoubled
  refine ⟨g, hfirst, ?_⟩
  rw [← hpaths]
  exact join_of_path (fun h => hne (List.append_eq_nil_iff.1 h).2)
    (intercalate_ne_nil hss.ne_nil hss.step) hu hscheme hauthority (ofChars_reference hss) hdoubled

/-- A reference that leads on comes after the directory of a document just if no directory holds a
query or a fragment, and if the path is more than one of these or a parameter. -/
theorem join_eq_iff (hds : IsDirectory ds) (hf : '/' ∉ f) (hne : f ≠ [])
    (hkept : ∀ d ∈ ds, ∀ c ∈ d, isKept c = true)
    (hstart : ∀ s ∈ (ds ++ [f]).head?, s = [] ∨ IsStart s) (hss : IsReference ss) :
    join (.ofList (lead ds ++ f)) (.ofList (['/'].intercalate ss)) =
        .ok (.ofList (lead ds ++ ['/'].intercalate ss)) ↔
      (∀ d ∈ ds, ∀ c ∈ d, isPlain c = true) ∧
        (ds = [] → ¬ ∃ c ∈ f.head?, c = '?' ∨ c = '#' ∨ c = ';') := by
  obtain ⟨g, hfirst, hjoin⟩ := join_lead hds hf hne hkept hstart hss
  have hkeeps := (hds.takeWhile (·.all isPlain)).reached g
  rw [hjoin]
  constructor
  · intro h
    have hlists := congrArg String.toList (Except.ok.inj h)
    rw [String.toList_ofList, String.toList_ofList] at hlists
    have hreached := lead_injective hkeeps.no_slash hds.no_slash ((List.append_left_inj _).1 hlists)
    unfold reached at hreached
    split at hreached
    · rename_i hnone
      rw [← hreached] at hnone
      cases hnone.1
    · rename_i hsome
      have hplain := List.takeWhile_eq_self_iff.1 hreached
      refine ⟨fun d hd => List.all_eq_true.1 (hplain d hd), fun hnil hmark => ?_⟩
      exact hsome ⟨hreached.trans hnil, (hfirst hnil).2 hmark⟩
  · rintro ⟨hplain, hmark⟩
    have hwhole : ds.takeWhile (·.all isPlain) = ds :=
      List.takeWhile_eq_self_iff.2 fun d hd => List.all_eq_true.2 (hplain d hd)
    rw [hwhole, reached, if_neg]
    rintro ⟨hnil, hg⟩
    exact hmark hnil ((hfirst hnil).1 hg)

end Url

end Stagecraft
