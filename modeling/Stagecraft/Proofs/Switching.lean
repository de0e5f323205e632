import Stagecraft.Proofs.Casting

/-!
# Changes of scene

A scene that ends may lead to another one. That one is loaded first. If this fails, the failure is
all that there is; otherwise the game is in the new scene from then on, and the scene is started.
While the scheduler of tasks is running, a change is only asked for. Nothing else that runs on a
stage changes the game; `switches` says which scenes it has come to.
-/

namespace Stagecraft

/-- What stays of a scene while its sequences play, on whatever stage. -/
def Scene.fixed (c : Scene) : Scene :=
  { c with sequencer := { sequences := c.sequencer.sequences }, world := 0 }

/-- The name of the scene that a report says the game is in. -/
def Report.switched? : Report → Option (Option String)
  | .switching name => some name
  | _ => none

/-- What is told when a task that changes the scene begins. -/
def SceneDraft.beginnings [Application] (l : Loader) (name : String) : List Report :=
  let e := loadNamed l name {}
  e.notices.flatMap (fun n => if n.1.loads = 0 then [.notice n.2] else []) ++
    match e.result with
    | .error f => if e.moment.loads = 0 then [.switchFailed name f] else []
    | .ok _ => []

namespace Stage

variable {l : Loader} {fire : Firing} {d : SceneDraft} {name : String} {s t u : Stage}

/-- The scenes that the game was reported to have come to. -/
def switches (s : Stage) : List (Option String) := s.reports.filterMap Report.switched?

def tells (s : Stage) (rs : List Report) : Stage := { s with reports := s.reports ++ rs }

/-- A draft has been put on the stage, and the game is in it. -/
def entered (s : Stage) (d : SceneDraft) : Stage :=
  { (s.raise d).tell (.switching d.scene.name) with game := some s.scenes.length }

section Ends

theorem tells_nil (s : Stage) : s.tells [] = s := by simp [tells]

theorem tells_tells (s : Stage) (qs rs : List Report) :
    (s.tells qs).tells rs = s.tells (qs ++ rs) := by simp [tells]

/-- Work that gives something, and what is done with it. -/
theorem Ends.of_result {α : Type} {x : Play α} {g : α → Play Unit} {a : α} {r : Except Fault Unit}
    (hresult : result x s = .ok a) (hafter : after x s = t) (hg : Ends (g a) t r u) :
    Ends (x >>= g) s r u := by
  simp [Ends, result_bind, after_bind, hresult, hafter, hg.1, hg.2]

/-- A loop that only tells something for each element. -/
theorem ends_forIn {α : Type} {f : α → Play (ForInStep PUnit)} {g : α → List Report} (as : List α)
    (hresult : ∀ a s, result (f a) s = .ok (.yield PUnit.unit))
    (hafter : ∀ a s, after (f a) s = s.tells (g a)) (s : Stage) :
    Ends (forIn as PUnit.unit fun a _ => f a) s (.ok ()) (s.tells (as.flatMap g)) := by
  induction as generalizing s with
  | nil =>
      simp only [List.forIn_nil, List.flatMap_nil, tells_nil]
      exact ends_pure s
  | cons a as ih =>
      simp only [List.forIn_cons, List.flatMap_cons, ← tells_tells]
      exact Ends.of_result (hresult a s) (hafter a s) (ih (s.tells (g a)))

theorem ends_notices (ns : List Notice) (s : Stage) :
    Ends (forIn ns PUnit.unit fun n _ => do
      report (.notice n); pure (ForInStep.yield PUnit.unit)) s (.ok ())
      (s.tells (ns.map .notice)) := by
  rw [List.map_eq_flatMap]
  exact ends_forIn ns (fun _ _ => rfl) (fun _ _ => rfl) s

theorem result_tryCatch {α : Type} (x : Play α) (g : Fault → Play α) (s : Stage) :
    result (tryCatch x g) s =
      match result x s with
      | .ok a => .ok a
      | .error f => result (g f) (after x s) := by
  unfold after result
  simp only [tryCatch, tryCatchThe, MonadExceptOf.tryCatch, ExceptT.tryCatch, ExceptT.mk]
  simp only [ExceptT.run, StateT.run_bind]
  rcases StateT.run x s with ⟨_ | _, t⟩
  · rfl
  · rfl

def failure? : Except Fault Unit → Option Fault
  | .ok _ => none
  | .error f => some f

/-- A failure is kept for later, as a result. -/
theorem attempt_of_ends {body : Play Unit} {r : Except Fault Unit} (h : Ends body s r t) :
    let x := (tryCatch (body *> pure none) fun f => pure (some f) : Play (Option Fault))
    result x s = .ok (failure? r) ∧ after x s = t := by
  obtain ⟨rfl, rfl⟩ := h
  have hthen : result (body *> pure none : Play (Option Fault)) s =
      (result body s).map fun _ => none := by
    rw [seqRight_eq_bind, result_bind]
    cases result body s <;> rfl
  have hstage : after (body *> pure none : Play (Option Fault)) s = after body s := by
    rw [seqRight_eq_bind, after_bind]
    cases result body s <;> rfl
  intro x
  constructor
  · rw [result_tryCatch, hthen]
    cases result body s <;> rfl
  · rw [after_tryCatch, hthen, hstage]
    cases result body s <;> rfl

/-- The new scene is started, once, and nothing happens after that. -/
theorem ends_arrive_iff {r : Except Fault Unit} :
    Ends (arrive fire d) s r t ↔
      Ends (fire (.scene s.scenes.length) SceneDraft.startEvent []) (s.entered d) r t := by
  have hname : ((s.raise d).scene s.scenes.length).name = d.scene.name := by
    simp [scene, raise]
  rw [entered, ← hname]
  rfl

variable [Application]

/-- A task that begins tells something, and nothing else. -/
theorem ends_commence (l : Loader) (name : String) (s : Stage) :
    Ends (commence l name) s (.ok ()) (s.tells (SceneDraft.beginnings l name)) := by
  have htold (n : Moment × Notice) (s : Stage) :
      result (if n.1.loads = 0 then do
          report (.notice n.2); pure (ForInStep.yield PUnit.unit)
        else pure (ForInStep.yield PUnit.unit) : Play _) s = .ok (.yield PUnit.unit) ∧
      after (if n.1.loads = 0 then do
          report (.notice n.2); pure (ForInStep.yield PUnit.unit)
        else pure (ForInStep.yield PUnit.unit) : Play _) s =
          s.tells (if n.1.loads = 0 then [.notice n.2] else []) := by
    split
    · exact ⟨rfl, rfl⟩
    · exact ⟨rfl, (tells_nil s).symm⟩
  unfold commence SceneDraft.beginnings
  rw [← tells_tells]
  refine (ends_forIn _ (fun n s => (htold n s).1) (fun n s => (htold n s).2) s).bind ?_
  cases (SceneDraft.loadNamed l name {}).result with
  | error f =>
      dsimp only
      split
      · exact ends_report _
      · exact ⟨rfl, (tells_nil _).symm⟩
  | ok d => exact ⟨rfl, (tells_nil _).symm⟩

theorem ends_commenceAll (l : Loader) (names : List String) (s : Stage) :
    Ends (forIn names PUnit.unit fun name _ => do
      commence l name; pure (ForInStep.yield PUnit.unit)) s (.ok ())
      (s.tells (names.flatMap (SceneDraft.beginnings l))) :=
  ends_forIn names
    (fun name s => by rw [result_bind, (ends_commence l name s).1]; rfl)
    (fun name s => by rw [after_bind, (ends_commence l name s).1, (ends_commence l name s).2]; rfl)
    s

theorem ends_switch_of_pending {names : List String} (h : s.pending = some names) :
    Ends (switch l fire name) s (.ok ()) { s with pending := some (names ++ [name]) } := by
  cases haside : s.aside <;> simp [Ends, switch, postpone, h, haside]

theorem ends_switch_of_error {f : Fault} {ns : List Notice} (hs : s.pending = none)
    (h : (SceneDraft.loadNamed l name).run = (.error f, ns)) :
    Ends (switch l fire name) s (.error f) (s.tells (ns.map .notice)) := by
  have hthrow : Ends (throw f : Play Unit) (s.tells (ns.map .notice)) (.error f)
      (s.tells (ns.map .notice)) := ⟨rfl, rfl⟩
  simp only [Ends, switch, result_get_bind, after_get_bind, hs, h]
  exact (ends_notices ns s).bind hthrow

/-- What is run with the scheduler of tasks is run to its end; tasks that are left then only tell
something. -/
theorem ends_scheduled {body : Play Unit} {r : Except Fault Unit} {left : List String}
    (hbody : Ends body { s with pending := some [] } r t) (hleft : t.pending = some left) :
    Ends (scheduled l body) s r
      ({ t with pending := none }.tells (left.flatMap (SceneDraft.beginnings l))) := by
  obtain ⟨hresult, hafter⟩ := attempt_of_ends hbody
  unfold scheduled
  refine Ends.of_result rfl rfl (Ends.of_result hresult hafter (Ends.of_result rfl rfl ?_))
  change Ends (have left := t.pending.getD []; _) t r _
  rw [hleft]
  refine Ends.of_result rfl rfl ((ends_commenceAll l left _).bind ?_)
  cases r with
  | ok a => exact ends_pure _
  | error f => exact ⟨rfl, rfl⟩

theorem ends_switch_of_ok {ns : List Notice} {r : Except Fault Unit} {left : List String}
    (hs : s.pending = none) (h : (SceneDraft.loadNamed l name).run = (.ok d, ns))
    (hstart : Ends (fire (.scene s.scenes.length) SceneDraft.startEvent [])
      ({ s.tells (ns.map .notice) with pending := some [] }.entered d) r t)
    (hleft : t.pending = some left) :
    Ends (switch l fire name) s r
      ({ t with pending := none }.tells (left.flatMap (SceneDraft.beginnings l))) := by
  have hgo := ends_scheduled (l := l) (ends_arrive_iff.2 hstart) hleft
  simp only [Ends, switch, result_get_bind, after_get_bind, hs, h]
  exact (ends_notices ns s).bind hgo

end Ends

end Stage

end Stagecraft
