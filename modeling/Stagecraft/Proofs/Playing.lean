import Mathlib.Order.Defs.Unbundled
import Stagecraft.Stage.Transition

/-!
# What runs on a stage lead to

A run on a stage may fail half way, and the stage it leaves behind counts all the same. For a
relation of stages that goes on from run to run, `Leads` says that every run of some work leads
from a stage to one that is related to it. The work on a stage is composed from reading, changing,
failing and mending, so that the relation has to be looked at only where the stage is changed.
-/

namespace Stagecraft

namespace Stage

variable {α β : Type}

/-- The stage that a run leaves behind. -/
def after (x : Play α) (s : Stage) : Stage := (x.run.run s).2

/-- What a run gives. -/
def result (x : Play α) (s : Stage) : Except Fault α := (x.run.run s).1

@[simp] theorem after_pure (a : α) (s : Stage) : after (pure a) s = s := rfl

@[simp] theorem after_throw (f : Fault) (s : Stage) : after (throw f : Play α) s = s := rfl

@[simp] theorem after_set (t s : Stage) : after (set t) s = t := rfl

@[simp] theorem after_modify (f : Stage → Stage) (s : Stage) : after (modify f) s = f s := rfl

@[simp] theorem after_get_bind (g : Stage → Play α) (s : Stage) :
    after (get >>= g) s = after (g s) s := rfl

@[simp] theorem result_pure (a : α) (s : Stage) : result (pure a) s = .ok a := rfl

@[simp] theorem result_throw (f : Fault) (s : Stage) : result (throw f : Play α) s = .error f := rfl

@[simp] theorem result_set (t s : Stage) : result (set t) s = .ok () := rfl

@[simp] theorem result_modify (f : Stage → Stage) (s : Stage) : result (modify f) s = .ok () := rfl

@[simp] theorem result_get_bind (g : Stage → Play α) (s : Stage) :
    result (get >>= g) s = result (g s) s := rfl

theorem after_bind (x : Play α) (g : α → Play β) (s : Stage) :
    after (x >>= g) s =
      match result x s with
      | .ok a => after (g a) (after x s)
      | .error _ => after x s := by
  unfold after result
  rw [ExceptT.run_bind, StateT.run_bind]
  rcases x.run.run s with ⟨_ | _, t⟩
  · rfl
  · rfl

theorem result_bind (x : Play α) (g : α → Play β) (s : Stage) :
    result (x >>= g) s =
      match result x s with
      | .ok a => result (g a) (after x s)
      | .error f => .error f := by
  unfold after result
  rw [ExceptT.run_bind, StateT.run_bind]
  rcases x.run.run s with ⟨_ | _, t⟩
  · rfl
  · rfl

theorem after_tryCatch (x : Play α) (g : Fault → Play α) (s : Stage) :
    after (tryCatch x g) s =
      match result x s with
      | .ok _ => after x s
      | .error f => after (g f) (after x s) := by
  unfold after result
  simp only [tryCatch, tryCatchThe, MonadExceptOf.tryCatch, ExceptT.tryCatch, ExceptT.mk]
  simp only [ExceptT.run, StateT.run_bind]
  rcases StateT.run x s with ⟨_ | _, t⟩
  · rfl
  · rfl

/-- Every run leads from a stage to one that is related to it, also a run that fails. -/
def Leads (R : Stage → Stage → Prop) (x : Play α) : Prop := ∀ s, R s (after x s)

namespace Leads

variable {R : Stage → Stage → Prop} {x : Play α}

theorem modify {f : Stage → Stage} (h : ∀ s, R s (f s)) : Leads R (modify f : Play Unit) := h

/-- Work that begins by reading the stage may be looked at for that stage only. -/
theorem get_bind {g : Stage → Play α} (h : ∀ s, R s (after (g s) s)) : Leads R (get >>= g) := h

variable [IsPreorder Stage R]

theorem pure (a : α) : Leads R (pure a : Play α) := fun s => refl_of R s

theorem get : Leads R (get : Play Stage) := fun s => refl_of R s

theorem throw (f : Fault) : Leads R (throw f : Play α) := fun s => refl_of R s

theorem bind {g : α → Play β} (hx : Leads R x) (hg : ∀ a, Leads R (g a)) :
    Leads R (x >>= g) := by
  intro s
  rw [after_bind]
  cases result x s with
  | error f => exact hx s
  | ok a => exact trans_of R (hx s) (hg a _)

theorem tryCatch {g : Fault → Play α} (hx : Leads R x) (hg : ∀ f, Leads R (g f)) :
    Leads R (tryCatch x g) := by
  intro s
  rw [after_tryCatch]
  cases result x s with
  | error f => exact trans_of R (hx s) (hg f _)
  | ok a => exact hx s

/-- Work may begin with what was decided before. -/
theorem ofExcept (x : Except Fault α) : Leads R (liftM x : Play α) := by
  cases x with
  | error f => exact throw f
  | ok a => exact pure a

theorem forM {f : α → Play PUnit} {as : List α} (h : ∀ a ∈ as, Leads R (f a)) :
    Leads R (as.forM f) := by
  induction as with
  | nil => exact pure ()
  | cons a as ih =>
      change Leads R (f a >>= fun _ => as.forM f)
      exact (h a List.mem_cons_self).bind fun _ => ih fun b hb => h b (List.mem_cons_of_mem a hb)

/-- Work for each element of a list, which goes on to the next one or ends. -/
theorem forIn {f : α → β → Play (ForInStep β)} {as : List α} {b : β}
    (h : ∀ a ∈ as, ∀ b, Leads R (f a b)) : Leads R (forIn as b f) := by
  induction as generalizing b with
  | nil => exact pure b
  | cons a as ih =>
      rw [List.forIn_cons]
      refine (h a List.mem_cons_self b).bind fun r => ?_
      cases r with
      | done c => exact pure c
      | yield c => exact ih fun d hd => h d (List.mem_cons_of_mem a hd)

end Leads

end Stage

end Stagecraft
