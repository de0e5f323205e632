import Stagecraft.Proofs.Asking
import Stagecraft.Proofs.Going
import Stagecraft.Stage.Loop

/-!
# Changes of scene over time

Scenes end, in loops and outside of them, and tasks take their turns. Whatever happens, the game
comes only to scenes that have been loaded, compiled and settled. A change that fails outside of a
loop makes everything fail that has led to it, along the nesting of events (`Comes`). While a loop
is open it fails in its task, and is reported there, even if it was asked for in another thread.
-/

namespace Stagecraft

open Markup

namespace SceneDraft

variable {l : Loader} {name : String} {d u : SceneDraft} {c : Cursor} {s : Start}

theorem scene_of_settle (h : u.settle = .ok d) : d.scene = u.scene := by
  obtain ⟨settled, -, hd⟩ := Attempt.bind_eq_ok_iff.1 h
  cases hd
  rfl

variable [Application]

/-- A draft is that of a registered scene: its document has been loaded, there is a scene element in
it, everything could be put in place, whatever else was loaded meanwhile, and the world has been
settled, once. -/
structure Compiled (l : Loader) (name : String) (d : SceneDraft) : Prop where
  steps : ∃ url root c before u underway at',
    l.settings.scenes.get? name = some url ∧ (l.loadDocument url before).result = .ok root ∧
      sceneOf url root = .ok c ∧ (unsettled { l with underway } c at').result = .ok u ∧
      u.settle = .ok d ∧ d.scene.name = c.get? "name"

theorem name_of_unsettled (h : (unsettled l c s).result = .ok u) :
    u.scene.name = c.get? "name" := by
  obtain ⟨camera, -, h⟩ := Timed.bind_eq_ok_iff.1 h
  obtain ⟨bus, -, h⟩ := Timed.bind_eq_ok_iff.1 h
  obtain ⟨⟨world, behaviors⟩, -, h⟩ := Timed.bind_eq_ok_iff.1 h
  obtain ⟨gravity, -, h⟩ := Timed.bind_eq_ok_iff.1 h
  obtain ⟨sequences, -, h⟩ := Timed.bind_eq_ok_iff.1 h
  obtain ⟨⟨audio, pool⟩, -, h⟩ := Timed.bind_eq_ok_iff.1 h
  obtain ⟨⟨world, layout⟩, -, h⟩ := Timed.bind_eq_ok_iff.1 h
  obtain ⟨-, -, h⟩ := Timed.bind_eq_ok_iff.1 h
  cases h
  rfl

theorem compiled_of_loadNamed {underway : List Load}
    (h : (loadNamed { l with underway } name s).result = .ok d) : Compiled l name d := by
  unfold loadNamed at h
  dsimp only at h
  cases hurl : l.settings.scenes.get? name with
  | none =>
      rw [hurl] at h
      cases h
  | some url =>
      rw [hurl] at h
      obtain ⟨-, -, h⟩ := Timed.bind_eq_ok_iff.1 h
      obtain ⟨root, hroot, h⟩ := Timed.bind_eq_ok_iff.1 h
      obtain ⟨c, hc, h⟩ := Timed.bind_eq_ok_iff.1 h
      obtain ⟨-, -, h⟩ := Timed.bind_eq_ok_iff.1 h
      rw [Timed.task_result, compile_result] at h
      obtain ⟨u, hu, hd⟩ := Attempt.bind_eq_ok_iff.1 h
      refine ⟨url, root, c, _, u, underway, _, hurl, hroot, hc, hu, hd, ?_⟩
      rw [scene_of_settle hd, name_of_unsettled hu]

end SceneDraft

namespace Stage

variable {l : Loader} {n : Nat} {d : SceneDraft} {name : String} {s t u : Stage}

/-- What an action fires at the host, if anything. -/
def fired? (s : Stage) (h : Host) : Action → Option (String × List Payload)
  | .emitAudio id => ((s.audio h).get? id).map fun clip => (audioEvent, [.clip clip])
  | .emit event => some (event, [])
  | .play _ => none

theorem ends_perform_of_fired {fire : Firing} {h : Host} {a : Action} {event : String}
    {payload : List Payload} {r : Except Fault Unit} (hfired : s.fired? h a = some (event, payload))
    (hends : Ends (fire h event payload) s r t) : Ends (perform fire h a) s r t := by
  cases a with
  | emitAudio id =>
      obtain ⟨clip, hclip, heq⟩ := Option.map_eq_some_iff.1 hfired
      cases heq
      simpa [Ends, perform, emitAudio, hclip] using hends
  | emit event =>
      cases hfired
      exact hends
  | play id => cases hfired

theorem Ends.forM_cons_error {α : Type} {f : α → Play Unit} {a : α} {as : List α} {e : Fault}
    (h : Ends (f a) s (.error e) t) : Ends ((a :: as).forM f) s (.error e) t := by
  have hcons : (a :: as).forM f = f a >>= fun _ => as.forM f := rfl
  rw [hcons]
  simp [Ends, result_bind, after_bind, h.1, h.2]

theorem ends_guarded {body : Play Unit} {r : Except Fault Unit} (h : Ends body s r t) :
    Ends (guarded name body) s (.ok ())
      (match failure? r with
        | none => t
        | some f => t.tell (.switchFailed name f)) := by
  obtain ⟨hresult, hafter⟩ := h
  cases r with
  | ok a => simp [Ends, guarded, result_tryCatch, after_tryCatch, hresult, hafter, failure?]
  | error f =>
      simp [Ends, guarded, result_tryCatch, after_tryCatch, hresult, hafter, failure?, report]

/-- Work that goes on after a part of it has been seen on its own. -/
theorem rel_after_bind {α β : Type} {R : Stage → Stage → Prop} [IsPreorder Stage R] {x : Play α}
    {g : α → Play β} (hx : R s (after x s)) (hg : ∀ a, Leads R (g a)) :
    R s (after (x >>= g) s) := by
  rw [after_bind]
  cases result x s with
  | error f => exact hx
  | ok a => exact trans_of R hx (hg a _)

/-- What comes after the turn of an element goes on from what it has left behind. -/
theorem rel_after_forM {α : Type} {R : Stage → Stage → Prop} [IsPreorder Stage R]
    {f : α → Play Unit} {a : α} {before later : List α}
    (hbefore : Ends (before.forM f) s (.ok ()) t) (hlater : Leads R (later.forM f)) :
    R (after (f a) t) (after ((before ++ a :: later).forM f) s) := by
  have hforM : (before ++ a :: later).forM f =
      before.forM f >>= fun _ => f a >>= fun _ => later.forM f := List.forM_append
  rw [hforM, after_bind, hbefore.1, hbefore.2]
  dsimp only
  rw [after_bind]
  cases result (f a) t with
  | ok _ => exact hlater _
  | error _ => exact refl_of R _

variable [Application]

/-- The game has come to compiled scenes only. -/
def Visits (l : Loader) (s t : Stage) : Prop :=
  ∃ ds, s.Came ds t ∧ ∀ d ∈ ds, ∃ name, SceneDraft.Compiled l name d

theorem Visits.trans (hst : Visits l s t) (htu : Visits l t u) : Visits l s u := by
  obtain ⟨ds, hds, hcompiled⟩ := hst
  obtain ⟨es, hes, hmore⟩ := htu
  exact ⟨ds ++ es, hds.trans hes, List.forall_mem_append.2 ⟨hcompiled, hmore⟩⟩

theorem Came.visits (h : s.Came [] t) : Visits l s t := ⟨[], h, by simp⟩

/-- While a loop is open it stays open, and the game comes to compiled scenes only. -/
def Moves (l : Loader) (s t : Stage) : Prop :=
  s.pending.isSome → t.pending.isSome ∧ Visits l s t

namespace Moves

theorem of_came (h : s.Came [] t) (hpending : s.pending.isSome → t.pending.isSome) : Moves l s t :=
  fun hs => ⟨hpending hs, h.visits⟩

theorem trans (hst : Moves l s t) (htu : Moves l t u) : Moves l s u := by
  intro hs
  obtain ⟨ht, hvisits⟩ := hst hs
  obtain ⟨hu, hmore⟩ := htu ht
  exact ⟨hu, hvisits.trans hmore⟩

end Moves

instance : IsPreorder Stage (Moves l) where
  refl s := .of_came (.refl s) id
  trans _ _ _ := .trans

theorem moves_report {r : Report} (h : r.switched? = none) : Leads (Moves l) (report r) :=
  .modify fun _ => .of_came (Came.told h) id

theorem moves_arrive (k : Loader) (limit : Nat) (hd : SceneDraft.Compiled l name d) :
    Leads (Moves l) (arrive (fire k limit) d) := by
  intro s hs
  obtain ⟨names, hnames⟩ := Option.isSome_iff_exists.1 hs
  obtain ⟨hcame, more, hmore⟩ :=
    asks_of_entered (goes_fire k limit) (d := d) SceneDraft.startEvent [] hnames
  rw [(ends_arrive_iff.2 ⟨rfl, rfl⟩).2]
  exact ⟨by rw [Option.isSome_iff_exists]; exact ⟨_, hmore⟩, [d], hcame, by simpa using ⟨name, hd⟩⟩

/-- A task that comes to the end of its loading goes to the scene, or stays where the game is. -/
theorem moves_arrival (k : Loader) (limit : Nat) {e : Except Fault SceneDraft}
    (he : ∀ d, e = .ok d → SceneDraft.Compiled l name d) :
    Leads (Moves l) (guarded name do arrive (fire k limit) (← e)) := by
  refine Leads.tryCatch ?_ fun f => moves_report rfl
  cases e with
  | error f => exact .throw f
  | ok d => exact moves_arrive k limit (he d rfl)

theorem moves_act (l : Loader) (limit : Nat) (name : String) (start : Start) (others : List Load)
    (a : Act) : Leads (Moves l) (act l limit name start others a) := by
  cases a with
  | tell n => exact moves_report rfl
  | arrive => exact moves_arrival l limit fun _ => SceneDraft.compiled_of_loadNamed

theorem moves_commencePending (l k : Loader) : Leads (Moves l) (commencePending k) := by
  intro s hs
  obtain ⟨names, hnames⟩ := Option.isSome_iff_exists.1 hs
  have hends : Ends (commencePending k) s (.ok ())
      ({ s with pending := some [] }.tells (names.flatMap (SceneDraft.beginnings k))) := by
    unfold commencePending
    refine Ends.of_result rfl rfl ?_
    change Ends (have left := s.pending.getD []; _) s _ _
    rw [hnames]
    exact Ends.of_result rfl rfl ((ends_commenceAll k names _).bind (ends_pure _))
  rw [hends.2]
  exact ⟨rfl, ((Came.pending _).trans (.tells (switched?_all k names))).visits⟩

/-- What other tasks load makes no difference to what a compiled scene is. -/
theorem moves_timeline (l : Loader) (underway : List Load) (limit : Nat) (name : String)
    (start : Start) :
    ∀ entry ∈ timeline { l with underway } limit name start, Leads (Moves l) entry.2 := by
  intro entry hentry
  rcases List.mem_append.1 hentry with hentry | hentry
  · obtain ⟨n, -, rfl⟩ := List.mem_map.1 hentry
    exact moves_report rfl
  · rw [List.mem_singleton.1 hentry]
    exact (moves_arrival _ limit fun _ => SceneDraft.compiled_of_loadNamed).bind fun _ =>
      moves_commencePending l _

/-- Whatever is fired at a scene, the game comes to compiled scenes only; while a loop is open it
stays where it is. -/
theorem visits_fire (hn : n < s.scenes.length) (limit : Nat) (event : String)
    (payload : List Payload) :
    let t := after (fire l limit (.scene n) event payload) s
    Visits l s t ∧ t.pending.isSome = s.pending.isSome ∧ (s.pending.isSome → s.Came [] t) := by
  intro t
  have hgoes : Goes l (fun _ => True) n s t := goes_fire l limit _ n event payload s
  obtain ⟨hnone, hsome⟩ := hgoes ⟨hn, fun _ _ _ => trivial⟩
  cases hp : s.pending with
  | none =>
      obtain ⟨ht, ds, hds, hloads⟩ := hnone hp
      refine ⟨⟨ds, hds, fun d hd => ?_⟩, by simp [ht], by simp⟩
      obtain ⟨name, -, hd⟩ := hloads d hd
      exact ⟨name, SceneDraft.compiled_of_loadNamed hd⟩
  | some names =>
      obtain ⟨more, ht, -, hcame⟩ := hsome names hp
      exact ⟨hcame.visits, by simp [ht], fun _ => hcame⟩

/-- A scene that ends in a loop of its own, which is closed when the tasks are done. -/
theorem visits_endScheduled (hn : n < s.scenes.length) (limit : Nat) :
    Visits l s (after (endScheduled l limit n) s) := by
  have hentries (names : List String) :
      Leads (Moves l) ((interleave (timelines l limit names)).forM id) := by
    refine .forM fun x hx => ?_
    obtain ⟨task, htask, entry, hentry, rfl⟩ := mem_interleave hx
    obtain ⟨i, hi, rfl⟩ := List.mem_mapIdx.1 htask
    exact moves_timeline l _ limit _ _ entry hentry
  let opened : Stage := { s with pending := some [] }
  let body : Play Unit := do
    fire l limit (.scene n) SceneDraft.endEvent []
    let tasks := ((← get).pending).getD []
    modify fun s => { s with pending := some [] }
    (interleave (timelines l limit tasks)).forM id
  have hbody : Moves l opened (after body opened) := by
    obtain ⟨hvisits, hpending, -⟩ :=
      visits_fire (l := l) (s := opened) hn limit SceneDraft.endEvent []
    have hfired : Moves l opened (after (fire l limit (.scene n) SceneDraft.endEvent []) opened) :=
      fun _ => ⟨by simp [hpending, opened], hvisits⟩
    refine rel_after_bind hfired fun _ => ?_
    exact Leads.get.bind fun t => (Leads.modify fun _ => .of_came (.pending _) fun _ => rfl).bind
      fun _ => hentries _
  obtain ⟨hpending, hvisits⟩ := hbody rfl
  obtain ⟨left, hleft⟩ := Option.isSome_iff_exists.1 hpending
  have hends : Ends (endScheduled l limit n) s _ _ := ends_scheduled (l := l) ⟨rfl, rfl⟩ hleft
  rw [hends.2]
  exact ((Came.pending _).visits.trans hvisits).trans
    ((Came.pending _).trans (.tells (switched?_all l left))).visits

/-- While an event is dispatched at a host, the turn of a handler comes, after everything before it
has gone well: one that is bound to the event, or one that an action of such a handler leads to. -/
inductive Comes (l : Loader) (h : Host) (x : Handler) (t : Stage) :
    Nat → String → List Payload → Stage → Prop
  | here {limit : Nat} {event : String} {payload : List Payload} {s : Stage}
      {before later : List Handler} (hbound : (s.bus h).bound event = before ++ x :: later)
      (hbefore : Ends (before.forM (handle l (fire l limit) h event payload)) s (.ok ()) t) :
      Comes l h x t (limit + 1) event payload s
  | inside {limit : Nat} {event next : String} {payload : List Payload} {s u v : Stage}
      {before later : List Handler} {first rest : List Action} {a : Action}
      (hbound : (s.bus h).bound event = before ++ .actions (first ++ a :: rest) :: later)
      (hbefore : Ends (before.forM (handle l (fire l limit) h event [])) s (.ok ()) u)
      (hfirst : Ends (performAll (fire l limit) h first) u (.ok ()) v)
      (hfired : v.fired? h a = some (next, payload)) (hnext : Comes l h x t limit next payload v) :
      Comes l h x t (limit + 1) event [] s

/-- A handler that fails when its turn comes ends everything that led to it. -/
theorem ends_fire_of_comes {h : Host} {x : Handler} {limit : Nat} {event : String}
    {payload : List Payload} {e : Fault} (hcomes : Comes l h x t limit event payload s)
    (hx : ∀ fire event payload, Ends (handle l fire h event payload x) t (.error e) u) :
    Ends (fire l limit h event payload) s (.error e) u := by
  induction hcomes with
  | here hbound hbefore =>
      rw [ends_fire_iff, hbound]
      exact hbefore.forM_append (.forM_cons_error (hx _ _ _))
  | inside hbound hbefore hfirst hfired _ ih =>
      rw [ends_fire_iff, hbound]
      refine hbefore.forM_append (.forM_cons_error ?_)
      exact hfirst.forM_append (.forM_cons_error (ends_perform_of_fired hfired ih))

section Comes

variable {Q : String → Prop} {x : Handler} {limit : Nat} {event : String} {payload : List Payload}

/-- The handlers of an event that come before the turn of one and after it. -/
theorem goes_around (hs : s.Within Q n) {before later : List Handler}
    (hbound : (s.bus (.scene n)).bound event = before ++ x :: later) (limit : Nat)
    (payload : List Payload) :
    Leads (Goes l Q n) (before.forM (handle l (fire l limit) (.scene n) event payload)) ∧
      Leads (Goes l Q n) (later.forM (handle l (fire l limit) (.scene n) event payload)) := by
  have hleads (y : Handler) (hy : y ∈ before ∨ y ∈ later) :
      Leads (Goes l Q n) (handle l (fire l limit) (.scene n) event payload y) := by
    refine goes_handle (goes_fire l limit) fun name hname => hs.leads event name ?_
    rw [hbound, ← hname]
    rcases hy with hy | hy <;> simp [hy]
  exact ⟨.forM fun y hy => hleads y (.inl hy), .forM fun y hy => hleads y (.inr hy)⟩

theorem goes_performAll (limit : Nat) (as : List Action) :
    Leads (Goes l Q n) (performAll (fire l limit) (.scene n) as) :=
  .forM fun a _ => goes_perform (goes_fire l limit) a

/-- What comes before the turn of a handler of a scene goes where the handlers of the scene lead,
and so do the handler and what comes after it. -/
theorem goes_of_comes (h : Comes l (.scene n) x t limit event payload s) (hs : s.Within Q n) :
    Goes l Q n s t ∧ (∀ name, x = .switch name → Q name) ∧ ∃ limit' event' payload',
      Goes l Q n (after (handle l (fire l limit') (.scene n) event' payload' x) t)
        (after (fire l limit (.scene n) event payload) s) := by
  induction h with
  | @here limit event payload s before later hbound hbefore =>
      obtain ⟨hfirst, hlater⟩ := goes_around (l := l) hs hbound limit payload
      have ht := hfirst s
      rw [hbefore.2] at ht
      refine ⟨ht, fun name hname => hs.leads event name (by simp [hbound, hname]), limit, event,
        payload, ?_⟩
      rw [(ends_fire_iff.2 ⟨rfl, rfl⟩).2, hbound]
      exact rel_after_forM hbefore hlater
  | @inside limit event next payload s u v before later first rest a hbound hbefore hfirst hfired _
      ih =>
      obtain ⟨hbefores, hlater⟩ := goes_around (l := l) hs hbound limit []
      have hu := hbefores s
      have hv : Goes l Q n u v := by
        have hactions := goes_performAll (l := l) (Q := Q) (n := n) limit first u
        rwa [hfirst.2] at hactions
      rw [hbefore.2] at hu
      obtain ⟨_, hcame⟩ := (hu.trans hv).exists_came hs
      obtain ⟨ht, hx, limit', event', payload', hnext⟩ := ih (hs.came hcame)
      refine ⟨(hu.trans hv).trans ht, hx, limit', event', payload', ?_⟩
      -- After the event that the action fires come the actions and the handlers after that one.
      have hfires := (ends_perform_of_fired hfired
        (⟨rfl, rfl⟩ : Ends (fire l limit (.scene n) next payload) v _ _)).2
      rw [← hfires] at hnext
      have hrest : Goes l Q n (after (perform (fire l limit) (.scene n) a) v) _ :=
        rel_after_forM hfirst (goes_performAll limit rest)
      rw [(ends_fire_iff.2 ⟨rfl, rfl⟩).2, hbound]
      exact (hnext.trans hrest).trans (rel_after_forM hbefore hlater)

end Comes

/-- One change of scene, on some stage, however events are fired there. While a loop is open it is
asked for, whatever will come of it. Otherwise the scene is loaded. If this fails, so does the
change, and nothing has changed. If not, the game is in the new scene, which is started once; that
is all, since what the start asks for is dropped with its loop. -/
structure Changes (l : Loader) (fire : Firing) (name : String) (s : Stage) : Prop where
  asked : ∀ names, s.pending = some names →
    Ends (switch l fire name) s (.ok ()) { s with pending := some (names ++ [name]) }
  failed : s.pending = none → ∀ f ns, (SceneDraft.loadNamed l name).run = (.error f, ns) →
    Ends (switch l fire name) s (.error f) (s.tells (ns.map .notice))
  entered : s.pending = none → ∀ d ns, (SceneDraft.loadNamed l name).run = (.ok d, ns) →
    ∀ r t left, Ends (fire (.scene s.scenes.length) SceneDraft.startEvent [])
        ({ s.tells (ns.map .notice) with pending := some [] }.entered d) r t →
      t.pending = some left →
      Ends (switch l fire name) s r
        ({ t with pending := none }.tells (left.flatMap (SceneDraft.beginnings l)))

theorem changes (l : Loader) (fire : Firing) (name : String) (s : Stage) :
    Changes l fire name s where
  asked _ hs := ends_switch_of_pending hs
  failed hs _ _ hload := ends_switch_of_error hs hload
  entered hs _ _ hload _ _ _ hstart hleft := ends_switch_of_ok hs hload hstart hleft

/-- A task comes to the end of its loading, and of what it waits for. If there is a fault, it is
reported, and nothing else happens. If not, the game is in the new scene, which is started once. -/
structure Arrives (l : Loader) (limit : Nat) (name : String) (start : Start) (others : List Load)
    (s : Stage) : Prop where
  failed : ∀ f,
    (SceneDraft.loadNamed { l with underway := l.underway ++ others } name start).result =
      .error f →
    Ends (act l limit name start others .arrive) s (.ok ()) (s.tell (.switchFailed name f))
  entered : ∀ d,
    (SceneDraft.loadNamed { l with underway := l.underway ++ others } name start).result =
      .ok d →
    ∀ r t, Ends (fire l limit (.scene s.scenes.length) SceneDraft.startEvent []) (s.entered d) r t →
      Ends (act l limit name start others .arrive) s (.ok ())
        (match failure? r with
          | none => t
          | some f => t.tell (.switchFailed name f))

theorem arrives (l : Loader) (limit : Nat) (name : String) (start : Start) (others : List Load)
    (s : Stage) : Arrives l limit name start others s where
  failed f hload := by
    unfold act
    dsimp only
    rw [hload]
    exact ends_guarded (r := .error f) ⟨rfl, rfl⟩
  entered d hload r t hstart := by
    unfold act
    dsimp only
    rw [hload]
    exact ends_guarded (ends_arrive_iff.2 hstart)

end Stage

namespace Loop

section

variable [Application] {l : Loader} {v w : Loop}

/-- Whatever host code fires at a scene, in whichever thread, the game comes to compiled scenes
only; while a loop is open it stays where it is. -/
theorem visits_fired {s : Stage} {n : Nat} (hn : n < s.scenes.length) (limit : Nat) (aside : Bool)
    (event : String) (payload : List Payload) :
    let t := (fired l limit aside n event payload s).2
    Stage.Visits l s t ∧ (s.pending.isSome → s.Came [] t) := by
  intro t
  obtain ⟨hvisits, -, hcame⟩ :=
    Stage.visits_fire (l := l) (s := { s with aside }) hn limit event payload
  have hbefore : s.Came [] { s with aside } := .of_eq rfl rfl rfl
  have hafter {u : Stage} : u.Came [] { u with aside := false } := .of_eq rfl rfl rfl
  exact ⟨(hbefore.visits.trans hvisits).trans hafter.visits,
    fun hs => (hbefore.trans (hcame hs)).trans hafter⟩

theorem visits_step (h : Step l v w) : Stage.Visits l v.stage w.stage := by
  cases h with
  | turn h =>
      cases h with
      | begins h start => exact (Stage.Came.pending _).visits
      | @works s _ _ name start a _ others h _ limit _ =>
          exact (Stage.moves_act l limit name start others a s h).2
  | fires h limit aside event payload => exact (visits_fired h limit aside event payload).1
  | ends h hclosed limit => exact Stage.visits_endScheduled h limit
  | opens h => exact (Stage.Came.pending _).visits
  | closes => exact (Stage.Came.pending _).visits

theorem visits_run (h : Run l v w) : Stage.Visits l v.stage w.stage := by
  induction h with
  | refl => exact (Stage.Came.refl _).visits
  | tail _ hstep ih => exact ih.trans (visits_step hstep)

end

/-- Of two scenes that come after the hall there is only one. -/
def house : Loader where
  settings := { scenes := [("cellar", "cellar.xml")] }
  storage := { files := [(["cellar.xml"], .text "<scene name='cellar'/>")] }

def hall : Stage where
  scenes :=
    [{ name := some "hall", bus := [("end", [.switch "cellar", .switch "attic"])] }]

/-- A scene that rings a bell when it is started, and starts itself again. There is no bell. -/
def tower : Loader where
  settings := { scenes := [("belfry", "belfry.xml")] }
  storage :=
    { files :=
        [(["belfry.xml"], .text
            ("<scene name='belfry'><events><event name='start'>" ++
              "<action type='emit-audio' id='bell'/><action type='emit' event='start'/>" ++
              "</event></events></scene>"))] }

def stairs : Stage where
  scenes := [{ name := some "stairs", bus := [("end", [.switch "belfry"])] }]

/-- The sounds that were reported to be missing. -/
def missing (s : Stage) : List String :=
  s.reports.filterMap fun
    | .noSound _ _ id => some id
    | _ => none

end Loop

end Stagecraft
