import Stagecraft.Proofs.Switching

/-!
# What runs at a scene lead to

Whatever a scene reacts with, a run at it changes the game in one way only: it comes to scenes that
have been loaded, one after the other. While the scheduler of tasks is running it does not even do
that, but asks for scenes, and they come after those that were asked for before. Which scenes these
are is said by the handlers of the scene.
-/

namespace Stagecraft

namespace Stage

variable {l : Loader} {fire : Firing} {Q : String → Prop} {n : Nat} {d : SceneDraft}
  {ds es : List SceneDraft} {name : String} {s t u : Stage}

/-- The game has come to the scenes of these drafts, one after the other, and is in the last one.
Nothing else has become of the scenes than that their sequences play. -/
structure Came (s : Stage) (ds : List SceneDraft) (t : Stage) : Prop where
  scenes : t.scenes.map Scene.fixed = s.scenes.map Scene.fixed ++ ds.map (·.scene.fixed)
  switches : t.switches = s.switches ++ ds.map (·.scene.name)
  game : t.game = if ds.isEmpty then s.game else some (t.scenes.length - 1)

namespace Came

theorem refl (s : Stage) : s.Came [] s := by constructor <;> simp

theorem length_scenes (h : s.Came ds t) : t.scenes.length = s.scenes.length + ds.length := by
  simpa using congrArg List.length h.scenes

theorem trans (hst : s.Came ds t) (htu : t.Came es u) : s.Came (ds ++ es) u := by
  refine ⟨by simp [htu.scenes, hst.scenes], by simp [htu.switches, hst.switches], ?_⟩
  have hlength := htu.length_scenes
  cases es with
  | nil => cases ds <;> simp_all [hst.game, htu.game]
  | cons e es => simp [htu.game]

theorem of_eq (hscenes : t.scenes.map Scene.fixed = s.scenes.map Scene.fixed)
    (hgame : t.game = s.game) (hreports : t.switches = s.switches) : s.Came [] t := by
  constructor <;> simp [hscenes, hgame, hreports]

theorem tells {rs : List Report} (h : ∀ r ∈ rs, r.switched? = none) : s.Came [] (s.tells rs) := by
  refine of_eq rfl rfl ?_
  have hnone : rs.filterMap Report.switched? = [] := List.filterMap_eq_nil_iff.2 h
  simp [Stage.switches, Stage.tells, hnone]

theorem told {r : Report} (h : r.switched? = none) : s.Came [] (s.tells [r]) :=
  tells (by simpa using h)

theorem pending (p : Option (List String)) : s.Came [] { s with pending := p } := of_eq rfl rfl rfl

theorem entered (s : Stage) (d : SceneDraft) : s.Came [d] (s.entered d) := by
  constructor
  · simp [Stage.entered, raise, tell, Scene.fixed]
  · simp [Stage.entered, Stage.switches, raise, tell, Report.switched?]
  · simp [Stage.entered, raise, tell]

/-- Scenes that were there are still there, with the handlers they had. -/
theorem fixed_scene (h : s.Came ds t) (hn : n < s.scenes.length) :
    (t.scene n).fixed = (s.scene n).fixed := by
  have hlt : n < t.scenes.length := by
    have := h.length_scenes
    omega
  have hget := congrArg (·[n]?) h.scenes
  simpa [scene, hn, hlt, List.getElem?_append_left] using hget

/-- The game is in the scene of the last draft. -/
theorem scene_game (h : s.Came (ds ++ [d]) t) :
    ∃ k, t.game = some k ∧ k < t.scenes.length ∧ (t.scene k).fixed = d.scene.fixed := by
  have hlength := h.length_scenes
  simp only [List.length_append, List.length_singleton] at hlength
  have hlt : t.scenes.length - 1 < t.scenes.length := by omega
  refine ⟨t.scenes.length - 1, by simpa using h.game, hlt, ?_⟩
  have hlast := congrArg List.getLast? h.scenes
  simpa [scene, List.getLast?_eq_getElem?, hlt] using hlast

end Came

/-- A scene is there, and all scenes that its handlers lead to are among these. -/
structure Within (s : Stage) (Q : String → Prop) (n : Nat) : Prop where
  lt : n < s.scenes.length
  leads : ∀ event name, Handler.switch name ∈ (s.bus (.scene n)).bound event → Q name

theorem Within.came (h : s.Within Q n) (hst : s.Came ds t) : t.Within Q n := by
  have hlength := hst.length_scenes
  have hbus : (t.scene n).fixed.bus = (s.scene n).fixed.bus := by rw [hst.fixed_scene h.lt]
  refine ⟨by have := h.lt; omega, fun event name hname => h.leads event name ?_⟩
  change Handler.switch name ∈ (t.scene n).fixed.bus.bound event at hname
  rwa [hbus] at hname

/-- What plays is not what stays of a scene. -/
theorem fixed_withSequencer {q : Sequencer} (h : q.sequences = (s.scene n).sequencer.sequences) :
    (s.withSequencer (fun _ => q) (.scene n)).scenes.map Scene.fixed =
      s.scenes.map Scene.fixed := by
  refine List.ext_getElem? fun m => ?_
  by_cases hm : n = m
  · subst hm
    by_cases hn : n < s.scenes.length
    · simp_all [withSequencer, scene, Scene.fixed]
    · simp [withSequencer, hn]
  · simp [withSequencer, hm]

variable [Application]

/-- A run at a scene comes to scenes that its handlers lead to, if they can be loaded; while the
scheduler of tasks is running, it asks for them. -/
def Goes (l : Loader) (Q : String → Prop) (n : Nat) (s t : Stage) : Prop :=
  s.Within Q n →
    (s.pending = none → t.pending = none ∧ ∃ ds, s.Came ds t ∧
      ∀ d ∈ ds, ∃ name, Q name ∧ (SceneDraft.loadNamed l name).run.1 = .ok d) ∧
    ∀ names, s.pending = some names →
      ∃ more, t.pending = some (names ++ more) ∧ (∀ name ∈ more, Q name) ∧ s.Came [] t

namespace Goes

theorem of_came (h : s.Came [] t) (hpending : t.pending = s.pending) : Goes l Q n s t := by
  intro _
  exact ⟨fun hs => ⟨by rw [hpending, hs], [], h, by simp⟩,
    fun names hs => ⟨[], by simp [hpending, hs], by simp, h⟩⟩

theorem exists_came (h : Goes l Q n s t) (hs : s.Within Q n) : ∃ ds, s.Came ds t := by
  cases hp : s.pending with
  | none =>
      obtain ⟨-, ds, hcame, -⟩ := (h hs).1 hp
      exact ⟨ds, hcame⟩
  | some names =>
      obtain ⟨-, -, -, hcame⟩ := (h hs).2 names hp
      exact ⟨[], hcame⟩

theorem trans (hst : Goes l Q n s t) (htu : Goes l Q n t u) : Goes l Q n s u := by
  intro hs
  obtain ⟨_, hcame⟩ := hst.exists_came hs
  have ht := hs.came hcame
  constructor
  · intro hp
    obtain ⟨htp, ds, hds, hloads⟩ := (hst hs).1 hp
    obtain ⟨hup, es, hes, hmore⟩ := (htu ht).1 htp
    exact ⟨hup, ds ++ es, hds.trans hes, List.forall_mem_append.2 ⟨hloads, hmore⟩⟩
  · intro names hp
    obtain ⟨more, htp, hmore, hds⟩ := (hst hs).2 names hp
    obtain ⟨rest, hup, hrest, hes⟩ := (htu ht).2 _ htp
    exact ⟨more ++ rest, by simp [hup], List.forall_mem_append.2 ⟨hmore, hrest⟩, hds.trans hes⟩

end Goes

instance : IsPreorder Stage (Goes l Q n) where
  refl s := .of_came (.refl s) rfl
  trans _ _ _ := .trans

theorem switched?_beginnings (l : Loader) (name : String) :
    ∀ r ∈ SceneDraft.beginnings l name, r.switched? = none := by
  intro r hr
  simp only [SceneDraft.beginnings, List.mem_append, List.mem_flatMap] at hr
  rcases hr with ⟨n, -, hr⟩ | hr
  · split at hr <;> simp_all [Report.switched?]
  · split at hr
    · split at hr <;> simp_all [Report.switched?]
    · cases hr

theorem switched?_all (l : Loader) (names : List String) :
    ∀ r ∈ names.flatMap (SceneDraft.beginnings l), r.switched? = none := by
  intro r hr
  obtain ⟨name, -, hr⟩ := List.mem_flatMap.1 hr
  exact switched?_beginnings l name r hr

theorem goes_report {r : Report} (h : r.switched? = none) : Leads (Goes l Q n) (report r) :=
  .modify fun _ => .of_came (Came.told h) rfl

theorem goes_play (id : String) : Leads (Goes l Q n) (play (.scene n) id) := by
  refine .get_bind fun s => ?_
  split
  · exact refl_of (Goes l Q n) s
  · rename_i q hq
    obtain ⟨ids, -, hids⟩ := Sequencer.Restarts.of_play? hq
    refine .of_came (.of_eq (fixed_withSequencer ?_) rfl rfl) rfl
    rw [hids, Sequencer.foldl_start_sequences]
    rfl

/-- Events are fired so that runs at scenes go where the handlers lead. -/
abbrev OnlyGoes (l : Loader) (fire : Firing) : Prop :=
  ∀ Q n event payload, Leads (Goes l Q n) (fire (.scene n) event payload)

section Firing

variable (hfire : OnlyGoes l fire)

include hfire

theorem goes_emitAudio (id : String) : Leads (Goes l Q n) (emitAudio fire (.scene n) id) := by
  refine .get_bind fun s => ?_
  split
  · exact goes_report rfl s
  · exact hfire _ _ _ _ s

theorem goes_perform (a : Action) : Leads (Goes l Q n) (perform fire (.scene n) a) := by
  cases a with
  | emitAudio id => exact goes_emitAudio hfire id
  | emit event => exact hfire Q n event []
  | play id => exact goes_play id

/-- A scene that the game has just come to may ask for other scenes when it is started. -/
theorem asks_of_entered {names : List String} (event : String) (payload : List Payload)
    (h : s.pending = some names) :
    let t := after (fire (.scene s.scenes.length) event payload) (s.entered d)
    s.Came [d] t ∧ ∃ more, t.pending = some (names ++ more) := by
  intro t
  have hwithin : (s.entered d).Within (fun _ => True) s.scenes.length :=
    ⟨by simp [entered, raise, tell], fun _ _ _ => trivial⟩
  obtain ⟨-, hasks⟩ := hfire (fun _ => True) s.scenes.length event payload (s.entered d) hwithin
  obtain ⟨more, hmore, -, hcame⟩ := hasks names h
  exact ⟨(Came.entered s d).trans hcame, more, hmore⟩

/-- Outside of a loop, a scene that can be loaded is where the game is afterwards, whatever its
start asks for. -/
theorem came_switch (hs : s.pending = none) (hload : (SceneDraft.loadNamed l name).run.1 = .ok d) :
    let t := after (switch l fire name) s
    t.pending = none ∧ s.Came [d] t := by
  intro t
  let ns := (SceneDraft.loadNamed l name).run.2
  have htold : ∀ r ∈ ns.map Report.notice, r.switched? = none := by
    simp [Report.switched?]
  let opened : Stage := { s.tells (ns.map .notice) with pending := some [] }
  have hopened : opened.pending = some [] := rfl
  obtain ⟨hcame, more, hmore⟩ := asks_of_entered hfire (d := d) SceneDraft.startEvent [] hopened
  have hends : Ends (switch l fire name) s _ _ :=
    ends_switch_of_ok hs (Prod.ext hload rfl) ⟨rfl, rfl⟩ hmore
  have ht : t = _ := hends.2
  rw [ht]
  refine ⟨rfl, ?_⟩
  have hstarted := ((Came.tells (s := s) htold).trans (.pending (some []))).trans hcame
  exact (hstarted.trans (.pending none)).trans (.tells (switched?_all l _))

theorem goes_switch (hname : Q name) : Leads (Goes l Q n) (switch l fire name) := by
  intro s _
  constructor
  · intro hs
    cases hload : (SceneDraft.loadNamed l name).run.1 with
    | error f =>
        rw [(ends_switch_of_error hs (Prod.ext hload rfl)).2]
        exact ⟨hs, [], .tells (by simp [Report.switched?]), by simp⟩
    | ok d =>
        obtain ⟨hpending, hcame⟩ := came_switch hfire hs hload
        exact ⟨hpending, [d], hcame, by simpa using ⟨name, hname, hload⟩⟩
  · intro names hs
    rw [(ends_switch_of_pending hs).2]
    exact ⟨[name], rfl, by simpa using hname, .pending _⟩

theorem goes_handle {event : String} {payload : List Payload} {x : Handler}
    (hx : ∀ name, x = .switch name → Q name) :
    Leads (Goes l Q n) (handle l fire (.scene n) event payload x) := by
  cases x with
  | actions as =>
      change Leads _
        (if payload.isEmpty then performAll fire (.scene n) as else throw .typeMismatch)
      split
      · exact .forM fun a _ => goes_perform hfire a
      · exact .throw _
  | spawn c => exact fun s => refl_of (Goes l Q n) s
  | «switch» name => exact goes_switch hfire (hx name rfl)
  | listener label => exact goes_report rfl

end Firing

/-- However deep events are nested, a run at a scene goes where the handlers of the scene lead. -/
theorem goes_fire (l : Loader) (limit : Nat) : OnlyGoes l (Stage.fire l limit) := by
  induction limit with
  | zero => exact fun _ _ _ _ => .throw _
  | succ limit ih =>
      intro Q n event payload
      rw [fire_succ]
      refine .get_bind fun s hs => ?_
      refine Leads.forM (R := Goes l Q n) (fun x hx => goes_handle ih fun name hname => ?_) s hs
      exact hs.leads event name (hname ▸ hx)

end Stage

end Stagecraft
