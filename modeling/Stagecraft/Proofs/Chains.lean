import Stagecraft.Proofs.Loads
import Stagecraft.Proofs.Looping

/-!
# Chains of scenes

A scene may end as soon as it starts, and go on to the next one. In a loop, the change that it asks
for is a task like others, and by the time that all tasks are done the game has come to the end of
the chain. Outside of a loop, a change opens a loop of its own for the new scene and closes it when
that has been started, so that the change which the start asks for is dropped: the game stays in the
first scene of the chain.
-/

namespace Stagecraft

namespace Stage

variable {l : Loader} {n : Nat} {d : SceneDraft} {ds : List SceneDraft} {name next : String}
  {s t u : Stage} {Q : String → Prop} {limit room : Nat} {event : String} {payload : List Payload}

/-- The game is in the scene of a draft. -/
def Shows (s : Stage) (d : SceneDraft) : Prop :=
  ∃ n, s.game = some n ∧ n < s.scenes.length ∧ (s.scene n).fixed = d.scene.fixed

theorem Shows.came (h : s.Shows d) (hst : s.Came [] t) : t.Shows d := by
  obtain ⟨n, hgame, hn, hfixed⟩ := h
  have hlength := hst.length_scenes
  refine ⟨n, by simpa [hgame] using hst.game, by simp_all, ?_⟩
  rw [hst.fixed_scene hn, hfixed]

/-- If there is one scene that a run can come to, and it does, the game is there. -/
theorem Came.shows (h : s.Came ds t) (hne : ds ≠ []) (hds : ∀ e ∈ ds, e = d) : t.Shows d := by
  rw [← List.dropLast_append_getLast hne] at h
  rw [← hds _ (List.getLast_mem hne)]
  exact h.scene_game

variable [Application]

/-- A scene of the stage whose event comes to a change, to a scene that is the only one that it
leads to, whether a loop is open or not, if there is some room at least for nested events. -/
structure LeavesFor (l : Loader) (room : Nat) (s : Stage) (n : Nat) (event : String)
    (next : String) : Prop where
  within : s.Within (· = next) n
  comes : ∀ limit pending, room ≤ limit → ∃ t,
    Comes l (.scene n) (.switch next) t limit event [] { s with pending := pending }

theorem leavesFor_of_bound {later : List Handler} (hn : n < s.scenes.length)
    (hbound : (s.bus (.scene n)).bound event = .switch next :: later)
    (honly : ∀ event name, Handler.switch name ∈ (s.bus (.scene n)).bound event → name = next) :
    s.LeavesFor l (room + 1) n event next := by
  refine ⟨⟨hn, honly⟩, fun limit pending hlimit => ⟨{ s with pending := pending }, ?_⟩⟩
  obtain ⟨limit, rfl⟩ : ∃ k, limit = k + 1 := ⟨limit - 1, by omega⟩
  have hhere : (({ s with pending := pending } : Stage).bus (.scene n)).bound event =
      [] ++ .switch next :: later := hbound
  exact Comes.here hhere (ends_pure _)

/-- Outside of a loop, the game is in the next scene then. -/
theorem shows_of_comes (hs : s.Within (· = name) n) (hp : s.pending = none)
    (hload : (SceneDraft.loadNamed l name).run.1 = .ok d)
    (h : Comes l (.scene n) (.switch name) t limit event payload s) :
    (after (fire l limit (.scene n) event payload) s).Shows d := by
  have honly (es : List SceneDraft) (hes : ∀ e ∈ es, ∃ x, x = name ∧
      (SceneDraft.loadNamed l x).run.1 = .ok e) : ∀ e ∈ es, e = d := by
    intro e he
    obtain ⟨x, rfl, hx⟩ := hes e he
    rw [hload] at hx
    cases hx
    rfl
  obtain ⟨hst, -, limit', event', payload', htu⟩ := goes_of_comes h hs
  obtain ⟨ht, ds, hds, hbefore⟩ := (hst hs).1 hp
  obtain ⟨hv, hcame⟩ := came_switch (goes_fire l limit') ht hload
  obtain ⟨-, es, hes, hafter⟩ := (htu ((hs.came hds).came hcame)).1 hv
  have hfirst : ∀ e ∈ ds ++ [d], e = d :=
    List.forall_mem_append.2 ⟨honly ds hbefore, by simp⟩
  exact ((hds.trans hcame).trans hes).shows (by simp)
    (List.forall_mem_append.2 ⟨hfirst, honly es hafter⟩)

/-- In a loop, the next scene is asked for then, among others that the scene leads to. -/
theorem asks_of_comes {names : List String} (hs : s.Within Q n) (hp : s.pending = some names)
    (h : Comes l (.scene n) (.switch name) t limit event payload s) :
    let u := after (fire l limit (.scene n) event payload) s
    s.Came [] u ∧ ∃ more, u.pending = some (names ++ more) ∧ name ∈ more ∧ ∀ x ∈ more, Q x := by
  intro u
  obtain ⟨hst, hname, limit', event', payload', htu⟩ := goes_of_comes h hs
  obtain ⟨before, ht, hbefore, hcame⟩ := (hst hs).2 names hp
  have hswitch : Ends (switch l (fire l limit') name) t (.ok ()) _ := ends_switch_of_pending ht
  have hasked : Goes l Q n { t with pending := some (names ++ before ++ [name]) } u := by
    rwa [← hswitch.2]
  have hcalled := (hs.came hcame).came (.pending (some (names ++ before ++ [name])))
  obtain ⟨later, hu, hlater, hrest⟩ := (hasked hcalled).2 _ rfl
  have hfirst : ∀ x ∈ before ++ [name], Q x :=
    List.forall_mem_append.2 ⟨hbefore, by simpa using hname name rfl⟩
  exact ⟨(hcame.trans (.pending _)).trans hrest, before ++ [name] ++ later, by simp [hu],
    by simp, List.forall_mem_append.2 ⟨hfirst, hlater⟩⟩

end Stage

namespace SceneDraft

section

variable [Application]

/-- In a loop, the scene of a draft goes on to another one when it has been entered and is started
with some room at least for nested events, and to no other. -/
structure Passes (l : Loader) (room : Nat) (d : SceneDraft) (next : String) : Prop where
  comes : ∀ (s : Stage) (names : List String) (limit : Nat), s.pending = some names →
    room ≤ limit → ∃ t,
      Stage.Comes l (.scene s.scenes.length) (.switch next) t limit startEvent [] (s.entered d)
  only : ∀ event name, Handler.switch name ∈ d.scene.bus.bound event → name = next

/-- In a loop, the scene of a draft asks for no other scene when it has been entered and is
started. -/
def Rests (l : Loader) (room : Nat) (d : SceneDraft) : Prop :=
  ∀ (s : Stage) (names : List String) (limit : Nat), s.pending = some names → room ≤ limit →
    (Stage.after (Stage.fire l limit (.scene s.scenes.length) startEvent [])
      (s.entered d)).pending = some names

/-- Scenes that come after one another: all of them can be loaded, while nothing fails that others
load, and when they are started, each of them goes on to the next one. The last one stays. -/
structure Chain (l : Loader) (room : Nat) (names : Nat → String) (drafts : Nat → SceneDraft)
    (n : Nat) : Prop where
  faultless : ∀ u ∈ l.underway, u.fault = none
  loads : ∀ i, 1 ≤ i → i ≤ n → (loadNamed l (names i)).run.1 = .ok (drafts i)
  passes : ∀ i, 1 ≤ i → i < n → Passes l room (drafts i) (names (i + 1))
  rests : Rests l room (drafts n)

end

/-- The scenes of a chain from a number on. -/
def Link (names : Nat → String) (n i : Nat) (name : String) : Prop :=
  ∃ j, i ≤ j ∧ j ≤ n ∧ name = names j

theorem Link.earlier {names : Nat → String} {n i j : Nat} {name : String} (hij : i ≤ j)
    (h : Link names n j name) : Link names n i name := by
  obtain ⟨k, hk, hname⟩ := h
  exact ⟨k, hij.trans hk, hname⟩

/-- The scenes of a chain can be loaded at any time, while others load what does not fail. -/
theorem Chain.load [Application] {l : Loader} {room : Nat} {names : Nat → String}
    {drafts : Nat → SceneDraft} {n i : Nat} (hchain : Chain l room names drafts n) (hi : 1 ≤ i)
    (hn : i ≤ n) {others : List Load} (hothers : ∀ u ∈ others, u.fault = none) (start : Start) :
    (loadNamed { l with underway := l.underway ++ others } (names i) start).result =
      .ok (drafts i) :=
  loadNamed_of_faultless (List.forall_mem_append.2 ⟨hchain.faultless, hothers⟩)
    (hchain.loads i hi hn) start

/-- The scenes of a chain load nothing that fails. -/
theorem Chain.faultless_of_link [Application] {l : Loader} {room : Nat} {names : Nat → String}
    {drafts : Nat → SceneDraft} {n : Nat} (hchain : Chain l room names drafts n) {name : String}
    (hlink : Link names n 1 name) (start : Start) :
    ∀ u ∈ (loadNamed l name start).loads, u.fault = none := by
  obtain ⟨i, hi, hn, rfl⟩ := hlink
  exact sound_loadNamed l (names i) (drafts i) start
    (loadNamed_of_faultless hchain.faultless (hchain.loads i hi hn) start)

end SceneDraft

namespace Stage

open SceneDraft

variable {l : Loader} {names : Nat → String} {drafts : Nat → SceneDraft} {n i limit room : Nat}
  {name : String} {d : SceneDraft} {s t : Stage} {left : List String} {start : Start}
  {others : List Load}

theorem bus_entered (s : Stage) (d : SceneDraft) :
    (s.entered d).bus (.scene s.scenes.length) = d.scene.bus := by
  simp [bus, scene, entered, raise, tell]

theorem within_entered {Q : String → Prop}
    (h : ∀ event name, Handler.switch name ∈ d.scene.bus.bound event → Q name) :
    (s.entered d).Within Q s.scenes.length := by
  refine ⟨by simp [entered, raise, tell], fun event name hname => h event name ?_⟩
  rwa [bus_entered] at hname

variable [Application]

/-- A scene that ends as soon as it starts. -/
theorem passes_of_emit {next : String} {rest : List Action} {later more : List Handler}
    (hstart : d.scene.bus.bound startEvent = .actions (.emit endEvent :: rest) :: later)
    (hend : d.scene.bus.bound endEvent = .switch next :: more)
    (honly : ∀ event name, Handler.switch name ∈ d.scene.bus.bound event → name = next) :
    Passes l 2 d next := by
  refine ⟨fun s left limit _ hlimit => ⟨s.entered d, ?_⟩, honly⟩
  obtain ⟨limit, rfl⟩ : ∃ k, limit = k + 2 := ⟨limit - 2, by omega⟩
  have hinside : ((s.entered d).bus (.scene s.scenes.length)).bound startEvent =
      [] ++ .actions ([] ++ .emit endEvent :: rest) :: later := by
    rw [bus_entered, hstart]
    rfl
  have hhere : ((s.entered d).bus (.scene s.scenes.length)).bound endEvent =
      [] ++ .switch next :: more := by
    rw [bus_entered, hend]
    rfl
  have hends : Comes l (.scene s.scenes.length) (.switch next) (s.entered d) (limit + 1) endEvent []
      (s.entered d) := .here hhere (ends_pure _)
  exact .inside hinside (ends_pure _) (ends_pure _) rfl hends

/-- A scene that nothing happens in when it starts. -/
theorem rests_of_nil (h : d.scene.bus.bound startEvent = []) : Rests l (room + 1) d := by
  intro s left limit hs hlimit
  obtain ⟨limit, rfl⟩ : ∃ k, limit = k + 1 := ⟨limit - 1, by omega⟩
  have hnone : ((s.entered d).bus (.scene s.scenes.length)).bound startEvent = [] := by
    rw [bus_entered, h]
  have hends : Ends (fire l (limit + 1) (.scene s.scenes.length) startEvent []) (s.entered d)
      (.ok ()) (s.entered d) := by
    rw [ends_fire_iff, hnone]
    exact ends_pure _
  rw [hends.2]
  exact hs

theorem not_rests {next : String} (hpasses : Passes l room d next) : ¬ Rests l room d := by
  intro hrests
  let s : Stage := { pending := some [] }
  have hopen : (s.entered d).pending = some [] := rfl
  obtain ⟨t, hcomes⟩ := hpasses.comes s [] room rfl (Nat.le_refl room)
  obtain ⟨-, more, hmore, hnext, -⟩ := asks_of_comes (within_entered hpasses.only) hopen hcomes
  have hnone := hmore.symm.trans (hrests s [] room rfl (Nat.le_refl room))
  simp_all

/-- When a task has come to a scene of a chain, the game is at the end of the chain, or a later
scene of the chain has been asked for. -/
theorem asks_of_arrive (hchain : Chain l room names drafts n) (hi : 1 ≤ i)
    (hlink : Link names n i name) (hlimit : room ≤ limit) (hothers : ∀ u ∈ others, u.fault = none)
    (hs : s.pending = some left) :
    let t := after (act l limit name start others .arrive) s
    ∃ more, t.pending = some (left ++ more) ∧ (∀ x ∈ more, Link names n (i + 1) x) ∧
      (t.Shows (drafts n) ∨ more ≠ []) := by
  obtain ⟨j, hij, hjn, rfl⟩ := hlink
  intro t
  let started :=
    after (fire l limit (.scene s.scenes.length) startEvent []) (s.entered (drafts j))
  obtain ⟨hcame, hpending⟩ : started.Came [] t ∧ t.pending = started.pending := by
    have hends : t = _ := ((arrives l limit (names j) start others s).entered _
      (hchain.load (hi.trans hij) hjn hothers start) _ started ⟨rfl, rfl⟩).2
    split at hends
    · exact ⟨hends ▸ .refl _, by rw [hends]⟩
    · rename_i f _
      rw [hends]
      exact ⟨.told rfl, rfl⟩
  rcases Nat.lt_or_eq_of_le hjn with hlt | rfl
  · obtain ⟨u, hcomes⟩ := (hchain.passes j (hi.trans hij) hlt).comes s left limit hs hlimit
    obtain ⟨-, more, hmore, hnext, hlater⟩ := asks_of_comes
      (within_entered (hchain.passes j (hi.trans hij) hlt).only) hs hcomes
    refine ⟨more, by rw [hpending]; exact hmore, fun x hx => ?_, .inr (List.ne_nil_of_mem hnext)⟩
    exact ⟨j + 1, by omega, hlt, hlater x hx⟩
  · refine ⟨[], by rw [hpending]; simpa using hchain.rests s left limit hs hlimit, by simp, .inl ?_⟩
    obtain ⟨hentered, -⟩ := asks_of_entered (goes_fire l limit) (d := drafts j) startEvent [] hs
    exact (hentered.shows (by simp) (by simp)).came hcame

end Stage

namespace Loop

open SceneDraft

section

variable {l : Loader} {room : Nat} {names : Nat → String} {drafts : Nat → SceneDraft} {n i : Nat}
  {v w : Loop}

/-- All tasks are for scenes of a chain, and all that is still to come leads to scenes of it from a
number on. -/
structure Ahead (names : Nat → String) (n i : Nat) (v : Loop) : Prop where
  asked : ∃ left, v.stage.pending = some left ∧ ∀ x ∈ left, Link names n i x
  begun : ∀ task ∈ v.tasks,
    Link names n 1 task.scene ∧ (task.rest = [] ∨ Link names n i task.scene)

/-- The game is at the end of a chain, or something is still to come that leads to a scene. -/
def Tends (d : SceneDraft) (v : Loop) : Prop :=
  v.stage.Shows d ∨ v.stage.pending ≠ some [] ∨ ∃ task ∈ v.tasks, .arrive ∈ task.rest

/-- When all tasks are done, the game is at the end of the chain. -/
theorem Tends.shows (htends : v.Tends (drafts n)) (hdone : v.Done) : v.stage.Shows (drafts n) := by
  rcases htends with hshows | hasked | ⟨task, htask, harrive⟩
  · exact hshows
  · exact absurd hdone.1 hasked
  · rw [hdone.2 task htask] at harrive
    cases harrive

variable [Application]

/-- What may come of the turns of tasks. -/
abbrev Turns (l : Loader) (room : Nat) : Loop → Loop → Prop := Relation.ReflTransGen (Turn l room)

theorem arrive_mem_acts (l : Loader) (name : String) (start : Start) :
    .arrive ∈ Stage.acts l name start := by
  simp [Stage.acts]

/-- Tasks for scenes of a chain do not make each other fail. -/
theorem faultless_of_loadsOf (hchain : Chain l room names drafts n) {tasks : List Task}
    {others : List Load} (htasks : ∀ task ∈ tasks, Link names n 1 task.scene)
    (h : LoadsOf l tasks others) : ∀ u ∈ others, u.fault = none := by
  intro u hu
  obtain ⟨task, htask, u', hu', hsame⟩ := h u hu
  rw [← hsame]
  exact hchain.faultless_of_link (htasks task htask) task.start u' hu'

theorem Ahead.turn (hchain : Chain l room names drafts n) (hi : 1 ≤ i) (hv : v.Ahead names n i)
    (h : Turn l room v w) : w.Ahead names n i := by
  obtain ⟨⟨left, hleft, hlinks⟩, hbegun⟩ := hv
  cases h with
  | @begins v name rest h start =>
      cases h.symm.trans hleft
      refine ⟨⟨rest, rfl, fun x hx => hlinks x (List.mem_cons_of_mem name hx)⟩,
        List.forall_mem_append.2 ⟨hbegun, fun task htask => ?_⟩⟩
      have hlink := hlinks name List.mem_cons_self
      rw [List.mem_singleton.1 htask]
      exact ⟨hlink.earlier hi, .inr hlink⟩
  | @works s before later name start a rest others h hothers limit hlimit =>
      obtain ⟨hfirst, hrest⟩ := hbegun ⟨name, start, a :: rest⟩ (by simp)
      have hlink : Link names n i name := by simpa using hrest
      have hfaultless := faultless_of_loadsOf hchain
        (fun task htask => (hbegun task (by simp_all; tauto)).1) hothers
      refine ⟨?_, fun task htask => ?_⟩
      · cases a with
        | tell m => exact ⟨left, hleft, hlinks⟩
        | arrive =>
            obtain ⟨more, hmore, hlater, -⟩ :=
              Stage.asks_of_arrive hchain hi hlink hlimit hfaultless hleft
            exact ⟨left ++ more, hmore, List.forall_mem_append.2
              ⟨hlinks, fun x hx => (hlater x hx).earlier (Nat.le_succ i)⟩⟩
      · rcases List.mem_append.1 htask with htask | htask
        · exact hbegun task (by simp [htask])
        · rcases List.mem_cons.1 htask with rfl | htask
          · exact ⟨hfirst, .inr hlink⟩
          · exact hbegun task (by simp [htask])

theorem Tends.turn (hchain : Chain l room names drafts n) (hv : v.Ahead names n 1)
    (htends : v.Tends (drafts n)) (h : Turn l room v w) : w.Tends (drafts n) := by
  obtain ⟨⟨left, hleft, hlinks⟩, hbegun⟩ := hv
  cases h with
  | @begins v name rest h start =>
      exact .inr (.inr ⟨⟨name, start, Stage.acts l name start⟩, by simp,
        arrive_mem_acts l name start⟩)
  | @works s before later name start a rest others h hothers limit hlimit =>
      cases a with
      | tell m =>
          have hcame : s.Came [] (s.tells [.notice m]) := .told rfl
          rcases htends with hshows | hasked | ⟨task, htask, harrive⟩
          · exact .inl (hshows.came hcame)
          · exact .inr (.inl hasked)
          · refine .inr (.inr ?_)
            rcases List.mem_append.1 htask with htask | htask
            · exact ⟨task, by simp [htask], harrive⟩
            · rcases List.mem_cons.1 htask with rfl | htask
              · exact ⟨⟨name, start, rest⟩, by simp, by simpa using harrive⟩
              · exact ⟨task, by simp [htask], harrive⟩
      | arrive =>
          have hlink : Link names n 1 name := (hbegun ⟨name, start, .arrive :: rest⟩ (by simp)).1
          have hfaultless := faultless_of_loadsOf hchain
            (fun task htask => (hbegun task (by simp_all; tauto)).1) hothers
          obtain ⟨more, hmore, -, hshows | hne⟩ := Stage.asks_of_arrive hchain
            (Nat.le_refl 1) hlink hlimit hfaultless hleft
          · exact .inl hshows
          · refine .inr (.inl ?_)
            change (Stage.after (Stage.act l limit name start others .arrive) s).pending ≠ some []
            simp [hmore, hne]

theorem Tends.turns (hchain : Chain l room names drafts n) (hv : v.Ahead names n 1)
    (htends : v.Tends (drafts n)) (h : Turns l room v w) :
    w.Ahead names n 1 ∧ w.Tends (drafts n) := by
  induction h with
  | refl => exact ⟨hv, htends⟩
  | tail _ hturn ih =>
      exact ⟨ih.1.turn hchain (Nat.le_refl 1) hturn, ih.2.turn hchain ih.1 hturn⟩

section Done

variable {s : Stage} {left : List String} {later : List Task}

/-- All tasks that have been asked for may begin. -/
theorem turns_begin (before : List Task) (hs : s.pending = some left) (start : Start) :
    Turns l room ⟨s, before⟩
      ⟨{ s with pending := some [] },
        before ++ left.map fun x => ⟨x, start, Stage.acts l x start⟩⟩ := by
  induction left generalizing s before with
  | nil =>
      have hsame : { s with pending := some [] } = s := by rw [← hs]
      rw [hsame, List.map_nil, List.append_nil]
  | cons name left ih =>
      let task : Task := ⟨name, start, Stage.acts l name start⟩
      have hbegins : Turn l room ⟨s, before⟩
          ⟨{ s with pending := some left }, before ++ [task]⟩ := .begins hs start
      have hrest := ih (s := { s with pending := some left }) (before ++ [task]) rfl
      rw [List.append_assoc] at hrest
      exact .head hbegins hrest

/-- A task may be done without turns of others. What it asks for comes later in the chain. -/
theorem turns_work (before : List Task) (hchain : Chain l room names drafts n) (hi : 1 ≤ i)
    {task : Task} (hname : task.rest = [] ∨ Link names n i task.scene)
    (hs : s.pending = some left) (hlater : ∀ x ∈ left, Link names n (i + 1) x) :
    ∃ t left', Turns l room ⟨s, before ++ task :: later⟩
        ⟨t, before ++ { task with rest := [] } :: later⟩ ∧
      t.pending = some left' ∧ ∀ x ∈ left', Link names n (i + 1) x := by
  obtain ⟨name, start, rest⟩ := task
  induction rest generalizing s left with
  | nil => exact ⟨s, left, .refl, hs, hlater⟩
  | cons a rest ih =>
      have hlink : Link names n i name := by simpa using hname
      have hworks : Turn l room ⟨s, before ++ ⟨name, start, a :: rest⟩ :: later⟩
          ⟨Stage.after (Stage.act l room name start [] a) s,
            before ++ ⟨name, start, rest⟩ :: later⟩ :=
        .works (by simp [hs]) (fun _ hu => absurd hu List.not_mem_nil)
          (Nat.le_refl room)
      obtain ⟨left', hleft', hlinks⟩ : ∃ left',
          (Stage.after (Stage.act l room name start [] a) s).pending = some left' ∧
            ∀ x ∈ left', Link names n (i + 1) x := by
        cases a with
        | tell m => exact ⟨left, hs, hlater⟩
        | arrive =>
            obtain ⟨more, hmore, hnext, -⟩ := Stage.asks_of_arrive hchain hi hlink
              (Nat.le_refl room) (fun _ hu => absurd hu List.not_mem_nil) hs
            exact ⟨left ++ more, hmore, List.forall_mem_append.2 ⟨hlater, hnext⟩⟩
      obtain ⟨t, left, hturns, ht⟩ := ih hleft' hlinks (.inr hlink)
      exact ⟨t, left, .head hworks hturns, ht⟩

/-- The same for one task after the other. -/
theorem turns_workAll (before : List Task) (hchain : Chain l room names drafts n) (hi : 1 ≤ i)
    {tasks : List Task} (hlinks : ∀ task ∈ tasks, task.rest = [] ∨ Link names n i task.scene)
    (hs : s.pending = some left) (hlater : ∀ x ∈ left, Link names n (i + 1) x) :
    ∃ t left', Turns l room ⟨s, before ++ tasks⟩
        ⟨t, before ++ tasks.map fun task => { task with rest := [] }⟩ ∧
      t.pending = some left' ∧ ∀ x ∈ left', Link names n (i + 1) x := by
  induction tasks generalizing s left before with
  | nil => exact ⟨s, left, .refl, hs, hlater⟩
  | cons task tasks ih =>
      obtain ⟨u, asked, hfirst, hu, hasked⟩ :=
        turns_work before hchain hi (hlinks task List.mem_cons_self) hs hlater
      obtain ⟨t, left, hrest, ht⟩ :=
        ih (before ++ [{ task with rest := [] }])
          (fun task htask => hlinks task (List.mem_cons_of_mem _ htask)) hu hasked
      refine ⟨t, left, .trans hfirst ?_, ht⟩
      simpa using hrest

/-- The tasks that lead to a chain may all be done: those for the scenes from a number on ask for
scenes from the next number on, until there is none. -/
theorem Ahead.exists_done (hchain : Chain l room names drafts n) (hi : 1 ≤ i)
    (hv : v.Ahead names n i) : ∃ w, Turns l room v w ∧ w.Done := by
  obtain ⟨k, hk⟩ : ∃ k, n + 1 ≤ i + k := ⟨n + 1, by omega⟩
  induction k generalizing i v with
  | zero =>
      obtain ⟨⟨left, hleft, hlinks⟩, hbegun⟩ := hv
      have hnone (x : String) : ¬ Link names n i x := by
        rintro ⟨j, hij, hjn, -⟩
        omega
      have hnil : left = [] :=
        List.eq_nil_iff_forall_not_mem.2 fun x hx => hnone x (hlinks x hx)
      refine ⟨v, .refl, by rw [hleft, hnil], fun task htask => ?_⟩
      exact (hbegun task htask).2.resolve_right (hnone _)
  | succ k ih =>
      obtain ⟨⟨left, hleft, hlinks⟩, hbegun⟩ := hv
      let begun : List Task := v.tasks ++ left.map fun x => ⟨x, {}, Stage.acts l x {}⟩
      have hlinks : ∀ task ∈ begun,
          Link names n 1 task.scene ∧ (task.rest = [] ∨ Link names n i task.scene) := by
        refine List.forall_mem_append.2 ⟨hbegun, fun task htask => ?_⟩
        obtain ⟨x, hx, rfl⟩ := List.mem_map.1 htask
        exact ⟨(hlinks x hx).earlier hi, .inr (hlinks x hx)⟩
      let opened : Stage := { v.stage with pending := some [] }
      have hopened : opened.pending = some [] := rfl
      have hbegin : Turns l room v ⟨opened, begun⟩ := turns_begin v.tasks hleft {}
      obtain ⟨t, asked, hwork, ht, hasked⟩ :=
        turns_workAll [] hchain hi (fun task htask => (hlinks task htask).2) hopened (by simp)
      have hahead :
          Ahead names n (i + 1) ⟨t, begun.map fun task => { task with rest := [] }⟩ := by
        refine ⟨⟨asked, ht, hasked⟩, fun task htask => ?_⟩
        obtain ⟨task, hmem, rfl⟩ := List.mem_map.1 htask
        exact ⟨(hlinks task hmem).1, .inl rfl⟩
      obtain ⟨w, hturns, hdone⟩ := ih (by omega) hahead (by omega)
      exact ⟨w, (hbegin.trans hwork).trans hturns, hdone⟩

end Done

variable {s : Stage} {m limit : Nat}

/-- The scene that a chain starts from has ended in a loop, and the first scene of the chain has
been asked for. -/
theorem ahead_of_leaves (hn : 1 ≤ n) (hfirst : s.LeavesFor l room m endEvent (names 1))
    (hlimit : room ≤ limit) :
    let v : Loop :=
      ⟨Stage.after (Stage.fire l limit (.scene m) endEvent []) { s with pending := some [] }, []⟩
    v.Ahead names n 1 ∧ v.stage.pending ≠ some [] := by
  have hopen : ({ s with pending := some [] } : Stage).pending = some [] := rfl
  obtain ⟨t, hcomes⟩ := hfirst.comes limit (some []) hlimit
  obtain ⟨-, more, hmore, hname, hall⟩ :=
    Stage.asks_of_comes (hfirst.within.came (.pending _)) hopen hcomes
  refine ⟨⟨⟨more, hmore, fun x hx => ⟨1, Nat.le_refl 1, hn, hall x hx⟩⟩, by simp⟩, ?_⟩
  intro hnone
  have hnil := hmore.symm.trans hnone
  simp_all

/-- The first scene of a chain is the last one only if there is one. -/
theorem eq_last_iff (hn : 1 ≤ n) (hchain : Chain l room names drafts n) :
    drafts 1 = drafts n ↔ n = 1 := by
  refine ⟨fun hsame => ?_, fun h => by rw [h]⟩
  by_contra hne
  exact Stage.not_rests (hchain.passes 1 (Nat.le_refl 1) (by omega)) (hsame ▸ hchain.rests)

/-- A scene ends that a chain starts from, with room for the events that lead along the chain.
Outside of a loop, the game is in the first scene of the chain then. In a loop, whatever turns the
tasks have taken, all of them can be done, and when they are, the game is in the last scene. So both
are the same only if the chain is one scene long. -/
theorem shows_of_chain (hn : 1 ≤ n) (hchain : Chain l room names drafts n) (hs : s.pending = none)
    (hfirst : s.LeavesFor l room m endEvent (names 1)) (hlimit : room ≤ limit) :
    (Stage.after (Stage.fire l limit (.scene m) endEvent []) s).Shows (drafts 1) ∧
      (let v : Loop :=
        ⟨Stage.after (Stage.fire l limit (.scene m) endEvent []) { s with pending := some [] }, []⟩
      ∀ w, Turns l room v w →
        (∃ u, Turns l room w u ∧ u.Done) ∧ (w.Done → w.stage.Shows (drafts n))) ∧
      (drafts 1 = drafts n ↔ n = 1) := by
  obtain ⟨hahead, hasked⟩ := ahead_of_leaves hn hfirst hlimit
  refine ⟨?_, fun w hturns => ?_, eq_last_iff hn hchain⟩
  · obtain ⟨t, hcomes⟩ := hfirst.comes limit none hlimit
    have hsame : { s with pending := none } = s := by rw [← hs]
    rw [hsame] at hcomes
    exact Stage.shows_of_comes hfirst.within hs (hchain.loads 1 (Nat.le_refl 1) hn) hcomes
  · obtain ⟨hw, htends⟩ := Tends.turns hchain hahead (.inr (.inl hasked)) hturns
    exact ⟨hw.exists_done hchain (Nat.le_refl 1), htends.shows⟩

end

/-- The scene that a bus goes on to, if all that it does is to end when it starts. -/
def passes? : Bus Handler → Option String
  | [(last, [.switch name]), (first, [.actions [.emit event]])] =>
      if last = endEvent ∧ first = startEvent ∧ event = endEvent then some name else none
  | _ => none

theorem eq_of_passes? {b : Bus Handler} {name : String} (h : passes? b = some name) :
    b = [(endEvent, [.switch name]), (startEvent, [.actions [.emit endEvent]])] := by
  unfold passes? at h
  split at h
  · split at h
    · rename_i heq
      obtain ⟨rfl, rfl, rfl⟩ := heq
      cases h
      rfl
    · cases h
  · cases h

/-- A scene goes on to another one, if all that it does is to end when it starts. -/
theorem passes_of_passes? [Application] {l : Loader} {d : SceneDraft} {name : String}
    (h : passes? d.scene.bus = some name) : Passes l 2 d name := by
  have hstart : d.scene.bus.bound startEvent = .actions (.emit endEvent :: []) :: [] := by
    rw [eq_of_passes? h]
    rfl
  have hend : d.scene.bus.bound endEvent = .switch name :: [] := by
    rw [eq_of_passes? h]
    rfl
  refine Stage.passes_of_emit hstart hend fun event other hmem => ?_
  rw [eq_of_passes? h] at hmem
  simp only [Bus.bound, Catalog.get?] at hmem
  split_ifs at hmem <;> simp_all

/-- A scene that ends as soon as it starts, and the one that comes after it. -/
def flight : Loader where
  settings := { scenes := [("one", "one.xml"), ("two", "two.xml")] }
  storage :=
    { files :=
        [(["one.xml"], .text
            ("<scene name='S1'><events><after><action type='goto-scene' id='two'/></after>" ++
              "<event name='start'><action type='emit' event='end'/></event></events></scene>")),
          (["two.xml"], .text "<scene name='S2'/>")] }

def gate : Stage where
  scenes := [{ name := some "S0", bus := [("end", [.switch "one"])] }]

theorem bound_gate (event : String) :
    (gate.bus (.scene 0)).bound event = if event = endEvent then [.switch "one"] else [] := by
  by_cases h : event = endEvent
  · rw [if_pos h, h]
    rfl
  · have hne : endEvent ≠ event := Ne.symm h
    rw [if_neg h]
    change (if endEvent = event then some [Handler.switch "one"] else none).getD [] = []
    rw [if_neg hne]
    rfl

/-- The names of the scenes of the flight. -/
def stops (i : Nat) : String := if i = 1 then "one" else "two"

section

open Bare

theorem leavesFor_gate : gate.LeavesFor flight 2 0 endEvent "one" := by
  refine Stage.leavesFor_of_bound (by decide) (bound_gate endEvent) fun event name hname => ?_
  rw [bound_gate] at hname
  split at hname <;> simp_all

theorem exists_flight : ∃ drafts, Chain flight 2 stops drafts 2 ∧
    (drafts 2).scene.name = some "S2" := by
  have hone : ((loadNamed flight "one").run.1.toOption.bind fun d => passes? d.scene.bus) =
      some "two" := by
    decide +kernel
  have htwo : ((loadNamed flight "two").run.1.toOption.map fun d =>
      (d.scene.bus.isEmpty, d.scene.name)) = some (true, some "S2") := by
    decide +kernel
  obtain ⟨d₁, hd₁, hbus⟩ := Option.bind_eq_some_iff.1 hone
  obtain ⟨d₂, hd₂, hname⟩ := Option.map_eq_some_iff.1 htwo
  have hload {name : String} {d : SceneDraft}
      (h : (loadNamed flight name).run.1.toOption = some d) :
      (loadNamed flight name).run.1 = .ok d := by
    cases hrun : (loadNamed flight name).run.1 <;> simp_all [Except.toOption]
  have hempty : d₂.scene.bus = [] := by simp_all
  refine ⟨fun i => if i = 1 then d₁ else d₂,
    ⟨fun _ hu => absurd hu List.not_mem_nil, fun i hi hn => ?_, fun i hi hn => ?_, ?_⟩,
    by simp_all⟩
  · obtain rfl | rfl : i = 1 ∨ i = 2 := by omega
    · exact hload hd₁
    · exact hload hd₂
  · obtain rfl : i = 1 := by omega
    exact passes_of_passes? hbus
  · exact Stage.rests_of_nil (by rw [if_neg (by decide), hempty]; rfl)

theorem shows_of_chain_flight : ∃ drafts : Nat → SceneDraft,
    (drafts 2).scene.name = some "S2" ∧ Chain flight 2 stops drafts 2 ∧
      (Stage.after (Stage.fire flight 9 (.scene 0) endEvent []) gate).Shows (drafts 1) ∧
      (let v : Loop := ⟨Stage.after (Stage.fire flight 9 (.scene 0) endEvent [])
        { gate with pending := some [] }, []⟩
      ∃ w, Turns flight 2 v w ∧ w.Done ∧ w.stage.Shows (drafts 2)) ∧ drafts 1 ≠ drafts 2 := by
  obtain ⟨drafts, hchain, hname⟩ := exists_flight
  obtain ⟨hclosed, hopen, hsame⟩ :=
    shows_of_chain (by decide) hchain (s := gate) rfl leavesFor_gate
      (show 2 ≤ 9 by decide)
  obtain ⟨⟨w, hturns, hdone⟩, -⟩ := hopen _ .refl
  exact ⟨drafts, hname, hchain, hclosed, ⟨w, hturns, hdone, (hopen w hturns).2 hdone⟩,
    fun h => absurd (hsame.1 h) (by decide)⟩

/-- Outside of a loop, the game does not come to the end of every chain. -/
theorem not_shows_of_chain : ¬ ∀ (l : Loader) (room : Nat) (names : Nat → String)
    (drafts : Nat → SceneDraft) (n : Nat) (s : Stage) (m limit : Nat), 1 ≤ n →
      Chain l room names drafts n → s.pending = none →
      s.LeavesFor l room m endEvent (names 1) → room ≤ limit →
      (Stage.after (Stage.fire l limit (.scene m) endEvent []) s).Shows (drafts n) := by
  intro h
  obtain ⟨drafts, hchain, hname⟩ := exists_flight
  obtain ⟨n, hgame, -, hfixed⟩ :=
    h flight 2 stops drafts 2 gate 0 9 (by decide) hchain rfl leavesFor_gate (by decide)
  have hstays : ((Stage.after (Stage.fire flight 9 (.scene 0) endEvent []) gate).game.map
      fun n => ((Stage.after (Stage.fire flight 9 (.scene 0) endEvent []) gate).scene n).name) =
        some (some "S1") := by
    decide +kernel
  rw [hgame, Option.map_some, Option.some.injEq] at hstays
  have hends := congrArg Scene.name hfixed
  simp_all [Scene.fixed]

end

end Loop

end Stagecraft
