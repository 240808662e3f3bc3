import Mathlib.Data.List.Induction
import MarkupAssist.Proofs.Engine.SideBySide

/-!
# Cancellation

A request that is cancelled before it looks at its flag a second time is answered by nothing, and
any other one in full, whatever else goes on meanwhile.

- `HappensAt`       : something happens at a place of a list of events
- `Submits`, `Cancels`, `ChecksAgain` : what may happen to a request and to its flag
- `CancelledInTime`, `Confirmed` : whether a cancellation or the second look comes first
- `Explained`       : what a stage says about the events that led to it

A stage is explained by what happened so far (`explained_run`), since each event extends the
explanation: a step of the request itself by what it sees of the flag, any other event because
it comes after the second look, or because that look is still to come.
-/

namespace MarkupAssist

/-- What a request is answered by when nobody cancels it. -/
def Engine.fullAnswer (engine : Engine) (request : Request) : List Suggestion :=
  Suggestion.forContext engine.catalogue
    (Markup.classify request.document request.position engine.settings)
    (request.document.typedWord request.position) request.language engine.settings

namespace System

variable {engine : Engine} {events : List Event} {event : Event} {id cell t : Nat} {task : Task}

/-! ## What happens when -/

def HappensAt (what : System → Event → Prop) (engine : Engine) (events : List Event) (t : Nat) :
    Prop :=
  ∃ event, events[t]? = some event ∧ what (run engine (events.take t)) event

/-- The request of a task is submitted, to its engine and with its flag. -/
def Submits (id : Nat) (task : Task) (system : System) (event : Event) : Prop :=
  system.tasks id = none ∧ ∃ handle flag, event = .submit id task.request handle flag ∧
    system.engines[handle]? = some task.engine ∧ system.flags.cell? flag = some task.cell

def Cancels (cell : Nat) (system : System) (event : Event) : Prop :=
  ∃ handle, event = .cancel handle ∧ system.flags.cell? handle = some cell

/-- A request whose context is known looks at its flag again. -/
def ChecksAgain (id : Nat) (system : System) (event : Event) : Prop :=
  event = .proceed id ∧ ∃ task context, system.tasks id = some task ∧ task.stage = .classified context

def CancelledInTime (engine : Engine) (events : List Event) (id cell : Nat) : Prop :=
  ∃ t, HappensAt (Cancels cell) engine events t ∧
    ∀ u, HappensAt (ChecksAgain id) engine events u → t < u

def Confirmed (engine : Engine) (events : List Event) (id cell : Nat) : Prop :=
  ∃ u, HappensAt (ChecksAgain id) engine events u ∧
    ∀ t, HappensAt (Cancels cell) engine events t → u < t

theorem lt_of_happensAt {what : System → Event → Prop} (h : HappensAt what engine events t) :
    t < events.length := by
  rcases h with ⟨event, hevent, _⟩
  exact (List.getElem?_eq_some_iff.mp hevent).1

theorem happensAt_concat {what : System → Event → Prop} :
    HappensAt what engine (events ++ [event]) t ↔
      HappensAt what engine events t ∨ t = events.length ∧ what (run engine events) event := by
  rcases Nat.lt_trichotomy t events.length with hlt | rfl | hgt
  · have htake : (events ++ [event]).take t = events.take t :=
      List.take_append_of_le_length (Nat.le_of_lt hlt)
    simp only [HappensAt, List.getElem?_append_left hlt, htake]
    exact ⟨.inl, fun h => h.resolve_right fun hlast => Nat.ne_of_lt hlt hlast.1⟩
  · simp [HappensAt]
  -- past the end nothing happens, in either list
  · have hne : t ≠ events.length := Nat.ne_of_gt hgt
    have hnone : events[t]? = none := List.getElem?_eq_none (Nat.le_of_lt hgt)
    have hover : (events ++ [event])[t]? = none :=
      List.getElem?_eq_none (by simpa using Nat.succ_le_of_lt hgt)
    simp [HappensAt, hnone, hover, hne]

theorem HappensAt.concat {what : System → Event → Prop} (h : HappensAt what engine events t)
    (event : Event) : HappensAt what engine (events ++ [event]) t :=
  happensAt_concat.mpr (.inl h)

theorem HappensAt.of_concat {what : System → Event → Prop}
    (h : HappensAt what engine (events ++ [event]) t)
    (hevent : ¬ what (run engine events) event) : HappensAt what engine events t :=
  (happensAt_concat.mp h).resolve_right fun hlast => hevent hlast.2

theorem happensAt_last {what : System → Event → Prop} (h : what (run engine events) event) :
    HappensAt what engine (events ++ [event]) events.length :=
  happensAt_concat.mpr (.inr ⟨rfl, h⟩)

/-- A flag is set when it was cancelled, and not otherwise. -/
theorem isSet_run (engine : Engine) (events : List Event) (cell : Nat) :
    (run engine events).flags.isSet cell = true ↔
      ∃ t, HappensAt (Cancels cell) engine events t := by
  induction events using List.reverseRecOn with
  | nil =>
      simp [run, HappensAt, Flags.isSet]
  | append_singleton events event ih =>
      rw [run_concat, isSet_step, ih]
      constructor
      · rintro (⟨t, ht⟩ | hcancels)
        · exact ⟨t, ht.concat event⟩
        · exact ⟨events.length, happensAt_last hcancels⟩
      · rintro ⟨t, ht⟩
        rcases happensAt_concat.mp ht with ht | ⟨_, hcancels⟩
        · exact .inl ⟨t, ht⟩
        · exact .inr hcancels

/-- Clones of an engine are that engine. -/
theorem eq_of_mem_engines {clone : Engine} (h : clone ∈ (run engine events).engines) :
    clone = engine := by
  induction events using List.reverseRecOn with
  | nil =>
      exact List.mem_singleton.mp h
  | append_singleton events event ih =>
      rw [run_concat] at h
      exact ih (mem_engines_step h)

/-- A request that is under way was submitted once. -/
theorem submitted_of_task (h : (run engine events).tasks id = some task) :
    task.engine = engine ∧ ∃ t, HappensAt (Submits id task) engine events t := by
  induction events using List.reverseRecOn generalizing task with
  | nil =>
      cases h
  | append_singleton events event ih =>
      rw [run_concat] at h
      rcases task_step h with ⟨_, hkept⟩ | ⟨_, earlier, hearlier, rfl⟩ |
        ⟨hnone, handle, flag, hevent, hengine, hcell, _⟩
      · rcases ih hkept with ⟨hsame, t, ht⟩
        exact ⟨hsame, t, ht.concat event⟩
      · rcases ih hearlier with ⟨hsame, t, ht⟩
        exact ⟨hsame, t, ht.concat event⟩
      · exact ⟨eq_of_mem_engines (List.mem_of_getElem? hengine), events.length,
          happensAt_last ⟨hnone, handle, flag, hevent, hengine, hcell⟩⟩

theorem not_checksAgain_of_none (h : (run engine events).tasks id = none) (u : Nat) :
    ¬ HappensAt (ChecksAgain id) engine events u := by
  rintro ⟨event, hevent, _, task, _, htask, _⟩
  -- what is under way at place `u` still is at the end
  have hsplit : events.take u ++ events.drop u = events := List.take_append_drop u events
  rcases exists_stage_run htask (events.drop u) with ⟨stage, hstage, _⟩
  rw [← run_append, hsplit, h] at hstage
  cases hstage

/-! ## Stages and their history -/

/-- What has happened to a request that has come to a stage. -/
def Explained (engine : Engine) (events : List Event) (id cell : Nat) (request : Request) :
    Stage → Prop
  | .received => ∀ u, ¬ HappensAt (ChecksAgain id) engine events u
  | .admitted => ∀ u, ¬ HappensAt (ChecksAgain id) engine events u
  | .classified context =>
      context = engine.classify request.document request.position ∧
        ∀ u, ¬ HappensAt (ChecksAgain id) engine events u
  | .confirmed context =>
      context = engine.classify request.document request.position ∧
        Confirmed engine events id cell
  | .answered answer =>
      answer = [] ∧ CancelledInTime engine events id cell ∨
        answer = engine.fullAnswer request ∧ Confirmed engine events id cell

theorem Confirmed.concat (h : Confirmed engine events id cell) (event : Event) :
    Confirmed engine (events ++ [event]) id cell := by
  rcases h with ⟨u, hcheck, hbefore⟩
  refine ⟨u, hcheck.concat event, ?_⟩
  intro t ht
  rcases happensAt_concat.mp ht with ht | ⟨rfl, _⟩
  · exact hbefore t ht
  · exact lt_of_happensAt hcheck

theorem Confirmed.not_cancelledInTime (h : Confirmed engine events id cell) :
    ¬ CancelledInTime engine events id cell := by
  rintro ⟨t, hcancelled, hbefore⟩
  rcases h with ⟨u, hcheck, hafter⟩
  exact Nat.lt_asymm (hbefore u hcheck) (hafter t hcancelled)

theorem CancelledInTime.concat (h : CancelledInTime engine events id cell)
    (hevent : ¬ ChecksAgain id (run engine events) event) :
    CancelledInTime engine (events ++ [event]) id cell := by
  rcases h with ⟨t, hcancelled, hbefore⟩
  exact ⟨t, hcancelled.concat event, fun u hu => hbefore u (hu.of_concat hevent)⟩

theorem Explained.concat {request : Request} {stage : Stage}
    (h : Explained engine events id cell request stage)
    (hevent : ¬ ChecksAgain id (run engine events) event) :
    Explained engine (events ++ [event]) id cell request stage := by
  have hnever : (∀ u, ¬ HappensAt (ChecksAgain id) engine events u) →
      ∀ u, ¬ HappensAt (ChecksAgain id) engine (events ++ [event]) u :=
    fun hnone u hu => hnone u (hu.of_concat hevent)
  cases stage with
  | received =>
      exact hnever h
  | admitted =>
      exact hnever h
  | classified context =>
      exact ⟨h.1, hnever h.2⟩
  | confirmed context =>
      exact ⟨h.1, h.2.concat event⟩
  | answered answer =>
      rcases h with ⟨hanswer, hcancelled⟩ | ⟨hanswer, hconfirmed⟩
      · exact .inl ⟨hanswer, hcancelled.concat hevent⟩
      · exact .inr ⟨hanswer, hconfirmed.concat event⟩

theorem not_checksAgain_of_stage (htask : (run engine events).tasks id = some task)
    (hstage : ∀ context, task.stage ≠ .classified context) :
    ¬ ChecksAgain id (run engine events) event := by
  rintro ⟨_, other, context, hother, hclassified⟩
  rw [htask] at hother
  cases hother
  exact hstage context hclassified

theorem cancelledInTime_of_isSet (hset : (run engine events).flags.isSet cell = true)
    (hnever : ∀ u, ¬ HappensAt (ChecksAgain id) engine events u) (event : Event) :
    CancelledInTime engine (events ++ [event]) id cell := by
  rcases (isSet_run engine events cell).mp hset with ⟨t, ht⟩
  refine ⟨t, ht.concat event, ?_⟩
  intro u hu
  rcases happensAt_concat.mp hu with hu | ⟨rfl, _⟩
  · exact absurd hu (hnever u)
  · exact lt_of_happensAt ht

theorem confirmed_of_not_isSet (hset : (run engine events).flags.isSet cell = false)
    (hchecks : ChecksAgain id (run engine events) (.proceed id)) :
    Confirmed engine (events ++ [.proceed id]) id cell := by
  refine ⟨events.length, happensAt_last hchecks, ?_⟩
  intro t ht
  have hcancelled : HappensAt (Cancels cell) engine events t := ht.of_concat nofun
  rw [(isSet_run engine events cell).mpr ⟨t, hcancelled⟩] at hset
  cases hset

theorem Explained.proceed (hengine : task.engine = engine)
    (htask : (run engine events).tasks id = some task)
    (h : Explained engine events id task.cell task.request task.stage) :
    Explained engine (events ++ [.proceed id]) id task.cell task.request
      (task.proceed (run engine events).flags).stage := by
  have hkept : (∀ context, task.stage ≠ .classified context) →
      Explained engine (events ++ [.proceed id]) id task.cell task.request task.stage :=
    fun hstage => h.concat (not_checksAgain_of_stage htask hstage)
  simp only [Task.proceed, hengine]
  cases hstage : task.stage with
  | received =>
      -- the first look finds a cancellation that the second one would still be in time for
      rw [hstage] at h hkept
      cases hset : (run engine events).flags.isSet task.cell with
      | true =>
          exact .inl ⟨rfl, cancelledInTime_of_isSet hset h _⟩
      | false =>
          exact hkept (by simp)
  | admitted =>
      rw [hstage] at hkept
      exact ⟨rfl, hkept (by simp)⟩
  | classified context =>
      -- the second look, which no earlier step was: what it sees is all that ever counts
      rw [hstage] at h
      rcases h with ⟨hcontext, hnever⟩
      cases hset : (run engine events).flags.isSet task.cell with
      | true =>
          exact .inl ⟨rfl, cancelledInTime_of_isSet hset hnever _⟩
      | false =>
          exact ⟨hcontext, confirmed_of_not_isSet hset ⟨rfl, task, context, htask, hstage⟩⟩
  | confirmed context =>
      rw [hstage] at hkept
      rcases hkept (by simp) with ⟨rfl, hconfirmed⟩
      exact .inr ⟨rfl, hconfirmed⟩
  | answered answer =>
      rw [hstage] at hkept
      exact hkept (by simp)

theorem explained_run (h : (run engine events).tasks id = some task) :
    Explained engine events id task.cell task.request task.stage := by
  induction events using List.reverseRecOn generalizing task with
  | nil =>
      cases h
  | append_singleton events event ih =>
      rw [run_concat] at h
      rcases task_step h with ⟨hother, hkept⟩ | ⟨rfl, earlier, hearlier, rfl⟩ |
        ⟨hnone, handle, flag, rfl, _, _, hstage⟩
      · exact (ih hkept).concat fun hchecks => hother hchecks.1
      · exact (ih hearlier).proceed (submitted_of_task hearlier).1 hearlier
      -- a request that was not there has not looked at anything yet
      · rw [hstage]
        exact fun u hu => not_checksAgain_of_none hnone u (hu.of_concat nofun)

/-! ## Answers -/

/-- A request is answered by nothing or in full, by nothing exactly if a cancellation of its flag
came before it looked at the flag a second time; nothing that others do changes the answer. -/
theorem answer_of_run {answer : List Suggestion} (htask : (run engine events).tasks id = some task)
    (hanswer : task.stage = .answered answer) :
    (task.engine = engine ∧ ∃ t, HappensAt (Submits id task) engine events t) ∧
    (answer = [] ∨ answer = engine.fullAnswer task.request) ∧
    (CancelledInTime engine events id task.cell → answer = []) ∧
    (¬ CancelledInTime engine events id task.cell → answer = engine.fullAnswer task.request) ∧
    ∀ before event after, events = before ++ event :: after →
      Foreign id task.cell (run engine before) event →
      (run engine (before ++ after)).tasks id = some task := by
  -- a cancellation in time and a second look that came first exclude each other, so the two
  -- ways to an answer are told apart by the cancellation alone
  have hexplained := explained_run htask
  rw [hanswer] at hexplained
  refine ⟨submitted_of_task htask, ?_, ?_, ?_, ?_⟩
  · exact hexplained.imp And.left And.left
  · intro hcancelled
    rcases hexplained with ⟨hnothing, _⟩ | ⟨_, hconfirmed⟩
    · exact hnothing
    · exact absurd hcancelled hconfirmed.not_cancelledInTime
  · intro hcancelled
    rcases hexplained with ⟨_, hin⟩ | ⟨hfull, _⟩
    · exact absurd hin hcancelled
    · exact hfull
  · rintro before event after rfl hforeign
    rw [run_append, List.foldl_cons] at htask
    rw [run_append]
    exact (agree_step_of_foreign hforeign).symm.run htask rfl

/-- Cancelled through a clone of its flag, but only after it looked at it a second time. -/
theorem answer_of_late_cancellation :
    let engine : Engine := ⟨.ofLists [{ name := "el-row", attributes := ["gutter"] }]
      [("gutter", { options := some ["10", "20"] })] [], {}⟩
    let request : Request := ⟨.ofText "<el-row gutter=\"", ⟨0, 16⟩, "vue"⟩
    (run engine ([.createFlag, .cloneFlag 0, .submit 7 request 0 0] ++
      [.proceed 7, .proceed 7, .proceed 7, .cancel 1, .proceed 7])).tasks 7 =
        some ⟨engine, request, 0, .answered [.ofLabel "10" .value, .ofLabel "20" .value]⟩ := by
  intro engine request
  have hfull : engine.fullAnswer request = [.ofLabel "10" .value, .ofLabel "20" .value] := by
    decide
  have htask : (run engine [.createFlag, .cloneFlag 0, .submit 7 request 0 0]).tasks 7 =
      some ⟨engine, request, 0, .received⟩ := rfl
  have hcount : 4 ≤ List.count (Event.proceed 7)
      [.proceed 7, .proceed 7, .proceed 7, .cancel 1, .proceed 7] := by decide
  have hlate : ¬ CancelledInTime engine ([.createFlag, .cloneFlag 0, .submit 7 request 0 0] ++
      [.proceed 7, .proceed 7, .proceed 7, .cancel 1, .proceed 7]) 7 0 := by
    rintro ⟨t, ⟨event, hevent, flag, rfl, _⟩, hbefore⟩
    have hlt : t < 5 := hbefore 5 ⟨_, rfl, rfl, _, _, rfl, rfl⟩
    match t, hlt, hevent with
    | 0, _, hevent => cases hevent
    | 1, _, hevent => cases hevent
    | 2, _, hevent => cases hevent
    | 3, _, hevent => cases hevent
    | 4, _, hevent => cases hevent
  rcases answered_of_proceeds htask hcount with ⟨answer, hanswer⟩
  rw [hanswer, (answer_of_run hanswer rfl).2.2.2.1 hlate, ← hfull]

end System
end MarkupAssist
