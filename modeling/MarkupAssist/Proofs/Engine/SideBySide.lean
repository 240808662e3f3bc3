import MarkupAssist.Engine.Interleaving

/-!
# One request among others

What a request gets out of a run does not depend on what happens around it: four steps of its
own bring it to an answer (`answered_of_proceeds`), and cancellations of other flags and
everything other requests do might as well not have happened.

- `stepsLeft` : how far a stage is from an answer
- `Foreign`   : events that are none of a request's business
- `Agree`     : systems that are the same as far as one request can tell

One step keeps the agreement (`Agree.step`), so it lasts for a run (`Agree.run`).
-/

namespace MarkupAssist

namespace System

variable {engine : Engine} {event : Event} {id cell : Nat} {task : Task}

/-! ## Getting done -/

/-- How many steps of its own a request is from its answer. -/
def stepsLeft : Stage → Nat
  | .received => 4
  | .admitted => 3
  | .classified _ => 2
  | .confirmed _ => 1
  | .answered _ => 0

theorem stepsLeft_proceed (task : Task) (flags : Flags) :
    stepsLeft (task.proceed flags).stage ≤ stepsLeft task.stage - 1 := by
  simp only [Task.proceed]
  cases task.stage <;> cases flags.isSet task.cell <;> simp [Engine.advance, stepsLeft]

/-- What was asked, of which engine and with which flag, does not change, and each step of the
request itself brings the answer nearer. -/
theorem exists_stage_run {system : System} (h : system.tasks id = some task)
    (events : List Event) :
    ∃ stage, (events.foldl step system).tasks id = some { task with stage } ∧
      stepsLeft stage ≤ stepsLeft task.stage - events.count (.proceed id) := by
  induction events generalizing system task with
  | nil =>
      exact ⟨task.stage, h, Nat.le_refl _⟩
  | cons event events ih =>
      by_cases hevent : event = .proceed id
      · subst hevent
        have hstep := stepsLeft_proceed task system.flags
        rcases ih (tasks_step_proceed h) with ⟨stage, hstage, hle⟩
        refine ⟨stage, hstage, ?_⟩
        rw [List.count_cons_self]
        omega
      · rcases ih (tasks_step_of_ne h hevent) with ⟨stage, hstage, hle⟩
        refine ⟨stage, hstage, ?_⟩
        rwa [List.count_cons_of_ne hevent]

/-- Four steps of its own bring a request to its answer, whatever happens in between. -/
theorem answered_of_proceeds {before after : List Event}
    (htask : (run engine before).tasks id = some task) (hcount : 4 ≤ after.count (.proceed id)) :
    ∃ answer, (run engine (before ++ after)).tasks id =
      some { task with stage := .answered answer } := by
  rcases exists_stage_run htask after with ⟨stage, hstage, hle⟩
  rw [← run_append] at hstage
  have hmost : stepsLeft task.stage ≤ 4 := by
    cases task.stage <;> simp [stepsLeft]
  have hdone : stepsLeft stage = 0 := by
    omega
  cases stage with
  | answered answer =>
      exact ⟨answer, hstage⟩
  | _ =>
      cases hdone

/-- Four steps in a row, with nothing in between, give what a request by itself is answered by. -/
theorem answered_of_four_proceeds {system : System} (h : system.tasks id = some task)
    (hstage : task.stage = .received) :
    ((List.replicate 4 (.proceed id)).foldl step system).tasks id =
      some { task with
        stage := .answered (task.engine.complete task.request (system.flags.isSet task.cell)) } := by
  have hsteps := tasks_step_proceed (tasks_step_proceed (tasks_step_proceed (tasks_step_proceed h)))
  refine hsteps.trans ?_
  cases task with
  | mk engine request cell stage =>
      subst hstage
      cases hset : system.flags.isSet cell <;> simp [Task.proceed, step, setTask, hset] <;> rfl

/-! ## What others do -/

/-- Cancellations of other flags, and whatever other requests do. -/
def Foreign (id cell : Nat) (system : System) : Event → Prop
  | .cancel flag => system.flags.cell? flag ≠ some cell
  | .submit other _ _ _ => other ≠ id
  | .proceed other => other ≠ id
  | _ => False

/-- The same for one request, and for those that are still to be submitted. -/
structure Agree (id cell : Nat) (system other : System) : Prop where
  engines : system.engines = other.engines
  handles : system.flags.handles = other.flags.handles
  size : system.flags.cells.length = other.flags.cells.length
  isSet : system.flags.isSet cell = other.flags.isSet cell
  task : system.tasks id = other.tasks id

namespace Agree

variable {system other : System}

theorem cell?_eq (h : Agree id cell system other) (flag : Nat) :
    system.flags.cell? flag = other.flags.cell? flag :=
  congrArg (fun handles : List Nat => handles[flag]?) h.handles

theorem symm (h : Agree id cell system other) : Agree id cell other system :=
  ⟨h.engines.symm, h.handles.symm, h.size.symm, h.isSet.symm, h.task.symm⟩

theorem trans {third : System} (h : Agree id cell system other) (h' : Agree id cell other third) :
    Agree id cell system third :=
  ⟨h.engines.trans h'.engines, h.handles.trans h'.handles, h.size.trans h'.size,
    h.isSet.trans h'.isSet, h.task.trans h'.task⟩

theorem setTask (h : Agree id cell system other) (name : Nat) {task? other? : Option Task}
    (htask : name = id → task? = other?) :
    Agree id cell (system.setTask name task?) (other.setTask name other?) := by
  refine ⟨h.engines, h.handles, h.size, h.isSet, ?_⟩
  by_cases hname : id = name
  · subst hname
    rw [tasks_setTask_self, tasks_setTask_self, htask rfl]
  · rw [tasks_setTask_of_ne _ _ hname, tasks_setTask_of_ne _ _ hname, h.task]

end Agree

theorem agree_setTask_of_ne (system : System) {name : Nat} (task? : Option Task)
    (h : name ≠ id) : Agree id cell (system.setTask name task?) system :=
  ⟨rfl, rfl, rfl, rfl, tasks_setTask_of_ne system task? h.symm⟩

theorem agree_step_of_foreign {system : System} (h : Foreign id cell system event) :
    Agree id cell (system.step event) system := by
  cases event with
  | cancel flag =>
      exact ⟨rfl, rfl, Flags.length_cancel _ _, Flags.isSet_cancel_of_ne h, rfl⟩
  | submit name request handle flag =>
      rw [step]
      split
      · exact agree_setTask_of_ne system _ h
      · exact ⟨rfl, rfl, rfl, rfl, rfl⟩
  | proceed name =>
      exact agree_setTask_of_ne system _ h
  | _ =>
      exact h.elim

/-- Systems that agree for a request go on doing so, as long as it is its own flag that they
agree about. -/
theorem Agree.step {system other : System} (h : Agree id cell system other)
    (hcell : ∀ task, other.tasks id = some task → task.cell = cell) (event : Event) :
    Agree id cell (system.step event) (other.step event) := by
  cases event with
  | cloneEngine handle =>
      exact ⟨by simp only [System.step, h.engines], h.handles, h.size, h.isSet, h.task⟩
  | createFlag =>
      refine ⟨h.engines, ?_, ?_, ?_, h.task⟩
      · simp only [System.step, Flags.create, h.handles, h.size]
      · simp only [System.step, Flags.create, List.length_append, h.size]
      · simp only [System.step, Flags.isSet_create, h.isSet]
  | cloneFlag flag =>
      refine ⟨h.engines, ?_, h.size, h.isSet, h.task⟩
      simp only [System.step, Flags.clone, h.handles, h.cell?_eq]
  | cancel flag =>
      refine ⟨h.engines, h.handles, ?_, ?_, h.task⟩
      · simp only [System.step, Flags.length_cancel, h.size]
      · rw [Bool.eq_iff_iff]
        simp only [System.step, Flags.isSet_cancel, h.isSet, h.cell?_eq]
  | submit name request handle flag =>
      by_cases hname : name = id
      · subst hname
        simp only [System.step, h.task, h.engines, h.cell?_eq]
        split
        · exact h.setTask name fun _ => rfl
        · exact h
      -- the name may be taken in one of the systems only, which is of no concern to this request
      · have hforeign : ∀ system, Foreign id cell system (.submit name request handle flag) :=
          fun _ => hname
        exact (agree_step_of_foreign (hforeign system)).trans
          (h.trans (agree_step_of_foreign (hforeign other)).symm)
  | proceed name =>
      refine h.setTask name ?_
      rintro rfl
      rw [h.task]
      cases htask : other.tasks name with
      | none =>
          rfl
      | some task =>
          simp only [Option.map_some, Task.proceed, hcell task htask, h.isSet]

/-- Which flag a request came with does not change, so it is enough to know it at the end. -/
theorem Agree.run {system other : System} (h : Agree id cell system other) {events : List Event}
    (htask : (events.foldl System.step other).tasks id = some task) (hcell : task.cell = cell) :
    (events.foldl System.step system).tasks id = some task := by
  induction events generalizing system other with
  | nil =>
      exact h.task.trans htask
  | cons event events ih =>
      refine ih (h.step ?_ event) htask
      -- the request may be under way by now, and then with the flag it has at the end
      intro earlier hearlier
      rcases exists_stage_run hearlier (event :: events) with ⟨stage, hstage, _⟩
      cases hstage.symm.trans htask
      exact hcell

end System
end MarkupAssist
