import MarkupAssist.Engine.Request

/-!
# Requests side by side

Many requests may be under way at once, each with a clone of an engine and a clone of a flag, and
whoever has a clone of a flag may cancel through it. What happens is a list of events in the order
in which they take effect: one look at a flag, or one piece of work on one request, is one event.

- `Flags`  : memory cells and the handles that refer to them; clones refer to one cell
- `Task`   : a request under way, with the stage it has come to
- `System` : the engines, flags and tasks there are
- `Event`, `System.step`, `System.run` : what can happen, and what comes of it

Nothing that requests share ever changes but the flags, so the order of these events is all that
counts. Engines and flags are numbered in the order in which they come up, and callers name their
requests. An event that speaks of something that does not exist has no effect.
-/

namespace MarkupAssist

/-! ## Flags -/

structure Flags where
  cells : List Bool := []
  handles : List Nat := []
  inside : ∀ cell ∈ handles, cell < cells.length := by simp

namespace Flags

/-- The cell that a handle refers to. -/
def cell? (flags : Flags) (handle : Nat) : Option Nat :=
  flags.handles[handle]?

def isSet (flags : Flags) (cell : Nat) : Bool :=
  flags.cells.getD cell false

theorem cell_lt {flags : Flags} {handle cell : Nat} (h : flags.cell? handle = some cell) :
    cell < flags.cells.length :=
  flags.inside cell (List.mem_of_getElem? h)

def create (flags : Flags) : Flags where
  cells := flags.cells ++ [false]
  handles := flags.handles ++ [flags.cells.length]
  inside := by
    intro cell hcell
    rw [List.length_append, List.length_singleton]
    rcases List.mem_append.mp hcell with hcell | hcell
    · exact Nat.lt_succ_of_lt (flags.inside cell hcell)
    · exact Nat.lt_succ_of_le (Nat.le_of_eq (List.mem_singleton.mp hcell))

def clone (flags : Flags) (handle : Nat) : Flags where
  cells := flags.cells
  handles := flags.handles ++ (flags.cell? handle).toList
  inside := by
    intro cell hcell
    rcases List.mem_append.mp hcell with hcell | hcell
    · exact flags.inside cell hcell
    · exact cell_lt (Option.mem_toList.mp hcell)

def cancel (flags : Flags) (handle : Nat) : Flags where
  cells := (flags.cell? handle).elim flags.cells fun cell => flags.cells.set cell true
  handles := flags.handles
  inside := by
    intro cell hcell
    cases flags.cell? handle with
    | none =>
        exact flags.inside cell hcell
    | some other =>
        exact Nat.lt_of_lt_of_eq (flags.inside cell hcell) List.length_set.symm

@[simp]
theorem isSet_create (flags : Flags) (cell : Nat) : flags.create.isSet cell = flags.isSet cell := by
  simp only [isSet, create, List.getD_eq_getElem?_getD]
  rcases Nat.lt_trichotomy cell flags.cells.length with h | rfl | h
  · rw [List.getElem?_append_left h]
  · simp
  · rw [List.getElem?_eq_none (by simp; omega), List.getElem?_eq_none (Nat.le_of_lt h)]

@[simp]
theorem isSet_clone (flags : Flags) (handle cell : Nat) :
    (flags.clone handle).isSet cell = flags.isSet cell := rfl

/-- A cancellation is seen through every clone, and through nothing else. -/
theorem isSet_cancel (flags : Flags) (handle cell : Nat) :
    (flags.cancel handle).isSet cell = true ↔
      flags.isSet cell = true ∨ flags.cell? handle = some cell := by
  simp only [isSet, cancel, List.getD_eq_getElem?_getD]
  cases hcell : flags.cell? handle with
  | none =>
      simp
  | some other =>
      have hlt : other < flags.cells.length := cell_lt hcell
      by_cases h : other = cell
      · subst h
        simp [List.getElem?_set_self hlt]
      · simp [List.getElem?_set_ne h, h]

theorem isSet_cancel_of_ne {flags : Flags} {handle cell : Nat}
    (h : flags.cell? handle ≠ some cell) : (flags.cancel handle).isSet cell = flags.isSet cell := by
  rw [Bool.eq_iff_iff, isSet_cancel, or_iff_left h]

theorem length_cancel (flags : Flags) (handle : Nat) :
    (flags.cancel handle).cells.length = flags.cells.length := by
  simp only [cancel]
  cases flags.cell? handle with
  | none =>
      rfl
  | some cell =>
      exact List.length_set

end Flags

/-! ## Tasks -/

structure Task where
  engine : Engine
  request : Request
  cell : Nat
  stage : Stage := .received

/-- The next piece of work, with the flag as it is at this moment. -/
def Task.proceed (task : Task) (flags : Flags) : Task :=
  { task with stage := task.engine.advance task.request (flags.isSet task.cell) task.stage }

/-! ## Events -/

inductive Event
  | cloneEngine (engine : Nat)
  | createFlag
  | cloneFlag (flag : Nat)
  | cancel (flag : Nat)
  | submit (id : Nat) (request : Request) (engine flag : Nat)
  | proceed (id : Nat)
  deriving DecidableEq

structure System where
  engines : List Engine
  flags : Flags := {}
  tasks : Nat → Option Task := fun _ => none

namespace System

def setTask (system : System) (id : Nat) (task? : Option Task) : System :=
  { system with tasks := fun other => if other = id then task? else system.tasks other }

def step (system : System) : Event → System
  | .cloneEngine engine =>
      { system with engines := system.engines ++ system.engines[engine]?.toList }
  | .createFlag => { system with flags := system.flags.create }
  | .cloneFlag flag => { system with flags := system.flags.clone flag }
  | .cancel flag => { system with flags := system.flags.cancel flag }
  | .submit id request engine flag =>
      match system.tasks id, system.engines[engine]?, system.flags.cell? flag with
      | none, some engine, some cell => system.setTask id (some { engine, request, cell })
      | _, _, _ => system
  | .proceed id => system.setTask id ((system.tasks id).map (·.proceed system.flags))

/-- What becomes of one engine and its clones. -/
def run (engine : Engine) (events : List Event) : System :=
  events.foldl step { engines := [engine] }

theorem run_append (engine : Engine) (before after : List Event) :
    run engine (before ++ after) = after.foldl step (run engine before) := by
  simp [run]

theorem run_concat (engine : Engine) (events : List Event) (event : Event) :
    run engine (events ++ [event]) = (run engine events).step event :=
  run_append engine events [event]

theorem tasks_setTask_self (system : System) (id : Nat) (task? : Option Task) :
    (system.setTask id task?).tasks id = task? := if_pos rfl

theorem tasks_setTask_of_ne (system : System) {id other : Nat} (task? : Option Task)
    (h : other ≠ id) : (system.setTask id task?).tasks other = system.tasks other := if_neg h

/-! ## What a step can do -/

variable {system : System} {event : Event} {id : Nat} {task : Task}

/-- A request stays as it is, is worked on, or is submitted. -/
theorem task_step (h : (system.step event).tasks id = some task) :
    (event ≠ .proceed id ∧ system.tasks id = some task) ∨
    (event = .proceed id ∧ ∃ earlier, system.tasks id = some earlier ∧
      task = earlier.proceed system.flags) ∨
    (system.tasks id = none ∧ ∃ handle flag,
      event = .submit id task.request handle flag ∧
      system.engines[handle]? = some task.engine ∧
      system.flags.cell? flag = some task.cell ∧ task.stage = .received) := by
  cases event with
  | proceed other =>
      by_cases hid : id = other
      · subst hid
        rw [step, tasks_setTask_self, Option.map_eq_some_iff] at h
        rcases h with ⟨earlier, hearlier, rfl⟩
        exact .inr (.inl ⟨rfl, earlier, hearlier, rfl⟩)
      · rw [step, tasks_setTask_of_ne _ _ hid] at h
        exact .inl ⟨fun hevent => hid (Event.proceed.inj hevent).symm, h⟩
  | submit other request handle flag =>
      rw [step] at h
      split at h
      · rename_i engine cell hnone hengine hcell
        by_cases hid : id = other
        · subst hid
          rw [tasks_setTask_self] at h
          cases h
          exact .inr (.inr ⟨hnone, handle, flag, rfl, hengine, hcell, rfl⟩)
        · rw [tasks_setTask_of_ne _ _ hid] at h
          exact .inl ⟨nofun, h⟩
      · exact .inl ⟨nofun, h⟩
  | _ =>
      exact .inl ⟨nofun, h⟩

theorem tasks_step_proceed (h : system.tasks id = some task) :
    (system.step (.proceed id)).tasks id = some (task.proceed system.flags) := by
  rw [step, tasks_setTask_self, h, Option.map_some]

theorem tasks_step_of_ne (h : system.tasks id = some task) (hevent : event ≠ .proceed id) :
    (system.step event).tasks id = some task := by
  cases event with
  | proceed other =>
      have hid : id ≠ other := fun hid => hevent (congrArg Event.proceed hid.symm)
      exact (tasks_setTask_of_ne _ _ hid).trans h
  | submit other request handle flag =>
      rw [step]
      split
      · rename_i hnone _ _
        have hid : id ≠ other := by
          rintro rfl
          rw [hnone] at h
          cases h
        exact (tasks_setTask_of_ne _ _ hid).trans h
      · exact h
  | _ =>
      exact h

/-- A flag is set by a cancellation through one of its handles, and never unset. -/
theorem isSet_step (system : System) (event : Event) (cell : Nat) :
    (system.step event).flags.isSet cell = true ↔
      system.flags.isSet cell = true ∨
        ∃ handle, event = .cancel handle ∧ system.flags.cell? handle = some cell := by
  cases event with
  | createFlag =>
      simp [step]
  | cloneFlag flag =>
      simp [step]
  | cancel flag =>
      simp [step, Flags.isSet_cancel]
  | submit id request handle flag =>
      rw [step]
      split <;> simp [setTask]
  | _ =>
      simp [step, setTask]

theorem mem_engines_step {engine : Engine} (h : engine ∈ (system.step event).engines) :
    engine ∈ system.engines := by
  cases event with
  | cloneEngine handle =>
      rcases List.mem_append.mp h with h | h
      · exact h
      · exact List.mem_of_getElem? (Option.mem_toList.mp h)
  | submit id request handle flag =>
      rw [step] at h
      split at h <;> exact h
  | _ =>
      exact h

end System
end MarkupAssist
