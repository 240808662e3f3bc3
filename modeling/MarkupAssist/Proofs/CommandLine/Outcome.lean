import MarkupAssist.CommandLine.Run

/-!
# What a run comes to

Actions one after the other: the first that fails settles the outcome, and the files are
looked at as they are throughout the run.
-/

namespace MarkupAssist
namespace CommandLine

/-! ## Actions in sequence -/

/-- A failure is the outcome, whatever would have come after it. -/
theorem run_bind {ε α β : Type} (x : ExceptT ε Id α) (f : α → ExceptT ε Id β) :
    (x >>= f).run = ((x.run : Except ε α) >>= fun a => (f a).run : Except ε β) := by
  rw [ExceptT.run_bind]
  cases x.run with
  | error failure =>
      rfl
  | ok a =>
      rfl

/-! ## Actions of commands -/

theorem run_positionOf (line column : Nat) :
    (positionOf line column : Action Id Position).run =
      if 1 ≤ line ∧ 1 ≤ column then .ok ⟨line - 1, column - 1⟩ else .error .noSuchPosition := by
  by_cases h : 1 ≤ line ∧ 1 ≤ column
  · have hnot : ¬ (line = 0 || column = 0) = true := by
      simp
      omega
    rw [positionOf, if_neg hnot, if_pos h]
    rfl
  · have hzero : (line = 0 || column = 0) = true := by
      simp
      omega
    rw [positionOf, if_pos hzero, if_neg h]
    rfl

theorem run_orFail {ε α : Type} (wrap : ε → Failure) (action : ExceptT ε Id α) :
    (orFail wrap action).run =
      (Except.mapError wrap (action.run : Except ε α) : Except Failure α) := by
  rw [orFail]
  cases action.run with
  | error fault =>
      rfl
  | ok a =>
      rfl

theorem exists_fault_of_mapError {ε δ α : Type} {wrap : ε → δ} {x : Except ε α} {failure : δ}
    (h : Except.mapError wrap x = .error failure) :
    ∃ fault, x = .error fault ∧ failure = wrap fault := by
  cases x with
  | error fault =>
      exact ⟨fault, rfl, (Except.error.inj h).symm⟩
  | ok a =>
      cases h

section Files

variable (around : Surroundings Id)

theorem run_readSource (file : String) :
    (readSource around file).run =
      if file = "-" then Except.mapError Failure.input around.input
      else Except.mapError (Failure.source file) (around.files.readText file) := by
  rw [readSource]
  split
  · cases around.input with
    | error fault =>
        rfl
    | ok text =>
        rfl
  · cases around.files.readText file with
    | error fault =>
        rfl
    | ok text =>
        rfl

theorem firstPath?_eq_find? (test : String → Bool) (paths : List String) :
    Workspace.firstPath? (m := Id) test paths = paths.find? test := by
  induction paths with
  | nil =>
      rfl
  | cons path rest ih =>
      rw [List.find?_cons, ← ih]
      change (if test path then some path else Workspace.firstPath? (m := Id) test rest) = _
      cases test path with
      | false =>
          rfl
      | true =>
          rfl

/-- The directory of a catalogue: the one that is named, or else the first search path with a
table of tags in it. -/
def directory? (settings : Settings) (catalogue : Option String) : Option String :=
  catalogue.or ((settings.searchPaths.map (Files.joinPath ".")).find? fun path =>
    around.files.isThere (Files.joinPath path Catalogue.TableName.tags.fileName))

theorem run_cataloguePath (settings : Settings) (catalogue : Option String) :
    (cataloguePath around settings catalogue).run =
      match directory? around settings catalogue with
      | some path => .ok path
      | none => .error .noCatalogue := by
  cases catalogue with
  | some path =>
      rfl
  | none =>
      have hfound : Workspace.findCatalogue around.files "." settings.searchPaths =
          directory? around settings none :=
        firstPath?_eq_find? _ _
      rw [cataloguePath, hfound]
      cases directory? around settings none with
      | none =>
          rfl
      | some path =>
          rfl

end Files

/-! ## Commands -/

variable {around : Surroundings Id} {arguments : List String}

theorem run_of_invocation {invocation : Invocation}
    (h : Invocation.ofArguments arguments = .ok invocation) :
    run around arguments = outcomeOf (output around invocation).run := by
  rw [run, h]
  rfl

theorem run_identify {file : Option String} {verbose : Bool} {keyword : String}
    {settings : Settings}
    (harguments : Invocation.ofArguments arguments = .ok ⟨file, verbose, .identify keyword⟩)
    (hsettings : (loadSettings around file).run = Except.ok settings) :
    run around arguments = ⟨0, (query settings keyword).identifier ++ "\n", none⟩ := by
  rw [run_of_invocation harguments, output, run_bind, hsettings]
  rfl

end CommandLine
end MarkupAssist
