import MarkupAssist.Files.Tree

/-!
# What lies below a path

Where something is found below a path the path leads to a directory, and what cannot be found on
reading is not there. A system of files keeps these laws, whatever is in it and wherever in it
somebody works.

- `FileTree.steps_joinPath` : the steps of the path and one more
- `FileAccess.Lawful`       : the laws
- `FileSystem.lawful`       : a system keeps them
-/

namespace MarkupAssist
namespace Files

namespace FileTree

/-! ## Steps of a path -/

theorem splitPath_ne_nil (cs : List Char) : splitPath cs ≠ [] := by
  cases cs with
  | nil =>
      simp [splitPath]
  | cons c rest =>
      by_cases hc : c = '/'
      · simp [splitPath, hc]
      · cases h : splitPath rest <;> simp [splitPath, hc, h]

theorem splitPath_of_no_slash {cs : List Char} (h : '/' ∉ cs) : splitPath cs = [cs] := by
  induction cs with
  | nil =>
      rfl
  | cons c rest ih =>
      have hc : c ≠ '/' := Ne.symm (List.ne_of_not_mem_cons h)
      simp [splitPath, hc, ih (List.not_mem_of_not_mem_cons h)]

theorem splitPath_append (front back : List Char) :
    splitPath (front ++ '/' :: back) = splitPath front ++ splitPath back := by
  induction front with
  | nil =>
      simp [splitPath]
  | cons c rest ih =>
      by_cases hc : c = '/'
      · simp [splitPath, hc, ih]
      · obtain ⟨part, parts, hsplit⟩ := List.exists_cons_of_ne_nil (splitPath_ne_nil rest)
        simp [splitPath, hc, ih, hsplit]

theorem joinPath_of_name {path name : String} (hpath : path ≠ "") (hname : '/' ∉ name.toList) :
    joinPath path name =
      if path.toList.getLast? = some '/' then path ++ name else path ++ "/" ++ name := by
  have hhead : name.toList.head? ≠ some '/' := fun hhead => hname (List.mem_of_head? hhead)
  simp [joinPath, hhead, hpath]

/-- A slash at the end of the path above makes no difference to the steps below it. -/
theorem steps_joinPath {path name : String} (hpath : path ≠ "") (hname : '/' ∉ name.toList) :
    ∃ names, steps (joinPath path name) = names ++ [name] ∧
      (steps path = names ∨ steps path = names ++ [""]) := by
  have hsplit := splitPath_of_no_slash hname
  rw [joinPath_of_name hpath hname]
  split
  · next hlast =>
      obtain ⟨front, hfront⟩ := List.getLast?_eq_some_iff.1 hlast
      refine ⟨(splitPath front).map String.ofList, ?_, .inr ?_⟩
      · rw [steps, String.toList_append, hfront, List.append_assoc, List.cons_append,
          List.nil_append, splitPath_append, hsplit, List.map_append, List.map_singleton,
          String.ofList_toList]
      · rw [steps, hfront, splitPath_append, List.map_append]
        rfl
  · refine ⟨steps path, ?_, .inl rfl⟩
    have hchars : (path ++ "/" ++ name).toList = path.toList ++ '/' :: name.toList := by
      simp
    rw [steps, hchars, splitPath_append, hsplit, List.map_append, List.map_singleton,
      String.ofList_toList]
    rfl

theorem prefix_joinPath {path name : String} (hpath : path ≠ "") (hname : '/' ∉ name.toList) :
    ∃ more, joinPath path name = path ++ more := by
  rw [joinPath_of_name hpath hname]
  split
  · exact ⟨name, rfl⟩
  · exact ⟨"/" ++ name, String.append_assoc⟩

/-! ## Directories -/

/-- The last step ends at what is there, and so the steps before it end at a directory, with a
slash behind them or without. -/
theorem exists_directory_of_follow {above : List FileTree} {here tree : FileTree}
    {names : List String} {name : String}
    (h : follow above here (names ++ [name]) = .ok tree) :
    ∃ entries, follow above here names = .ok (.directory entries) ∧
      follow above here (names ++ [""]) = .ok (.directory entries) := by
  induction names generalizing above here with
  | nil =>
      cases here with
      | file contents =>
          simp [follow] at h
      | directory entries =>
          exact ⟨entries, by simp [follow], by simp [follow]⟩
  | cons first rest ih =>
      cases here with
      | file contents =>
          simp [follow] at h
      | directory entries =>
          simp only [List.cons_append, follow] at h ⊢
          split at h
          · next hstay =>
              simpa [hstay] using ih h
          · next hstay =>
              split at h
              · next hup =>
                  simpa [hstay, hup] using ih h
              · next hup =>
                  split at h
                  · simp at h
                  · next hlong =>
                      split at h
                      · next below hbelow =>
                          simpa [hstay, hup, hlong, hbelow] using ih h
                      · simp at h

end FileTree

namespace FileSystem

open FileTree (follow longestPath steps steps_joinPath prefix_joinPath exists_directory_of_follow)

/-- Where the steps of a path begin is told by its first character. -/
theorem resolve_of_cons (system : FileSystem) {path : String} {c : Char} {rest : List Char}
    (h : path.toList = c :: rest) :
    system.resolve path =
      if path.toList.contains '\x00' then .error .nulInPath
      else if longestPath < path.utf8ByteSize then .error .nameTooLong
      else follow [] system.root
        ((if c = '/' then [] else system.workingDirectory) ++ steps path) := by
  unfold resolve
  simp only [h]
  by_cases hc : c = '/'
  · simp [hc]
  · simp [hc]

theorem isDirectory_of_joinPath {system : FileSystem} {path name : String} (hpath : path ≠ "")
    (hname : '/' ∉ name.toList) (h : system.isThere (joinPath path name) = true) :
    system.isDirectory path = true := by
  obtain ⟨c, rest, hcons⟩ := List.exists_cons_of_ne_nil (mt String.toList_eq_nil_iff.1 hpath)
  obtain ⟨more, hmore⟩ := prefix_joinPath hpath hname
  have hjoined : (joinPath path name).toList = c :: (rest ++ more.toList) := by
    rw [hmore, String.toList_append, hcons, List.cons_append]
  obtain ⟨names, hsteps, hpathSteps⟩ := steps_joinPath hpath hname
  rw [isThere, resolve_of_cons system hjoined, hsteps, ← List.append_assoc] at h
  split at h
  · exact absurd h Bool.false_ne_true
  · next hnul =>
      split at h
      · exact absurd h Bool.false_ne_true
      · next hlong =>
          -- what the longer path may hold the shorter one may hold
          have hnul' : ¬ path.toList.contains '\x00' = true := by
            rw [hmore, String.toList_append] at hnul
            simp only [List.contains_iff_mem, List.mem_append, not_or] at hnul ⊢
            exact hnul.1
          have hlong' : ¬ longestPath < path.utf8ByteSize := by
            rw [hmore, String.utf8ByteSize_append] at hlong
            omega
          cases hfollow : follow [] system.root
              ((if c = '/' then [] else system.workingDirectory) ++ names ++ [name]) with
          | error fault =>
              rw [hfollow] at h
              exact absurd h Bool.false_ne_true
          | ok found =>
              obtain ⟨entries, hwithout, hwith⟩ := exists_directory_of_follow hfollow
              rw [isDirectory, resolve_of_cons system hcons, if_neg hnul', if_neg hlong']
              rcases hpathSteps with hpathSteps | hpathSteps
              · rw [hpathSteps, hwithout]
              · rw [hpathSteps, ← List.append_assoc, hwith]

theorem not_isThere_of_notFound {system : FileSystem} {path : String}
    (h : system.readText path = .error .notFound) : system.isThere path = false := by
  rw [readText] at h
  split at h
  · split at h
    · cases h
    · cases h
  · cases h
  · next fault hresolve =>
      rw [isThere, hresolve]
      rfl

end FileSystem

/-! ## Laws -/

/-- What is used of files, whoever answers for them. -/
structure FileAccess.Lawful (files : FileAccess Id) : Prop where
  /-- What lies below a path lies in a directory. -/
  isDirectory_above : ∀ path name, path ≠ "" → '/' ∉ name.toList →
    files.isThere (joinPath path name) = true → files.isDirectory path = true
  /-- Where reading finds nothing there is nothing. -/
  not_isThere : ∀ path, files.readText path = .error .notFound → files.isThere path = false

theorem FileSystem.lawful (system : FileSystem) : system.access.Lawful :=
  ⟨fun _ _ => isDirectory_of_joinPath, fun _ => not_isThere_of_notFound⟩

end Files
end MarkupAssist
