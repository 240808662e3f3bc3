import MarkupAssist.Files.Tree
import MarkupAssist.Proofs.CommandLine.Outcome
import MarkupAssist.Proofs.Json.Records

/-!
# Identifiers are read back

Every keyword comes back from the identifier of its page, whatever characters it holds, and
an identifier is always a single line.
-/

namespace MarkupAssist
namespace Preview
namespace Query

open Json (Reader)

/-! ## The query -/

theorem reads_entry (query : Query) :
    Reader.Reads (Reader.recordValue entry) query.toJson query := by
  have hslot : (entry : Data.Record Reader Query).slot? "keyword" =
      some ((Data.Slot.text "keyword" fun text _ => ⟨text⟩).needed .always) := by
    rfl
  have hvalue := Reader.reads_slotText "keyword" (fun text _ => (⟨text⟩ : Query)) query.keyword
  exact Reader.reads_recordValue (.cons hslot rfl hvalue (.nil _)) rfl

theorem ofText_compact (query : Query) : ofText query.toJson.compact = .ok query := by
  have hread := (reads_entry query).readAll .compact (List.forall_mem_nil _)
  rwa [List.append_nil] at hread

/-! ## The identifier -/

theorem toList_identifier (query : Query) :
    query.identifier.toList = scheme ++ ("search?".toList ++ query.toJson.chars .compact) := by
  simp [identifier, Json.compact]

/-- Whatever question marks it holds, the query begins after the first one of the URI. -/
theorem queryPart?_search (written : List Char) :
    queryPart? (scheme ++ ("search?".toList ++ written)) = some written := by
  have hscheme : scheme.isPrefixOf (scheme ++ ("search?".toList ++ written)) = true :=
    List.isPrefixOf_iff_prefix.2 (List.prefix_append _ _)
  have hsearch : ("search?".toList ++ written).dropWhile (· ≠ '?') = '?' :: written := by
    have hword : "search?".toList = "search".toList ++ ['?'] := by decide
    have hbefore : ∀ c ∈ "search".toList, decide (c ≠ '?') = true := List.all_eq_true.1 (by decide)
    rw [hword, List.append_assoc, List.dropWhile_append_of_pos hbefore]
    rfl
  rw [queryPart?, if_pos hscheme, List.drop_left, hsearch]

theorem ofIdentifier_identifier (query : Query) :
    ofIdentifier query.identifier = .ok query := by
  have htext : ofText (String.ofList (query.toJson.chars .compact)) = .ok query :=
    ofText_compact query
  rw [ofIdentifier, toList_identifier, queryPart?_search]
  simp only [htext]
  rfl

theorem le_toNat_of_mem_identifier {query : Query} {c : Char}
    (h : c ∈ query.identifier.toList) : 0x20 ≤ c.toNat := by
  have hfixed : ∀ d ∈ scheme ++ "search?".toList, 0x20 ≤ d.toNat := by
    intro d hd
    have hall : (scheme ++ "search?".toList).all fun d => decide (0x20 ≤ d.toNat) := by decide
    exact of_decide_eq_true (List.all_eq_true.1 hall d hd)
  have hwritten : query.toJson.chars .compact =
      '\x7b' :: (Json.textChars "keyword" ++ ':' :: (Json.textChars query.keyword ++ ['\x7d'])) := by
    simp [toJson, Json.chars, Json.memberChars, Json.Layout.deeper, Json.Layout.newline,
      Json.Layout.afterColon]
  rw [toList_identifier, hwritten, ← List.append_assoc, List.mem_append] at h
  simp only [List.mem_cons, List.mem_append, List.not_mem_nil, or_false] at h
  rcases h with h | rfl | h | rfl | h | rfl
  · exact hfixed c (List.mem_append.2 h)
  · decide
  · exact Json.le_toNat_of_mem_textChars h
  · decide
  · exact Json.le_toNat_of_mem_textChars h
  · decide

end Query

/-! ## The command that prints it -/

open CommandLine (Invocation Surroundings)

/-- The identifier of a page leads back to the page, no control character is in it, and so the
line that a command prints is a single one. -/
theorem identifier_read_back (keyword : String) :
    Query.ofIdentifier (Query.identifier ⟨keyword⟩) = .ok ⟨keyword⟩ ∧
    (∀ c ∈ (Query.identifier ⟨keyword⟩).toList, 0x20 ≤ c.toNat) ∧
    ∀ (around : Surroundings Id) (arguments : List String) (file : Option String) (verbose : Bool)
      (settings : Settings),
      Invocation.ofArguments arguments = .ok ⟨file, verbose, .identify keyword⟩ →
      (CommandLine.loadSettings around file).run = Except.ok settings →
      ∃ line : String, CommandLine.run around arguments = ⟨0, line ++ "\n", none⟩ ∧
        (∀ c ∈ line.toList, 0x20 ≤ c.toNat) ∧
        Query.ofIdentifier line = .ok (CommandLine.query settings keyword) := by
  refine ⟨Query.ofIdentifier_identifier _, fun c => Query.le_toNat_of_mem_identifier, ?_⟩
  intro around arguments file verbose settings harguments hsettings
  exact ⟨_, CommandLine.run_identify harguments hsettings, fun c => Query.le_toNat_of_mem_identifier,
    Query.ofIdentifier_identifier _⟩

theorem identifier_of_two_lines_read_back :
    ∃ line : String,
      CommandLine.run ⟨Files.FileTree.access .empty, .ok ""⟩ ["uri", "el-a?\"\n\\b"] =
        ⟨0, line ++ "\n", none⟩ ∧
      (∀ c ∈ line.toList, 0x20 ≤ c.toNat) ∧
      Query.ofIdentifier line = .ok ⟨"a?\"\n\\b"⟩ := by
  have harguments : Invocation.ofArguments ["uri", "el-a?\"\n\\b"] =
      .ok ⟨none, false, .identify "el-a?\"\n\\b"⟩ := by
    rfl
  have hsettings :
      (CommandLine.loadSettings (m := Id) ⟨Files.FileTree.access .empty, .ok ""⟩ none).run =
        Except.ok {} := by
    rfl
  exact (identifier_read_back _).2.2 _ _ _ _ _ harguments hsettings

end Preview
end MarkupAssist
