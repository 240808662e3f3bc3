import MarkupAssist.Proofs.Json.Records
import MarkupAssist.Suggestion.Basic

/-!
# Suggestions are read back

A list of suggestions that has been written is read item by item, with every character of
every text. What a suggestion does not have is not written, and comes back as not there.
-/

namespace MarkupAssist
namespace Suggestion

open Data (Draft Slot)
open Json (Reader)
open Json.Reader (Fills Reads)

/-- A text that is one list of suggestions. -/
def listOfText (text : String) : Except Json.Fault (List Suggestion) :=
  Reader.readAll (Reader.listValue (Reader.recordValue entry)) text

/-! ## Members -/

/-- What every suggestion has. -/
def ownMembers (suggestion : Suggestion) : List (String × Json) := [
  ("label", .text suggestion.label),
  ("insert_text", .text suggestion.insertText),
  ("kind", .text suggestion.kind.name)]

def members (suggestion : Suggestion) : List (String × Json) :=
  suggestion.ownMembers ++
    (optionalMember "detail" suggestion.detail ++
      optionalMember "documentation" suggestion.documentation)

theorem toJson_eq_object (suggestion : Suggestion) :
    suggestion.toJson = .object suggestion.members := by
  rw [members, ← List.append_assoc]
  rfl

theorem lookup_name (kind : SuggestionKind) :
    (SuggestionKind.all.map fun kind => (kind.name, kind)).lookup kind.name = some kind := by
  cases kind <;> rfl

theorem reads_optionalSlot (name : String) (put : Option String → Suggestion → Suggestion)
    (text : String) : Reads (optionalSlot name put).read (.text text) (put (some text)) :=
  (Reader.reads_optionalValue "a string" text).map put

theorem fills_ownMembers (suggestion : Suggestion) :
    Fills entry entry.start suggestion.ownMembers
      ⟨{ suggestion with detail := none, documentation := none },
        ["kind", "insert_text", "label"]⟩ := by
  have hlabel := Reader.reads_slotText "label"
    (fun text (s : Suggestion) => { s with label := text }) suggestion.label
  have hinsert := Reader.reads_slotText "insert_text"
    (fun text (s : Suggestion) => { s with insertText := text }) suggestion.insertText
  have hkind := (Reader.reads_choice (lookup_name suggestion.kind)).map
    fun kind (s : Suggestion) => { s with kind }
  exact .cons rfl rfl hlabel (.cons rfl rfl hinsert (.cons rfl rfl hkind (.nil _)))

theorem fills_members (suggestion : Suggestion) :
    ∃ final, Fills entry entry.start suggestion.members final ∧
      entry.finish final = .ok suggestion := by
  have hown := fills_ownMembers suggestion
  obtain ⟨label, insertText, kind, detail, documentation⟩ := suggestion
  cases detail with
  | none =>
      cases documentation with
      | none =>
          exact ⟨_, hown.append (.nil _), rfl⟩
      | some text =>
          exact ⟨_, hown.append (.cons rfl rfl (reads_optionalSlot _ _ text) (.nil _)), rfl⟩
  | some shown =>
      have hdetail := reads_optionalSlot "detail"
        (fun detail (s : Suggestion) => { s with detail }) shown
      cases documentation with
      | none =>
          exact ⟨_, hown.append (.cons rfl rfl hdetail (.nil _)), rfl⟩
      | some text =>
          exact ⟨_, hown.append (.cons rfl rfl hdetail
            (.cons rfl rfl (reads_optionalSlot _ _ text) (.nil _))), rfl⟩

/-! ## Suggestions -/

theorem reads_toJson (suggestion : Suggestion) :
    Reads (Reader.recordValue entry) (.object suggestion.members) suggestion := by
  obtain ⟨final, hfills, hfinish⟩ := fills_members suggestion
  exact Reader.reads_recordValue hfills hfinish

/-- Suggestions written over several lines come back one by one, the line feed after them
notwithstanding. -/
theorem listOfText_indented (suggestions : List Suggestion) :
    listOfText ((Json.list (suggestions.map toJson)).indented ++ "\n") = .ok suggestions := by
  have hitems : suggestions.map toJson = suggestions.map fun s => Json.object s.members := by
    simp [toJson_eq_object]
  have hbreak : ∀ b ∈ ['\n'], Json.isBlank b = true := List.forall_mem_singleton.2 rfl
  have htext : (Json.list (suggestions.map toJson)).indented ++ "\n" =
      String.ofList ((Json.list (suggestions.map toJson)).chars (.indented 0) ++ ['\n']) := by
    rw [String.ofList_append]
    rfl
  rw [listOfText, htext, hitems]
  exact (Reader.reads_listValue reads_toJson suggestions).readAll (.indented 0) hbreak

end Suggestion
end MarkupAssist
