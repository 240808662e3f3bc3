import MarkupAssist.Json.Printer
import MarkupAssist.Json.Record

/-!
# Suggestions

Something that may be inserted at a position, and what is shown of it. Inserted text may
hold numbered placeholders.

- `Suggestion.ofLabel` : a suggestion that inserts its own label
- `Suggestion.toJson`  : a suggestion as an object
- `Suggestion.entry`   : how one is read back
-/

namespace MarkupAssist

inductive SuggestionKind
  | snippet
  | property
  | method
  | value
  deriving DecidableEq, Repr

namespace SuggestionKind

def all : List SuggestionKind :=
  [snippet, property, method, value]

/-- The name of the kind in JSON. -/
def name : SuggestionKind → String
  | snippet => "snippet"
  | property => "property"
  | method => "method"
  | value => "value"

/-- The name of the kind in a list for people. -/
def title : SuggestionKind → String
  | snippet => "Snippet"
  | property => "Property"
  | method => "Method"
  | value => "Value"

end SuggestionKind

structure Suggestion where
  label : String
  insertText : String
  kind : SuggestionKind
  detail : Option String := none
  documentation : Option String := none
  deriving DecidableEq, Repr

namespace Suggestion

def ofLabel (label : String) (kind : SuggestionKind) : Suggestion :=
  { label, insertText := label, kind }

def withInsertText (text : String) (suggestion : Suggestion) : Suggestion :=
  { suggestion with insertText := text }

def withDetail (text : String) (suggestion : Suggestion) : Suggestion :=
  { suggestion with detail := some text }

/-- An empty text documents nothing. -/
def withDocumentation (text : String) (suggestion : Suggestion) : Suggestion :=
  { suggestion with documentation := if text.isEmpty then none else some text }

/-! ## JSON -/

def optionalMember (key : String) : Option String → List (String × Json)
  | some text => [(key, .text text)]
  | none => []

/-- What is not there is left out. -/
def toJson (suggestion : Suggestion) : Json :=
  .object ([
    ("label", .text suggestion.label),
    ("insert_text", .text suggestion.insertText),
    ("kind", .text suggestion.kind.name)] ++
    optionalMember "detail" suggestion.detail ++
    optionalMember "documentation" suggestion.documentation)

open Data (Notation Record Slot)

def optionalSlot (name : String) (put : Option String → Suggestion → Suggestion) :
    Slot Json.Reader Suggestion where
  name
  need := .inLists
  read := put <$> Notation.optional (Notation.text "a string")

def entry : Record Json.Reader Suggestion where
  title := "struct Suggestion"
  blank := .ofLabel "" .snippet
  slots := [
    (Slot.text "label" fun text s => { s with label := text }).needed .always,
    (Slot.text "insert_text" fun text s => { s with insertText := text }).needed .always,
    { name := "kind"
      need := .always
      read := (fun kind s => { s with kind }) <$>
        Json.Reader.choice (SuggestionKind.all.map fun kind => (kind.name, kind)) },
    optionalSlot "detail" fun detail s => { s with detail },
    optionalSlot "documentation" fun documentation s => { s with documentation }]

def ofText (text : String) : Except Json.Fault Suggestion :=
  Json.Reader.readRecord entry text

end Suggestion
end MarkupAssist
