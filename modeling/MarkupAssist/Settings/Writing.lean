import MarkupAssist.Settings
import MarkupAssist.Text.Space
import MarkupAssist.Yaml.Decode

/-!
# Settings in writing

Settings are written in YAML. Whatever is not written keeps its default.

- `Settings.entry`  : the fields of settings
- `Settings.ofText` : the settings of a text
-/

namespace MarkupAssist

open Data (Notation Record Slot)

variable {ρ : Type → Type} [Notation ρ]

def CompletionSettings.entry : Record ρ CompletionSettings where
  title := "struct CompletionSettings"
  blank := {}
  slots := [
    Slot.natural "lookback_lines" fun n s => { s with lookbackLines := n },
    { name := "script_scan_lines"
      read := (fun n s => { s with scriptScanLines := n }) <$>
        Notation.optional Notation.natural },
    Slot.natural "max_snippet_depth" fun n s => { s with maxSnippetDepth := n },
    Slot.text "library_label" fun text s => { s with libraryLabel := text },
    Slot.text "icon_prefix" fun text s => { s with iconPrefix := text },
    Slot.texts "markup_languages" fun texts s => { s with markupLanguages := texts }]

def PreviewSettings.entry : Record ρ PreviewSettings where
  title := "struct PreviewConfig"
  blank := {}
  slots := [
    Slot.text "language" fun text s => { s with language := text },
    Slot.text "version" fun text s => { s with version := text },
    Slot.text "home_url" fun text s => { s with homeUrl := text },
    Slot.path "docs_path" fun path s => { s with docsPath := path },
    Slot.path "resource_path" fun path s => { s with resourcePath := path },
    Slot.text "tag_prefix" fun text s => { s with tagPrefix := text }]

namespace Settings

/-- Where the catalogue is looked for has a record of its own. -/
def searchEntry : Record ρ (List String) where
  title := "struct KnowledgeBaseSettings"
  blank := ({} : Settings).searchPaths
  slots := [
    { name := "search_paths"
      read := (fun paths _ => paths) <$> Notation.list (Notation.text "path string") }]

def entry : Record ρ Settings where
  title := "struct HelperConfig"
  blank := {}
  slots := [
    Slot.text "log_level" fun text s => { s with logLevel := text },
    { name := "knowledge_base"
      read := (fun paths s => { s with searchPaths := paths }) <$> Notation.record searchEntry },
    { name := "completion"
      read := (fun completion s => { s with completion }) <$>
        Notation.record CompletionSettings.entry },
    { name := "preview"
      read := (fun preview s => { s with preview }) <$> Notation.record PreviewSettings.entry }]

/-- A blank text says nothing. -/
def ofText (text : String) : Except Yaml.Fault Settings :=
  if (Text.trim text.toList).isEmpty then .ok {}
  else Yaml.readRecord entry text

end Settings
end MarkupAssist
