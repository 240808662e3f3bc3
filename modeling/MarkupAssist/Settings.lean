/-!
# Settings

What can be adjusted, with the values that hold where nothing is said.

- `CompletionSettings` : how far lines are looked at, and how suggestions are built
- `PreviewSettings`    : which documentation is shown, and where it lies
- `Settings`           : all of them
-/

namespace MarkupAssist

structure CompletionSettings where
  /-- Lines looked at for the enclosing tag, the cursor's line included. -/
  lookbackLines : Nat := 10
  /-- Lines looked at for a script opener; without a number, all of them. -/
  scriptScanLines : Option Nat := none
  /-- How deep child tags are nested in a skeleton. -/
  maxSnippetDepth : Nat := 8
  /-- Detail of a suggestion that belongs to no single tag. -/
  libraryLabel : String := "element-ui"
  /-- Taken off an icon name where only its short form is wanted. -/
  iconPrefix : String := "el-icon-"
  /-- The languages whose documents get tag suggestions. -/
  markupLanguages : List String := ["vue", "html"]
  deriving DecidableEq, Repr

structure PreviewSettings where
  language : String := "zh-CN"
  version : String := "2.0"
  homeUrl : String := "http://element-cn.eleme.io/"
  /-- A local copy of the documentation site. -/
  docsPath : String := "resources/element"
  /-- The directory of the stylesheet. -/
  resourcePath : String := "resources"
  /-- Taken off a tag name to get the keyword of its component. -/
  tagPrefix : String := "el-"
  deriving DecidableEq, Repr

structure Settings where
  logLevel : String := "info"
  /-- Where the catalogue is looked for, in this order. -/
  searchPaths : List String := ["data", ".element-helper", "node_modules/element-helper-json"]
  completion : CompletionSettings := {}
  preview : PreviewSettings := {}
  deriving DecidableEq, Repr

/-- Language names are compared without regard to the case of ASCII letters. -/
def CompletionSettings.isMarkupLanguage (settings : CompletionSettings) (language : String) : Bool :=
  settings.markupLanguages.any fun known => known.toLower == language.toLower

end MarkupAssist
