import MarkupAssist.Catalogue.Skeleton
import MarkupAssist.Markup.Context
import MarkupAssist.Suggestion.Basic
import MarkupAssist.Text.Lowercase

/-!
# What is suggested

The suggestions for each of the contexts, out of the catalogue and in its order.

- `forTags`       : tags, with skeletons
- `forAttributes` : attribute names, by the word that is being typed
- `forValues`     : attribute values
- `forContext`    : whichever of them the context calls for
-/

namespace MarkupAssist
namespace Suggestion

open Catalogue (Attribute AttributeKind Tag)

/-! ## Tags -/

def ofTag (catalogue : Catalogue) (settings : CompletionSettings) (tag : Tag) : Suggestion :=
  (ofLabel tag.name .snippet).withInsertText (catalogue.skeleton tag settings.maxSnippetDepth)
    |>.withDetail settings.libraryLabel
    |>.withDocumentation tag.description

def forTags (catalogue : Catalogue) (settings : CompletionSettings) : List Suggestion :=
  catalogue.tags.entries.map (ofTag catalogue settings)

/-! ## Attribute names -/

/-- What the typed word asks for: events or everything else, and how the names begin. -/
structure Wanted where
  events : Bool
  start : Option Char
  deriving DecidableEq, Repr

/-- A word that begins with `@` asks for events; a `:` before a name says nothing. -/
def Wanted.ofTyped (typed : List Char) : Wanted :=
  match typed with
  | '@' :: name => ⟨true, name.head?⟩
  | ':' :: name => ⟨false, name.head?⟩
  | name => ⟨false, name.head?⟩

/-- A name is only begun with an ASCII letter. -/
def Wanted.possible (wanted : Wanted) : Bool :=
  wanted.start.all Char.isAlpha

def Wanted.beginsLike (wanted : Wanted) (name : String) : Bool :=
  match wanted.start, name.toList.head? with
  | none, _ => true
  | some a, some b => Text.lowercase b == Text.lowercase a
  | some _, none => false

def Wanted.accepts (wanted : Wanted) (name : String) (entry : Attribute) : Bool :=
  (entry.kind == .method) == wanted.events && wanted.beginsLike name

/-- `detail` says where the attribute comes from. -/
def ofAttribute (detail : String) (name : String) (entry : Attribute) : Suggestion :=
  let valued := name ++ "=\"$1\"$0"
  let (kind, text) : SuggestionKind × String := match entry.kind with
    | .flag => (.property, name ++ " ")
    | .method => (.method, valued)
    | _ => (.property, valued)
  (ofLabel name kind).withInsertText text |>.withDetail detail
    |>.withDocumentation entry.description

/-- The attributes the tag declares and the catalogue knows. -/
def declaredAttributes (catalogue : Catalogue) (tag : String) : List (String × Attribute) :=
  (catalogue.tagAttributes tag).filterMap fun name =>
    (catalogue.attribute? (some tag) name).map (name, ·)

/-- The attributes of every tag that this one does not declare. -/
def globalAttributes (catalogue : Catalogue) (tag : String) : List (String × Attribute) :=
  (catalogue.attributes.entries.map Prod.fst).filterMap fun name =>
    if name.toList.contains '/' || (catalogue.tagAttributes tag).contains name then none
    else (catalogue.attribute? (some tag) name).bind fun entry =>
      if entry.isGlobal then some (name, entry) else none

def accepted (wanted : Wanted) (detail : String) (entries : List (String × Attribute)) :
    List Suggestion :=
  (entries.filter fun (name, entry) => wanted.accepts name entry).map
    fun (name, entry) => ofAttribute detail name entry

def forAttributes (catalogue : Catalogue) (tag : String) (typed : List Char)
    (settings : CompletionSettings) : List Suggestion :=
  let wanted := Wanted.ofTyped typed
  if wanted.possible then
    accepted wanted ("<" ++ tag ++ ">") (declaredAttributes catalogue tag) ++
      accepted wanted settings.libraryLabel (globalAttributes catalogue tag)
  else []

/-! ## Attribute values -/

/-- The icon's name without the part that all of them share. -/
def shortName (iconPrefix icon : String) : String :=
  if iconPrefix.toList.isPrefixOf icon.toList then
    String.ofList (icon.toList.drop iconPrefix.toList.length)
  else icon

/-- Options that are listed come before those of the kind. -/
def valuesOf (catalogue : Catalogue) (settings : CompletionSettings) (entry : Attribute) :
    List String :=
  match entry.options, entry.kind with
  | some options, _ => options
  | none, .boolean => ["true", "false"]
  | none, .icon => catalogue.icons
  | none, .shortcutIcon => catalogue.icons.map (shortName settings.iconPrefix)
  | none, _ => []

def forValues (catalogue : Catalogue) (tag name : String) (settings : CompletionSettings) :
    List Suggestion :=
  match catalogue.attribute? (some tag) name with
  | some entry => (valuesOf catalogue settings entry).map (ofLabel · .value)
  | none => []

/-! ## Contexts -/

/-- Tags are only suggested in languages that have markup. -/
def forContext (catalogue : Catalogue) (context : Markup.Context) (typed : List Char)
    (language : String) (settings : CompletionSettings) : List Suggestion :=
  match context with
  | .nothing => []
  | .tagName => if settings.isMarkupLanguage language then forTags catalogue settings else []
  | .attributeName tag _ => forAttributes catalogue tag typed settings
  | .attributeValue tag name => forValues catalogue tag name settings

end Suggestion
end MarkupAssist
