import MarkupAssist.Document
import MarkupAssist.Markup.Line

/-!
# The attribute whose value is being typed

Read off the text before the cursor alone: `type="pri` is at work on the value of `type`.

- `attributeName?`    : the name in an attribute's spelling, bindings and modifiers removed
- `parseProbe?`       : a spelling, `=`, and a quote that is still open
- `valuedAttribute?`  : the attribute at a position
-/

namespace MarkupAssist
namespace Markup

/-- The spellings that bind an expression or an event; the first that fits is removed. -/
def bindingMarks : List (List Char) :=
  ["v-bind:".toList, "v-on:".toList, [':'], ['@']]

def withoutBinding (spelling : List Char) : List Char :=
  match bindingMarks.find? fun mark => mark.isPrefixOf spelling with
  | some mark => spelling.drop mark.length
  | none => spelling

/-- `:visible.sync` and `@click.native` name `visible` and `click`. -/
def attributeName? (spelling : List Char) : Option String :=
  let name := (withoutBinding (Text.trim spelling)).takeWhile (· ≠ '.')
  if !name.isEmpty && name.all isNameChar then some (String.ofList name) else none

/-- The value has begun and its quote has not come again. -/
def opensValue : List Char → Bool
  | quote :: value => isQuote quote && !value.contains quote
  | [] => false

def parseProbe? (probe : List Char) : Option String :=
  match probe.dropWhile (· ≠ '=') with
  | [] => none
  | _ :: value =>
      if opensValue (Text.trimStart value) then attributeName? (probe.takeWhile (· ≠ '='))
      else none

/-- What stands before the last quote; all of it when there is none. -/
def beforeLastQuote (before : List Char) : List Char :=
  match before.reverse.dropWhile (!isQuote ·) with
  | [] => before
  | _ :: earlier => earlier.reverse

/-- The probe starts after the last white space that is not part of an open value. -/
def probe (before : List Char) : List Char :=
  let outer := beforeLastQuote before
  before.drop (outer.length - (Text.lastWord outer).length)

def valuedAttribute? (document : Document) (position : Position) : Option String :=
  parseProbe? (probe (document.textBefore position))

end Markup
end MarkupAssist
