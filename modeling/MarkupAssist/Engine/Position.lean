import MarkupAssist.Document
import MarkupAssist.Json.Record

/-!
# Positions in writing

How a request names its position.
-/

namespace MarkupAssist
namespace Position

open Data (Notation Record Slot)

def entry {ρ : Type → Type} [Notation ρ] : Record ρ Position where
  title := "struct Position"
  blank := ⟨0, 0⟩
  slots := [
    (Slot.natural "line" fun n position => { position with line := n }).needed .always,
    (Slot.natural "character" fun n position => { position with character := n }).needed .always]

def ofText (text : String) : Except Json.Fault Position :=
  Json.Reader.readRecord entry text

end Position
end MarkupAssist
