import MarkupAssist.Json.Printer
import MarkupAssist.Json.Record

/-!
# Identifiers of documentation pages

A page is about a keyword. Its identifier is a URI whose query is a JSON object.

- `Query.forTag`     : the page about a tag
- `Query.identifier` : the URI of a page
- `Query.ofIdentifier` : the page of a URI
-/

namespace MarkupAssist
namespace Preview

structure Query where
  keyword : String
  deriving DecidableEq, Repr

inductive QueryFault
  /-- No identifier of a documentation page at all. -/
  | foreign (uri : String)
  | unreadable (fault : Json.Fault)
  deriving DecidableEq, Repr

def QueryFault.message : QueryFault → String
  | .foreign uri => "not a element-helper documentation uri: " ++ uri
  | .unreadable fault => "invalid documentation query: " ++ fault.message

namespace Query

/-- A tag is documented under its name without the part that all of them share. -/
def forTag (tag shared : String) : Query :=
  if shared.toList.isPrefixOf tag.toList then
    ⟨String.ofList (tag.toList.drop shared.toList.length)⟩
  else ⟨tag⟩

/-! ## JSON -/

open Data (Notation Record Slot)

def toJson (query : Query) : Json :=
  .object [("keyword", .text query.keyword)]

def entry {ρ : Type → Type} [Notation ρ] : Record ρ Query where
  title := "struct PreviewQuery"
  blank := ⟨""⟩
  slots := [(Slot.text "keyword" fun text _ => ⟨text⟩).needed .always]

def ofText (text : String) : Except Json.Fault Query :=
  Json.Reader.readRecord entry text

/-! ## URIs -/

/-- What every identifier begins with; anything may stand between it and the query. -/
def scheme : List Char := "element-helper://".toList

def identifier (query : Query) : String :=
  String.ofList scheme ++ "search?" ++ query.toJson.compact

/-- The part of a URI after its first question mark. -/
def queryPart? (uri : List Char) : Option (List Char) :=
  if scheme.isPrefixOf uri then
    match (uri.drop scheme.length).dropWhile (· ≠ '?') with
    | _ :: query => some query
    | [] => none
  else none

def ofIdentifier (uri : String) : Except QueryFault Query :=
  match queryPart? uri.toList with
  | some query => (ofText (String.ofList query)).mapError .unreadable
  | none => .error (.foreign uri)

end Query
end Preview
end MarkupAssist
