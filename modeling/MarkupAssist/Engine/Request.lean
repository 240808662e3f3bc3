import MarkupAssist.Suggestion.Selection

/-!
# Requests and sessions

An engine answers requests out of one catalogue. A request may be cancelled at any time;
its flag is looked at before the context is determined and once more after that, and a
request found cancelled is answered by no suggestions.

- `Engine`, `Request` : what is asked of whom
- `Stage`, `advance`  : how far a request has come, and what is done next
- `Engine.complete`   : a whole request while its flag does not change
- `Session`           : an engine, the document at hand and the flag of its requests
-/

namespace MarkupAssist

structure Engine where
  catalogue : Catalogue
  settings : CompletionSettings := {}

structure Request where
  document : Document
  position : Position
  language : String
  deriving DecidableEq

/-! ## Stages -/

inductive Stage
  | received
  | admitted
  | classified (context : Markup.Context)
  | confirmed (context : Markup.Context)
  | answered (suggestions : List Suggestion)
  deriving DecidableEq

namespace Engine

def classify (engine : Engine) (document : Document) (position : Position) : Markup.Context :=
  Markup.classify document position engine.settings

/-- The suggestions for a request whose context is known. -/
def suggest (engine : Engine) (request : Request) (context : Markup.Context) : List Suggestion :=
  Suggestion.forContext engine.catalogue context (request.document.typedWord request.position)
    request.language engine.settings

def advance (engine : Engine) (request : Request) (cancelled : Bool) : Stage → Stage
  | .received => if cancelled then .answered [] else .admitted
  | .admitted => .classified (engine.classify request.document request.position)
  | .classified context => if cancelled then .answered [] else .confirmed context
  | .confirmed context => .answered (engine.suggest request context)
  | .answered suggestions => .answered suggestions

/-- The stage after four steps, which are enough for an answer. -/
def finalStage (engine : Engine) (request : Request) (cancelled : Bool) : Stage :=
  Nat.repeat (engine.advance request cancelled) 4 .received

def complete (engine : Engine) (request : Request) (cancelled : Bool) : List Suggestion :=
  match engine.finalStage request cancelled with
  | .answered suggestions => suggestions
  | _ => []

theorem complete_of_cancelled (engine : Engine) (request : Request) :
    engine.complete request true = [] := rfl

theorem complete_eq_suggest (engine : Engine) (request : Request) :
    engine.complete request false =
      engine.suggest request (engine.classify request.document request.position) := rfl

end Engine

/-! ## Sessions -/

structure Session where
  engine : Engine
  document : Document := .ofText ""
  cancelled : Bool := false

namespace Session

def openText (session : Session) (text : String) : Session :=
  { session with document := .ofText text }

def adjust (session : Session) (settings : CompletionSettings) : Session :=
  { session with engine := { session.engine with settings } }

def cancel (session : Session) : Session :=
  { session with cancelled := true }

/-- Later requests have a flag of their own. -/
def renewFlag (session : Session) : Session :=
  { session with cancelled := false }

def classify (session : Session) (position : Position) : Markup.Context :=
  session.engine.classify session.document position

def complete (session : Session) (position : Position) (language : String) : List Suggestion :=
  session.engine.complete ⟨session.document, position, language⟩ session.cancelled

end Session
end MarkupAssist
