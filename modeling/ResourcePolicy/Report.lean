import ResourcePolicy.Evaluator

/-!
# Reports

A report answers the request to evaluate the policy of some source with a row or an error, and
accounts for it by two events: the request, and then its result or its failure.
-/

namespace ResourcePolicy

/-- Where a policy comes from: a name, the policy text and the account of the owner. -/
structure Source where
  policyText : String
  ownerText : String
  name : String := ""
deriving DecidableEq

/-- How important an event is. -/
inductive Level where
  | debug
  | warn
deriving DecidableEq

/-- The name of a level. -/
def Level.name : Level → String
  | debug => "DEBUG"
  | warn => "WARN"

/-- What happened during a request. -/
inductive Event where
  /-- The evaluation of a source was asked for. -/
  | request (source : Source) (mode : Mode)
  /-- The evaluation failed. -/
  | failed (source : Source) (error : PolicyError)
  /-- The evaluation gave a row. -/
  | result (source : Source) (evaluation : Evaluation)
deriving DecidableEq

namespace Event

/-- Only a failure is a warning. -/
def level : Event → Level
  | request .. => .debug
  | failed .. => .warn
  | result .. => .debug

/-- The phase of the request that the event belongs to. -/
def phase : Event → String
  | request .. => "Request"
  | failed .. => "Failed"
  | result .. => "Result"

/-- What the event tells besides its phase. A text that is not JSON leaves its error out. -/
def details : Event → List (String × Option Json)
  | request source mode => [
      ("source", some (.str source.name)),
      ("owner", some (.str source.ownerText)),
      ("mode", some mode.toJson),
      ("policy_bytes", some (.num (.int source.policyText.utf8ByteSize)))]
  | failed source error => [
      ("source", some (.str source.name)),
      ("owner", some (.str source.ownerText)),
      ("error", error.message?.map Json.str)]
  | result source evaluation => [
      ("source", some (.str source.name)),
      ("is_public", some (.bool evaluation.isPublic)),
      ("principals", some (.num (.int evaluation.principals.length))),
      ("public_statements", some (.str (quotedList evaluation.publicStatementIds)))]

/-- The fields of the event as an object. -/
def fields (event : Event) : Json :=
  Json.objectOf
    (("event", some (.str "PolicyEvaluation")) :: ("phase", some (.str event.phase)) ::
      event.details)

/-- The event as an object of its level and its fields. -/
def toJson (event : Event) : Json :=
  Json.object [("level", .str event.level.name), ("fields", event.fields)]

end Event

/-- The answer to a request and the events on the way to it, in order. -/
structure Report where
  row : Except PolicyError Json
  events : List Event

/-- Evaluates the policy of a source and reports on it. -/
def Evaluator.report (evaluator : Evaluator) (source : Source) : Report :=
  let request := Event.request source evaluator.mode
  match evaluator.evaluate source.policyText source.ownerText with
  | .ok evaluation => ⟨.ok evaluation.toJson, [request, .result source evaluation]⟩
  | .error error => ⟨.error error, [request, .failed source error]⟩

end ResourcePolicy
