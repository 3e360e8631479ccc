import Dialogue.Sequence.Basic

/-!
# Authoring problems

Problems in a sequence that do not keep it from being used: messages that lack
what their kind needs, routes that can never be taken or lead nowhere, and
jumps to messages that do not exist.  They are reported in the order of the
messages, and for one message in a fixed order.
-/

namespace Dialogue

/-- What is wrong. -/
inductive Problem where
  | noMessages
  | noChoices
  | noRoutes
  | noActions
  | severalDefaults
  /-- A route that is not a default one has no condition. -/
  | noCondition (index : Nat)
  /-- A route leads nowhere. -/
  | noTarget (index : Nat)
  /-- The next message does not exist. -/
  | danglingNext (target : MessageId)
  /-- The message behind a choice does not exist. -/
  | danglingChoice (index : Nat) (target : MessageId)
  /-- The message behind a route does not exist. -/
  | danglingRoute (index : Nat) (target : MessageId)
deriving DecidableEq, Repr

/-- The wording of a problem. -/
def Problem.message : Problem → String
  | .noMessages => "sequence has no messages"
  | .noChoices => "choice message has no choices"
  | .noRoutes => "autoroute message has no routes"
  | .noActions => "dataAction message has no actions"
  | .severalDefaults => "more than one default route"
  | .noCondition index =>
      "route " ++ toString index ++ " is not default and has no condition"
  | .noTarget index => "route " ++ toString index ++ " has no target"
  | .danglingNext target =>
      "nextMessageId " ++ toString target.toNat ++ " does not exist"
  | .danglingChoice index target =>
      "choice " ++ toString index ++ " points to missing message " ++
        toString target.toNat
  | .danglingRoute index target =>
      "route " ++ toString index ++ " points to missing message " ++
        toString target.toNat

/-- A problem and the message it belongs to; none for the whole sequence. -/
structure Issue where
  message : Option MessageId
  problem : Problem
deriving DecidableEq, Repr

/-- The wording of an issue. -/
def Issue.text (issue : Issue) : String :=
  match issue.message with
  | some id => "message " ++ toString id.toNat ++ ": " ++ issue.problem.message
  | none => issue.problem.message

namespace Sequence

/-- A problem, if there is one. -/
def problemIf (present : Bool) (problem : Problem) : List Problem :=
  if present then [problem] else []

/-- The problem of a jump, if the message it names does not exist. -/
def danglingJump (sequence : Sequence) (target : Option MessageId)
    (problem : MessageId → Problem) : List Problem :=
  match target with
  | some id => problemIf (!sequence.has id) (problem id)
  | none => []

/-- The problems of a route. -/
def routeProblems (sequence : Sequence) (route : Route) (index : Nat) :
    List Problem :=
  let blank := (route.condition.map Text.isBlankText).getD true
  problemIf (!route.isDefault && blank) (.noCondition index) ++
    problemIf route.target.isNone (.noTarget index) ++
    sequence.danglingJump route.next (.danglingRoute index)

/-- The problems of a message that depend on its kind. -/
def kindProblems (sequence : Sequence) (message : Message) : List Problem :=
  match message.kind with
  | .choice =>
      problemIf message.choices.isEmpty .noChoices ++
        message.choices.zipIdx.flatMap fun (choice, index) =>
          sequence.danglingJump choice.next (.danglingChoice index)
  | .autoroute =>
      problemIf message.routes.isEmpty .noRoutes ++
        problemIf ((message.routes.filter (·.isDefault)).length > 1) .severalDefaults ++
        message.routes.zipIdx.flatMap fun (route, index) =>
          sequence.routeProblems route index
  | .dataAction => problemIf message.actions.isEmpty .noActions
  | .text | .textInput | .system => []

/-- The problems of a message. -/
def messageProblems (sequence : Sequence) (message : Message) : List Problem :=
  sequence.danglingJump message.next .danglingNext ++ sequence.kindProblems message

/-- The authoring problems of a sequence. -/
def lint (sequence : Sequence) : List Issue :=
  (problemIf sequence.messages.isEmpty .noMessages).map
      (fun problem => { message := none, problem }) ++
    sequence.messages.flatMap fun message =>
      (sequence.messageProblems message).map fun problem =>
        { message := some message.id, problem }

end Sequence

end Dialogue
