import Dialogue.Condition.Parser
import Dialogue.Message.Basic

/-!
# Branches

Where an autoroute message leads.  Its conditional routes are tried in order,
and the first whose condition holds is taken, even when it leads nowhere; the
first default route is taken when none of them is.  A message without routes,
or with none that is taken, leads to its authored next message.
-/

namespace Dialogue.Flow

/-- Whether a route is taken because its condition holds. -/
def isLive (state : Dictionary Value) (route : Route) : Bool :=
  !route.isDefault &&
    match route.condition with
    | some condition => Condition.evaluate condition state
    | none => false

/-- The route that a message takes. -/
def routeTaken? (state : Dictionary Value) (message : Message) : Option Route :=
  (message.routes.find? (isLive state)).or (message.routes.find? (·.isDefault))

/-- Where an autoroute message leads. -/
def branchTarget? (state : Dictionary Value) (message : Message) : Option Target :=
  match routeTaken? state message with
  | some route => route.target
  | none => message.next.map .message

end Dialogue.Flow
