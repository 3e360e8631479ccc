import Dialogue.Flow.Action
import Dialogue.Flow.ActiveSequence
import Dialogue.Flow.Branch
import Dialogue.Flow.Display

/-!
# Running a conversation

An engine runs conversations over a state, a source of sequences and a library
of lines.  A run alternates between walking and resolving: it walks as far as
it can, applies the actions and takes the branch that the walk came upon, and
goes on from there, until it needs the user, the conversation ends, or the
limit of cycles is reached.  The messages it collected are shown at the end.

Every operation returns the engine with its result, also when it fails: what
was remembered and loaded before a failure stays.
-/

namespace Dialogue.Flow

/-- All that a conversation depends on. -/
structure Engine where
  config : Config
  today : Date
  source : Source
  library : Content.Library
  state : State
  active : Option ActiveSequence := none
  resolver : Content.Resolver

namespace Engine

/-- An engine with nothing loaded. -/
def new (config : Config) (today : Date) (source : Source)
    (library : Content.Library) (state : State) : Engine :=
  { config, today, source, library, state, resolver := .new config.content }

/-- The agenda of today. -/
def agenda (engine : Engine) : Agenda :=
  .ofConfig engine.config engine.today

/-- The messages of the active sequence. -/
def lookup (engine : Engine) : Lookup :=
  activeLookup engine.active

/-- Make a sequence the active one. -/
def load (engine : Engine) (id : String) : Except Error Unit × Engine :=
  match loadSequence engine.source engine.state.files id with
  | .error error => (.error error, engine)
  | .ok active => (.ok (), { engine with active := some active })

/-! ## Results -/

/-- How a run ended. -/
inductive Outcome where
  /-- A message needs the user. -/
  | awaiting (id : MessageId)
  /-- The conversation is over. -/
  | complete
  /-- The limit of cycles was reached. -/
  | truncated
deriving DecidableEq, Repr

/-- The messages to show, and how the run ended. -/
structure Result where
  messages : List DisplayMessage
  outcome : Outcome
deriving DecidableEq, Repr

/-- Whether a run waits for the user. -/
def Result.isAwaiting (result : Result) : Bool :=
  match result.outcome with
  | .awaiting _ => true
  | _ => false

/-- Whether the conversation is over. -/
def Result.isComplete (result : Result) : Bool :=
  result.outcome = .complete

/-- Whether a run was cut off by the limit of cycles. -/
def Result.isTruncated (result : Result) : Bool :=
  !result.isAwaiting && !result.isComplete

/-- The result of a run that shows nothing and is over. -/
def Result.nothingLeft : Result :=
  { messages := [], outcome := .complete }

/-! ## Resolving -/

/-- Go to a place: to a message as it is, to a sequence by loading it. -/
def goTo (engine : Engine) (target : Option Target) :
    Except Error (Option MessageId) × Engine :=
  match target with
  | none => (.ok none, engine)
  | some (.message id) => (.ok (some id), engine)
  | some (.sequence id) =>
      match engine.load id with
      | (.error error, engine) => (.error error, engine)
      | (.ok _, engine) => (.ok (activeFirst? engine.active), engine)

/-- Take the branch of an autoroute message. -/
def takeBranch (engine : Engine) (message : Message) :
    Except Error (Option MessageId) × Engine :=
  engine.goTo (branchTarget? engine.state.values message)

/-- Apply the actions of a data action message. -/
def applyActions (engine : Engine) (message : Message) : Engine :=
  { engine with
    state := Flow.applyActions engine.agenda message.actions engine.state }

/-- Resolve a message that a walk visited: where it leads to, if it is a
routing message. -/
def resolve (engine : Engine) (message : Message) :
    Except Error (Option MessageId) × Engine :=
  match message.kind with
  | .autoroute => engine.takeBranch message
  | .dataAction => (.ok message.next, engine.applyActions message)
  | _ => (.ok none, engine)

/-- Resolve the messages of a walk in order; the last one says where they
lead. -/
def resolveAll (engine : Engine) :
    List Message → Except Error (Option MessageId) × Engine
  | [] => (.ok none, engine)
  | [message] => engine.resolve message
  | message :: rest =>
      match engine.resolve message with
      | (.error error, engine) => (.error error, engine)
      | (.ok _, engine) => engine.resolveAll rest

/-! ## Running -/

/-- What the texts of an engine are made from. -/
def renderer (engine : Engine) : Renderer :=
  { state := engine.state.values
    variants := engine.library engine.state.files
    delimiter := engine.config.partDelimiter }

/-- End a run: show the messages it collected. -/
def finish (engine : Engine) (pending : List Message) (outcome : Outcome) :
    Except Error Result × Engine :=
  let (messages, resolver) := engine.renderer.render engine.resolver pending
  (.ok { messages, outcome }, { engine with resolver })

/-- What a cycle of a run leads to. -/
inductive Cycle where
  /-- The run ends. -/
  | stop (outcome : Outcome)
  /-- The run goes on from a message. -/
  | goOn (id : MessageId)

/-- Go on from a message, or end when there is none. -/
def Cycle.ofNext : Option MessageId → Cycle
  | some id => .goOn id
  | none => .stop .complete

/-- What follows a walk whose messages have been resolved. -/
def afterWalk (engine : Engine) (stop : Stop) (next : Option MessageId) :
    Except Error Cycle × Engine :=
  match stop with
  | .interactive id => (.ok (.stop (.awaiting id)), engine)
  | .boundary _ target =>
      match engine.load target with
      | (.error error, engine) => (.error error, engine)
      | (.ok _, engine) => (.ok (.ofNext (activeFirst? engine.active)), engine)
  | _ => (.ok (.ofNext next), engine)

/-- Run one cycle from a message: the messages to show that it came upon, and
what it leads to. -/
def cycle (engine : Engine) (id : MessageId) :
    Except Error (List Message × Cycle) × Engine :=
  let limit := engine.config.maxWalkDepth
  let walk := walkFrom engine.lookup limit id
  if walk.stop = .tooDeep then
    (.error (.tooDeep id limit), engine)
  else
    match engine.resolveAll walk.messages with
    | (.error error, engine) => (.error error, engine)
    | (.ok next, engine) =>
        match engine.afterWalk walk.stop next with
        | (.error error, engine) => (.error error, engine)
        | (.ok cycle, engine) =>
            (.ok (walk.messages.filter (fun message => !message.kind.isRouting), cycle),
              engine)

/-- Run at most so many cycles from a message, with messages to show from the
cycles before. -/
def runCycles (engine : Engine) (pending : List Message) :
    Nat → MessageId → Except Error Result × Engine
  | 0, _ => engine.finish pending .truncated
  | cycles + 1, id =>
      match engine.cycle id with
      | (.error error, engine) => (.error error, engine)
      | (.ok (shown, .stop outcome), engine) =>
          engine.finish (pending ++ shown) outcome
      | (.ok (shown, .goOn next), engine) =>
          engine.runCycles (pending ++ shown) cycles next

/-- Run a conversation from a message of the active sequence. -/
def run (engine : Engine) (id : MessageId) : Except Error Result × Engine :=
  engine.runCycles [] engine.config.maxCycles id

/-- Run a conversation from a message that may be missing. -/
def runFrom (engine : Engine) (id : Option MessageId) : Except Error Result × Engine :=
  match id with
  | some id => engine.run id
  | none => (.ok .nothingLeft, engine)

end Engine

end Dialogue.Flow
