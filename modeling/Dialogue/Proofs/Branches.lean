import Dialogue.Proofs.Condition.Comparisons
import Dialogue.Proofs.Loading
import Dialogue.Proofs.Problems
import Dialogue.Proofs.Results
import Mathlib.Logic.Relation

/-!
# Branches that are taken

Of the routes of a message only some have a part in where it leads: those that a
condition decides about, in their order, and the first default one.  A blank text is no
condition, so a route without one is never taken; and whether a default route stands
before or behind a conditional one makes no difference.
-/

namespace Dialogue

/-- A blank text is no condition, since there is no key in it. -/
theorem Condition.evaluate_of_isBlankText {s : String} (blank : Text.isBlankText s = true)
    (state : Dictionary Value) : evaluate s state = false := by
  have each : ∀ c ∈ s.toList, Text.isBlank c = true := List.all_eq_true.mp blank
  have plain : ∀ c ∈ s.toList, isQuote c = false := by
    intro c member
    apply Bool.eq_false_iff.mpr
    intro isOne
    have solid := isBlank_of_isQuote isOne
    rw [each c member] at solid
    cases solid
  have uncut : ∀ sign, isQuote sign = false → Text.isBlank sign = false →
      splitOutsideQuotes sign none s.toList = [s.toList] := by
    intro sign plainSign solid
    refine (whole_iff_of_plain plainSign plain).mpr fun inside => ?_
    rw [each sign (inside.subset List.mem_cons_self)] at solid
    cases solid
  have nothing : Text.trimmed s.toList = [] := (Text.trimmed_eq_nil_iff _).mpr blank
  have noComparison : comparison? s.toList = none := by
    simp only [comparison?, nothing]
    rfl
  have unread : parse? s = none := by
    simp only [parse?, uncut '|' rfl rfl, conjunction?, uncut '&' rfl rfl, noComparison,
      Option.map_none]
  rw [evaluate, unread]

namespace Flow

/-! ## Routes that are taken -/

/-- The condition of a route holds, and it is no default one. -/
structure Holds (state : Dictionary Value) (route : Route) : Prop where
  isOther : route.isDefault = false
  holds : ∃ condition, route.condition = some condition ∧
    Condition.evaluate condition state = true

/-- A route is the first one of some routes with a property. -/
def First (property : Route → Prop) (routes : List Route) (route : Route) : Prop :=
  property route ∧ ∃ before after, routes = before ++ route :: after ∧
    ∀ earlier ∈ before, ¬property earlier

/-- A route is taken: the first one whose condition holds, or else the first default
one. -/
inductive Takes (state : Dictionary Value) (routes : List Route) : Option Route → Prop where
  | conditional {route : Route} (first : First (Holds state) routes route) :
      Takes state routes (some route)
  | fallback {route : Route} (failing : ∀ other ∈ routes, ¬Holds state other)
      (first : First (·.isDefault = true) routes route) : Takes state routes (some route)
  | nothing (failing : ∀ other ∈ routes, ¬Holds state other)
      (noDefault : ∀ other ∈ routes, ¬other.isDefault = true) : Takes state routes none

theorem isLive_iff_holds (state : Dictionary Value) (route : Route) :
    isLive state route = true ↔ Holds state route := by
  rw [isLive, Bool.and_eq_true, Bool.not_eq_true']
  constructor
  · rintro ⟨isOther, holds⟩
    cases written : route.condition with
    | none =>
        rw [written] at holds
        cases holds
    | some condition =>
        rw [written] at holds
        exact ⟨isOther, condition, written, holds⟩
  · rintro ⟨isOther, condition, written, holds⟩
    rw [written]
    exact ⟨isOther, holds⟩

theorem first_of_find? {p : Route → Bool} {property : Route → Prop}
    (same : ∀ route, p route = true ↔ property route) {routes : List Route} {route : Route}
    (found : routes.find? p = some route) : First property routes route := by
  obtain ⟨it, before, after, place, earlier⟩ := List.find?_eq_some_iff_append.mp found
  refine ⟨(same route).mp it, before, after, place, ?_⟩
  intro other member has
  have misses := earlier other member
  rw [(same other).mpr has] at misses
  cases misses

theorem takes_routeTaken? (state : Dictionary Value) (message : Message) :
    Takes state message.routes (routeTaken? state message) := by
  rw [routeTaken?]
  cases live : message.routes.find? (isLive state) with
  | some route => exact .conditional (first_of_find? (isLive_iff_holds state) live)
  | none =>
      have failing : ∀ other ∈ message.routes, ¬Holds state other := by
        intro other member holds
        exact List.find?_eq_none.mp live other member ((isLive_iff_holds state other).mpr holds)
      cases spare : message.routes.find? (·.isDefault) with
      | some route => exact .fallback failing (first_of_find? (fun _ => Iff.rfl) spare)
      | none => exact .nothing failing (List.find?_eq_none.mp spare)

/-! ## Forks -/

/-- A condition decides about a route: it is no default one, and its condition is there
and not blank. -/
def isConditional (route : Route) : Bool :=
  !route.isDefault && !((route.condition.map Text.isBlankText).getD true)

/-- What has a part in where a message leads: its authored successor, the routes that
conditions decide about, in order, and the first default route. -/
structure Fork where
  next : Option MessageId
  conditional : List Route
  fallback : Option Route

/-- The fork of a successor and some routes. -/
def Fork.of (next : Option MessageId) (routes : List Route) : Fork :=
  { next
    conditional := routes.filter isConditional
    fallback := routes.find? (·.isDefault) }

/-- The fork of a message. -/
def fork (message : Message) : Fork :=
  .of message.next message.routes

/-- A condition that holds decides about its route. -/
theorem Holds.isConditional {state : Dictionary Value} {route : Route}
    (holds : Holds state route) : isConditional route = true := by
  obtain ⟨isOther, condition, written, satisfied⟩ := holds
  have solid : Text.isBlankText condition = false := by
    apply Bool.eq_false_iff.mpr
    intro blank
    rw [Condition.evaluate_of_isBlankText blank] at satisfied
    cases satisfied
  rw [Flow.isConditional, isOther, written, Option.map_some, Option.getD_some, solid]
  rfl

/-- The route that is taken is one of the fork. -/
theorem routeTaken?_eq (state : Dictionary Value) (message : Message) :
    routeTaken? state message =
      ((fork message).conditional.find? (isLive state)).or (fork message).fallback := by
  -- Blank conditions do not hold, so the routes that are left out would not be found.
  have among : (message.routes.filter isConditional).find? (isLive state) =
      message.routes.find? (isLive state) := by
    rw [List.find?_filter]
    refine congrArg (List.find? · message.routes) (funext fun route => ?_)
    rw [Bool.decide_and, Bool.decide_eq_true, Bool.decide_eq_true, Bool.and_eq_right_iff_imp]
    exact fun live => ((isLive_iff_holds state route).mp live).isConditional
  rw [routeTaken?, fork, Fork.of, among]

theorem branchTarget?_congr (state : Dictionary Value) {first second : Message}
    (same : fork first = fork second) :
    branchTarget? state first = branchTarget? state second := by
  have sameNext : first.next = second.next := congrArg Fork.next same
  rw [branchTarget?, branchTarget?, routeTaken?_eq, routeTaken?_eq, same, sameNext]

/-! ## Edits -/

/-- An edit that leaves a fork as it is: a default route changes places with one that is
not, a route is deleted that is reported for its missing condition, or a default route is
deleted behind another one. -/
inductive Edit : List Route → List Route → Prop where
  | swap (before after : List Route) {fallback other : Route}
      (isDefault : fallback.isDefault = true) (isOther : other.isDefault = false) :
      Edit (before ++ fallback :: other :: after) (before ++ other :: fallback :: after)
  | deleteReported (before after : List Route) {route : Route} {sequence : Sequence}
      {index : Nat} (reported : .noCondition index ∈ sequence.routeProblems route index) :
      Edit (before ++ route :: after) (before ++ after)
  | deleteSpare (before between after : List Route) {first spare : Route}
      (isDefault : first.isDefault = true) (isSpare : spare.isDefault = true) :
      Edit (before ++ first :: (between ++ spare :: after))
        (before ++ first :: (between ++ after))

theorem isConditional_of_isDefault {route : Route} (isDefault : route.isDefault = true) :
    isConditional route = false := by
  rw [isConditional, isDefault]
  rfl

/-- A route that is reported for its missing condition is no default one, and no condition
decides about it. -/
theorem isConditional_of_reported {sequence : Sequence} {route : Route} {index : Nat}
    (reported : .noCondition index ∈ sequence.routeProblems route index) :
    route.isDefault = false ∧ isConditional route = false := by
  obtain ⟨isOther, blank⟩ := Sequence.noCondition_mem_routeProblems_iff.mp reported
  refine ⟨isOther, ?_⟩
  rw [isConditional, isOther, blank]
  rfl

theorem Edit.fork_eq {first second : List Route} (edit : Edit first second)
    (next : Option MessageId) : Fork.of next first = Fork.of next second := by
  cases edit with
  | swap before after isDefault isOther =>
      simp [Fork.of, List.filter_cons, isDefault, isOther, isConditional_of_isDefault isDefault]
  | deleteReported before after reported =>
      obtain ⟨isOther, idle⟩ := isConditional_of_reported reported
      simp [Fork.of, isOther, idle]
  | deleteSpare before between after isDefault isSpare =>
      simp [Fork.of, List.filter_cons, isDefault, isConditional_of_isDefault isSpare]

/-- Edits, made and taken back in any number, leave a fork as it is. -/
theorem fork_eq_of_edits {first second : List Route} (edits : Relation.EqvGen Edit first second)
    (next : Option MessageId) : Fork.of next first = Fork.of next second := by
  induction edits with
  | rel first second edit => exact edit.fork_eq next
  | refl routes => rfl
  | symm first second _ ih => exact ih.symm
  | trans first second third _ _ ih ihRest => exact ih.trans ihRest

/-! ## Outcomes of branches -/

/-- A message branches: where it leads, and the engine behind it.  Only a route into
another sequence that is there changes the engine. -/
inductive BranchesTo (engine : Engine) (message : Message) :
    Except Error (Option MessageId) × Engine → Prop where
  | straight (takes : Takes engine.state.values message.routes none) :
      BranchesTo engine message (.ok message.next, engine)
  | nowhere {route : Route} (takes : Takes engine.state.values message.routes (some route))
      (noMessage : route.next = none) (noSequence : route.sequence = none) :
      BranchesTo engine message (.ok none, engine)
  | message {route : Route} {id : MessageId}
      (takes : Takes engine.state.values message.routes (some route))
      (leads : route.next = some id) : BranchesTo engine message (.ok (some id), engine)
  | sequence {route : Route} {id : String} {loaded : Sequence}
      (takes : Takes engine.state.values message.routes (some route))
      (noMessage : route.next = none) (leads : route.sequence = some id)
      (gets : Request.Gets engine.source ⟨engine.state.files, id⟩ loaded) :
      BranchesTo engine message
        (.ok loaded.first?, { engine with active := some (.of loaded) })
  | declined {route : Route} {id : String} {error : Error}
      (takes : Takes engine.state.values message.routes (some route))
      (noMessage : route.next = none) (leads : route.sequence = some id)
      (declined : Request.Declined engine.source ⟨engine.state.files, id⟩ error) :
      BranchesTo engine message (.error error, engine)

/-- An engine stays as it is when the branch of a message cannot be taken. -/
theorem BranchesTo.eq_of_error {engine : Engine} {message : Message}
    {outcome : Except Error (Option MessageId) × Engine}
    (branches : BranchesTo engine message outcome) {error : Error}
    (failed : outcome.1 = .error error) : outcome.2 = engine := by
  cases branches with
  | straight _ => rfl
  | nowhere _ _ _ => rfl
  | message _ _ => rfl
  | sequence _ _ _ _ => cases failed
  | declined _ _ _ _ => rfl

namespace Engine

theorem goTo_of_gets {engine : Engine} {id : String} {loaded : Sequence}
    (gets : Request.Gets engine.source ⟨engine.state.files, id⟩ loaded) :
    engine.goTo (some (.sequence id)) =
      (.ok loaded.first?, { engine with active := some (.of loaded) }) := by
  simp only [goTo, load, Request.loadSequence_of_gets gets]
  rfl

theorem goTo_of_declined {engine : Engine} {id : String} {error : Error}
    (declined : Request.Declined engine.source ⟨engine.state.files, id⟩ error) :
    engine.goTo (some (.sequence id)) = (.error error, engine) := by
  simp only [goTo, load, Request.loadSequence_of_declined declined]

theorem goTo_map_message (engine : Engine) (next : Option MessageId) :
    engine.goTo (next.map .message) = (.ok next, engine) := by
  cases next <;> rfl

theorem branchesTo_takeBranch (engine : Engine) (message : Message) :
    BranchesTo engine message (engine.takeBranch message) := by
  have takes := takes_routeTaken? engine.state.values message
  rw [takeBranch, branchTarget?]
  cases taken : routeTaken? engine.state.values message with
  | none =>
      rw [taken] at takes
      simp only [goTo_map_message]
      exact .straight takes
  | some route =>
      rw [taken] at takes
      cases next : route.next with
      | some id =>
          simp only [Route.target, next]
          exact .message takes next
      | none =>
          cases into : route.sequence with
          | none =>
              simp only [Route.target, next, into]
              exact .nowhere takes next into
          | some id =>
              simp only [Route.target, next, into, Option.map_some]
              rcases Request.gets_or_declined engine.source ⟨engine.state.files, id⟩ with
                ⟨loaded, gets⟩ | ⟨error, declined⟩
              · rw [goTo_of_gets gets]
                exact .sequence takes next into gets
              · rw [goTo_of_declined declined]
                exact .declined takes next into declined

/-- What the branch of a message comes to depends on nothing but its fork.

A message leads where the route that it takes leads, or on to its authored successor if it
takes none.  Messages with the same fork branch alike, and so does a message whose routes
are edited in ways that leave its fork as it is.  An engine stays as it is when the branch
cannot be taken. -/
theorem takeBranch_depends_on_fork (engine : Engine) (message : Message) :
    BranchesTo engine message (engine.takeBranch message) ∧
    (∀ other, fork other = fork message →
      engine.takeBranch other = engine.takeBranch message) ∧
    (∀ routes, Relation.EqvGen Edit message.routes routes →
      engine.takeBranch { message with routes } = engine.takeBranch message) ∧
    (∀ error, (engine.takeBranch message).1 = .error error →
      (engine.takeBranch message).2 = engine) := by
  have alike : ∀ other, fork other = fork message →
      engine.takeBranch other = engine.takeBranch message := by
    intro other same
    rw [takeBranch, takeBranch, branchTarget?_congr engine.state.values same]
  have branches := branchesTo_takeBranch engine message
  refine ⟨branches, alike, ?_, fun error => branches.eq_of_error⟩
  intro routes edits
  exact alike _ (fork_eq_of_edits edits message.next).symm

/-- A default route into another sequence stands before one that a condition decides
about; behind them one has no condition, and one is a second default. -/
def crossroads : Message :=
  { id := 1, kind := .autoroute, next := some 9
    routes :=
      [.fallbackSequence "away", .when "a == 1" 2, { next := some 3 }, .fallback 4] }

/-- The routes of the crossroads that have a part in where it leads. -/
def signposts : List Route :=
  [.when "a == 1" 2, .fallbackSequence "away"]

theorem edits_crossroads : Relation.EqvGen Edit crossroads.routes signposts := by
  have swapped : Edit crossroads.routes
      [.when "a == 1" 2, .fallbackSequence "away", { next := some 3 }, .fallback 4] :=
    .swap [] _ rfl rfl
  have reported : Problem.noCondition 2 ∈
      (Sequence.named "home").routeProblems { next := some 3 } 2 := by decide
  have deleted : Edit
      [.when "a == 1" 2, .fallbackSequence "away", { next := some 3 }, .fallback 4]
      [.when "a == 1" 2, .fallbackSequence "away", .fallback 4] :=
    .deleteReported [_, _] [_] reported
  have spared : Edit [.when "a == 1" 2, .fallbackSequence "away", .fallback 4] signposts :=
    .deleteSpare [_] [] [] rfl rfl
  exact .trans _ _ _ (.rel _ _ swapped) (.trans _ _ _ (.rel _ _ deleted) (.rel _ _ spared))

theorem takeBranch_depends_on_fork_crossroads :
    BranchesTo (ofSequences []) crossroads ((ofSequences []).takeBranch crossroads) ∧
    (fork { crossroads with routes := signposts } = fork crossroads ∧
      (ofSequences []).takeBranch { crossroads with routes := signposts } =
        (ofSequences []).takeBranch crossroads) ∧
    (Relation.EqvGen Edit crossroads.routes signposts ∧
      (ofSequences []).takeBranch { crossroads with routes := signposts } =
        (ofSequences []).takeBranch crossroads) ∧
    ((ofSequences []).takeBranch crossroads).1 = .error (.sequence (.notFound "away")) ∧
      ((ofSequences []).takeBranch crossroads).2 = ofSequences [] := by
  have same : fork { crossroads with routes := signposts } = fork crossroads := by rfl
  have failed : ((ofSequences []).takeBranch crossroads).1 =
      .error (.sequence (.notFound "away")) := by rfl
  obtain ⟨branches, alike, edited, unchanged⟩ :=
    takeBranch_depends_on_fork (ofSequences []) crossroads
  exact ⟨branches, ⟨same, alike _ same⟩, ⟨edits_crossroads, edited _ edits_crossroads⟩, failed,
    unchanged _ failed⟩

end Engine

end Flow

end Dialogue
