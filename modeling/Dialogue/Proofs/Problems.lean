import Dialogue.Sequence.Lint

/-!
# Problems that are reported

A sequence without issues has no dangling jump: the authored successors of its messages,
of the choices of its choice messages and of the routes of its autoroute messages are
messages of it.
-/

namespace Dialogue.Sequence

variable {sequence : Sequence}

/-! ## Problems of a part -/

theorem mem_problemIf_iff {present : Bool} {problem reported : Problem} :
    reported ∈ problemIf present problem ↔ present = true ∧ reported = problem := by
  cases present <;> simp [problemIf]

theorem mem_danglingJump_iff {target : Option MessageId} {problem : MessageId → Problem}
    {reported : Problem} :
    reported ∈ sequence.danglingJump target problem ↔
      ∃ id, target = some id ∧ sequence.has id = false ∧ reported = problem id := by
  cases target with
  | none => simp [danglingJump]
  | some id => simp [danglingJump, mem_problemIf_iff]

/-- A route is reported for its missing condition when it is no default one and its
condition is not there or blank. -/
theorem noCondition_mem_routeProblems_iff {route : Route} {index : Nat} :
    .noCondition index ∈ sequence.routeProblems route index ↔
      route.isDefault = false ∧
        (route.condition.map Text.isBlankText).getD true = true := by
  simp [routeProblems, mem_problemIf_iff, mem_danglingJump_iff]

/-! ## Issues -/

/-- The problems of a message are issues of its sequence. -/
theorem mem_lint_of_mem_messageProblems {message : Message} {problem : Problem}
    (member : message ∈ sequence.messages)
    (reported : problem ∈ sequence.messageProblems message) :
    { message := some message.id, problem } ∈ sequence.lint := by
  refine List.mem_append_right _ (List.mem_flatMap.mpr ⟨message, member, ?_⟩)
  exact List.mem_map.mpr ⟨problem, reported, rfl⟩

section Clean

variable (clean : sequence.lint = []) {message : Message}
  (member : message ∈ sequence.messages)

include clean member

theorem not_mem_messageProblems (problem : Problem) :
    problem ∉ sequence.messageProblems message := by
  intro reported
  have issue := mem_lint_of_mem_messageProblems member reported
  rw [clean] at issue
  cases issue

/-- A jump is not reported only if it leads to a message. -/
theorem has_of_danglingJump (problem : MessageId → Problem) {target : Option MessageId}
    (covered : ∀ reported ∈ sequence.danglingJump target problem,
      reported ∈ sequence.messageProblems message)
    {id : MessageId} (named : target = some id) : sequence.has id = true := by
  cases missing : sequence.has id with
  | true => rfl
  | false =>
      have reported : problem id ∈ sequence.danglingJump target problem :=
        mem_danglingJump_iff.mpr ⟨id, named, missing, rfl⟩
      exact absurd (covered _ reported) (not_mem_messageProblems clean member (problem id))

theorem has_of_next {id : MessageId} (named : message.next = some id) :
    sequence.has id = true :=
  has_of_danglingJump clean member .danglingNext (fun _ => List.mem_append_left _) named

theorem has_of_choice (kind : message.kind = .choice) {choice : Choice}
    (offered : choice ∈ message.choices) {id : MessageId} (named : choice.next = some id) :
    sequence.has id = true := by
  obtain ⟨index, there⟩ := List.mem_iff_getElem?.mp offered
  refine has_of_danglingJump clean member (.danglingChoice index) (fun problem reported => ?_)
    named
  refine List.mem_append_right _ ?_
  rw [kindProblems, kind]
  refine List.mem_append_right _ (List.mem_flatMap.mpr ⟨(choice, index), ?_, reported⟩)
  exact List.mk_mem_zipIdx_iff_getElem?.mpr there

theorem has_of_route (kind : message.kind = .autoroute) {route : Route}
    (listed : route ∈ message.routes) {id : MessageId} (named : route.next = some id) :
    sequence.has id = true := by
  obtain ⟨index, there⟩ := List.mem_iff_getElem?.mp listed
  refine has_of_danglingJump clean member (.danglingRoute index) (fun problem reported => ?_)
    named
  refine List.mem_append_right _ ?_
  rw [kindProblems, kind]
  refine List.mem_append_right _ (List.mem_flatMap.mpr ⟨(route, index), ?_, ?_⟩)
  · exact List.mk_mem_zipIdx_iff_getElem?.mpr there
  · exact List.mem_append_right _ reported

end Clean

end Dialogue.Sequence
