import Dialogue.Proofs.Answers
import Dialogue.Proofs.Reopening

/-!
# Changes in place

A store is a state in a file that is changed in place.  A value is put in or taken out
first; then the file is written; and when that fails, the key is put back to what it was.
So a change that fails has never happened, which is how states behave that are replaced
as a whole.  Whichever writes fail, a store goes on to answer as a state in memory does
that has only seen the changes that succeeded.
-/

namespace Dialogue

/-! ## Stores -/

/-- A write of a file that was tried: the text, and the error that it failed with. -/
structure Attempt where
  text : String
  error? : Option FileError := none
deriving DecidableEq

/-- Values that are changed in place, the file that they are kept in, the files as they
are, and the writes that have been tried, in order. -/
structure Store where
  values : Dictionary Value
  path : Path
  files : Files
  attempts : List Attempt := []

namespace Store

/-- The value under a key. -/
def get? (store : Store) (key : String) : Option Value :=
  store.values.get? key

/-- The keys in ascending order. -/
def keys (store : Store) : List String :=
  store.values.keys

/-- Write the file. -/
def flush (store : Store) : Except StateError Unit × Store :=
  let text := State.fileText store.values
  match store.files.write store.path text with
  | .error error =>
      (.error (.unreachable error),
        { store with attempts := store.attempts ++ [{ text, error? := some error }] })
  | .ok files => (.ok (), { store with files, attempts := store.attempts ++ [{ text }] })

/-- Put a key back to what it was: to its value, or to having none. -/
def restore (store : Store) (key : String) (previous : Option Value) : Store :=
  { store with
    values :=
      match previous with
      | some value => store.values.insert key value
      | none => store.values.erase key }

/-- Write the file after a key has been changed, and put the key back if that fails. -/
def settle (changed : Store) (key : String) (previous : Option Value) :
    Except StateError Unit × Store :=
  match changed.flush with
  | (.error error, store) => (.error error, store.restore key previous)
  | (.ok _, store) => (.ok (), store)

/-- Remember a value under a key. -/
def set (store : Store) (key : String) (value : Value) : Except StateError Unit × Store :=
  if Text.isBlankText key then (.error (.blankKey key), store)
  else settle { store with values := store.values.insert key value } key (store.get? key)

/-- Forget a key.  Nothing happens when it is not there. -/
def remove (store : Store) (key : String) : Except StateError Unit × Store :=
  match store.get? key with
  | none => (.ok (), store)
  | some previous =>
      settle { store with values := store.values.erase key } key (some previous)

/-- Make a change. -/
def change (store : Store) : State.Change → Except StateError Unit × Store
  | .set key value => store.set key value
  | .remove key => store.remove key
  | .elsewhere files => (.ok (), { store with files })

/-- The store behind some changes. -/
def after (store : Store) : List State.Change → Store
  | [] => store
  | change :: rest => (store.change change).2.after rest

/-- Those of some changes that succeed. -/
def accepted (store : Store) : List State.Change → List State.Change
  | [] => []
  | change :: rest =>
      match store.change change with
      | (.error _, store) => store.accepted rest
      | (.ok _, store) => change :: store.accepted rest

/-! ## What a change comes to -/

/-- A change rewrites the file with some values: a key that is not blank is set, or a key
that is there is forgotten. -/
inductive Rewrites (store : Store) : State.Change → Dictionary Value → Prop where
  | set {key : String} (value : Value) (named : Text.isBlankText key = false) :
      Rewrites store (.set key value) (store.values.insert key value)
  | remove {key : String} {previous : Value} (found : store.get? key = some previous) :
      Rewrites store (.remove key) (store.values.erase key)

/-- What a change can come to, and the store that it leaves. -/
inductive Comes (store : Store) : State.Change → Except StateError Unit → Store → Prop where
  | blank {key : String} (value : Value) (blank : Text.isBlankText key = true) :
      Comes store (.set key value) (.error (.blankKey key)) store
  | missing {key : String} (missing : store.get? key = none) :
      Comes store (.remove key) (.ok ()) store
  | elsewhere (files : Files) :
      Comes store (.elsewhere files) (.ok ()) { store with files }
  | failed {change : State.Change} {values : Dictionary Value} {error : FileError}
      (rewrites : store.Rewrites change values)
      (failed : store.files.write store.path (State.fileText values) = .error error) :
      Comes store change (.error (.unreachable error))
        { store with
          attempts :=
            store.attempts ++ [{ text := State.fileText values, error? := some error }] }
  | written {change : State.Change} {values : Dictionary Value} {files : Files}
      (rewrites : store.Rewrites change values)
      (written : store.files.write store.path (State.fileText values) = .ok files) :
      Comes store change (.ok ())
        { store with
          values, files
          attempts := store.attempts ++ [{ text := State.fileText values }] }

theorem get?_restore (store : Store) (key other : String) (previous : Option Value) :
    (store.restore key previous).get? other =
      if other = key then previous else store.get? other := by
  cases previous with
  | none => exact Dictionary.get?_erase store.values key other
  | some value => exact Dictionary.get?_insert store.values key other value

/-- A key that was changed and is put back leaves the values as they were. -/
theorem restore_of_changed (store : Store) {key : String} {values : Dictionary Value}
    (elsewhere : ∀ other, other ≠ key → values.get? other = store.get? other) :
    restore { store with values } key (store.get? key) = store := by
  have same : (restore { store with values } key (store.get? key)).values = store.values := by
    apply Dictionary.eq_of_get?_eq
    intro other
    refine (get?_restore { store with values } key other (store.get? key)).trans ?_
    split
    · rename_i here
      rw [here, get?]
    · rename_i there
      exact elsewhere other there
  calc
    restore { store with values } key (store.get? key) =
        { store with values := (restore { store with values } key (store.get? key)).values } := rfl
    _ = store := by rw [same]

/-- A change that rewrites the file happens if it can be written, and otherwise not. -/
theorem comes_settle {store : Store} {change : State.Change} {key : String}
    {values : Dictionary Value} (rewrites : store.Rewrites change values)
    (elsewhere : ∀ other, other ≠ key → values.get? other = store.get? other) :
    store.Comes change (settle { store with values } key (store.get? key)).1
      (settle { store with values } key (store.get? key)).2 := by
  cases outcome : store.files.write store.path (State.fileText values) with
  | error error =>
      have back := restore_of_changed
        { store with
          attempts :=
            store.attempts ++ [{ text := State.fileText values, error? := some error }] }
        elsewhere
      simp only [settle, flush, outcome]
      simp only [get?] at back ⊢
      rw [back]
      exact .failed rewrites outcome
  | ok files =>
      simp only [settle, flush, outcome]
      exact .written rewrites outcome

/-- Every change comes to something of this kind. -/
theorem comes_change (store : Store) (change : State.Change) :
    store.Comes change (store.change change).1 (store.change change).2 := by
  cases change with
  | set key value =>
      rw [Store.change, Store.set]
      cases named : Text.isBlankText key with
      | true => exact .blank value named
      | false =>
          apply comes_settle (.set value named)
          intro other different
          rw [Dictionary.get?_insert, if_neg different, get?]
  | remove key =>
      rw [Store.change, Store.remove]
      cases found : store.get? key with
      | none => exact .missing found
      | some previous =>
          have elsewhere : ∀ other, other ≠ key →
              (store.values.erase key).get? other = store.get? other := by
            intro other different
            rw [Dictionary.get?_erase, if_neg different, get?]
          have settled := comes_settle (.remove found) elsewhere
          rw [found] at settled
          exact settled
  | elsewhere files => exact .elsewhere files

/-! ## Stores and states -/

/-- The state that a store is, to be replaced as a whole. -/
def toState (store : Store) : State :=
  { values := store.values, file := some store.path, files := store.files }

theorem Rewrites.change_toState {store : Store} {change : State.Change}
    {values : Dictionary Value} (rewrites : store.Rewrites change values) :
    store.toState.change change = store.toState.replace values := by
  cases rewrites with
  | set value named => simp [State.change, State.set, named, toState]
  | remove found =>
      simp only [get?] at found
      simp [State.change, State.remove, Dictionary.contains, found, toState]

/-- A change in place comes to the same as a change of the whole state. -/
theorem Comes.change_toState {store behind : Store} {change : State.Change}
    {outcome : Except StateError Unit} (comes : store.Comes change outcome behind) :
    (store.toState.change change).map (fun _ => ()) = outcome ∧
      store.toState.behind change = behind.toState := by
  cases comes with
  | blank value blank => simp [State.behind, State.change, State.set, blank, Except.map]
  | missing missing =>
      simp only [get?] at missing
      simp [State.behind, State.change, State.remove, Dictionary.contains, missing, toState,
        Except.map]
  | elsewhere files => exact ⟨rfl, rfl⟩
  | failed rewrites failed =>
      have changed := rewrites.change_toState
      simp only [State.replace, toState, failed] at changed
      simp only [State.behind, toState, changed, Except.map, and_self]
  | written rewrites written =>
      have changed := rewrites.change_toState
      simp only [State.replace, toState, written] at changed
      simp only [State.behind, toState, changed, Except.map, and_self]

theorem toState_after (store : Store) (changes : List State.Change) :
    (store.after changes).toState = store.toState.changeAll changes := by
  induction changes generalizing store with
  | nil => rfl
  | cons change rest ih =>
      have same := (store.comes_change change).change_toState.2
      rw [after, ih, State.changeAll, same]

/-! ## Stores and memory -/

/-- A change that fails leaves the values as they are. -/
theorem Comes.values_of_error {store behind : Store} {change : State.Change}
    {error : StateError} (comes : store.Comes change (.error error) behind) :
    behind.values = store.values := by
  cases comes with
  | blank => rfl
  | failed => rfl

/-- A change that succeeds also succeeds in memory, and leads to the same values. -/
theorem Comes.change_inMemory {store behind : Store} {change : State.Change}
    (comes : store.Comes change (.ok ()) behind) (files : Files) :
    ∃ later, (State.inMemory store.values files).change change =
      .ok (State.inMemory behind.values later) := by
  cases comes with
  | missing missing =>
      simp only [get?] at missing
      refine ⟨files, ?_⟩
      simp [State.change, State.remove, State.inMemory, Dictionary.contains, missing]
  | elsewhere found => exact ⟨found, rfl⟩
  | written rewrites _ =>
      refine ⟨files, ?_⟩
      cases rewrites with
      | set value named => simp [State.change, State.set, State.replace, State.inMemory, named]
      | remove found =>
          simp only [get?] at found
          simp [State.change, State.remove, State.replace, State.inMemory, Dictionary.contains,
            found]

/-- A state in memory that has seen the changes that succeeded has the same values. -/
theorem values_changeAll_accepted (store : Store) (changes : List State.Change)
    (files : Files) :
    ((State.inMemory store.values files).changeAll (store.accepted changes)).values =
      (store.after changes).values := by
  induction changes generalizing store files with
  | nil => rfl
  | cons change rest ih =>
      rw [accepted, after]
      have comes := store.comes_change change
      match came : store.change change with
      | (.error error, behind) =>
          rw [came] at comes
          rw [← comes.values_of_error]
          exact ih behind files
      | (.ok _, behind) =>
          rw [came] at comes
          obtain ⟨later, changed⟩ := comes.change_inMemory files
          rw [State.changeAll, State.behind, changed]
          exact ih behind later

/-! ## What is tried and what fails -/

/-- A change goes as it should: it is answered, leaves a store behind, and some writes are
tried for it. -/
structure Goes (store : Store) (change : State.Change) (outcome : Except StateError Unit)
    (behind : Store) (tried : List Attempt) : Prop where
  attempts : behind.attempts = store.attempts ++ tried
  /-- The file is written for those changes that rewrite it, and for no other one. -/
  tried_iff : tried ≠ [] ↔ ∃ values, store.Rewrites change values
  once : tried.length ≤ 1
  /-- A change fails if it sets a blank key, or if its write fails. -/
  fails_iff : (∃ error, outcome = .error error) ↔
    (∃ key value, change = .set key value ∧ Text.isBlankText key = true) ∨
      ∃ attempt ∈ tried, attempt.error? ≠ none
  /-- Behind a write that succeeds the file holds the values. -/
  holds : ∀ attempt ∈ tried, attempt.error? = none →
    behind.files.read store.path = .ok (State.fileText behind.values)

/-- A change that rewrites the file does not set a blank key. -/
theorem Rewrites.not_blank {store : Store} {change : State.Change}
    {values : Dictionary Value} (rewrites : store.Rewrites change values) :
    ¬∃ key value, change = .set key value ∧ Text.isBlankText key = true := by
  rintro ⟨key, value, rfl, blank⟩
  cases rewrites with
  | set _ named => exact Bool.false_ne_true (named.symm.trans blank)

/-- Nothing is tried for a change that does not rewrite the file. -/
theorem goes_of_untouched {store behind : Store} {change : State.Change}
    {outcome : Except StateError Unit}
    (untouched : ∀ values, ¬store.Rewrites change values)
    (attempts : behind.attempts = store.attempts)
    (fails : (∃ error, outcome = .error error) ↔
      ∃ key value, change = .set key value ∧ Text.isBlankText key = true) :
    store.Goes change outcome behind [] where
  attempts := by rw [attempts, List.append_nil]
  tried_iff := by simp [untouched]
  once := Nat.zero_le 1
  fails_iff := by simpa using fails
  holds := by simp

/-- One write is tried for a change that rewrites the file, which fails with it. -/
theorem Rewrites.goes {store behind : Store} {change : State.Change}
    {outcome : Except StateError Unit} {values : Dictionary Value} {attempt : Attempt}
    (rewrites : store.Rewrites change values)
    (attempts : behind.attempts = store.attempts ++ [attempt])
    (fails : (∃ error, outcome = .error error) ↔ attempt.error? ≠ none)
    (holds : attempt.error? = none →
      behind.files.read store.path = .ok (State.fileText behind.values)) :
    store.Goes change outcome behind [attempt] where
  attempts := attempts
  tried_iff := iff_of_true (List.cons_ne_nil _ _) ⟨values, rewrites⟩
  once := Nat.le_refl 1
  fails_iff := by rw [fails, or_iff_right rewrites.not_blank]; simp
  holds := by simpa using holds

theorem Comes.exists_goes {store behind : Store} {change : State.Change}
    {outcome : Except StateError Unit} (comes : store.Comes change outcome behind) :
    ∃ tried, store.Goes change outcome behind tried := by
  cases comes with
  | @blank key value blank =>
      refine ⟨[], goes_of_untouched ?_ rfl ?_⟩
      · intro values rewrites
        exact rewrites.not_blank ⟨key, value, rfl, blank⟩
      · exact iff_of_true ⟨_, rfl⟩ ⟨key, value, rfl, blank⟩
  | missing missing =>
      refine ⟨[], goes_of_untouched ?_ rfl (by simp)⟩
      intro values rewrites
      cases rewrites with
      | remove found => simp [missing] at found
  | elsewhere files =>
      refine ⟨[], goes_of_untouched ?_ rfl (by simp)⟩
      intro values rewrites
      cases rewrites
  | failed rewrites _ => exact ⟨_, rewrites.goes rfl (by simp) (by simp)⟩
  | written rewrites written =>
      exact ⟨_, rewrites.goes rfl (by simp) fun _ => Files.read_of_write written⟩

/-- A store under any failing writes is a state in memory that sees the changes that
succeed.

Whatever others do to the files between the changes of a store, and so whichever of its
writes fail: a change fails if it sets a blank key or its write fails, and only then; the
file is written for a key that is not blank and is set, and for a key that is there and is
forgotten, once each; and behind such a write that succeeds the file holds the values.
Behind any changes the store is the state that is replaced as a whole, and its keys, which
ascend, and their values are those of a state in memory with the same values at the start
to which only the changes that succeeded have been made. -/
theorem agrees_with_memory (values : Dictionary Value) (path : Path) (files : Files)
    (changes : List State.Change) :
    let start : Store := { values, path, files }
    let last := start.after changes
    let memory := (State.inMemory values files).changeAll (start.accepted changes)
    (∀ change, ∃ tried, last.Goes change (last.change change).1 (last.change change).2 tried) ∧
      last.toState = start.toState.changeAll changes ∧
      (∀ key, last.get? key = memory.get? key) ∧
      last.keys = memory.keys ∧
      last.keys.Pairwise (· < ·) := by
  intro start last memory
  have same : memory.values = last.values :=
    start.values_changeAll_accepted changes files
  refine ⟨fun change => (last.comes_change change).exists_goes, start.toState_after changes,
    ?_, ?_, ?_⟩
  · intro key
    rw [State.get?, same, get?]
  · rw [State.keys, same, keys]
  · exact List.pairwise_map.mpr last.values.ascending

/-- Nothing can be written while a folder stands in the place of the file. -/
example :
    let start : Store := { values := .empty, path := { written := "state.json" }, files := {} }
    let blocked : Files := { entries := [(["state.json"], .folder)] }
    let last := start.after
      [.set "mood" (.int 1), .elsewhere blocked, .set "mood" .null, .set "name" .null,
        .remove "mood", .remove "name", .elsewhere {}, .set " " .null, .set "day" .null]
    last.attempts.map (·.error?.isSome) = [false, true, true, true, false] ∧
      last.keys = ["day", "mood"] := by
  decide +kernel

end Store

end Dialogue
