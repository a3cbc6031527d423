import Mathlib.Data.List.TakeWhile
import TextShell.Session.Dispatch

/-!
# Built-in commands

The shell's own actions, as opposed to those that it may be extended by, look at the files and the
directory of a session and at nothing else. They leave the directory as it is, only ending the
session sets its flag, and only the action for unknown words writes anything itself. So one line of
input makes at most one remark, which is settled by the files and the directory.

* `Splits`: the word and the arguments of a line, said without looking for the first space.
* `CommandTable.IsBuiltIn`: tables that are made of built-in actions.
* `Session.dispatch_output`: a line of input writes its remark and nothing else.
* `Session.SameGround`: two sessions with the same files and directory. What they have besides makes
  no difference to either, and they make the same remarks (`Session.SameGround.dispatchAll`,
  `Session.SameGround.remark?_eq`).
-/

namespace TextShell

/-! ### Words -/

/-- A line is a word without a space, followed by a space and the arguments or by nothing. -/
def Splits (line word arguments : String) : Prop :=
  ' ' ∉ word.toList ∧ (line = word ++ " " ++ arguments ∨ line = word ∧ arguments = "")

/-- A line has no other word and no other arguments. -/
theorem Splits.splitCommand_eq {line word arguments : String} (h : Splits line word arguments) :
    splitCommand line = (word, arguments) := by
  obtain ⟨hword, hline⟩ := h
  have hall : ∀ char ∈ word.toList, decide (char ≠ ' ') = true := by
    intro char hchar
    rw [decide_eq_true_eq]
    rintro rfl
    exact hword hchar
  -- either the word ends at the first space, or there is no space to end it
  unfold splitCommand
  obtain rfl | ⟨rfl, rfl⟩ := hline
  · have hlist : (word ++ " " ++ arguments).toList = word.toList ++ ' ' :: arguments.toList := by
      simp
    rw [hlist, List.takeWhile_append_of_pos hall, List.dropWhile_append_of_pos hall]
    simp
  · rw [List.takeWhile_eq_self_iff.mpr hall, List.dropWhile_eq_nil_iff.mpr hall]
    simp

/-- Every line is cut at its first space. -/
theorem splits_splitCommand (line : String) :
    Splits line (splitCommand line).1 (splitCommand line).2 := by
  by_cases hspace : ' ' ∈ line.toList
  · obtain ⟨word, arguments, hline, hword⟩ := List.eq_append_cons_of_mem hspace
    have h : Splits line (.ofList word) (.ofList arguments) := by
      refine ⟨by rwa [String.toList_ofList], .inl ?_⟩
      rw [← String.toList_inj, hline]
      simp
    rw [h.splitCommand_eq]
    exact h
  · have h : Splits line line "" := ⟨hspace, .inr ⟨rfl, rfl⟩⟩
    rw [h.splitCommand_eq]
    exact h

/-! ### Actions and tables -/

/-- An action of the shell itself. -/
inductive Action.IsBuiltIn : Action → Prop where
  /-- Copying. -/
  | copy : IsBuiltIn .copy
  /-- Creating. -/
  | create : IsBuiltIn .create
  /-- Deleting. -/
  | delete : IsBuiltIn .delete
  /-- Updating. -/
  | update : IsBuiltIn .update
  /-- Ending the session. -/
  | exit : IsBuiltIn .exit
  /-- Telling that there is no such command. -/
  | reject : IsBuiltIn .reject

namespace CommandTable

/-- A table that is made from the empty one by binding verbs to built-in actions, in any order and
as often as one likes. -/
inductive IsBuiltIn : CommandTable → Prop where
  /-- Nothing is bound. -/
  | empty : IsBuiltIn empty
  /-- One more verb is bound, whatever it was bound to before. -/
  | bind {table : CommandTable} {verb : Verb} {action : Action} :
      IsBuiltIn table → action.IsBuiltIn → IsBuiltIn (table.bind verb action)

/-- The standard table is made of built-in actions. -/
theorem isBuiltIn_standard : standard.IsBuiltIn :=
  ((((IsBuiltIn.empty.bind .copy).bind .create).bind .delete).bind .update).bind .exit

/-- A verb is bound to a built-in action. -/
theorem IsBuiltIn.of_binding? {table : CommandTable} {verb : Verb} {action : Action}
    (htable : table.IsBuiltIn) (h : table.binding? verb = some action) : action.IsBuiltIn := by
  induction htable with
  | empty => cases h
  | @bind table bound last _ hlast ih =>
    by_cases hverb : bound = verb
    · subst hverb
      rw [binding?_bind_self] at h
      obtain rfl := Option.some.inj h
      exact hlast
    · rw [binding?_bind_of_ne _ _ hverb] at h
      exact ih h

/-- Whatever word is given, a built-in action is done for it. -/
theorem IsBuiltIn.action {table : CommandTable} (htable : table.IsBuiltIn) (word : String) :
    (table.action word).IsBuiltIn := by
  unfold CommandTable.action
  cases haction : table.action? word with
  | none => exact .reject
  | some action =>
    obtain ⟨verb, -, hbinding⟩ := Option.bind_eq_some_iff.mp haction
    exact htable.of_binding? hbinding

end CommandTable

/-! ### What a built-in action does -/

namespace Action

variable {action : Action} {session other : Session}

/-- No built-in action moves to another directory. -/
theorem IsBuiltIn.directory_perform (h : action.IsBuiltIn) (arguments : String)
    (session : Session) :
    (action.perform arguments session).1.workspace.directory = session.workspace.directory := by
  cases h with
  | copy | create | delete | update => rfl
  | exit => rfl
  | reject => rw [perform, Session.report_workspace, Session.note_workspace]

/-- Ending the session is the one built-in action that sets the flag, and none takes it back. -/
theorem IsBuiltIn.closing_perform (h : action.IsBuiltIn) (arguments : String)
    (session : Session) :
    (action.perform arguments session).1.workspace.closing = true ↔
      session.workspace.closing = true ∨ action = .exit := by
  cases h with
  | copy | create | delete | update => simp [perform]
  | exit => simp [perform]
  | reject =>
    rw [perform, Session.report_workspace, Session.note_workspace]
    simp

/-- Built-in actions but the one for unknown words leave it to the session to write. -/
theorem IsBuiltIn.output_perform (h : action.IsBuiltIn) (hne : action ≠ .reject)
    (arguments : String) (session : Session) :
    (action.perform arguments session).1.output = session.output := by
  cases h with
  | copy | create | delete | update => rfl
  | exit => rfl
  | reject => exact absurd rfl hne

/-- What a built-in action makes of the files, and whether it fails, is settled by the files and the
directory. -/
theorem IsBuiltIn.perform_congr (h : action.IsBuiltIn) (arguments : String)
    (hfiles : other.files = session.files)
    (hdirectory : other.workspace.directory = session.workspace.directory) :
    (action.perform arguments other).1.files = (action.perform arguments session).1.files ∧
      (action.perform arguments other).2 = (action.perform arguments session).2 := by
  cases h with
  | copy | create | delete | update =>
    simp only [perform, conclude_files, conclude_result, hfiles, hdirectory, and_self]
  | exit => exact ⟨hfiles, rfl⟩
  | reject =>
    refine ⟨?_, rfl⟩
    rw [perform, perform, Session.report_files, Session.note_files, Session.report_files,
      Session.note_files, hfiles]

end Action

/-! ### Lines of input -/

namespace Session

variable {table : CommandTable} {session other : Session}

/-- What is to be remarked on a line of input: that its word names no command, or why its command
fails. -/
def remark? (session : Session) (table : CommandTable) (line : String) : Option String :=
  match table.action (splitCommand line).1 with
  | .reject => some Action.rejection
  | action =>
    match (action.perform (splitCommand line).2 session).2 with
    | .ok () => none
    | .error failure => some failure.message

/-- An unknown word is remarked on. -/
theorem remark?_of_reject {line : String} (h : table.action (splitCommand line).1 = .reject) :
    session.remark? table line = some Action.rejection := by
  unfold remark?
  rw [h]

/-- There is nothing to remark on a command that does what it was asked for. -/
theorem remark?_of_ok {line : String} (hne : table.action (splitCommand line).1 ≠ .reject)
    (h : ((table.action (splitCommand line).1).perform (splitCommand line).2 session).2 = .ok ()) :
    session.remark? table line = none := by
  unfold remark?
  generalize table.action (splitCommand line).1 = action at hne h
  cases action with
  | reject => exact absurd rfl hne
  | copy | create | delete | update | exit | custom => simp only [h]

/-- The failure of a command is remarked on. -/
theorem remark?_of_error {line : String} {failure : Failure}
    (h : ((table.action (splitCommand line).1).perform (splitCommand line).2 session).2 =
      .error failure) : session.remark? table line = some failure.message := by
  unfold remark?
  generalize table.action (splitCommand line).1 = action at h
  cases action with
  -- telling that there is no such command never fails
  | reject => cases h
  | copy | create | delete | update | exit | custom => simp only [h]

/-- The word and what its command comes to are all that the remark depends on. -/
theorem remark?_congr_of_word {line last : String}
    (hword : (splitCommand last).1 = (splitCommand line).1)
    (h : ((table.action (splitCommand line).1).perform (splitCommand last).2 other).2 =
      ((table.action (splitCommand line).1).perform (splitCommand line).2 session).2) :
    other.remark? table last = session.remark? table line := by
  unfold remark?
  rw [hword]
  generalize table.action (splitCommand line).1 = action at h
  cases action with
  | reject => rfl
  | copy | create | delete | update | exit | custom => simp only [h]

/-- For one line, what its command comes to is all that the remark depends on. -/
theorem remark?_congr {line : String}
    (h : ((table.action (splitCommand line).1).perform (splitCommand line).2 other).2 =
      ((table.action (splitCommand line).1).perform (splitCommand line).2 session).2) :
    other.remark? table line = session.remark? table line :=
  remark?_congr_of_word rfl h

/-- No line of input moves to another directory. -/
theorem directory_dispatch (htable : table.IsBuiltIn) (session : Session) (line : String) :
    (session.dispatch table line).workspace.directory = session.workspace.directory := by
  rw [dispatch_workspace]
  exact (htable.action _).directory_perform _ _

/-- The flag of a session is set by a line whose word asks for the end, and by no other. -/
theorem closing_dispatch (htable : table.IsBuiltIn) (session : Session) (line : String) :
    (session.dispatch table line).workspace.closing = true ↔
      session.workspace.closing = true ∨ table.action (splitCommand line).1 = .exit := by
  rw [dispatch_workspace]
  exact (htable.action _).closing_perform _ _

/-- A line of input writes its remark, if there is one, and nothing else. -/
theorem dispatch_output (htable : table.IsBuiltIn) (session : Session) (line : String) :
    (session.dispatch table line).output =
      match session.remark? table line with
      | none => session.output
      | some remark => (session.output.write (remark ++ "\n")).1 := by
  have hbuiltIn := htable.action (splitCommand line).1
  by_cases hreject : table.action (splitCommand line).1 = .reject
  · have hok : ((table.action (splitCommand line).1).perform (splitCommand line).2 session).2 =
        .ok () := by
      rw [hreject]
      rfl
    rw [remark?_of_reject hreject, dispatch_of_ok hok, hreject, Action.perform, report_output,
      note_output]
  · -- the command itself writes nothing, so it is left to its failure
    have houtput := hbuiltIn.output_perform hreject (splitCommand line).2 session
    cases hresult : ((table.action (splitCommand line).1).perform (splitCommand line).2
      session).2 with
    | ok =>
      rw [remark?_of_ok hreject hresult, dispatch_of_ok hresult]
      exact houtput
    | error failure =>
      rw [remark?_of_error hresult, dispatch_of_error hresult, reportFailure_output, houtput]

/-! ### Two sessions on the same ground -/

/-- Two sessions with the same files and the same directory. -/
structure SameGround (session other : Session) : Prop where
  /-- The files are the same. -/
  files_eq : other.files = session.files
  /-- Relative paths continue the same directory. -/
  directory_eq : other.workspace.directory = session.workspace.directory

namespace SameGround

/-- On the same ground a line of input gets the same remark. -/
theorem remark?_eq (htable : table.IsBuiltIn) (h : session.SameGround other) (line : String) :
    other.remark? table line = session.remark? table line := by
  have hperform := (htable.action (splitCommand line).1).perform_congr (splitCommand line).2
    h.files_eq h.directory_eq
  exact remark?_congr hperform.2

/-- A line of input leaves two sessions on the same ground. -/
theorem dispatch (htable : table.IsBuiltIn) (h : session.SameGround other) (line : String) :
    (session.dispatch table line).SameGround (other.dispatch table line) where
  files_eq := by
    rw [dispatch_files, dispatch_files]
    exact ((htable.action _).perform_congr _ h.files_eq h.directory_eq).1
  directory_eq := by
    rw [directory_dispatch htable, directory_dispatch htable, h.directory_eq]

/-- Any lines of input leave two sessions on the same ground. -/
theorem dispatchAll (htable : table.IsBuiltIn) (h : session.SameGround other)
    (lines : List String) :
    (session.dispatchAll table lines).SameGround (other.dispatchAll table lines) := by
  induction lines generalizing session other with
  | nil => simpa using h
  | cons line lines ih =>
    rw [dispatchAll_cons, dispatchAll_cons]
    exact ih (h.dispatch htable line)

end SameGround

end Session

end TextShell
