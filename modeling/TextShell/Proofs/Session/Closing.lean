import TextShell.Proofs.Session.BuiltIn

/-!
# The end of a session

Whether a session is to end is a flag that built-in commands set and never look at. It is set from
the first line on whose word is bound to ending the session, under whatever name, and the lines
after that are carried out as if it were not.

* `Session.closing_dispatchAll`: what sets the flag in a run.
* `Session.SameGround.output_dispatchAll`: what two sessions on the same ground write.
* `Session.dispatchAll_closing_iff`: directory, flag and independence of the flag together.
-/

namespace TextShell.Session

variable {table : CommandTable} {session other : Session}

/-- No lines of input move to another directory. -/
theorem directory_dispatchAll (htable : table.IsBuiltIn) (session : Session) (lines : List String) :
    (session.dispatchAll table lines).workspace.directory = session.workspace.directory := by
  induction lines generalizing session with
  | nil => rw [dispatchAll_nil]
  | cons line lines ih => rw [dispatchAll_cons, ih, directory_dispatch htable]

/-- After a run the flag is set if it was so before or if the word of some line asks for the end. -/
theorem closing_dispatchAll (htable : table.IsBuiltIn) (session : Session) (lines : List String) :
    (session.dispatchAll table lines).workspace.closing = true ↔
      session.workspace.closing = true ∨
        ∃ line ∈ lines, table.action (splitCommand line).1 = .exit := by
  induction lines generalizing session with
  | nil => simp
  | cons line lines ih =>
    -- the first line has set it, or one of the others does
    rw [dispatchAll_cons, ih, closing_dispatch htable, or_assoc]
    simp only [List.mem_cons, exists_eq_or_imp]

/-- Two sessions on the same ground with the same output write the same. -/
theorem SameGround.output_dispatchAll (htable : table.IsBuiltIn) (h : session.SameGround other)
    (houtput : other.output = session.output) (lines : List String) :
    (other.dispatchAll table lines).output = (session.dispatchAll table lines).output := by
  induction lines generalizing session other with
  | nil => simpa using houtput
  | cons line lines ih =>
    rw [dispatchAll_cons, dispatchAll_cons]
    apply ih (h.dispatch htable line)
    -- the remark on the line is the same, and so is the output that it is written to
    rw [dispatch_output htable, dispatch_output htable, h.remark?_eq htable, houtput]

/-- The word of a line asks for the end exactly if the line splits into such a word and any
arguments. -/
theorem action_eq_exit_iff (line : String) :
    table.action (splitCommand line).1 = .exit ↔
      ∃ word arguments, Splits line word arguments ∧ table.action word = .exit := by
  constructor
  · intro h
    exact ⟨_, _, splits_splitCommand line, h⟩
  · rintro ⟨word, arguments, hsplits, h⟩
    rw [hsplits.splitCommand_eq]
    exact h

/-- In a session that is open at first, with any table made of built-in actions, any lines of input
leave the directory as it is, and the session is to end exactly if some line begins with a word that
the table binds to ending it, whatever follows the word. The flag is of no influence: two sessions
that have files, directory and output in common, so that they may differ in the flag, have the same
files and have written the same after any further lines. -/
theorem dispatchAll_closing_iff (htable : table.IsBuiltIn) (session : Session)
    (hopen : session.workspace.closing = false) (lines : List String) :
    (session.dispatchAll table lines).workspace.directory = session.workspace.directory ∧
      ((session.dispatchAll table lines).workspace.closing = true ↔
        ∃ line ∈ lines, ∃ word arguments,
          Splits line word arguments ∧ table.action word = .exit) ∧
      ∀ here other : Session, here.SameGround other → other.output = here.output →
        ∀ further,
          (other.dispatchAll table further).files = (here.dispatchAll table further).files ∧
          (other.dispatchAll table further).output = (here.dispatchAll table further).output := by
  refine ⟨directory_dispatchAll htable session lines, ?_, ?_⟩
  · -- the flag was not set before, so some line has set it
    have hflag := closing_dispatchAll htable session lines
    simp only [hopen, Bool.false_eq_true, false_or, action_eq_exit_iff] at hflag
    exact hflag
  · intro here other hground houtput further
    have hafter := hground.dispatchAll htable further
    exact ⟨hafter.files_eq, hground.output_dispatchAll htable houtput further⟩

/-- In a table that has its exit under the name of deleting, and first had it under its own, the
session ends on `delete`, while `exit` is an unknown word; the lines after that are carried out. -/
theorem dispatchAll_closing_iff_rebound :
    let table := ((CommandTable.empty.bind .exit .exit).bind .delete .exit).bind .exit .reject
    let session := Session.start FileSystem.empty "/"
    let closed := { session with workspace := { session.workspace with closing := true } }
    (session.dispatchAll table ["exit", "create -f \"a.txt\""]).workspace.closing = false ∧
      (session.dispatchAll table ["exit", "Delete now"]).workspace.closing = true ∧
      (closed.dispatchAll table ["exit"]).output = (session.dispatchAll table ["exit"]).output := by
  intro table session closed
  have htable : table.IsBuiltIn :=
    ((CommandTable.IsBuiltIn.empty.bind .exit).bind .exit).bind .reject
  have hrun := dispatchAll_closing_iff htable session rfl
  refine ⟨?_, ?_, ?_⟩
  · -- neither word of these lines is bound to ending the session
    have hflag := (hrun ["exit", "create -f \"a.txt\""]).2.1
    rw [← Bool.not_eq_true, hflag]
    rintro ⟨line, hline, word, arguments, hsplits, hexit⟩
    obtain rfl : word = (splitCommand line).1 := by rw [hsplits.splitCommand_eq]
    obtain rfl | hline := List.mem_cons.mp hline
    · have hverb : Verb.ofWord? (splitCommand "exit").1 = some .exit := by decide +kernel
      have haction : table.action (splitCommand "exit").1 = .reject := by
        rw [CommandTable.action, CommandTable.action?, hverb]
        rfl
      rw [haction] at hexit
      cases hexit
    · obtain rfl := List.mem_singleton.mp hline
      have hverb : Verb.ofWord? (splitCommand "create -f \"a.txt\"").1 = some .create := by
        decide +kernel
      have haction : table.action (splitCommand "create -f \"a.txt\"").1 = .reject := by
        rw [CommandTable.action, CommandTable.action?, hverb]
        rfl
      rw [haction] at hexit
      cases hexit
  · rw [(hrun ["exit", "Delete now"]).2.1]
    refine ⟨"Delete now", by simp, "Delete", "now", ⟨by decide, .inl rfl⟩, ?_⟩
    have hverb : Verb.ofWord? "Delete" = some .delete := by decide +kernel
    rw [CommandTable.action, CommandTable.action?, hverb]
    rfl
  · exact ((hrun []).2.2 session closed ⟨rfl, rfl⟩ rfl ["exit"]).2

end TextShell.Session
