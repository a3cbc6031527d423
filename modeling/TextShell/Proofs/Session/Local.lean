import TextShell.Session.Dispatch

/-!
# Commands and the past

What a command does is settled by the files, the workspace and the refusals still to come. What was
written and noted before makes no difference to it and is kept, so two sessions that differ in no
more than that go on in the same way.

* `Session.IsLocal`: a step that goes on from the session as it finds it.
* `Session.isLocal_dispatch`, `Session.isLocal_dispatchAll`: lines of input are such steps, for any
  table of commands.
* `Session.IsLocal.fresh_congr`: sessions that look the same go on to look the same.
-/

namespace TextShell.Session

/-- A step that does the same to a session as to a fresh one, and adds what it writes and notes to
what is there. -/
def IsLocal (step : Session → Session) : Prop :=
  ∀ session, step session = session.append (step session.fresh)

/-! ### Fresh sessions -/

@[simp]
theorem fresh_files (session : Session) : session.fresh.files = session.files := rfl

@[simp]
theorem fresh_workspace (session : Session) : session.fresh.workspace = session.workspace := rfl

@[simp]
theorem fresh_output (session : Session) : session.fresh.output = session.output.fresh := rfl

@[simp]
theorem fresh_fresh (session : Session) : session.fresh.fresh = session.fresh := by
  simp [fresh]

@[simp]
theorem append_fresh (session : Session) : session.append session.fresh = session := by
  simp [append, fresh]

theorem append_assoc (session later last : Session) :
    (session.append later).append last = session.append (later.append last) := by
  simp [append, Output.append_assoc, Array.append_assoc]

/-- Nothing is lost when a session goes on from a fresh one. -/
theorem append_fresh_append (session later : Session) :
    session.append (session.fresh.append later) = session.append later := by
  rw [← append_assoc, append_fresh]

/-- Two sessions that look the same look the same after they have gone on in the same way. -/
theorem fresh_append_congr {session other : Session} (later : Session)
    (h : session.fresh = other.fresh) :
    (session.append later).fresh = (other.append later).fresh := by
  have houtput : session.output.fresh = other.output.fresh := congrArg output h
  simp only [append, fresh, Output.fresh_append_congr later.output houtput]

theorem files_eq_of_fresh {session other : Session} (h : session.fresh = other.fresh) :
    session.files = other.files := by
  rw [← fresh_files session, h, fresh_files]

theorem workspace_eq_of_fresh {session other : Session} (h : session.fresh = other.fresh) :
    session.workspace = other.workspace := by
  rw [← fresh_workspace session, h, fresh_workspace]

/-- Sessions look the same when they agree in the files, the workspace and the refusals to come. -/
theorem fresh_congr {session other : Session} (hfiles : session.files = other.files)
    (hworkspace : session.workspace = other.workspace)
    (houtput : session.output.fresh = other.output.fresh) : session.fresh = other.fresh := by
  simp only [fresh, hfiles, hworkspace, houtput]

/-! ### Local steps -/

namespace IsLocal

variable {step next : Session → Session}

theorem id : IsLocal fun session => session := fun session => (append_fresh session).symm

/-- Sessions that look the same still do after the same step. -/
theorem fresh_congr (h : IsLocal step) {session other : Session}
    (hfresh : session.fresh = other.fresh) : (step session).fresh = (step other).fresh := by
  rw [h session, h other, hfresh]
  exact fresh_append_congr _ hfresh

/-- A step after another is one step. -/
theorem comp (hnext : IsLocal next) (hstep : IsLocal step) :
    IsLocal fun session => next (step session) := by
  intro session
  -- what the second step finds looks as if the first had begun afresh
  have hfresh : (step session).fresh = (step session.fresh).fresh :=
    hstep.fresh_congr session.fresh_fresh.symm
  calc next (step session)
    _ = (step session).append (next (step session).fresh) := hnext _
    _ = (session.append (step session.fresh)).append (next (step session.fresh).fresh) := by
      rw [hfresh, ← hstep session]
    _ = session.append ((step session.fresh).append (next (step session.fresh).fresh)) :=
      append_assoc ..
    _ = session.append (next (step session.fresh)) := by rw [← hnext]

/-- A step adds to the output what it writes to a fresh one. -/
theorem written_eq (h : IsLocal step) (session : Session) :
    (step session).output.written =
      session.output.written ++ (step session.fresh).output.written := by
  rw [h session]
  rfl

/-- A step does not change which attempts are refused. -/
theorem refusal?_eq (h : IsLocal step) (session : Session) :
    (step session).output.refusal? = session.output.refusal? := by
  rw [h session]
  rfl

end IsLocal

theorem isLocal_note (origin : Origin) (level : Level) (text : String) :
    IsLocal fun session => session.note origin level text := by
  intro session
  simp [note, append, fresh]

theorem isLocal_report (origin : Origin) (line : String) :
    IsLocal fun session => session.report origin line := by
  intro session
  show session.report origin line = session.append (session.fresh.report origin line)
  unfold report
  rw [Output.write_fresh session.output, fresh_output]
  cases session.output.fresh.write (line ++ "\n") with
  | mk output refused? =>
    cases refused? with
    | none => simp [append, fresh]
    | some reason => simp [append, fresh, note]

theorem isLocal_reportFailure (word : String) (failure : Failure) :
    IsLocal fun session => session.reportFailure word failure :=
  (isLocal_report _ _).comp (isLocal_note _ _ _)

/-! ### Lines of input -/

/-- What a file command brings about is settled by the directory and the files. -/
theorem conclude_eq_append (session : Session) (outcome : Outcome) :
    (Action.conclude session outcome).1 =
      session.append (Action.conclude session.fresh outcome).1 := by
  simp [Action.conclude, append, fresh, ← Array.toList_inj]

/-- An action sees no past, whatever a shell is extended by. -/
theorem isLocal_perform (action : Action) (arguments : String) :
    IsLocal fun session => (action.perform arguments session).1 := by
  cases action with
  -- what the files and the directory settle is the same for a fresh session
  | copy | create | delete | update => exact fun session => conclude_eq_append session _
  | exit =>
    intro session
    simp [Action.perform, note, append, fresh]
  | reject => exact (isLocal_report _ _).comp (isLocal_note _ _ _)
  | custom perform =>
    intro session
    show session.append (perform arguments session.fresh).1 =
      session.append (session.fresh.append (perform arguments session.fresh.fresh).1)
    rw [append_fresh_append, fresh_fresh]

/-- Whether an action fails, and how, is not a matter of the past either. -/
theorem perform_fresh (action : Action) (arguments : String) (session : Session) :
    (action.perform arguments session.fresh).2 = (action.perform arguments session).2 := by
  cases action with
  | custom perform =>
    show (perform arguments session.fresh.fresh).2 = (perform arguments session.fresh).2
    rw [fresh_fresh]
  | copy | create | delete | update | exit | reject => rfl

/-- A line of input is carried out without regard to what was written and noted before it. -/
theorem isLocal_dispatch (table : CommandTable) (line : String) :
    IsLocal fun session => session.dispatch table line := by
  intro session
  show session.dispatch table line = session.append (session.fresh.dispatch table line)
  -- the command fails in both sessions or in none
  have hafter := isLocal_perform (table.action (splitCommand line).1) (splitCommand line).2
  have hfresh := perform_fresh (table.action (splitCommand line).1) (splitCommand line).2 session
  cases hresult : ((table.action (splitCommand line).1).perform (splitCommand line).2 session).2 with
  | ok =>
    rw [dispatch_of_ok hresult, dispatch_of_ok (hfresh.trans hresult)]
    exact hafter session
  | error failure =>
    rw [dispatch_of_error hresult, dispatch_of_error (hfresh.trans hresult)]
    exact (isLocal_reportFailure (splitCommand line).1 failure).comp hafter session

/-- So are any lines one after the other. -/
theorem isLocal_dispatchAll (table : CommandTable) (lines : List String) :
    IsLocal fun session => session.dispatchAll table lines := by
  induction lines with
  | nil => simpa using IsLocal.id
  | cons line lines ih =>
    simp only [dispatchAll_cons]
    exact ih.comp (isLocal_dispatch table line)

end TextShell.Session
