import TextShell.Proofs.ReadLoop.Fold
import TextShell.Proofs.Session.HiddenPlaces

/-!
# The history goes unnoticed

The history of a read loop is loaded, added to and saved beside the session, and each of these can
fail. Nothing of this is seen by the commands: two runs with any two history files, in trees that
are equal except for places which the commands keep off, read the same lines, carry out the same
commands and end in the same way.

* `ReadLoop.turns`: the commands that a loop carries out, each with the session in which it does.
* `ReadLoop.exists_accounts_serve`: these are the commands on the lines that it serves.
* `ReadLoop.equalBut_serve`: two runs over the same lines, by induction on these.
* `ReadLoop.runsAlike_withHistory`: two whole runs with different histories.
-/

namespace TextShell

/-! ### Repeated entries -/

/-- An entry is the last one once it was added, so it is not added again. -/
theorem History.add_add (history : History) (line : String) :
    (history.add line).add line = history.add line := by
  by_cases hempty : line = ""
  · simp [add, hempty]
  by_cases hlast : history.entries.getLast? = some line
  · simp [add, hlast]
  -- at least the new entry is kept when the oldest make room
  have hroom : (history.entries ++ [line]).drop (history.entries.length + 1 - capacity) =
      history.entries.drop (history.entries.length + 1 - capacity) ++ [line] := by
    apply List.drop_append_of_le_length
    simp only [capacity]
    omega
  have hentries : (history.add line).entries.getLast? = some line := by
    simp [add, hempty, hlast, hroom]
  rw [add, if_pos (Or.inr hentries)]

namespace ReadLoop

variable {loop : ReadLoop} {line : List UInt8} {lines : List (List UInt8)} {text : String}
  {fault : LineFault} {hidden : Location → Prop} {state other : State}

/-! ### Turns -/

/-- The commands that a loop carries out on lines, each with the session in which it does. -/
def turns (loop : ReadLoop) : List (List UInt8) → State → List (Session × String)
  | [], _ => []
  | line :: others, state =>
    if state.session.workspace.closing then []
    else match Input.read line with
      | .error _ => []
      | .ok text =>
        (Input.commands [line]).map (fun command => ((loop.awaitLine state).session, command)) ++
          loop.turns others (loop.takeLine (loop.awaitLine state) text)

theorem turns_of_closing (h : state.session.workspace.closing = true)
    (lines : List (List UInt8)) : loop.turns lines state = [] := by
  cases lines <;> simp [turns, h]

theorem turns_of_unreadable (h : state.session.workspace.closing = false)
    (hbad : Input.read line = .error fault) (lines : List (List UInt8)) :
    loop.turns (line :: lines) state = [] := by
  simp [turns, h, hbad]

theorem turns_of_text (h : state.session.workspace.closing = false)
    (htext : Input.read line = .ok text) (lines : List (List UInt8)) :
    loop.turns (line :: lines) state =
      (Input.commands [line]).map (fun command => ((loop.awaitLine state).session, command)) ++
        loop.turns lines (loop.takeLine (loop.awaitLine state) text) := by
  simp [turns, h, htext]

/-- A line with a command has the first turn. -/
theorem commands_turns_of_text (h : state.session.workspace.closing = false)
    (htext : Input.read line = .ok text) (lines : List (List UInt8)) :
    (loop.turns (line :: lines) state).map Prod.snd =
      Input.commands [line] ++
        (loop.turns lines (loop.takeLine (loop.awaitLine state) text)).map Prod.snd := by
  simp [turns_of_text h htext, Function.comp_def]

/-- The commands on the lines that a loop has served, and no others, have had their turn, and it has
served all lines that it should. -/
structure Accounts (lines served : List (List UInt8)) (result : Result)
    (commands : List String) : Prop where
  /-- The commands are those on the lines that were served. -/
  commands_eq : commands = Input.commands served
  /-- Every line that was served has a text. -/
  exists_read_eq {line : List UInt8} : line ∈ served → ∃ text, Input.read line = .ok text
  /-- The lines are those that were served and those that are left. -/
  lines_eq : result.fault? = none → lines = served ++ result.unread
  /-- If there is a line between these, it is the one that has no text. -/
  exists_lines_eq {fault : LineFault} : result.fault? = some fault →
    ∃ bad, Input.read bad = .error fault ∧ lines = served ++ bad :: result.unread
  /-- Unless a line has no text, lines are left only in a session that is to end. -/
  exhausted_or_closing : result.fault? = none →
    result.unread = [] ∨ result.state.session.workspace.closing = true

namespace Accounts

variable {served : List (List UInt8)} {result last : Result} {commands : List String}

/-- Nothing is served in a session that is to end. -/
theorem of_closing (h : state.session.workspace.closing = true) (lines : List (List UInt8)) :
    Accounts lines [] { state, unread := lines, fault? := none } [] where
  commands_eq := rfl
  exists_read_eq hline := by simp at hline
  lines_eq _ := rfl
  exists_lines_eq hfault := by cases hfault
  exhausted_or_closing _ := .inr h

/-- Nothing is served where there is no line. -/
theorem of_no_line (state : State) :
    Accounts [] [] { state, unread := [], fault? := none } [] where
  commands_eq := rfl
  exists_read_eq hline := by simp at hline
  lines_eq _ := rfl
  exists_lines_eq hfault := by cases hfault
  exhausted_or_closing _ := .inl rfl

/-- Nothing is served behind a line that has no text. -/
theorem of_unreadable (hbad : Input.read line = .error fault) (lines : List (List UInt8))
    (state : State) :
    Accounts (line :: lines) [] { state, unread := lines, fault? := some fault } [] where
  commands_eq := rfl
  exists_read_eq hline := by simp at hline
  lines_eq hfault := by cases hfault
  exists_lines_eq hfault := ⟨line, Option.some.inj hfault ▸ hbad, rfl⟩
  exhausted_or_closing hfault := by cases hfault

/-- The command on a line that is served comes before those on the lines behind it. -/
theorem cons (htext : Input.read line = .ok text) (h : Accounts lines served result commands) :
    Accounts (line :: lines) (line :: served) result (Input.commands [line] ++ commands) where
  commands_eq := by rw [Input.commands_cons line served, h.commands_eq]
  exists_read_eq hline := by
    rcases List.mem_cons.mp hline with rfl | hline
    · exact ⟨text, htext⟩
    · exact h.exists_read_eq hline
  lines_eq hfault := by rw [h.lines_eq hfault, List.cons_append]
  exists_lines_eq hfault := by
    obtain ⟨bad, hbad, hlines⟩ := h.exists_lines_eq hfault
    exact ⟨bad, hbad, by rw [hlines, List.cons_append]⟩
  exhausted_or_closing := h.exhausted_or_closing

/-- The files and the history are no part of the account. -/
theorem congr (h : Accounts lines served result commands) (hunread : last.unread = result.unread)
    (hfault : last.fault? = result.fault?)
    (hworkspace : last.state.session.workspace = result.state.session.workspace) :
    Accounts lines served last commands where
  commands_eq := h.commands_eq
  exists_read_eq := h.exists_read_eq
  lines_eq := by
    rw [hunread, hfault]
    exact h.lines_eq
  exists_lines_eq := by
    rw [hunread, hfault]
    exact h.exists_lines_eq
  exhausted_or_closing := by
    rw [hunread, hfault, hworkspace]
    exact h.exhausted_or_closing

end Accounts

/-- The session that waits for a line. -/
def awaiting (loop : ReadLoop) (session : Session) : Session :=
  (loop.awaitLine { session, history := .empty }).session

/-- The session after a line, whose command is carried out if it has one. -/
def afterLine (loop : ReadLoop) (session : Session) (line : List UInt8) : Session :=
  (loop.awaiting session).dispatchAll loop.table (Input.commands [line])

/-- The session after lines. It waits for one more unless it is to end. -/
def afterLines (loop : ReadLoop) (session : Session) (served : List (List UInt8)) : Session :=
  let last := served.foldl loop.afterLine session
  if last.workspace.closing then last else loop.awaiting last

theorem session_awaitLine (loop : ReadLoop) (state : State) :
    (loop.awaitLine state).session = loop.awaiting state.session := by
  unfold awaiting awaitLine
  split <;> rfl

theorem afterLines_cons (loop : ReadLoop) (session : Session) (line : List UInt8)
    (served : List (List UInt8)) :
    loop.afterLines session (line :: served) =
      loop.afterLines (loop.afterLine session line) served := rfl

theorem afterLines_nil_of_closing {session : Session} (h : session.workspace.closing = true) :
    loop.afterLines session [] = session := by
  simp [afterLines, h]

theorem afterLines_nil_of_open {session : Session} (h : session.workspace.closing = false) :
    loop.afterLines session [] = loop.awaiting session := by
  simp [afterLines, h]

/-- The commands that have their turn are those on the lines that are served, and the session is
what comes of carrying out all of them. -/
theorem exists_accounts_serve (loop : ReadLoop) (lines : List (List UInt8)) (state : State) :
    ∃ served,
      Accounts lines served (loop.serve lines state) ((loop.turns lines state).map Prod.snd) ∧
        (loop.serve lines state).state.session = loop.afterLines state.session served := by
  -- the lines behind the first are served from whatever state this one leads to
  induction lines generalizing state with
  | nil =>
    cases hopen : state.session.workspace.closing with
    | true =>
      rw [loop.serve_of_closing hopen]
      exact ⟨[], .of_closing hopen [], (afterLines_nil_of_closing hopen).symm⟩
    | false =>
      rw [loop.serve_of_no_line hopen]
      refine ⟨[], .of_no_line _, ?_⟩
      rw [afterLines_nil_of_open hopen, session_awaitLine]
  | cons line others ih =>
    cases hopen : state.session.workspace.closing with
    | true =>
      rw [loop.serve_of_closing hopen, turns_of_closing hopen]
      exact ⟨[], .of_closing hopen (line :: others), (afterLines_nil_of_closing hopen).symm⟩
    | false =>
      cases htext : Input.read line with
      | error fault =>
        rw [loop.serve_of_unreadable hopen htext, turns_of_unreadable hopen htext]
        refine ⟨[], .of_unreadable htext others _, ?_⟩
        rw [afterLines_nil_of_open hopen, session_awaitLine]
      | ok text =>
        obtain ⟨served, hserved, hsession⟩ := ih (loop.takeLine (loop.awaitLine state) text)
        rw [loop.serve_of_text hopen htext, commands_turns_of_text hopen htext]
        refine ⟨line :: served, hserved.cons htext, ?_⟩
        rw [hsession, session_takeLine loop _ htext, session_awaitLine, afterLines_cons]
        rfl

/-- Taking in a line adds the command on it to the history. -/
theorem history_takeLine (htext : Input.read line = .ok text) :
    (loop.takeLine state text).history =
      (Input.commands [line]).foldl History.add state.history := by
  rw [Input.commands_singleton htext, takeLine]
  split <;> rfl

@[simp]
theorem history_awaitLine (loop : ReadLoop) (state : State) :
    (loop.awaitLine state).history = state.history := by
  unfold awaitLine
  split <;> rfl

/-- The history takes in every command that has its turn. -/
theorem history_serve (loop : ReadLoop) (lines : List (List UInt8)) (state : State) :
    (loop.serve lines state).state.history =
      ((loop.turns lines state).map Prod.snd).foldl History.add state.history := by
  induction lines generalizing state with
  | nil => cases hopen : state.session.workspace.closing <;> simp [serve, turns, hopen]
  | cons line others ih =>
    cases hopen : state.session.workspace.closing with
    | true =>
      rw [loop.serve_of_closing hopen, turns_of_closing hopen]
      rfl
    | false =>
      cases htext : Input.read line with
      | error fault =>
        rw [loop.serve_of_unreadable hopen htext, turns_of_unreadable hopen htext]
        exact history_awaitLine loop state
      | ok text =>
        rw [loop.serve_of_text hopen htext, commands_turns_of_text hopen htext, ih,
          history_takeLine htext, history_awaitLine, List.foldl_append]

/-! ### Two runs over the same lines -/

/-- Two ends of a loop that differ in the files at hidden places and in the history. -/
structure Result.EqualBut (hidden : Location → Prop) (result last : Result) : Prop where
  /-- The sessions differ in no more than hidden places. -/
  session_equalBut : result.state.session.EqualBut hidden last.state.session
  /-- The same lines are left. -/
  unread_eq : last.unread = result.unread
  /-- Both loops have come to a line that has no text for the same reason, or neither has. -/
  fault?_eq : last.fault? = result.fault?

theorem equalBut_awaitLine (loop : ReadLoop)
    (h : state.session.EqualBut hidden other.session) :
    (loop.awaitLine state).session.EqualBut hidden (loop.awaitLine other).session := by
  unfold awaitLine
  split
  next =>
    have hnoted := h.note .lineReader .debug "unsupported terminal"
    exact ⟨hnoted.files_equalBut, hnoted.workspace_eq, by simp only [hnoted.output_eq]⟩
  next => exact h.note _ _ _

theorem equalBut_takeLine (h : state.session.EqualBut hidden other.session)
    (htext : Input.read line = .ok text)
    (hoff : ∀ command ∈ Input.commands [line],
      state.session.KeepsOff hidden loop.table command) :
    (loop.takeLine state text).session.EqualBut hidden (loop.takeLine other text).session := by
  rw [session_takeLine loop state htext, session_takeLine loop other htext]
  rw [Input.commands_singleton htext] at hoff ⊢
  -- a blank line is passed over in both runs
  by_cases hblank : Text.isBlankText text = true
  · rw [if_pos hblank, Session.dispatchAll_nil, Session.dispatchAll_nil]
    exact h
  · rw [if_neg hblank] at hoff ⊢
    rw [Session.dispatchAll_cons, Session.dispatchAll_cons, Session.dispatchAll_nil,
      Session.dispatchAll_nil]
    exact h.dispatch (hoff text (List.mem_singleton_self text))

/-- Whatever the histories are, commands that keep off the hidden places have their turn in both
runs or in neither, and the runs end in the same way. -/
theorem equalBut_serve (loop : ReadLoop) (h : state.session.EqualBut hidden other.session)
    (hoff : ∀ turn ∈ loop.turns lines state, turn.1.KeepsOff hidden loop.table turn.2) :
    (loop.turns lines other).map Prod.snd = (loop.turns lines state).map Prod.snd ∧
      (loop.serve lines state).EqualBut hidden (loop.serve lines other) := by
  -- the sessions share the flag that decides whether a line is read, and a line that keeps off the
  -- hidden places leaves them alike; the histories may go on to differ
  induction lines generalizing state other with
  | nil =>
    refine ⟨rfl, ?_⟩
    cases hopen : state.session.workspace.closing with
    | true =>
      rw [loop.serve_of_closing hopen, loop.serve_of_closing (by rwa [h.workspace_eq])]
      exact ⟨h, rfl, rfl⟩
    | false =>
      rw [loop.serve_of_no_line hopen, loop.serve_of_no_line (by rwa [h.workspace_eq])]
      exact ⟨loop.equalBut_awaitLine h, rfl, rfl⟩
  | cons line others ih =>
    cases hopen : state.session.workspace.closing with
    | true =>
      have hother : other.session.workspace.closing = true := by rwa [h.workspace_eq]
      rw [loop.serve_of_closing hopen, loop.serve_of_closing hother, turns_of_closing hopen,
        turns_of_closing hother]
      exact ⟨rfl, h, rfl, rfl⟩
    | false =>
      have hother : other.session.workspace.closing = false := by rwa [h.workspace_eq]
      have hawait := loop.equalBut_awaitLine h
      cases htext : Input.read line with
      | error fault =>
        rw [loop.serve_of_unreadable hopen htext, loop.serve_of_unreadable hother htext,
          turns_of_unreadable hopen htext, turns_of_unreadable hother htext]
        exact ⟨rfl, hawait, rfl, rfl⟩
      | ok text =>
        rw [turns_of_text hopen htext, List.forall_mem_append, List.forall_mem_map] at hoff
        obtain ⟨hline, hothers⟩ := hoff
        have htake := equalBut_takeLine hawait htext hline
        obtain ⟨hcommands, hserve⟩ := ih htake hothers
        rw [loop.serve_of_text hopen htext, loop.serve_of_text hother htext,
          commands_turns_of_text hopen htext, commands_turns_of_text hother htext, hcommands]
        exact ⟨rfl, hserve⟩

/-! ### Two whole runs -/

/-- The loop with another history file, or with none. -/
def withHistory (loop : ReadLoop) (path? : Option String) : ReadLoop :=
  { loop with historyPath? := path? }

theorem serve_withHistory (loop : ReadLoop) (path? : Option String) (lines : List (List UInt8))
    (state : State) : (loop.withHistory path?).serve lines state = loop.serve lines state := by
  -- the path is looked at before and after the loop, and never within
  induction lines generalizing state with
  | nil => rfl
  | cons line others ih =>
    unfold serve
    split
    next => rfl
    next =>
      split
      next => rfl
      next => exact ih _

theorem turns_withHistory (loop : ReadLoop) (path? : Option String) (lines : List (List UInt8))
    (state : State) : (loop.withHistory path?).turns lines state = loop.turns lines state := by
  induction lines generalizing state with
  | nil => rfl
  | cons line others ih =>
    unfold turns
    split
    next => rfl
    next =>
      split
      next => rfl
      next => exact congrArg (_ ++ ·) (ih _)

/-- The state in which a run begins to read lines. -/
def startState (loop : ReadLoop) (session : Session) : State :=
  loop.loadHistory (makeReady session)

/-- The commands that a run carries out. -/
def dispatched (loop : ReadLoop) (session : Session) (input : List UInt8) : List String :=
  (loop.turns (Input.lines input) (loop.startState session)).map Prod.snd

/-- The place that the history is written to at the end of a run, if there is a file for it. -/
def savePlace? (loop : ReadLoop) (session : Session) (input : List UInt8) : Option Location :=
  loop.historyPath?.bind
    (loop.serve (Input.lines input) (loop.startState session)).state.session.files.openPlace?

/-- Loading the history leaves the session as it was, but for notes. -/
theorem equalBut_startState (loop : ReadLoop) (session : Session) :
    session.EqualBut hidden (loop.startState session).session := by
  obtain ⟨hfresh, houtput⟩ := loop.session_loadHistory (makeReady session)
  have hfiles : (loop.startState session).session.files = session.files :=
    Session.files_eq_of_fresh hfresh
  refine ⟨?_, Session.workspace_eq_of_fresh hfresh, houtput⟩
  rw [hfiles]
  exact .refl session.files

/-- The history of a run takes in every command that is carried out. -/
theorem history_run (loop : ReadLoop) (session : Session) (input : List UInt8) :
    (loop.run session input).state.history =
      (loop.dispatched session input).foldl History.add (loop.startState session).history := by
  have hserve := loop.history_serve (Input.lines input) (loop.startState session)
  unfold run
  dsimp only
  rw [← startState]
  split
  next =>
    unfold saveHistory
    split
    next => exact hserve
    next => split <;> exact hserve
  next => exact hserve

/-- Saving the history changes no more than the place that it is written to. -/
theorem equalBut_run (loop : ReadLoop) (session : Session) (input : List UInt8) :
    (loop.serve (Input.lines input) (loop.startState session)).EqualBut
      (fun place => loop.savePlace? session input = some place) (loop.run session input) := by
  obtain ⟨result, hresult, hunread, hfault, hworkspace, houtput, hfiles, -⟩ :=
    loop.run_eq session input
  rw [← startState] at hresult
  rw [← hresult]
  refine ⟨⟨?_, hworkspace, houtput⟩, hunread, hfault⟩
  obtain hsame | ⟨path, place, content, hpath, hplace, hsaved⟩ := hfiles
  · rw [hsame]
    exact .refl _
  · rw [hsaved]
    have hsave : loop.savePlace? session input = some place := by
      rw [savePlace?, ← hresult, hpath]
      exact hplace
    exact .put_hidden hsave (FileSystem.ne_nil_of_openPlace? hplace) _

/-- Two runs over the same input come to the same, except for what is in hidden places and what is
in the places that the histories are written to. -/
structure RunsAlike (hidden : Location → Prop) (loop last : ReadLoop) (session other : Session)
    (input : List UInt8) : Prop where
  /-- The same commands are carried out, in the same order. -/
  dispatched_eq : last.dispatched other input = loop.dispatched session input
  /-- The same lines are left. -/
  unread_eq : (last.run other input).unread = (loop.run session input).unread
  /-- Both runs fail at a line that has no text for the same reason, or neither does. -/
  fault?_eq : (last.run other input).fault? = (loop.run session input).fault?
  /-- Both sessions have been asked to end, or neither has, and relative paths start in the same
  directory. -/
  workspace_eq : (last.run other input).state.session.workspace =
    (loop.run session input).state.session.workspace
  /-- The same is written. -/
  output_eq : (last.run other input).state.session.output =
    (loop.run session input).state.session.output
  /-- The files are the same in every other place. -/
  files_equalBut : (loop.run session input).state.session.files.EqualBut
    (fun place => hidden place ∨ loop.savePlace? session input = some place ∨
      last.savePlace? other input = some place) (last.run other input).state.session.files

/-- The history makes no difference to a run whose commands keep off the places in which the trees
differ: not which file it is kept in, if any, and not what this file holds, whether it can be read
and whether it can be written. Every command that is read is carried out, so that the session comes
of all of them, also of one that is entered twice in a row and stands in the history once. -/
theorem runsAlike_withHistory (loop : ReadLoop) (path? : Option String) {session other : Session}
    (input : List UInt8) (h : session.EqualBut hidden other)
    (hoff : ∀ turn ∈ loop.turns (Input.lines input) (loop.startState session),
      turn.1.KeepsOff hidden loop.table turn.2) :
    RunsAlike hidden loop (loop.withHistory path?) session other input ∧
      (∃ served, Accounts (Input.lines input) served (loop.run session input)
          (loop.dispatched session input) ∧
        (loop.afterLines (loop.startState session).session served).EqualBut
          (fun place => loop.savePlace? session input = some place)
          (loop.run session input).state.session) ∧
      ∀ before text after, loop.dispatched session input = before ++ text :: text :: after →
        (loop.run session input).state.history =
          (before ++ text :: after).foldl History.add (loop.startState session).history := by
  have hstart : (loop.startState session).session.EqualBut hidden
      ((loop.withHistory path?).startState other).session :=
    (loop.equalBut_startState session).symm.trans
      (h.trans ((loop.withHistory path?).equalBut_startState other))
  obtain ⟨hcommands, hserve⟩ := loop.equalBut_serve hstart hoff
  -- from the ends of the loops to those of the runs only the histories are saved
  have hsave := loop.equalBut_run session input
  have hlast := (loop.withHistory path?).equalBut_run other input
  rw [serve_withHistory] at hlast
  refine ⟨?_, ?_, ?_⟩
  · exact
      { dispatched_eq := by rw [dispatched, dispatched, turns_withHistory, hcommands]
        unread_eq := by rw [hlast.unread_eq, hserve.unread_eq, hsave.unread_eq]
        fault?_eq := by rw [hlast.fault?_eq, hserve.fault?_eq, hsave.fault?_eq]
        workspace_eq := by
          rw [hlast.session_equalBut.workspace_eq, hserve.session_equalBut.workspace_eq,
            hsave.session_equalBut.workspace_eq]
        output_eq := by
          rw [hlast.session_equalBut.output_eq, hserve.session_equalBut.output_eq,
            hsave.session_equalBut.output_eq]
        files_equalBut :=
          (hsave.session_equalBut.files_equalBut.symm.mono fun _ hplace => .inr (.inl hplace)).trans
            ((hserve.session_equalBut.files_equalBut.mono fun _ hplace => .inl hplace).trans
              (hlast.session_equalBut.files_equalBut.mono fun _ hplace => .inr (.inr hplace))) }
  · obtain ⟨served, hserved, hsession⟩ :=
      loop.exists_accounts_serve (Input.lines input) (loop.startState session)
    refine ⟨served, hserved.congr hsave.unread_eq hsave.fault?_eq
      hsave.session_equalBut.workspace_eq, ?_⟩
    rw [← hsession]
    exact hsave.session_equalBut
  · intro before text after hrepeated
    rw [history_run, hrepeated]
    simp only [List.foldl_append, List.foldl_cons, History.add_add]

/-- A history that cannot be read because a directory is in its place, and one that is no text: the
line that is entered twice is carried out twice in both runs. -/
theorem runsAlike_withHistory_directory :
    let hidden : Location → Prop := fun place => ["h"] <:+ place
    let loop : ReadLoop :=
      { table := .standard, prompt := "> ", historyPath? := some "/h", terminal := "xterm" }
    let session := Session.start (FileSystem.empty.put ["h"] .directory) "/"
    let other := Session.start (FileSystem.empty.put ["h"] (.file ⟨#[255]⟩)) "/"
    let input := ("create -f \"a.txt\" \"x\"\nupdate -f \"a.txt\" -a \"y\"\n" ++
      "update -f \"a.txt\" -a \"y\"\nexit\n").toUTF8.data.toList
    RunsAlike hidden loop (loop.withHistory (some "/h")) session other input ∧
      (loop.dispatched session input).count "update -f \"a.txt\" -a \"y\"" = 2 ∧
      (loop.run session input).state.session.files.readText "/a.txt" = .ok "x\ny\ny\n" := by
  intro hidden loop session other input
  have hfiles : session.files.EqualBut hidden other.files := by
    have hplace : hidden ["h"] := List.suffix_rfl
    have hdirectory : FileSystem.empty.EqualBut hidden session.files :=
      .put_hidden hplace (List.cons_ne_nil _ _) _
    exact hdirectory.symm.trans (.put_hidden hplace (List.cons_ne_nil _ _) _)
  have hplaces : ∀ turn ∈ loop.turns (Input.lines input) (loop.startState session),
      ∀ place ∈ (loop.table.action (splitCommand turn.2).1).trail (splitCommand turn.2).2 turn.1,
        ¬ ["h"] <:+ place := by
    decide +kernel
  have hrun := runsAlike_withHistory loop (some "/h") input ⟨hfiles, rfl, rfl⟩ fun turn hturn =>
    .of_trail CommandTable.isBuiltIn_standard (hplaces turn hturn)
  exact ⟨hrun.1, by decide +kernel, by decide +kernel⟩

end ReadLoop

end TextShell
