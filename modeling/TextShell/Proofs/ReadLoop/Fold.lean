import TextShell.Proofs.FileSystem.Effect
import TextShell.Proofs.ReadLoop.Serving
import TextShell.Proofs.Session.Local

/-!
# The read loop as a fold

The loop carries out the commands on the lines of its input one after the other, as they would be
without it. Prompts, notes and the history make no difference to them.

* `ReadLoop.transcript`: what the loop writes.
* `ReadLoop.exists_agrees_serve`: the loop from any state, by induction on the lines.
* `ReadLoop.exists_isFold_run`: a whole run, with its output and files.
-/

namespace TextShell.ReadLoop

variable {session : Session} {line : List UInt8} {lines served unread : List (List UInt8)}
  {fault? : Option LineFault} {fault : LineFault} {text : String}

/-! ### Prompts -/

/-- What is shown before a line is read. -/
def shownPrompt (loop : ReadLoop) : String := if loop.isPlain then loop.prompt else ""

/-- What the loop writes while it serves lines: the prompt and what the command writes for each of
them, and the prompt for one line more unless the session is to end. -/
def transcript (loop : ReadLoop) (session : Session) : List (List UInt8) → String
  | [] => if session.workspace.closing then "" else loop.shownPrompt
  | line :: others =>
    loop.shownPrompt ++
      (session.fresh.dispatchAll loop.table (Input.commands [line])).output.written ++
      loop.transcript (session.dispatchAll loop.table (Input.commands [line])) others

/-- Without prompts the loop writes what the commands write. -/
theorem written_dispatchAll (loop : ReadLoop) (hplain : loop.isPlain = false) (session : Session)
    (served : List (List UInt8)) :
    (session.dispatchAll loop.table (Input.commands served)).output.written =
      session.output.written ++ loop.transcript session served := by
  induction served generalizing session with
  | nil => simp [Input.commands, transcript, shownPrompt, hplain]
  | cons line served ih =>
    rw [Input.commands_cons, Session.dispatchAll_append, ih,
      (Session.isLocal_dispatchAll loop.table (Input.commands [line])).written_eq session]
    simp [transcript, shownPrompt, hplain, String.append_assoc]

/-- Getting ready to read a line shows the prompt and makes no other difference to a command. -/
theorem fresh_awaitLine (loop : ReadLoop) (state : State)
    (h : loop.isPlain = true → state.session.output.IsAccepting) :
    (loop.awaitLine state).session.fresh = state.session.fresh := by
  unfold awaitLine
  split
  next hplain =>
    -- an output that takes every message looks the same after one
    refine Session.fresh_congr rfl rfl ?_
    have hafter : (state.session.output.write loop.prompt).1.IsAccepting := by
      intro attempt
      rw [Output.write_refusal?, h hplain]
    exact hafter.fresh_eq.trans (h hplain).fresh_eq.symm
  next => rfl

theorem written_awaitLine (loop : ReadLoop) (state : State)
    (h : loop.isPlain = true → state.session.output.IsAccepting) :
    (loop.awaitLine state).session.output.written =
      state.session.output.written ++ loop.shownPrompt := by
  unfold awaitLine shownPrompt
  split
  next hplain => exact Output.write_written_of_accepted loop.prompt (h hplain _)
  next => simp

theorem refusal?_awaitLine (loop : ReadLoop) (state : State) :
    (loop.awaitLine state).session.output.refusal? = state.session.output.refusal? := by
  unfold awaitLine
  split
  next => exact Output.write_refusal? _ _
  next => rfl

/-- Taking in a line carries out the command on it. -/
theorem session_takeLine (loop : ReadLoop) (state : State) (htext : Input.read line = .ok text) :
    (loop.takeLine state text).session =
      state.session.dispatchAll loop.table (Input.commands [line]) := by
  rw [Input.commands_singleton htext, takeLine]
  split
  next => rw [Session.dispatchAll_nil]
  next => rw [Session.dispatchAll_cons, Session.dispatchAll_nil]

/-! ### Runs -/

/-- A session that is to end reads nothing. -/
theorem serve_of_closing (loop : ReadLoop) {state : State}
    (h : state.session.workspace.closing = true) (lines : List (List UInt8)) :
    loop.serve lines state = { state, unread := lines, fault? := none } := by
  cases lines <;> simp [serve, h]

/-- A session that is not to end gets ready for the next line, also if there is none. -/
theorem serve_of_no_line (loop : ReadLoop) {state : State}
    (h : state.session.workspace.closing = false) :
    loop.serve [] state = { state := loop.awaitLine state, unread := [], fault? := none } := by
  simp [serve, h]

theorem serve_of_unreadable (loop : ReadLoop) {state : State}
    (h : state.session.workspace.closing = false) (hbad : Input.read line = .error fault)
    (lines : List (List UInt8)) :
    loop.serve (line :: lines) state =
      { state := loop.awaitLine state, unread := lines, fault? := some fault } := by
  simp [serve, h, hbad]

theorem serve_of_text (loop : ReadLoop) {state : State}
    (h : state.session.workspace.closing = false) (htext : Input.read line = .ok text)
    (lines : List (List UInt8)) :
    loop.serve (line :: lines) state =
      loop.serve lines (loop.takeLine (loop.awaitLine state) text) := by
  simp [serve, h, htext]

/-- What a loop makes of lines is what comes of dispatching some of them in a session: the loop ends
in a session that looks the same, after writing the transcript. -/
structure Agrees (loop : ReadLoop) (session : Session) (lines served : List (List UInt8))
    (before : String) (result : Result) : Prop where
  /-- These lines are the ones to serve. -/
  serves : Serves loop.table session lines served result.unread result.fault?
  /-- The sessions look the same at the end. -/
  fresh_eq : result.state.session.fresh =
    (session.dispatchAll loop.table (Input.commands served)).fresh
  /-- The transcript stands behind what was written before. -/
  written_eq : result.state.session.output.written = before ++ loop.transcript session served

/-- Nothing is served in a session that is to end. -/
theorem Agrees.of_closing {loop : ReadLoop} {state : State}
    (hfresh : state.session.fresh = session.fresh) (h : state.session.workspace.closing = true)
    (lines : List (List UInt8)) :
    Agrees loop session lines [] state.session.output.written
      { state, unread := lines, fault? := none } := by
  rw [Session.workspace_eq_of_fresh hfresh] at h
  exact
    { serves := .of_stops (.closing h rfl)
      fresh_eq := hfresh
      written_eq := by simp [transcript, h] }

/-- Nothing is served where the loop stops after it has got ready for a line. -/
theorem Agrees.of_awaitLine {loop : ReadLoop} {state : State}
    (hfresh : state.session.fresh = session.fresh)
    (hprompt : loop.isPlain = true → state.session.output.IsAccepting)
    (hopen : session.workspace.closing = false) (hstops : Stops session lines [] unread fault?) :
    Agrees loop session lines [] state.session.output.written
      { state := loop.awaitLine state, unread, fault? } where
  serves := .of_stops hstops
  fresh_eq := (loop.fresh_awaitLine state hprompt).trans hfresh
  written_eq := by simp [loop.written_awaitLine state hprompt, transcript, hopen]

/-- One more line is served in front. -/
theorem Agrees.cons {loop : ReadLoop} {before : String} {result : Result}
    (hopen : session.workspace.closing = false) (htext : Input.read line = .ok text)
    (h : Agrees loop (session.dispatchAll loop.table (Input.commands [line])) lines served
      (before ++ loop.shownPrompt ++
        (session.fresh.dispatchAll loop.table (Input.commands [line])).output.written) result) :
    Agrees loop session (line :: lines) (line :: served) before result where
  serves := h.serves.cons hopen htext
  fresh_eq := by
    rw [Input.commands_cons, Session.dispatchAll_append]
    exact h.fresh_eq
  written_eq := by simp [h.written_eq, transcript, String.append_assoc]

/-- From any state the loop agrees with dispatching in any session that looks the same. -/
theorem exists_agrees_serve (loop : ReadLoop) (lines : List (List UInt8)) (state : State)
    (session : Session) (hfresh : state.session.fresh = session.fresh)
    (hprompt : loop.isPlain = true → state.session.output.IsAccepting) :
    ∃ served, Agrees loop session lines served state.session.output.written
      (loop.serve lines state) := by
  -- that the sessions look the same is what the next line needs and what this one keeps
  induction lines generalizing state session with
  | nil =>
    cases hopen : state.session.workspace.closing with
    | true =>
      rw [loop.serve_of_closing hopen]
      exact ⟨[], .of_closing hfresh hopen []⟩
    | false =>
      rw [loop.serve_of_no_line hopen]
      rw [Session.workspace_eq_of_fresh hfresh] at hopen
      exact ⟨[], .of_awaitLine hfresh hprompt hopen (.endOfInput hopen rfl)⟩
  | cons line others ih =>
    cases hopen : state.session.workspace.closing with
    | true =>
      rw [loop.serve_of_closing hopen]
      exact ⟨[], .of_closing hfresh hopen (line :: others)⟩
    | false =>
      cases htext : Input.read line with
      | error fault =>
        rw [loop.serve_of_unreadable hopen htext]
        rw [Session.workspace_eq_of_fresh hfresh] at hopen
        exact ⟨[], .of_awaitLine hfresh hprompt hopen (.unreadable hopen htext rfl)⟩
      | ok text =>
        rw [loop.serve_of_text hopen htext]
        rw [Session.workspace_eq_of_fresh hfresh] at hopen
        -- the line is carried out in a session that looks the same as the other one
        have hline := Session.isLocal_dispatchAll loop.table (Input.commands [line])
        have hawait := (loop.fresh_awaitLine state hprompt).trans hfresh
        have htake := loop.session_takeLine (loop.awaitLine state) htext
        have hnext : (loop.takeLine (loop.awaitLine state) text).session.fresh =
            (session.dispatchAll loop.table (Input.commands [line])).fresh := by
          rw [htake]
          exact hline.fresh_congr hawait
        have hwritten : (loop.takeLine (loop.awaitLine state) text).session.output.written =
            state.session.output.written ++ loop.shownPrompt ++
              (session.fresh.dispatchAll loop.table (Input.commands [line])).output.written := by
          rw [htake, hline.written_eq, hawait, loop.written_awaitLine state hprompt]
        have haccepting : loop.isPlain = true →
            (loop.takeLine (loop.awaitLine state) text).session.output.IsAccepting := by
          intro hplain attempt
          rw [htake, hline.refusal?_eq, refusal?_awaitLine, hprompt hplain]
        obtain ⟨served, hserved⟩ := ih _ _ hnext haccepting
        rw [hwritten] at hserved
        exact ⟨line :: served, hserved.cons hopen htext⟩

/-! ### The history file -/

/-- Files that are the same except that the history may have been written to its file. -/
def EqualButHistory (loop : ReadLoop) (fs after : FileSystem) : Prop :=
  after = fs ∨ ∃ path place content, loop.historyPath? = some path ∧
    fs.openPlace? path = some place ∧ after = fs.put place (.file content)

/-- Loading the history leaves no more than notes in the session. -/
theorem session_loadHistory (loop : ReadLoop) (session : Session) :
    (loop.loadHistory session).session.fresh = session.fresh ∧
      (loop.loadHistory session).session.output = session.output := by
  unfold loadHistory
  split
  next => exact ⟨rfl, rfl⟩
  next path _ =>
    dsimp only
    unfold noteLoad
    split <;> exact ⟨rfl, rfl⟩

/-- Saving the history changes its file, and nothing else that a user could see. -/
theorem session_saveHistory (loop : ReadLoop) (state : State) :
    (loop.saveHistory state).session.workspace = state.session.workspace ∧
      (loop.saveHistory state).session.output = state.session.output ∧
      loop.EqualButHistory state.session.files (loop.saveHistory state).session.files := by
  unfold saveHistory
  split
  next => exact ⟨rfl, rfl, .inl rfl⟩
  next path hpath =>
    split
    next files hsave =>
      refine ⟨rfl, rfl, ?_⟩
      unfold History.save at hsave
      split at hsave
      next => exact .inl (Except.ok.inj hsave).symm
      next =>
        obtain ⟨place, hplace, hfiles⟩ := FileSystem.writeFile_eq_ok_iff.mp hsave
        exact .inr ⟨path, place, _, hpath, hplace, hfiles⟩
    next => exact ⟨rfl, rfl, .inl rfl⟩

/-- A run serves lines, and saves the history if all that it has read have a text. -/
theorem run_eq (loop : ReadLoop) (session : Session) (input : List UInt8) :
    ∃ result, result = loop.serve (Input.lines input) (loop.loadHistory (makeReady session)) ∧
      (loop.run session input).unread = result.unread ∧
      (loop.run session input).fault? = result.fault? ∧
      (loop.run session input).state.session.workspace = result.state.session.workspace ∧
      (loop.run session input).state.session.output = result.state.session.output ∧
      loop.EqualButHistory result.state.session.files
        (loop.run session input).state.session.files ∧
      (result.readable = false →
        (loop.run session input).state.session.files = result.state.session.files) := by
  refine ⟨_, rfl, ?_⟩
  unfold run
  dsimp only
  split
  next hreadable =>
    obtain ⟨hworkspace, houtput, hfiles⟩ := loop.session_saveHistory
      (loop.serve (Input.lines input) (loop.loadHistory (makeReady session))).state
    exact ⟨rfl, rfl, hworkspace, houtput, hfiles, by simp [hreadable]⟩
  next => exact ⟨rfl, rfl, rfl, rfl, .inl rfl, fun _ => rfl⟩

/-- What a run of the loop on an input comes to is what comes of dispatching, in a session like the
one at the start, the commands on the lines that are to be served. -/
structure IsFold (loop : ReadLoop) (session : Session) (input : List UInt8)
    (served : List (List UInt8)) (result : Result) : Prop where
  /-- These lines of the input are the ones to serve. -/
  serves : Serves loop.table session (Input.lines input) served result.unread result.fault?
  /-- The bytes that have been read are those of the lines served and of one that has no text. -/
  exists_input_eq : ∃ bad, input = Input.rest served ++ bad ++ Input.rest result.unread ∧
    (result.fault? = none → bad = []) ∧
    ∀ fault, result.fault? = some fault → Input.read bad = .error fault
  /-- The run fails exactly if it comes to a line that is not UTF-8, and is broken off exactly if it
  comes to one with a backspace that would cut a character, before the session is to end. -/
  fault?_eq_some_iff {fault : LineFault} : result.fault? = some fault ↔
    ∃ before bad rest, Input.lines input = before ++ bad :: rest ∧
      (∀ line ∈ before, ∃ text, Input.read line = .ok text) ∧ Input.read bad = .error fault ∧
      ∀ first, first <+: before →
        (session.dispatchAll loop.table (Input.commands first)).workspace.closing = false
  /-- The session ends in the same directory, and is to end or not. -/
  workspace_eq : result.state.session.workspace =
    (session.dispatchAll loop.table (Input.commands served)).workspace
  /-- The files are the same, the history file aside. -/
  files_eq : loop.EqualButHistory (session.dispatchAll loop.table (Input.commands served)).files
    result.state.session.files
  /-- Then the history is not saved. -/
  files_eq_of_unreadable : result.readable = false → result.state.session.files =
    (session.dispatchAll loop.table (Input.commands served)).files
  /-- The commands write what they write, with the prompts between if they are shown. -/
  written_eq : result.state.session.output.written =
    session.output.written ++ loop.transcript session served
  /-- Without prompts nothing else is written. -/
  written_eq_of_not_plain : loop.isPlain = false → result.state.session.output.written =
    (session.dispatchAll loop.table (Input.commands served)).output.written

/-- A run of the loop is the fold of dispatching over the commands on the lines that are to be
served. Where prompts are shown, the output must take them. -/
theorem exists_isFold_run (loop : ReadLoop) (session : Session) (input : List UInt8)
    (hprompt : loop.isPlain = true → session.output.IsAccepting) :
    ∃ served, loop.IsFold session input served (loop.run session input) := by
  obtain ⟨result, hresult, hunread, hfault, hworkspace, houtput, hbut, hsame⟩ :=
    loop.run_eq session input
  obtain ⟨hload, hready⟩ := loop.session_loadHistory (makeReady session)
  have hstart : (loop.loadHistory (makeReady session)).session.output = session.output := hready
  obtain ⟨served, hserve⟩ := loop.exists_agrees_serve (Input.lines input)
    (loop.loadHistory (makeReady session)) session hload (by rwa [hstart])
  rw [← hresult, hstart] at hserve
  -- after serving the sessions look the same; only the history remains to be saved
  have hfiles := Session.files_eq_of_fresh hserve.fresh_eq
  have hserves := hserve.serves
  rw [← hunread, ← hfault] at hserves
  rw [hfiles] at hbut hsame
  exact
    ⟨served,
      { serves := hserves
        exists_input_eq := hserves.exists_input_eq
        fault?_eq_some_iff := hserves.fault?_eq_some_iff
        workspace_eq := by rw [hworkspace, Session.workspace_eq_of_fresh hserve.fresh_eq]
        files_eq := hbut
        files_eq_of_unreadable := by rwa [Result.readable, hfault]
        written_eq := by rw [houtput, hserve.written_eq]
        written_eq_of_not_plain := fun hplain => by
          rw [houtput, hserve.written_eq, loop.written_dispatchAll hplain] }⟩

/-- A blank line is passed over, and nothing is read behind the line that asks for the end. -/
theorem exists_isFold_run_prompted :
    let loop : ReadLoop :=
      { table := .standard, prompt := "> ", historyPath? := none, terminal := "dumb" }
    let session := Session.start .empty "/"
    let input := "a\n \nexit\nb".toUTF8.data.toList
    ∃ served, Serves loop.table session (Input.lines input) served ["b".toUTF8.data.toList] none ∧
      (loop.run session input).state.session.output.written = loop.transcript session served ∧
      (loop.run session input).state.session.output.written =
        "> Invalid command. Please try again.\n> > " := by
  intro loop session input
  have hunread : (loop.run session input).unread = ["b".toUTF8.data.toList] := by decide +kernel
  have hfault : (loop.run session input).fault? = none := by decide +kernel
  obtain ⟨served, hfold⟩ := exists_isFold_run loop session input fun _ _ => rfl
  have hserves := hfold.serves
  have hwritten := hfold.written_eq
  rw [hunread, hfault] at hserves
  exact ⟨served, hserves, by simpa [session, Session.start, Output.working] using hwritten,
    by decide +kernel⟩

end TextShell.ReadLoop
