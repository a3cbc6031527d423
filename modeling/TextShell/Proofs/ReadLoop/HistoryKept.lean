import TextShell.Proofs.FileSystem.SamePlace
import TextShell.Proofs.ReadLoop.HistoryEntries
import TextShell.Proofs.ReadLoop.Unnoticed

/-!
# The history after a run

A run of the read loop begins with the entries that it has loaded and adds every command that it
carries out: those that fail, those that name no command and the one that asks for the end. Blank
lines are no commands. What it ends with is told at once from the whole sequence, and it is written
to the history file unless a line could not be read.

* `ReadLoop.entries_serve`: the loop from any state, with any tidy history.
* `ReadLoop.files_saveHistory`, `ReadLoop.files_run_of_unreadable`: what saving does to the files.
* `ReadLoop.keepsHistory_run`: a whole run.
-/

namespace TextShell

/-- The file at a path is a history file with these entries. -/
def FileSystem.HoldsEntries (fs : FileSystem) (path : String) (entries : List String) : Prop :=
  ∃ history : History, history.entries = entries ∧ fs.readFile path = .ok history.render.toUTF8

/-- A history file that was written holds the entries of the history and no others. -/
theorem FileSystem.holdsEntries_put_iff {fs : FileSystem} {path : String} {place : Location}
    (hplace : fs.openPlace? path = some place) (history : History) (entries : List String) :
    (fs.put place (.file history.render.toUTF8)).HoldsEntries path entries ↔
      entries = history.entries := by
  have hleads := leadsToFile_of_openPlace? hplace history.render.toUTF8
  have hread := exists_leadsToFile_iff.mp ⟨place, hleads⟩
  constructor
  · rintro ⟨other, rfl, hother⟩
    rw [hread] at hother
    -- the bytes of a text determine the text, and a history file its entries
    have htext := congrArg String.fromUTF8? (Except.ok.inj hother)
    rw [Text.fromUTF8?_toUTF8, Text.fromUTF8?_toUTF8] at htext
    exact (History.render_eq_iff.mp (Option.some.inj htext)).symm
  · rintro rfl
    exact ⟨history, rfl, hread⟩

namespace ReadLoop

variable {loop : ReadLoop} {session : Session} {input : List UInt8} {lines : List (List UInt8)}
  {state : State} {place : Location}

/-! ### Entries -/

/-- A command is never the empty line, which is blank. -/
theorem ne_empty_of_mem_commands {command : String} (h : command ∈ Input.commands lines) :
    command ≠ "" := by
  obtain ⟨line, -, hcommand⟩ := List.mem_filterMap.mp h
  rintro rfl
  have hblank := (Input.command?_eq_some_iff.mp hcommand).2
  exact absurd hblank (by decide)

/-- The loop adds the commands that have their turn to the entries that it finds. -/
theorem entries_serve (loop : ReadLoop) (lines : List (List UInt8))
    (h : History.IsTidy state.history.entries) :
    (loop.serve lines state).state.history.entries =
      History.latest (state.history.entries ++ (loop.turns lines state).map Prod.snd) := by
  obtain ⟨served, haccounts, -⟩ := loop.exists_accounts_serve lines state
  rw [history_serve, haccounts.commands_eq]
  exact History.entries_foldl_add (fun _ => ne_empty_of_mem_commands) h

/-- The history that a run begins with is tidy, whether the history file can be read or not. -/
theorem isTidy_startState (loop : ReadLoop) (session : Session) :
    History.IsTidy (loop.startState session).history.entries := by
  have hempty : History.IsTidy History.empty.entries := ⟨Nat.zero_le _, .nil⟩
  unfold startState loadHistory
  split
  next => exact hempty
  next path _ => exact hempty.load _ path

/-! ### The history file -/

/-- Saving writes a history that has grown where its path can be opened, and nothing else. -/
theorem files_saveHistory {path : String} (hpath : loop.historyPath? = some path)
    (hunsaved : state.history.IsUnsaved)
    (hplace : state.session.files.openPlace? path = some place) :
    (loop.saveHistory state).session.files =
      state.session.files.put place (.file state.history.render.toUTF8) := by
  unfold saveHistory
  rw [hpath]
  dsimp only
  rw [hunsaved.save_eq hplace]

/-- The files at the end of the loop, when the history is still to be saved. -/
def lastFiles (loop : ReadLoop) (session : Session) (input : List UInt8) : FileSystem :=
  (loop.serve (Input.lines input) (loop.startState session)).state.session.files

/-- The history that is saved is the one with which the run ends. -/
theorem history_run_eq_serve (loop : ReadLoop) (session : Session) (input : List UInt8) :
    (loop.run session input).state.history =
      (loop.serve (Input.lines input) (loop.startState session)).state.history := by
  rw [history_run, history_serve]
  rfl

/-- A run that has read all its lines saves what it has added to the history. -/
theorem files_run_of_gains (hreadable : (loop.run session input).readable = true)
    (hgains : (loop.startState session).history.Gains (loop.dispatched session input))
    (hplace : loop.savePlace? session input = some place) :
    (loop.run session input).state.session.files = (loop.lastFiles session input).put place
      (.file (loop.run session input).state.history.render.toUTF8) := by
  obtain ⟨path, hpath, hopen⟩ := Option.bind_eq_some_iff.mp hplace
  -- the history at the end of the loop is the one that the run ends with, and has to be saved
  have hunsaved := hgains.isUnsaved
  rw [← history_run, history_run_eq_serve] at hunsaved
  rw [history_run_eq_serve, lastFiles, ← files_saveHistory hpath hunsaved hopen]
  unfold run at hreadable ⊢
  dsimp only at hreadable ⊢
  split
  next => rfl
  next hunreadable =>
    rw [if_neg hunreadable] at hreadable
    exact absurd hreadable hunreadable

/-- A run that has come to a line that has no text saves nothing. -/
theorem files_run_of_unreadable (hreadable : (loop.run session input).readable = false) :
    (loop.run session input).state.session.files = loop.lastFiles session input := by
  obtain ⟨result, hresult, -, hsame, -, -, -, hfiles⟩ := loop.run_eq session input
  rw [hfiles (by rwa [Result.readable, hsame] at hreadable), hresult]
  rfl

/-! ### Whole runs -/

/-- What becomes of the history in a run, in memory and in its file. -/
structure KeepsHistory (loop : ReadLoop) (session : Session) (input : List UInt8) : Prop where
  /-- The commands that are added are those on the lines of the input that were served, and the
  files at the end of the loop are what these commands have made of them. -/
  exists_served : ∃ served,
    Accounts (Input.lines input) served (loop.run session input)
        (loop.dispatched session input) ∧
      loop.lastFiles session input =
        (loop.afterLines (loop.startState session).session served).files
  /-- The entries are the last of those that were loaded followed by all commands, when immediate
  repetitions are collapsed. -/
  entries_eq : (loop.run session input).state.history.entries =
    History.latest
      ((loop.startState session).history.entries ++ loop.dispatched session input)
  /-- So there are never too many, and no two neighbours are equal. -/
  isTidy : History.IsTidy (loop.run session input).state.history.entries
  /-- If all lines could be read, an entry was added and there is a file for the history, this file
  is written, and no other changes. -/
  files_eq_of_gains {place : Location} : (loop.run session input).readable = true →
    (loop.startState session).history.Gains (loop.dispatched session input) →
    loop.savePlace? session input = some place →
    (loop.run session input).state.session.files = (loop.lastFiles session input).put place
      (.file (loop.run session input).state.history.render.toUTF8)
  /-- Then the file holds exactly the entries of the history. -/
  holdsEntries_iff {path : String} {place : Location} :
    (loop.run session input).readable = true →
    (loop.startState session).history.Gains (loop.dispatched session input) →
    loop.historyPath? = some path → loop.savePlace? session input = some place →
    ∀ entries, (loop.run session input).state.session.files.HoldsEntries path entries ↔
      entries = (loop.run session input).state.history.entries
  /-- If a line could not be read, all files are left as they were, the history file with them. -/
  files_eq_of_unreadable : (loop.run session input).readable = false →
    (loop.run session input).state.session.files = loop.lastFiles session input

/-- Every run keeps its history, whatever was loaded and whatever commands the shell knows. -/
theorem keepsHistory_run (loop : ReadLoop) (session : Session) (input : List UInt8) :
    loop.KeepsHistory session input := by
  -- saving leaves the entries alone, so they are those at the end of the loop
  have hentries := loop.entries_serve (Input.lines input) (loop.isTidy_startState session)
  rw [← history_run_eq_serve] at hentries
  refine ⟨?_, hentries, ?_, files_run_of_gains, ?_, files_run_of_unreadable⟩
  · obtain ⟨served, haccounts, hsession⟩ :=
      loop.exists_accounts_serve (Input.lines input) (loop.startState session)
    obtain ⟨result, hresult, hunread, hfault, hworkspace, -⟩ := loop.run_eq session input
    rw [← startState] at hresult
    rw [← hresult] at haccounts
    refine ⟨served, haccounts.congr hunread hfault hworkspace, ?_⟩
    rw [lastFiles, hsession]
  · rw [hentries]
    exact History.isTidy_latest _
  · intro path place hreadable hgains hpath hplace entries
    have hopen : (loop.lastFiles session input).openPlace? path = some place := by
      rw [savePlace?, hpath] at hplace
      exact hplace
    rw [files_run_of_gains hreadable hgains hplace]
    exact FileSystem.holdsEntries_put_iff hopen _ entries

/-- A loaded entry is entered again, a blank line is passed over, and what names no command and the
end are added. What stands behind the end is not. -/
theorem keepsHistory_run_escaped :
    let loop : ReadLoop :=
      { table := .standard, prompt := "> ", historyPath? := some "/h", terminal := "xterm" }
    let session := Session.start (FileSystem.empty.put ["h"] (.file "#V2\nls\n".toUTF8)) "/"
    let input := "ls\n \na\\b\na\\b\nexit\nmore\n".toUTF8.data.toList
    (loop.run session input).state.session.files.HoldsEntries "/h" ["ls", "a\\b", "exit"] ∧
      (loop.run session input).state.session.files.readText "/h" =
        .ok "#V2\nls\na\\\\b\nexit\n" := by
  intro loop session input
  have hreadable : (loop.run session input).readable = true := by decide +kernel
  have hgains : (loop.startState session).history.Gains (loop.dispatched session input) :=
    ⟨["ls"], "a\\b", ["a\\b", "exit"], by decide +kernel, by decide +kernel⟩
  have hplace : loop.savePlace? session input = some ["h"] := by decide +kernel
  have hentries : (loop.run session input).state.history.entries = ["ls", "a\\b", "exit"] := by
    decide +kernel
  have hkept := keepsHistory_run loop session input
  refine ⟨(hkept.holdsEntries_iff hreadable hgains rfl hplace _).mpr hentries.symm, ?_⟩
  decide +kernel

end ReadLoop

end TextShell
