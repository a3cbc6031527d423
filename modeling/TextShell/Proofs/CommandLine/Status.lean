import TextShell.CommandLine.Program
import TextShell.Proofs.FileSystem.Repetition
import TextShell.Proofs.ReadLoop.Fold
import TextShell.Proofs.Session.Closing
import TextShell.Proofs.Text.Backspaces
import TextShell.Proofs.Text.BlankLines

/-!
# The status of the program

The program fails for three reasons: its arguments are bad, its directory is none, or it comes to a
line that is not UTF-8 before one that asks for the end. Whatever else happens on the way, commands
that fail or are unknown and histories that are neither loaded nor saved, it ends well. Only a
backspace that would leave a part of a character breaks it off, and it takes a long line for that.

* `Input.Reaches`: a line that has no text comes before any that asks for the end.
* `ReadLoop.fault?_run`: when a read loop fails or is broken off.
* `Program.Starts.status_eq`: the status of any run that comes to read lines.
* `Program.status_eq_crashStatus_iff`: when the program is broken off.
* `Program.status_run`: when the program fails, and what else the status does not depend on.
-/

namespace TextShell

/-! ### Lines that end a run -/

namespace Input

/-- Why a line has no text, if it has none. -/
def fault? (line : List UInt8) : Option LineFault :=
  match read line with
  | .error fault => some fault
  | .ok _ => none

/-- Whether the word of a line asks for the end. -/
def asksForEnd (line : List UInt8) : Bool :=
  (read line).toOption.any fun text => Verb.ofWord? (splitCommand text).1 = some .exit

/-- Whether nothing is read behind a line. -/
def isDecisive (line : List UInt8) : Bool := (fault? line).isSome || asksForEnd line

/-- A line that has no text for this reason comes before any other that is decisive. -/
def Reaches (fault : LineFault) (lines : List (List UInt8)) : Prop :=
  ∃ before bad rest, lines = before ++ bad :: rest ∧ fault? bad = some fault ∧
    ∀ line ∈ before, isDecisive line = false

/-- Why the first decisive line has no text, if it has none. -/
def firstFault? (lines : List (List UInt8)) : Option LineFault :=
  (lines.find? isDecisive).bind fault?

variable {line : List UInt8} {lines : List (List UInt8)} {fault : LineFault}

theorem fault?_eq_some_iff : fault? line = some fault ↔ read line = .error fault := by
  unfold fault?
  split <;> simp_all

theorem fault?_eq_none_iff : fault? line = none ↔ ∃ text, read line = .ok text := by
  unfold fault?
  split <;> simp_all

theorem asksForEnd_iff : asksForEnd line = true ↔
    ∃ text, read line = .ok text ∧ Verb.ofWord? (splitCommand text).1 = some .exit := by
  unfold asksForEnd
  cases read line <;> simp [Except.toOption]

theorem isDecisive_eq_false_iff : isDecisive line = false ↔
    (∃ text, read line = .ok text) ∧ asksForEnd line = false := by
  rw [isDecisive, Bool.or_eq_false_iff, Option.isSome_eq_false_iff, Option.isNone_iff_eq_none,
    fault?_eq_none_iff]

/-- Only the decisive lines matter, and of these the first. -/
theorem firstFault?_eq_head? :
    firstFault? lines = (lines.filter isDecisive).head?.bind fault? := by
  rw [firstFault?, List.head?_filter]

theorem firstFault?_eq_some_iff : firstFault? lines = some fault ↔ Reaches fault lines := by
  simp only [firstFault?, Option.bind_eq_some_iff, List.find?_eq_some_iff_append]
  constructor
  · rintro ⟨bad, ⟨-, before, rest, hlines, hbefore⟩, hbad⟩
    refine ⟨before, bad, rest, hlines, hbad, ?_⟩
    intro line hline
    simpa using hbefore line hline
  · rintro ⟨before, bad, rest, hlines, hbad, hbefore⟩
    refine ⟨bad, ⟨by simp [isDecisive, hbad], before, rest, hlines, ?_⟩, hbad⟩
    intro line hline
    rw [hbefore line hline]
    rfl

instance : Decidable (Reaches fault lines) := decidable_of_iff _ firstFault?_eq_some_iff

/-- No character is cut in lines that are short. -/
theorem not_reaches_cutCharacter (h : ∀ line ∈ lines, line.length < 256) :
    ¬ Reaches .cutCharacter lines := by
  rintro ⟨before, bad, rest, rfl, hbad, -⟩
  have hshort := h bad (by simp)
  have hlong := le_length_of_cutCharacter (fault?_eq_some_iff.mp hbad)
  omega

/-- A word in the standard table asks for the end exactly if it names that verb. -/
theorem action_standard_eq_exit_iff (word : String) :
    CommandTable.standard.action word = .exit ↔ Verb.ofWord? word = some .exit := by
  rw [CommandTable.action_standard]
  cases Verb.ofWord? word with
  | none => simp
  | some verb => cases verb <;> simp [Action.ofVerb]

/-- No line that asks for the end is blank, so the commands show it. -/
theorem exists_exit_commands_iff :
    (∃ command ∈ commands lines, CommandTable.standard.action (splitCommand command).1 = .exit) ↔
      ∃ line ∈ lines, asksForEnd line = true := by
  constructor
  · rintro ⟨command, hcommand, hexit⟩
    obtain ⟨line, hline, htext⟩ := List.mem_filterMap.mp hcommand
    obtain ⟨htext, -⟩ := command?_eq_some_iff.mp htext
    exact ⟨line, hline, asksForEnd_iff.mpr
      ⟨command, htext, (action_standard_eq_exit_iff _).mp hexit⟩⟩
  · rintro ⟨line, hline, hend⟩
    obtain ⟨text, htext, hexit⟩ := asksForEnd_iff.mp hend
    have hnot : ¬ Text.isBlankText text = true := by
      intro hblank
      -- the word is a part of the text, so it would be blank, too
      have hword : ∀ c ∈ (splitCommand text).1.toList, Text.isBlank c = true := by
        intro c hc
        rw [splitCommand, String.toList_ofList] at hc
        exact List.all_eq_true.mp hblank c ((List.takeWhile_prefix _).subset hc)
      rw [Verb.ofWord?_of_isBlank hword] at hexit
      cases hexit
    refine ⟨text, List.mem_filterMap.mpr ⟨line, hline, ?_⟩,
      (action_standard_eq_exit_iff _).mpr hexit⟩
    exact command?_eq_some_iff.mpr ⟨htext, Bool.not_eq_true _ ▸ hnot⟩

end Input

/-! ### The read loop -/

namespace ReadLoop

variable {session : Session} {lines served unread : List (List UInt8)}
  {fault? : Option LineFault} {fault : LineFault}

/-- With the standard table a session is to end once a line asks for it. -/
theorem closing_dispatchAll_commands (hopen : session.workspace.closing = false) :
    (session.dispatchAll .standard (Input.commands lines)).workspace.closing = true ↔
      ∃ line ∈ lines, Input.asksForEnd line = true := by
  have hclosing := Session.closing_dispatchAll CommandTable.isBuiltIn_standard session
    (Input.commands lines)
  rw [hopen] at hclosing
  simp only [Bool.false_eq_true, false_or] at hclosing
  rw [hclosing, Input.exists_exit_commands_iff]

/-- With the standard table the lines alone decide whether one that has no text is reached. -/
theorem Serves.fault?_eq_some_iff_reaches
    (h : Serves .standard session lines served unread fault?)
    (hopen : session.workspace.closing = false) :
    fault? = some fault ↔ Input.Reaches fault lines := by
  rw [h.fault?_eq_some_iff]
  constructor
  · rintro ⟨before, bad, rest, hlines, htext, hbad, hclosing⟩
    refine ⟨before, bad, rest, hlines, Input.fault?_eq_some_iff.mpr hbad, ?_⟩
    intro line hline
    refine Input.isDecisive_eq_false_iff.mpr ⟨htext line hline, ?_⟩
    -- a line that asks for the end would have ended the session
    by_contra hend
    rw [Bool.not_eq_false] at hend
    have hends := (closing_dispatchAll_commands hopen).mpr ⟨line, hline, hend⟩
    rw [hclosing before (List.prefix_refl before)] at hends
    cases hends
  · rintro ⟨before, bad, rest, hlines, hbad, hbefore⟩
    have hplain line (hline : line ∈ before) :=
      Input.isDecisive_eq_false_iff.mp (hbefore line hline)
    refine ⟨before, bad, rest, hlines, fun line hline => (hplain line hline).1,
      Input.fault?_eq_some_iff.mp hbad, ?_⟩
    -- and without one it goes on
    intro first hfirst
    rw [← Bool.not_eq_true, closing_dispatchAll_commands hopen]
    rintro ⟨line, hline, hend⟩
    rw [(hplain line (hfirst.subset hline)).2] at hend
    cases hend

/-- A read loop with the standard table fails or is broken off exactly as the first decisive line
tells. -/
theorem fault?_run (loop : ReadLoop) (session : Session) (input : List UInt8)
    (htable : loop.table = .standard) (hopen : session.workspace.closing = false)
    (haccepting : session.output.IsAccepting) :
    (loop.run session input).fault? = Input.firstFault? (Input.lines input) := by
  obtain ⟨result, hresult, -, hfault, -⟩ := loop.run_eq session input
  obtain ⟨hload, hready⟩ := loop.session_loadHistory (makeReady session)
  obtain ⟨served, hserve⟩ := loop.exists_agrees_serve (Input.lines input)
    (loop.loadHistory (makeReady session)) session hload fun _ => by
      rw [hready]
      exact haccepting
  have hserves := hserve.serves
  rw [htable, ← hresult] at hserves
  rw [hfault]
  apply Option.ext
  intro fault
  rw [Input.firstFault?_eq_some_iff]
  exact hserves.fault?_eq_some_iff_reaches hopen

end ReadLoop

/-! ### The program -/

namespace Program

/-- The arguments are settings, and the directory that they lead to is one. -/
structure Starts (invocation : Invocation) (settings : Settings) : Prop where
  /-- The arguments are settings. -/
  read_eq : Settings.read invocation.arguments = .settings settings
  /-- The path of the directory leads to a directory. -/
  exists_directory : ∃ location,
    invocation.files.locate .target (directory settings invocation.files) =
        .ok (.found location) ∧
      invocation.files.lookup location = some .directory

variable {invocation : Invocation} {settings : Settings}

/-- The status of a run that starts tells why the first decisive line has no text, if it has
none. -/
theorem Starts.status_eq (h : Starts invocation settings) :
    (run invocation).status =
      loopStatus (Input.firstFault? (Input.lines invocation.input)) := by
  have hdirectory := FileSystem.isDirectory_iff.mpr h.exists_directory
  have hstatus : (run invocation).status = loopStatus (serve invocation settings).fault? := by
    unfold run
    rw [h.read_eq]
    dsimp only
    rw [runWith]
    dsimp only
    rw [if_pos hdirectory]
  -- the session is new, so it is not to end and its output takes every prompt
  have hserve : (serve invocation settings).fault? =
      Input.firstFault? (Input.lines invocation.input) :=
    (loop settings invocation.terminal).fault?_run _ invocation.input rfl rfl
      Output.isAccepting_working
  rw [hstatus, hserve]

/-- A run that does not start fails unless help was asked for. It does not touch the files and does
not look at the input. -/
theorem run_of_not_starts (h : ¬ ∃ settings, Starts invocation settings) :
    (run invocation).status = (if Settings.read invocation.arguments = .help then 0 else 1) ∧
      (run invocation).files = invocation.files ∧
      ∀ input, run { invocation with input } = run invocation := by
  unfold run
  dsimp only
  cases hread : Settings.read invocation.arguments with
  | help => exact ⟨rfl, rfl, fun _ => rfl⟩
  | bad fault => exact ⟨rfl, rfl, fun _ => rfl⟩
  | settings settings =>
    have hno : ¬ invocation.files.isDirectory (directory settings invocation.files) = true := by
      intro hdirectory
      exact h ⟨settings, hread, FileSystem.isDirectory_iff.mp hdirectory⟩
    refine ⟨?_, ?_, fun input => ?_⟩
    · simp [runWith, hno]
    · simp [runWith, hno]
    · simp only [runWith, if_neg hno]

/-- The program comes to a backspace that would leave a part of a character. -/
def BreaksOff (invocation : Invocation) : Prop :=
  (∃ settings, Starts invocation settings) ∧
    Input.Reaches .cutCharacter (Input.lines invocation.input)

/-- The program is broken off exactly where it comes to a backspace that would leave a part of a
character. -/
theorem status_eq_crashStatus_iff :
    (run invocation).status = crashStatus ↔ BreaksOff invocation := by
  unfold BreaksOff
  by_cases h : ∃ settings, Starts invocation settings
  · obtain ⟨settings, hstarts⟩ := h
    have hsome : ∃ settings, Starts invocation settings := ⟨settings, hstarts⟩
    rw [hstarts.status_eq, ← Input.firstFault?_eq_some_iff]
    cases Input.firstFault? (Input.lines invocation.input) with
    | none => simp [loopStatus, crashStatus]
    | some fault => cases fault <;> simp [loopStatus, crashStatus, hsome]
  · rw [(run_of_not_starts h).1]
    split <;> simp [crashStatus, h]

/-- A run that starts and is not broken off fails exactly if it comes to a line that is not
UTF-8. -/
theorem Starts.status_eq_of_not_breaksOff (h : Starts invocation settings)
    (hwhole : ¬ BreaksOff invocation) :
    (run invocation).status =
      if Input.Reaches .notText (Input.lines invocation.input) then 1 else 0 := by
  rw [← status_eq_crashStatus_iff, h.status_eq] at hwhole
  rw [h.status_eq]
  simp only [← Input.firstFault?_eq_some_iff]
  cases hfault : Input.firstFault? (Input.lines invocation.input) with
  | none => rfl
  | some fault =>
    cases fault with
    | notText => rfl
    | cutCharacter =>
      rw [hfault] at hwhole
      exact absurd rfl hwhole

/-- A program whose lines are all short is never broken off. -/
theorem not_breaksOff_of_short (h : ∀ line ∈ Input.lines invocation.input, line.length < 256) :
    ¬ BreaksOff invocation := fun hbreaks => Input.not_reaches_cutCharacter h hbreaks.2

/-- The status depends on nothing but the decisive lines in runs that start. -/
theorem status_eq_of_decisive {other : Invocation} (h : ∃ settings, Starts invocation settings)
    (hother : ∃ settings, Starts other settings)
    (hdecisive : (Input.lines other.input).filter Input.isDecisive =
      (Input.lines invocation.input).filter Input.isDecisive) :
    (run other).status = (run invocation).status := by
  obtain ⟨settings, hstarts⟩ := h
  obtain ⟨last, hlast⟩ := hother
  rw [hlast.status_eq, hstarts.status_eq, Input.firstFault?_eq_head?, hdecisive,
    ← Input.firstFault?_eq_head?]

/-- The program ends with status zero exactly if help was asked for, or its arguments are settings,
its directory is one, and no line that is not UTF-8 comes before any that asks for the end. It ends
with status one otherwise. If it does not come to read lines, it leaves the files as they are and
does the same on any input. If it does, only the decisive lines matter: neither the other lines nor
the files, the history or any other setting make a difference to the status. The program must not be
broken off, which no input with short lines can bring about (`not_breaksOff_of_short`). -/
theorem status_run (invocation : Invocation) (hwhole : ¬ BreaksOff invocation) :
    ((run invocation).status = 0 ↔
      Settings.read invocation.arguments = .help ∨
        (∃ settings, Starts invocation settings) ∧
          ¬ Input.Reaches .notText (Input.lines invocation.input)) ∧
      ((run invocation).status ≠ 0 → (run invocation).status = 1) ∧
      ((¬ ∃ settings, Starts invocation settings) →
        (run invocation).files = invocation.files ∧
          ∀ input, run { invocation with input } = run invocation) ∧
      ∀ other : Invocation, (∃ settings, Starts invocation settings) →
        (∃ settings, Starts other settings) →
        (Input.lines other.input).filter Input.isDecisive =
          (Input.lines invocation.input).filter Input.isDecisive →
        (run other).status = (run invocation).status := by
  refine ⟨?_, ?_, fun h => (run_of_not_starts h).2, fun _ => status_eq_of_decisive⟩
  · by_cases h : ∃ settings, Starts invocation settings
    · obtain ⟨settings, hstarts⟩ := h
      have hhelp : Settings.read invocation.arguments ≠ .help := by
        rw [hstarts.read_eq]
        exact Arguments.noConfusion
      rw [hstarts.status_eq_of_not_breaksOff hwhole]
      split
      next hreaches => simp [hhelp, hreaches]
      next hreaches =>
        have hsome : ∃ settings, Starts invocation settings := ⟨settings, hstarts⟩
        simp [hreaches, hsome]
    · rw [(run_of_not_starts h).1]
      simp [h]
  · by_cases h : ∃ settings, Starts invocation settings
    · obtain ⟨settings, hstarts⟩ := h
      rw [hstarts.status_eq_of_not_breaksOff hwhole]
      split <;> simp
    · rw [(run_of_not_starts h).1]
      split <;> simp

/-- An unknown command, a history without a directory and bytes behind the end do no harm; a line
that is not UTF-8 before the end does. -/
theorem status_run_behind_end :
    let invocation : Invocation :=
      { arguments := ["--history", "/missing/h"]
        noteFilter? := none
        terminal := "dumb"
        input := "frobnicate\nExit now\n".toUTF8.data.toList ++ [255]
        files := .empty }
    (run invocation).status = 0 ∧
      (run { invocation with input := [255, 10] ++ invocation.input }).status = 1 := by
  intro invocation
  have hstarts : ∃ settings, Starts invocation settings := ⟨_, rfl, [], by decide +kernel, rfl⟩
  have hclear : ¬ Input.Reaches .notText (Input.lines invocation.input) := by decide +kernel
  have hreaches : Input.Reaches .notText (Input.lines ([255, 10] ++ invocation.input)) := by
    decide +kernel
  have hwhole : ¬ BreaksOff invocation := not_breaksOff_of_short (by decide +kernel)
  have hother : ¬ BreaksOff { invocation with input := [255, 10] ++ invocation.input } :=
    not_breaksOff_of_short (by decide +kernel)
  refine ⟨(status_run invocation hwhole).1.mpr (.inr ⟨hstarts, hclear⟩), ?_⟩
  obtain ⟨hzero, hone, -⟩ := status_run _ hother
  apply hone
  rw [ne_eq, hzero]
  rintro (hhelp | ⟨-, hnot⟩)
  · cases hhelp
  · exact hnot hreaches

end Program

end TextShell
