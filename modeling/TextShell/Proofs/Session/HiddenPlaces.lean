import TextShell.Proofs.FileSystem.HiddenPlaces
import TextShell.Proofs.Session.BuiltIn

/-!
# Commands and hidden places

A command that keeps off some places comes to the same whatever these hold: it fails in the same way
or not at all, writes the same and leaves the same files everywhere else. The places that a file
command makes its way through are computed along with it; what any other command does is known only
from what it does, so of these it is asked that the hidden places make no difference.

* `Action.trail`: the places of a built-in command.
* `Action.KeepsOff`: a command keeps off hidden places.
* `Session.EqualBut`: two sessions that differ in hidden places and in what they have noted.
* `Session.EqualBut.dispatch`: they go on to differ in no more than that.
-/

namespace TextShell

/-! ### The places of a command -/

/-- The places of a copy. Without a source nothing else is looked at, and the destination is opened
only if it is not the source. -/
def CopyRequest.trail (request : CopyRequest) (directory : String) (fs : FileSystem) :
    List Location :=
  let source := Path.resolve directory request.source
  let destination := Path.resolve directory request.destination
  fs.trail .target source ++
    if !fs.isFile source then []
    else
      fs.trail .location source ++ fs.trail .location destination ++
        if fs.isSamePlace source destination then [] else fs.trail .creation destination

/-- The places of a creation. -/
def CreateRequest.trail (request : CreateRequest) (directory : String) (fs : FileSystem) :
    List Location :=
  let path := Path.resolve directory request.path
  let above := (Path.parent? path).getD ""
  fs.ancestorsTrail (Path.ancestors above) ++
    match fs.makeDirectories above with
    | (_, .error _) => []
    | (made, .ok ()) => made.trail .creation path

/-- The places of a deletion. -/
def DeleteRequest.trail (request : DeleteRequest) (directory : String) (fs : FileSystem) :
    List Location :=
  fs.trail .entry (Path.resolve directory request.path)

/-- The places of an update. The file is replaced only if its text can be edited. -/
def UpdateRequest.trail (request : UpdateRequest) (directory : String) (fs : FileSystem) :
    List Location :=
  let path := Path.resolve directory request.path
  fs.trail .target path ++
    match fs.readText path with
    | .error _ => []
    | .ok text =>
      match request.edit.apply (Text.breakLines text) with
      | .error _ => []
      | .ok edited => fs.replacementTrail path (Text.joinLines edited).toUTF8

/-- The places of a file command: none if its arguments cannot be read. -/
def FileCommand.trail {Request : Type} (arguments : String)
    (read : String → Except Failure Request) (places : Request → List Location) : List Location :=
  match read arguments with
  | .error _ => []
  | .ok request => places request

/-- The places of a built-in command. -/
def Action.trail (action : Action) (arguments : String) (session : Session) : List Location :=
  let directory := session.workspace.directory
  match action with
  | copy => FileCommand.trail arguments CopyRequest.read (·.trail directory session.files)
  | create => FileCommand.trail arguments CreateRequest.read (·.trail directory session.files)
  | delete => FileCommand.trail arguments DeleteRequest.read (·.trail directory session.files)
  | update => FileCommand.trail arguments UpdateRequest.read (·.trail directory session.files)
  | exit | reject | custom _ => []

/-! ### File commands -/

/-- Two outcomes that differ in the files at hidden places and in notes. -/
structure Outcome.EqualBut (hidden : Location → Prop) (outcome other : Outcome) : Prop where
  /-- The files are equal except for hidden places. -/
  files_equalBut : outcome.files.EqualBut hidden other.files
  /-- The commands fail in the same way or not at all. -/
  result_eq : other.result = outcome.result

section Requests

variable {hidden : Location → Prop} {fs other : FileSystem} {directory : String}

theorem CopyRequest.equalBut (request : CopyRequest) (h : fs.EqualBut hidden other)
    (hclear : ∀ place ∈ request.trail directory fs, ¬ hidden place) :
    (request.carryOut directory fs).EqualBut hidden (request.carryOut directory other) := by
  unfold trail at hclear
  dsimp only at hclear
  rw [List.forall_mem_append] at hclear
  obtain ⟨hsource, hothers⟩ := hclear
  unfold carryOut
  dsimp only
  rw [h.isFile_eq hsource]
  -- with each check that is passed the places of the next step come in
  split
  next => exact ⟨h, rfl⟩
  next hfile =>
    rw [if_neg hfile, List.forall_mem_append, List.forall_mem_append] at hothers
    obtain ⟨⟨hcanonical, hplace⟩, hdestination⟩ := hothers
    rw [h.isSamePlace_eq hcanonical hplace]
    split
    next => exact ⟨h, rfl⟩
    next hsame =>
      rw [if_neg hsame] at hdestination
      rcases (h.copyFile hsource hdestination).error_or_ok with
        ⟨fault, hcopy, hother⟩ | ⟨copied, last, hcopy, hother, hcopied⟩
      · rw [hcopy, hother]
        exact ⟨h, rfl⟩
      · rw [hcopy, hother]
        exact ⟨hcopied, rfl⟩

theorem CreateRequest.equalBut (request : CreateRequest) (h : fs.EqualBut hidden other)
    (hclear : ∀ place ∈ request.trail directory fs, ¬ hidden place) :
    (request.carryOut directory fs).EqualBut hidden (request.carryOut directory other) := by
  unfold trail at hclear
  dsimp only at hclear
  rw [List.forall_mem_append] at hclear
  obtain ⟨habove, hpath⟩ := hclear
  obtain ⟨made, last, answer, hmake, hlast, hmade⟩ := (h.makeAncestors habove).exists_eq
  rw [← FileSystem.makeDirectories] at hmake hlast
  rw [hmake] at hpath
  unfold carryOut
  dsimp only
  rw [hmake, hlast]
  cases answer with
  | error fault => exact ⟨hmade, rfl⟩
  | ok =>
    -- the file is written in what making the directories has left
    dsimp only at hpath ⊢
    rcases (hmade.writeFile hpath _).error_or_ok with
      ⟨fault, hwrite, hother⟩ | ⟨written, lastWritten, hwrite, hother, hwritten⟩
    · rw [hwrite, hother]
      exact ⟨hmade, rfl⟩
    · rw [hwrite, hother]
      exact ⟨hwritten, rfl⟩

theorem DeleteRequest.equalBut (request : DeleteRequest) (h : fs.EqualBut hidden other)
    (hclear : ∀ place ∈ request.trail directory fs, ¬ hidden place) :
    (request.carryOut directory fs).EqualBut hidden (request.carryOut directory other) := by
  unfold carryOut
  dsimp only
  rcases (h.removeFile hclear).error_or_ok with
    ⟨fault, hremove, hother⟩ | ⟨removed, last, hremove, hother, hremoved⟩
  · rw [hremove, hother]
    dsimp only
    split
    next => exact ⟨h, rfl⟩
    next => exact ⟨h, rfl⟩
  · rw [hremove, hother]
    exact ⟨hremoved, rfl⟩

theorem UpdateRequest.equalBut (request : UpdateRequest) (h : fs.EqualBut hidden other)
    (hclear : ∀ place ∈ request.trail directory fs, ¬ hidden place) :
    (request.carryOut directory fs).EqualBut hidden (request.carryOut directory other) := by
  unfold trail at hclear
  dsimp only at hclear
  rw [List.forall_mem_append] at hclear
  obtain ⟨htarget, hothers⟩ := hclear
  unfold carryOut
  dsimp only
  rw [h.isFile_eq htarget, h.readText_eq htarget]
  -- the text is the same and so is what the edit makes of it, so only the replacement is left
  split
  next => exact ⟨h, rfl⟩
  next =>
    cases hread : fs.readText (Path.resolve directory request.path) with
    | error fault => exact ⟨h, rfl⟩
    | ok text =>
      rw [hread] at hothers
      dsimp only at hothers ⊢
      cases hedit : request.edit.apply (Text.breakLines text) with
      | error failure => exact ⟨h, rfl⟩
      | ok edited =>
        rw [hedit] at hothers
        obtain ⟨replaced, last, answer, hreplace, hlast, hreplaced⟩ :=
          (h.replaceFile hothers).exists_eq
        dsimp only
        rw [hreplace, hlast]
        cases answer with
        | error fault => exact ⟨hreplaced, rfl⟩
        | ok => exact ⟨hreplaced, rfl⟩

/-- A file command comes to the same if what it is asked for does. -/
theorem FileCommand.equalBut_run {Request : Type} {form : CommandForm} {arguments : String}
    {read : String → Except Failure Request} {places : Request → List Location}
    {carryOut lastCarryOut : Request → Outcome} (h : fs.EqualBut hidden other)
    (hcarryOut : ∀ request, (∀ place ∈ places request, ¬ hidden place) →
      (carryOut request).EqualBut hidden (lastCarryOut request))
    (hclear : ∀ place ∈ trail arguments read places, ¬ hidden place) :
    (run form arguments read carryOut fs).EqualBut hidden
      (run form arguments read lastCarryOut other) := by
  unfold trail at hclear
  unfold run Outcome.noted
  cases hread : read arguments with
  | error failure => exact ⟨h, rfl⟩
  | ok request =>
    rw [hread] at hclear
    obtain ⟨hfiles, hresult⟩ := hcarryOut request hclear
    exact ⟨hfiles, hresult⟩

variable {arguments : String}

theorem FileCommand.equalBut_copy (h : fs.EqualBut hidden other)
    (hclear : ∀ place ∈ trail arguments CopyRequest.read (·.trail directory fs), ¬ hidden place) :
    (copy directory arguments fs).EqualBut hidden (copy directory arguments other) :=
  equalBut_run h (fun request => request.equalBut h) hclear

theorem FileCommand.equalBut_create (h : fs.EqualBut hidden other)
    (hclear : ∀ place ∈ trail arguments CreateRequest.read (·.trail directory fs),
      ¬ hidden place) :
    (create directory arguments fs).EqualBut hidden (create directory arguments other) :=
  equalBut_run h (fun request => request.equalBut h) hclear

theorem FileCommand.equalBut_delete (h : fs.EqualBut hidden other)
    (hclear : ∀ place ∈ trail arguments DeleteRequest.read (·.trail directory fs),
      ¬ hidden place) :
    (delete directory arguments fs).EqualBut hidden (delete directory arguments other) :=
  equalBut_run h (fun request => request.equalBut h) hclear

theorem FileCommand.equalBut_update (h : fs.EqualBut hidden other)
    (hclear : ∀ place ∈ trail arguments UpdateRequest.read (·.trail directory fs),
      ¬ hidden place) :
    (update directory arguments fs).EqualBut hidden (update directory arguments other) :=
  equalBut_run h (fun request => request.equalBut h) hclear

end Requests

/-! ### Sessions -/

namespace Session

/-- Two sessions with the same workspace and output, and with files that are equal except for hidden
places. What they have noted does not matter. -/
structure EqualBut (hidden : Location → Prop) (session other : Session) : Prop where
  /-- The files are equal except for hidden places. -/
  files_equalBut : session.files.EqualBut hidden other.files
  /-- The workspace is the same. -/
  workspace_eq : other.workspace = session.workspace
  /-- The output is the same. -/
  output_eq : other.output = session.output

namespace EqualBut

variable {hidden : Location → Prop} {session other last : Session}

theorem symm (h : session.EqualBut hidden other) : other.EqualBut hidden session where
  files_equalBut := h.files_equalBut.symm
  workspace_eq := h.workspace_eq.symm
  output_eq := h.output_eq.symm

theorem trans (hfirst : session.EqualBut hidden other) (hsecond : other.EqualBut hidden last) :
    session.EqualBut hidden last where
  files_equalBut := hfirst.files_equalBut.trans hsecond.files_equalBut
  workspace_eq := hsecond.workspace_eq.trans hfirst.workspace_eq
  output_eq := hsecond.output_eq.trans hfirst.output_eq

/-- Sessions stay equal when more places are hidden. -/
theorem mono {more : Location → Prop} (h : session.EqualBut hidden other)
    (hmore : ∀ place, hidden place → more place) : session.EqualBut more other where
  files_equalBut := h.files_equalBut.mono hmore
  workspace_eq := h.workspace_eq
  output_eq := h.output_eq

theorem note (h : session.EqualBut hidden other) (origin : Origin) (level : Level)
    (text : String) :
    (session.note origin level text).EqualBut hidden (other.note origin level text) where
  files_equalBut := h.files_equalBut
  workspace_eq := h.workspace_eq
  output_eq := h.output_eq

theorem report (h : session.EqualBut hidden other) (origin : Origin) (line : String) :
    (session.report origin line).EqualBut hidden (other.report origin line) where
  files_equalBut := by
    rw [report_files, report_files]
    exact h.files_equalBut
  workspace_eq := by rw [report_workspace, report_workspace, h.workspace_eq]
  output_eq := by rw [report_output, report_output, h.output_eq]

/-- A command finds the same session, except for the files. -/
theorem fresh_eq (h : session.EqualBut hidden other) :
    other.fresh = { session.fresh with files := other.files } := by
  simp only [fresh, h.workspace_eq, h.output_eq]

end EqualBut

end Session

namespace Action

/-- A command keeps off hidden places: a built-in command does not come to any of them, and whatever
else is done does not depend on them. -/
inductive KeepsOff (hidden : Location → Prop) (arguments : String) (session : Session) :
    Action → Prop where
  /-- A built-in command of which no place is hidden. -/
  | builtIn {action : Action} : action.IsBuiltIn →
      (∀ place ∈ action.trail arguments session, ¬ hidden place) →
      KeepsOff hidden arguments session action
  /-- Something else that comes to the same whatever the hidden places hold. -/
  | custom {perform : String → Session → Session × Except Failure Unit} :
      (∀ files, session.files.EqualBut hidden files →
        (perform arguments session.fresh).1.EqualBut hidden
            (perform arguments { session.fresh with files }).1 ∧
          (perform arguments { session.fresh with files }).2 =
            (perform arguments session.fresh).2) →
      KeepsOff hidden arguments session (.custom perform)

variable {hidden : Location → Prop} {arguments : String} {session other : Session}
  {action : Action}

/-- What a file command does to two sessions is what it does to their files. -/
theorem equalBut_conclude {outcome last : Outcome} (h : session.EqualBut hidden other)
    (houtcome : outcome.EqualBut hidden last) :
    (conclude session outcome).1.EqualBut hidden (conclude other last).1 ∧
      (conclude other last).2 = (conclude session outcome).2 :=
  ⟨⟨houtcome.files_equalBut, h.workspace_eq, h.output_eq⟩, houtcome.result_eq⟩

/-- A command that keeps off the hidden places comes to the same in both sessions. -/
theorem KeepsOff.perform (hoff : action.KeepsOff hidden arguments session)
    (h : session.EqualBut hidden other) :
    (action.perform arguments session).1.EqualBut hidden (action.perform arguments other).1 ∧
      (action.perform arguments other).2 = (action.perform arguments session).2 := by
  cases hoff with
  | builtIn hbuiltIn hclear =>
    have hfiles := h.files_equalBut
    cases hbuiltIn with
    | copy =>
      rw [Action.perform, Action.perform, h.workspace_eq]
      exact equalBut_conclude h (FileCommand.equalBut_copy hfiles hclear)
    | create =>
      rw [Action.perform, Action.perform, h.workspace_eq]
      exact equalBut_conclude h (FileCommand.equalBut_create hfiles hclear)
    | delete =>
      rw [Action.perform, Action.perform, h.workspace_eq]
      exact equalBut_conclude h (FileCommand.equalBut_delete hfiles hclear)
    | update =>
      rw [Action.perform, Action.perform, h.workspace_eq]
      exact equalBut_conclude h (FileCommand.equalBut_update hfiles hclear)
    | exit =>
      rw [Action.perform, Action.perform, h.workspace_eq]
      exact ⟨⟨hfiles, rfl, h.output_eq⟩, rfl⟩
    | reject => exact ⟨(h.note _ _ _).report _ _, rfl⟩
  | @custom perform hcustom =>
    obtain ⟨hafter, hresult⟩ := hcustom other.files h.files_equalBut
    rw [← h.fresh_eq] at hafter hresult
    refine ⟨⟨hafter.files_equalBut, hafter.workspace_eq, ?_⟩, hresult⟩
    -- the same is added to the same output
    show other.output.append _ = session.output.append _
    rw [h.output_eq, hafter.output_eq]

end Action

namespace Session

variable {hidden : Location → Prop} {table : CommandTable} {session other : Session}
  {line : String}

/-- The command on a line keeps off hidden places. -/
def KeepsOff (hidden : Location → Prop) (table : CommandTable) (session : Session)
    (line : String) : Prop :=
  (table.action (splitCommand line).1).KeepsOff hidden (splitCommand line).2 session

/-- With a table of built-in actions, it is enough that no place of the command is hidden. -/
theorem KeepsOff.of_trail (htable : table.IsBuiltIn)
    (h : ∀ place ∈ (table.action (splitCommand line).1).trail (splitCommand line).2 session,
      ¬ hidden place) : session.KeepsOff hidden table line :=
  .builtIn (htable.action _) h

/-- After a line whose command keeps off the hidden places, two sessions differ in no more than they
did before. -/
theorem EqualBut.dispatch (h : session.EqualBut hidden other)
    (hoff : session.KeepsOff hidden table line) :
    (session.dispatch table line).EqualBut hidden (other.dispatch table line) := by
  obtain ⟨hafter, hresult⟩ := Action.KeepsOff.perform hoff h
  -- the command fails in both sessions, with the same report, or in neither
  cases hperform :
      ((table.action (splitCommand line).1).perform (splitCommand line).2 session).2 with
  | ok =>
    rw [dispatch_of_ok hperform, dispatch_of_ok (hresult.trans hperform)]
    exact hafter
  | error failure =>
    rw [dispatch_of_error hperform, dispatch_of_error (hresult.trans hperform)]
    exact (hafter.note _ _ _).report _ _

end Session

end TextShell
