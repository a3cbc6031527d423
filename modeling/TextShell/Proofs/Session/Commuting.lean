import TextShell.Proofs.FileSystem.Footprint
import TextShell.Proofs.Request.UpdateForm
import TextShell.Proofs.Request.WrittenForm
import TextShell.Proofs.Session.BuiltIn

/-!
# Commands on unrelated paths

A copy, a deletion or an update, on straight paths in a tree without links, looks at what is around
the locations of its paths and changes at most one of these. When no path of one command is the same
as a path of another or lies above it, neither changes what the other looks at, so it makes no
difference which is given first.

* `IsConfined`: a command comes to the same on trees that are the same around its paths.
* `IsConfined.comm`: confined commands with unrelated paths commute.
* `Session.dispatch_comm`: the same for two lines of input.
-/

namespace TextShell

open FileSystem

/-! ### Confined commands -/

/-- Two trees are left as they are, or the location of one of the paths is changed in the same way
in both. -/
inductive ChangesAlike (fs other : FileSystem) (paths : List String) :
    FileSystem → FileSystem → Prop where
  /-- Nothing is changed. -/
  | unchanged : ChangesAlike fs other paths fs other
  /-- One location is changed. -/
  | altered {path : String} {entry : Option Entry} : path ∈ paths →
      (∀ target, entry ≠ some (.link target)) →
      ChangesAlike fs other paths (fs.alter (Path.location path) entry)
        (other.alter (Path.location path) entry)

/-- Outcomes on two trees come to the same. -/
structure Outcome.Alike (fs other : FileSystem) (paths : List String) (one two : Outcome) :
    Prop where
  /-- Both succeed, or both fail for the same reason. -/
  result_eq : two.result = one.result
  /-- Both change the same. -/
  changesAlike : ChangesAlike fs other paths one.files two.files

/-- A command comes to the same on any two trees that are the same around its paths. -/
def IsConfined (command : FileSystem → Outcome) (paths : List String) : Prop :=
  ∀ fs other, (∀ path ∈ paths, fs.SameAround other path) →
    Outcome.Alike fs other paths (command fs) (command other)

variable {directory arguments : String} {fs other : FileSystem}

/-- A copy looks around its source and its destination. -/
theorem CopyRequest.isConfined (request : CopyRequest) (directory : String) :
    IsConfined (request.carryOut directory)
      [Path.resolve directory request.source, Path.resolve directory request.destination] := by
  intro fs other hsame
  have hsource := hsame _ (List.mem_cons_self ..)
  have hdestination := hsame _ (List.mem_cons_of_mem _ (List.mem_cons_self ..))
  have hchange := hsource.copyFile hdestination
  -- the two checks come out the same, so it is left to the copying itself
  unfold carryOut
  dsimp only
  rw [hsource.isFile_eq, hsource.isSamePlace_eq hdestination]
  split
  next => exact ⟨rfl, .unchanged⟩
  next =>
    split
    next => exact ⟨rfl, .unchanged⟩
    next =>
      generalize fs.copyFile _ _ = copied at hchange
      generalize other.copyFile _ _ = copiedOther at hchange
      cases hchange with
      | fault => exact ⟨rfl, .unchanged⟩
      | done hentry => exact ⟨rfl, .altered (by simp) hentry⟩

/-- A deletion looks around its path. -/
theorem DeleteRequest.isConfined (request : DeleteRequest) (directory : String) :
    IsConfined (request.carryOut directory) [Path.resolve directory request.path] := by
  intro fs other hsame
  have hchange := (hsame _ (List.mem_cons_self ..)).removeFile
  unfold carryOut
  dsimp only
  generalize fs.removeFile _ = removed at hchange
  generalize other.removeFile _ = removedOther at hchange
  cases hchange with
  | fault fault =>
    -- that the file is missing is no failure, in neither tree
    dsimp only
    split
    · exact ⟨rfl, .unchanged⟩
    · exact ⟨rfl, .unchanged⟩
  | done hentry => exact ⟨rfl, .altered (by simp) hentry⟩

/-- An update looks around its path. -/
theorem UpdateRequest.isConfined (request : UpdateRequest) (directory : String)
    (hpath : Reading.isPath request.path.toList = true) :
    IsConfined (request.carryOut directory) [Path.resolve directory request.path] := by
  intro fs other hsame
  have hsame := hsame _ (List.mem_cons_self ..)
  obtain ⟨above, name, hends, -⟩ := Path.endsIn_resolve directory hpath
  unfold carryOut
  dsimp only
  rw [hsame.isFile_eq, hsame.readText_eq]
  split
  next => exact ⟨rfl, .unchanged⟩
  next hfile =>
    have hfile : fs.isFile (Path.resolve directory request.path) = true := by simpa using hfile
    split
    next => exact ⟨rfl, .unchanged⟩
    next =>
      split
      next => exact ⟨rfl, .unchanged⟩
      next edited _ =>
        -- what is written is the same, as it comes from the same text
        obtain ⟨fault, hfault, hother⟩ | ⟨hreplace, hother⟩ :=
          hsame.replaceFile hends hfile (Text.joinLines edited).toUTF8
        · rw [hfault, hother]
          exact ⟨rfl, .unchanged⟩
        · have hentry : ∀ target,
              some (Entry.file (Text.joinLines edited).toUTF8) ≠ some (.link target) := by simp
          rw [hreplace, hother]
          exact ⟨rfl, .altered (List.mem_cons_self ..) hentry⟩

/-- A command is confined if the request that it reads is. -/
theorem FileCommand.isConfined_run {Request : Type} {paths : List String} (form : CommandForm)
    (read : String → Except Failure Request) (carryOut : Request → FileSystem → Outcome)
    (h : ∀ request, read arguments = .ok request → IsConfined (carryOut request) paths) :
    IsConfined (fun fs => run form arguments read (carryOut · fs) fs) paths := by
  intro fs other hsame
  unfold run Outcome.noted
  cases hread : read arguments with
  | error failure => exact ⟨rfl, .unchanged⟩
  | ok request =>
    have halike := h request hread fs other hsame
    exact ⟨halike.result_eq, halike.changesAlike⟩

/-! ### Unrelated paths -/

/-- Neither path is the other one or lies above it. -/
def Path.AreUnrelated (path other : String) : Prop :=
  ¬ components path <+: components other ∧ ¬ components other <+: components path

instance (path other : String) : Decidable (Path.AreUnrelated path other) :=
  inferInstanceAs (Decidable (_ ∧ _))

theorem Path.AreUnrelated.symm {path other : String} (h : AreUnrelated path other) :
    AreUnrelated other path :=
  ⟨h.2, h.1⟩

/-- A path of a text file: its last name is looked up and has the ending `.txt`. -/
def Path.LeadsToText (path : String) : Prop :=
  ∃ above name, EndsIn path above name ∧ IsTextName name

theorem Path.LeadsToText.location_ne_nil {path : String} (h : LeadsToText path) :
    location path ≠ [] := by
  obtain ⟨above, name, hends, -⟩ := h
  rw [hends.location_eq]
  exact List.cons_ne_nil _ _

/-- A text file is not near an unrelated path: it is neither on the way there nor a temporary
file. -/
theorem Path.AreUnrelated.not_isNear {path other : String} (h : AreUnrelated path other)
    (htext : LeadsToText path) : ¬ IsNear (location other) (location path) := by
  rintro (hway | ⟨number, htemporary⟩)
  · exact h.1 (List.reverse_suffix.mp hway)
  · obtain ⟨above, name, hends, hname⟩ := htext
    rw [hends.location_eq] at htemporary
    obtain ⟨rfl, -⟩ := List.cons.inj htemporary
    exact not_isTextName_temporaryName number hname

/-- Straight paths to text files. -/
structure ArePlain (paths : List String) : Prop where
  /-- Every path goes straight down. -/
  isStraight {path : String} : path ∈ paths → Path.IsStraight path
  /-- Every path ends in the name of a text file. -/
  leadsToText {path : String} : path ∈ paths → Path.LeadsToText path

namespace IsConfined

variable {command last : FileSystem → Outcome} {paths others : List String}

/-- A confined command changes nothing that is looked at around unrelated paths. -/
theorem sameAround (h : IsConfined command paths) (hfree : fs.IsLinkFree) (hpaths : ArePlain paths)
    (hothers : ArePlain others)
    (hunrelated : ∀ path ∈ paths, ∀ other ∈ others, Path.AreUnrelated path other) :
    ∀ other ∈ others, fs.SameAround (command fs).files other := by
  intro other hother
  have hstraight := hothers.isStraight hother
  have hself : ∀ path ∈ paths, fs.SameAround fs path :=
    fun path hpath => .refl hfree (hpaths.isStraight hpath)
  -- what it does to a tree is seen by comparing the tree with itself
  have hchange := (h fs fs hself).changesAlike
  generalize (command fs).files = after at hchange
  cases hchange with
  | unchanged => exact .refl hfree hstraight
  | altered hpath hentry =>
    have htext := hpaths.leadsToText hpath
    have hfar := (hunrelated _ hpath other hother).not_isNear htext
    exact .of_alter hfree hstraight htext.location_ne_nil hfar hentry

/-- Confined commands with unrelated paths can be given in either order. -/
theorem comm (hcommand : IsConfined command paths) (hlast : IsConfined last others)
    (hfree : fs.IsLinkFree) (hpaths : ArePlain paths) (hothers : ArePlain others)
    (hunrelated : ∀ path ∈ paths, ∀ other ∈ others, Path.AreUnrelated path other) :
    (last (command fs).files).files = (command (last fs).files).files ∧
      (last (command fs).files).result = (last fs).result ∧
      (command (last fs).files).result = (command fs).result := by
  have hsymm : ∀ other ∈ others, ∀ path ∈ paths, Path.AreUnrelated other path :=
    fun other hother path hpath => (hunrelated path hpath other hother).symm
  -- each command finds around its paths what it finds without the other
  have hsecond := hlast _ _ (hcommand.sameAround hfree hpaths hothers hunrelated)
  have hfirst := hcommand _ _ (hlast.sameAround hfree hothers hpaths hsymm)
  refine ⟨?_, hsecond.result_eq, hfirst.result_eq⟩
  -- so each makes the same change first or last, and the changes are of different places
  have hone := hfirst.changesAlike
  have htwo := hsecond.changesAlike
  generalize (last (command fs).files).files = both at htwo ⊢
  generalize (command (last fs).files).files = bothOther at hone ⊢
  generalize (command fs).files = after at hone htwo
  generalize (last fs).files = afterOther at hone htwo
  cases hone with
  | unchanged =>
    cases htwo with
    | unchanged => rfl
    | altered => rfl
  | altered hpath =>
    cases htwo with
    | unchanged => rfl
    | altered hother =>
      apply alter_comm
      intro heq
      -- the same place would be near itself
      have hnot := (hunrelated _ hpath _ hother).not_isNear (hpaths.leadsToText hpath)
      rw [heq] at hnot
      exact hnot (.inl List.suffix_rfl)

end IsConfined

/-! ### Lines of input -/

/-- A line of input is a well-formed copy, deletion or update, which works on these paths in a
directory. An update counts also if its line number does not fit. -/
inductive WorksOn (directory line : String) : List String → Prop where
  /-- A copy works on its source and its destination. -/
  | copy {source destination : List Char} : Verb.ofWord? (splitCommand line).1 = some .copy →
      Reading.copy? (splitCommand line).2.toList = some (source, destination) →
      WorksOn directory line
        [Path.resolve directory (.ofList source), Path.resolve directory (.ofList destination)]
  /-- A deletion works on its path. -/
  | delete {path : List Char} : Verb.ofWord? (splitCommand line).1 = some .delete →
      Reading.delete? (splitCommand line).2.toList = some path →
      WorksOn directory line [Path.resolve directory (.ofList path)]
  /-- An update works on its path. -/
  | update {path : List Char} {written : Reading.WrittenEdit} :
      Verb.ofWord? (splitCommand line).1 = some .update →
      Reading.update? (splitCommand line).2.toList = some (path, written) →
      WorksOn directory line [Path.resolve directory (.ofList path)]

namespace WorksOn

variable {line : String} {paths : List String}

/-- The paths of a line are those of its arguments, continued from the directory. -/
theorem exists_item (h : WorksOn directory line paths) {path : String} (hpath : path ∈ paths) :
    ∃ item : String, Reading.isPath item.toList = true ∧ path = Path.resolve directory item := by
  cases h with
  | copy _ hread =>
    obtain ⟨hsource, hdestination⟩ := Reading.isPath_of_copy? hread
    obtain rfl | hpath := List.mem_cons.mp hpath
    · exact ⟨_, by rwa [String.toList_ofList], rfl⟩
    · exact ⟨_, by rwa [String.toList_ofList], List.mem_singleton.mp hpath⟩
  | delete _ hread =>
    have hitem := Reading.isPath_of_delete? hread
    exact ⟨_, by rwa [String.toList_ofList], List.mem_singleton.mp hpath⟩
  | update _ hread =>
    have hitem := Reading.isPath_of_update? hread
    exact ⟨_, by rwa [String.toList_ofList], List.mem_singleton.mp hpath⟩

/-- In an absolute directory the paths of a line go straight down if they never go up. -/
theorem arePlain (h : WorksOn directory line paths) (habsolute : Path.isAbsolute directory = true)
    (hup : ∀ path ∈ paths, ".." ∉ Path.components path) : ArePlain paths where
  isStraight {path} hpath := by
    obtain ⟨item, -, rfl⟩ := h.exists_item hpath
    exact ⟨Path.isAbsolute_resolve item habsolute, hup _ hpath⟩
  leadsToText {path} hpath := by
    obtain ⟨item, hitem, rfl⟩ := h.exists_item hpath
    exact Path.endsIn_resolve directory hitem

/-- Behind such a line is a command on the files which is confined to its paths. -/
theorem exists_command (h : WorksOn directory line paths) :
    ∃ command : FileSystem → Outcome,
      (∀ session : Session, session.workspace.directory = directory →
        (CommandTable.standard.action (splitCommand line).1).perform (splitCommand line).2 session =
          Action.conclude session (command session.files)) ∧
      IsConfined command paths := by
  -- the word picks the action, and the arguments are read as the request for these paths
  cases h with
  | copy hverb hread =>
    rw [CommandTable.action_of_ofWord? hverb]
    refine ⟨FileCommand.copy directory (splitCommand line).2, ?_, ?_⟩
    · rintro session rfl
      rfl
    · apply FileCommand.isConfined_run .copy CopyRequest.read (·.carryOut directory ·)
      intro request hrequest
      unfold CopyRequest.read at hrequest
      rw [hread] at hrequest
      obtain rfl := Except.ok.inj hrequest
      exact CopyRequest.isConfined _ directory
  | delete hverb hread =>
    rw [CommandTable.action_of_ofWord? hverb]
    refine ⟨FileCommand.delete directory (splitCommand line).2, ?_, ?_⟩
    · rintro session rfl
      rfl
    · apply FileCommand.isConfined_run .delete DeleteRequest.read (·.carryOut directory ·)
      intro request hrequest
      unfold DeleteRequest.read at hrequest
      rw [hread] at hrequest
      obtain rfl := Except.ok.inj hrequest
      exact DeleteRequest.isConfined _ directory
  | update hverb hread =>
    rw [CommandTable.action_of_ofWord? hverb]
    refine ⟨FileCommand.update directory (splitCommand line).2, ?_, ?_⟩
    · rintro session rfl
      rfl
    · apply FileCommand.isConfined_run .update UpdateRequest.read (·.carryOut directory ·)
      intro request hrequest
      have hpath := UpdateRequest.isPath_of_read hrequest
      unfold UpdateRequest.read at hrequest
      rw [hread] at hrequest
      dsimp only at hrequest
      -- if the line number does not fit there is no request
      split at hrequest
      next =>
        obtain rfl := Except.ok.inj hrequest
        exact UpdateRequest.isConfined _ directory hpath
      next => cases hrequest

end WorksOn

namespace Session

/-- What a line of input writes to a working output. -/
def reply (session : Session) (table : CommandTable) (line : String) : String :=
  ({ session with output := .working }.dispatch table line).output.written

/-- A reply is the remark on the line, if there is one. -/
theorem reply_eq {table : CommandTable} (htable : table.IsBuiltIn) (session : Session)
    (line : String) :
    session.reply table line = ((session.remark? table line).map (· ++ "\n")).getD "" := by
  have hground : session.SameGround { session with output := .working } := ⟨rfl, rfl⟩
  unfold reply
  rw [dispatch_output htable, hground.remark?_eq htable]
  cases session.remark? table line with
  | none => rfl
  | some remark =>
    dsimp only
    rw [Output.isAccepting_working.write_written]
    rfl

/-- In a tree without links and an absolute directory, two well-formed copies, deletions or updates
can be given in either order, if their paths have no double dots and no path of the one line is the
same as a path of the other or lies above it, name by name. The files are the same afterwards, and
each line gets the same reply. -/
theorem dispatch_comm {session : Session} {first second : String} {paths others : List String}
    (hfree : session.files.IsLinkFree)
    (habsolute : Path.isAbsolute session.workspace.directory = true)
    (hfirst : WorksOn session.workspace.directory first paths)
    (hsecond : WorksOn session.workspace.directory second others)
    (hup : ∀ path ∈ paths ++ others, ".." ∉ Path.components path)
    (hunrelated : ∀ path ∈ paths, ∀ other ∈ others, Path.AreUnrelated path other) :
    ((session.dispatch .standard first).dispatch .standard second).files =
        ((session.dispatch .standard second).dispatch .standard first).files ∧
      (session.dispatch .standard second).reply .standard first =
        session.reply .standard first ∧
      (session.dispatch .standard first).reply .standard second =
        session.reply .standard second := by
  have hstandard := CommandTable.isBuiltIn_standard
  obtain ⟨command, hperform, hconfined⟩ := hfirst.exists_command
  obtain ⟨last, hperformLast, hconfinedLast⟩ := hsecond.exists_command
  have hpaths := hfirst.arePlain habsolute fun path hpath => hup path (List.mem_append_left _ hpath)
  have hothers :=
    hsecond.arePlain habsolute fun path hpath => hup path (List.mem_append_right _ hpath)
  obtain ⟨hfiles, hresultLast, hresult⟩ :=
    hconfined.comm hconfinedLast hfree hpaths hothers hunrelated
  -- the directory stays, so after the one line the other one stands for the same command
  have hdirectory (line : String) :
      (session.dispatch .standard line).workspace.directory = session.workspace.directory :=
    directory_dispatch hstandard session line
  have hafter : (session.dispatch .standard first).files = (command session.files).files := by
    rw [dispatch_files, hperform session rfl, Action.conclude_files]
  have hafterLast : (session.dispatch .standard second).files = (last session.files).files := by
    rw [dispatch_files, hperformLast session rfl, Action.conclude_files]
  refine ⟨?_, ?_, ?_⟩
  · rw [dispatch_files, dispatch_files, hperformLast _ (hdirectory first),
      hperform _ (hdirectory second), Action.conclude_files, Action.conclude_files, hafter,
      hafterLast, hfiles]
  · rw [reply_eq hstandard, reply_eq hstandard, remark?_congr]
    rw [hperform _ (hdirectory second), hperform session rfl, Action.conclude_result,
      Action.conclude_result, hafterLast, hresult]
  · rw [reply_eq hstandard, reply_eq hstandard, remark?_congr]
    rw [hperformLast _ (hdirectory first), hperformLast session rfl, Action.conclude_result,
      Action.conclude_result, hafter, hresultLast]

/-- Two files in one directory: a copy, and an update whose line number is out of range. -/
theorem dispatch_comm_beside :
    let files := ((FileSystem.empty.put ["d"] .directory).put ["a.txt", "d"]
      (.file "x".toUTF8)).put ["c.txt", "d"] (.file "y\n".toUTF8)
    let session := Session.start files "/d"
    let copy := "copy \"a.txt\" \"./b.txt\""
    let update := "update -f \"c.txt\" -dl 9"
    ((session.dispatch .standard copy).dispatch .standard update).files =
        ((session.dispatch .standard update).dispatch .standard copy).files ∧
      ((session.dispatch .standard update).dispatch .standard copy).files.lookup ["b.txt", "d"] =
        some (.file "x".toUTF8) ∧
      (session.dispatch .standard update).reply .standard copy = "" ∧
      (session.dispatch .standard copy).reply .standard update =
        "Invalid line number for deletion: 9. Please provide a valid line number.\n" := by
  intro files session copy update
  have hfree : session.files.IsLinkFree :=
    ((isLinkFree_empty.put (by simp) rfl).put (by simp) rfl).put (by simp) rfl
  have hcopy : WorksOn session.workspace.directory copy
      [Path.resolve "/d" (.ofList "a.txt".toList), Path.resolve "/d" (.ofList "./b.txt".toList)] :=
    .copy (by decide +kernel) (by decide +kernel)
  have hupdate : WorksOn session.workspace.directory update
      [Path.resolve "/d" (.ofList "c.txt".toList)] := by
    have hread : Reading.update? (splitCommand update).2.toList =
        some ("c.txt".toList, .deleteAt ['9']) := by
      decide +kernel
    exact .update (by decide +kernel) hread
  -- the dot in the second path is no component, so nothing is asked of it
  obtain ⟨hfiles, hreply, hreplyLast⟩ :=
    dispatch_comm hfree (by decide +kernel) hcopy hupdate (by decide +kernel) (by decide +kernel)
  refine ⟨hfiles, ?_, hreply.trans (by decide +kernel), hreplyLast.trans (by decide +kernel)⟩
  rw [← hfiles]
  decide +kernel

end Session

end TextShell
