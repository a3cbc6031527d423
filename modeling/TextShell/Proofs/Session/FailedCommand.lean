import TextShell.Proofs.FileSystem.Replacement
import TextShell.Proofs.Request.CarryOut
import TextShell.Session.Dispatch
import Mathlib.Control.Monad.Basic

/-!
# Failed commands

A command that fails does no damage. Reading the arguments, looking for the file and checking an
edit come before the first change, and what is changed before a later fault is undone. The one
thing that a failed command can leave behind is directories, made above a file that could not be
created.

* `FileCommand.files_of_failure`: copying, deleting and updating change nothing when they fail.
* `FileCommand.addsDirectories_create`: a creation that fails adds no more than directories.
* `Session.dispatch_of_failure`: the same for a line of input.
-/

namespace TextShell

variable {directory arguments : String} {fs : FileSystem} {failure : Failure}

/-! ### Carrying out requests -/

theorem CopyRequest.files_of_failure (request : CopyRequest)
    (h : (request.carryOut directory fs).result = .error failure) :
    (request.carryOut directory fs).files = fs := by
  have hcourse := request.course directory fs
  generalize request.carryOut directory fs = outcome at h hcourse ⊢
  cases hcourse with
  | missing | fault => rw [Outcome.failed_files]
  | same | copied => cases h

theorem DeleteRequest.files_of_failure (request : DeleteRequest)
    (h : (request.carryOut directory fs).result = .error failure) :
    (request.carryOut directory fs).files = fs := by
  have hcourse := request.course directory fs
  generalize request.carryOut directory fs = outcome at h hcourse ⊢
  cases hcourse with
  | fault => rw [Outcome.failed_files]
  | removed | absent => cases h

/-- The one change that an update makes is undone if it cannot be completed. -/
theorem UpdateRequest.files_of_failure (request : UpdateRequest)
    (h : (request.carryOut directory fs).result = .error failure) :
    (request.carryOut directory fs).files = fs := by
  have hcourse := request.course directory fs
  generalize request.carryOut directory fs = outcome at h hcourse ⊢
  -- most failures come before the replacement, which is all that changes the files
  cases hcourse with
  | missing | unreadable | refused => rw [Outcome.failed_files]
  | fault _ _ _ hreplace => exact FileSystem.replaceFile_eq_of_error hreplace
  | updated => cases h

/-- Making directories adds no more than directories, and that is all a creation does before the
file is written. -/
theorem CreateRequest.addsDirectories_of_failure (request : CreateRequest)
    (h : (request.carryOut directory fs).result = .error failure) :
    fs.AddsDirectories (request.carryOut directory fs).files := by
  have hcourse := request.course directory fs
  generalize request.carryOut directory fs = outcome at h hcourse ⊢
  cases hcourse with
  | noDirectory hmake | fault hmake =>
    rw [Outcome.failed_files]
    exact FileSystem.addsDirectories_of_makeDirectories hmake
  | created => cases h

/-- What goes wrong after the arguments are read is a fault of the files. -/
theorem CreateRequest.exists_io_of_failure (request : CreateRequest)
    (h : (request.carryOut directory fs).result = .error failure) :
    ∃ context fault, failure = .io context fault := by
  have hcourse := request.course directory fs
  generalize request.carryOut directory fs = outcome at h hcourse
  cases hcourse with
  | noDirectory | fault => exact ⟨_, _, (Except.error.inj h).symm⟩
  | created => cases h

/-! ### Commands -/

namespace FileCommand

/-- A command fails on its arguments, with the files untouched, or in carrying out a request. -/
theorem run_of_failure {Request : Type} {form : CommandForm}
    {read : String → Except Failure Request} {carryOut : Request → Outcome}
    (h : (run form arguments read carryOut fs).result = .error failure) :
    (read arguments = .error failure ∧ (run form arguments read carryOut fs).files = fs) ∨
      ∃ request, (carryOut request).result = .error failure ∧
        (run form arguments read carryOut fs).files = (carryOut request).files := by
  cases hread : read arguments with
  | error other =>
    rw [(run_of_error hread).1] at h
    obtain rfl := Except.error.inj h
    exact .inl ⟨rfl, (run_of_error hread).2⟩
  | ok request =>
    rw [(run_of_ok hread).1] at h
    exact .inr ⟨request, h, (run_of_ok hread).2⟩

theorem files_of_failure_run {Request : Type} {form : CommandForm}
    {read : String → Except Failure Request} {carryOut : Request → Outcome}
    (hcarry : ∀ request, (carryOut request).result = .error failure →
      (carryOut request).files = fs)
    (h : (run form arguments read carryOut fs).result = .error failure) :
    (run form arguments read carryOut fs).files = fs := by
  obtain ⟨-, hfiles⟩ | ⟨request, hresult, hfiles⟩ := run_of_failure h
  · exact hfiles
  · rw [hfiles, hcarry request hresult]

/-- Copying, deleting and updating change nothing when they fail. -/
theorem files_of_failure :
    ((copy directory arguments fs).result = .error failure →
      (copy directory arguments fs).files = fs) ∧
    ((delete directory arguments fs).result = .error failure →
      (delete directory arguments fs).files = fs) ∧
    ((update directory arguments fs).result = .error failure →
      (update directory arguments fs).files = fs) :=
  ⟨files_of_failure_run fun request => request.files_of_failure,
    files_of_failure_run fun request => request.files_of_failure,
    files_of_failure_run fun request => request.files_of_failure⟩

/-- A creation that fails adds no more than directories, and nothing if its arguments are wrong. -/
theorem addsDirectories_create (h : (create directory arguments fs).result = .error failure) :
    fs.AddsDirectories (create directory arguments fs).files ∧
      ((∃ command form, failure = .usage command form) →
        (create directory arguments fs).files = fs) := by
  obtain ⟨-, hfiles⟩ | ⟨request, hresult, hfiles⟩ := run_of_failure h
  · have hsame : (create directory arguments fs).files = fs := hfiles
    rw [hsame]
    exact ⟨.refl fs, fun _ => rfl⟩
  · refine ⟨?_, ?_⟩
    · show fs.AddsDirectories (run _ _ _ _ fs).files
      rw [hfiles]
      exact request.addsDirectories_of_failure hresult
    · obtain ⟨context, fault, rfl⟩ := request.exists_io_of_failure hresult
      rintro ⟨_, _, husage⟩
      cases husage

end FileCommand

/-! ### Lines of input -/

namespace Session

/-- A line of input whose command fails leaves the session's own state as it is and the files
undamaged: a failed copy, deletion or update changes nothing, and neither does a creation with wrong
arguments; any other failed creation keeps all there was and adds no more than directories. -/
theorem dispatch_of_failure (session : Session) (line : String) {failure : Failure}
    (h : ((CommandTable.standard.action (splitCommand line).1).perform (splitCommand line).2
      session).2 = .error failure) :
    (session.dispatch .standard line).workspace = session.workspace ∧
      (Verb.ofWord? (splitCommand line).1 ≠ some .create →
        (session.dispatch .standard line).files = session.files) ∧
      (Verb.ofWord? (splitCommand line).1 = some .create →
        session.files.AddsDirectories (session.dispatch .standard line).files ∧
          ((∃ command form, failure = .usage command form) →
            (session.dispatch .standard line).files = session.files)) := by
  rw [dispatch_files, dispatch_workspace]
  -- the verb decides, and without one nothing can fail
  rw [CommandTable.action_standard] at h ⊢
  generalize (splitCommand line).2 = arguments at h ⊢
  cases hverb : Verb.ofWord? (splitCommand line).1 with
  | none =>
    rw [hverb] at h
    cases h
  | some verb =>
    rw [hverb] at h
    cases verb with
    | copy => exact ⟨rfl, fun _ => FileCommand.files_of_failure.1 h, by simp⟩
    | create => exact ⟨rfl, by simp, fun _ => FileCommand.addsDirectories_create h⟩
    | delete => exact ⟨rfl, fun _ => FileCommand.files_of_failure.2.1 h, by simp⟩
    | update => exact ⟨rfl, fun _ => FileCommand.files_of_failure.2.2 h, by simp⟩
    | exit => cases h

/-- A creation that fails on a directory in the place of the file, after it has made another. -/
theorem dispatch_of_failure_half_way :
    let files := FileSystem.empty.put ["d.txt"] .directory
    let after := (Session.start files "/").dispatch .standard "create -f \"a/../d.txt\""
    files.AddsDirectories after.files ∧ after.files.lookup ["a"] = some .directory := by
  intro files after
  have hfailure : ((CommandTable.standard.action (splitCommand
      "create -f \"a/../d.txt\"").1).perform (splitCommand "create -f \"a/../d.txt\"").2
      (Session.start files "/")).2 =
        .error (.io "failed to create /a/../d.txt" .isDirectory) := by
    decide +kernel
  exact ⟨((dispatch_of_failure _ _ hfailure).2.2 (by decide +kernel)).1, by decide +kernel⟩

end Session

end TextShell
