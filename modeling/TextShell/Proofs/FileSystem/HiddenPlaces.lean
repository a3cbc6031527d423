import TextShell.Proofs.FileSystem.Repetition
import TextShell.Proofs.FileSystem.Trail

/-!
# Operations and hidden places

Each operation on files looks at the places of its paths and changes no others. In two trees that
are equal except for hidden places, an operation that keeps off these fails with the same fault or
succeeds in both, and leaves the trees equal except for the hidden places.

* `FileSystem.ensureTrail`, `FileSystem.ancestorsTrail`, `FileSystem.replacementTrail`: the places
  of operations that take several steps, each step in the tree that the one before has left.
* `FileSystem.SameResult`: the same fault, or two results that go together.
* `FileSystem.EqualBut.writeFile` and its like: one statement for each operation.
-/

namespace TextShell.FileSystem

/-! ### Places of several steps -/

/-- The places of making one directory: if something is there already, it is looked at, too. -/
def ensureTrail (fs : FileSystem) (path : String) : List Location :=
  fs.trail .entry path ++
    match fs.makeDirectory path with
    | .error .occupied => fs.trail .target path
    | _ => []

/-- The places of making the first of the given directories and those that it lacks. -/
def ancestorsTrail (fs : FileSystem) : List String → List Location
  | [] => []
  | path :: above =>
    fs.ensureTrail path ++
      match fs.ensureDirectory path with
      | .error .noEntry =>
        fs.ancestorsTrail above ++
          match fs.makeAncestors above with
          | (made, .ok ()) => made.ensureTrail path
          | (_, .error _) => []
      | _ => []

/-- The places of the names that are tried for a temporary file. -/
def numberedTrail (fs : FileSystem) (directory : String) : Nat → Nat → List Location
  | 0, _ => []
  | attempts + 1, number =>
    fs.trail .entry (Path.join directory (temporaryName number)) ++
      match fs.locate .entry (Path.join directory (temporaryName number)) with
      | .ok (.found _) => fs.numberedTrail directory attempts (number + 1)
      | _ => []

/-- The places of making a temporary file in a directory. -/
def temporaryTrail (fs : FileSystem) (directory : String) : List Location :=
  fs.numberedTrail (Path.resolve (Location.path fs.workingDirectory) directory) temporaryAttempts 0

/-- The places of putting a new file in place of another. -/
def replacementTrail (fs : FileSystem) (path : String) (content : ByteArray) : List Location :=
  fs.temporaryTrail ((Path.parent? path).getD ".") ++
    match fs.makeTemporary ((Path.parent? path).getD ".") with
    | .error _ => []
    | .ok (made, temporary) => (made.put temporary (.file content)).trail .entry path

/-! ### Results that go together -/

/-- The same fault, or two values that go together. -/
inductive SameResult {α : Type} (together : α → α → Prop) :
    Except FileFault α → Except FileFault α → Prop where
  /-- The same fault. -/
  | fault (fault : FileFault) : SameResult together (.error fault) (.error fault)
  /-- Two values. -/
  | done {value other : α} : together value other → SameResult together (.ok value) (.ok other)

theorem SameResult.error_or_ok {α : Type} {together : α → α → Prop}
    {result other : Except FileFault α} (h : SameResult together result other) :
    (∃ fault, result = .error fault ∧ other = .error fault) ∨
      ∃ value otherValue, result = .ok value ∧ other = .ok otherValue ∧
        together value otherValue := by
  cases h with
  | fault fault => exact .inl ⟨fault, rfl, rfl⟩
  | done hvalue => exact .inr ⟨_, _, rfl, rfl, hvalue⟩

/-- Trees that are equal except for hidden places, and the same answer beside them: which place was
opened, or whether all went well. -/
structure EqualOutcome {α : Type} (hidden : Location → Prop) (outcome other : FileSystem × α) :
    Prop where
  /-- The trees are equal except for hidden places. -/
  equalBut : outcome.1.EqualBut hidden other.1
  /-- The answer is the same. -/
  answer_eq : other.2 = outcome.2

theorem EqualOutcome.exists_eq {α : Type} {hidden : Location → Prop}
    {outcome other : FileSystem × α} (h : EqualOutcome hidden outcome other) :
    ∃ fs last answer, outcome = (fs, answer) ∧ other = (last, answer) ∧
      fs.EqualBut hidden last := by
  obtain ⟨fs, answer⟩ := outcome
  obtain ⟨last, lastAnswer⟩ := other
  obtain rfl : lastAnswer = answer := h.answer_eq
  exact ⟨fs, last, lastAnswer, rfl, rfl, h.equalBut⟩

namespace EqualBut

variable {fs other : FileSystem} {hidden : Location → Prop} {path source directory : String}

/-! ### Reading -/

theorem readFile_eq (h : fs.EqualBut hidden other)
    (hclear : ∀ place ∈ fs.trail .target path, ¬ hidden place) :
    other.readFile path = fs.readFile path := by
  unfold readFile
  rw [h.locate_eq hclear]
  cases hlocate : fs.locate .target path with
  | error fault => rfl
  | ok spot =>
    have hlookup := h.lookup_spot hclear hlocate
    cases spot with
    | vacant directory name => rfl
    | found place =>
      dsimp only [Spot.location] at hlookup ⊢
      rw [hlookup]

theorem readText_eq (h : fs.EqualBut hidden other)
    (hclear : ∀ place ∈ fs.trail .target path, ¬ hidden place) :
    other.readText path = fs.readText path := by
  unfold readText
  rw [h.readFile_eq hclear]

theorem target?_eq (h : fs.EqualBut hidden other)
    (hclear : ∀ place ∈ fs.trail .target path, ¬ hidden place) :
    other.target? path = fs.target? path := by
  unfold target?
  rw [h.locate_eq hclear]
  cases hlocate : fs.locate .target path with
  | error fault => rfl
  | ok spot =>
    have hlookup := h.lookup_spot hclear hlocate
    cases spot with
    | vacant directory name => rfl
    | found place => exact hlookup

theorem isFile_eq (h : fs.EqualBut hidden other)
    (hclear : ∀ place ∈ fs.trail .target path, ¬ hidden place) :
    other.isFile path = fs.isFile path := by
  rw [isFile, isFile, h.target?_eq hclear]

theorem isDirectory_eq (h : fs.EqualBut hidden other)
    (hclear : ∀ place ∈ fs.trail .target path, ¬ hidden place) :
    other.isDirectory path = fs.isDirectory path := by
  rw [isDirectory, isDirectory, h.target?_eq hclear]

theorem isSamePlace_eq (h : fs.EqualBut hidden other)
    (hsource : ∀ place ∈ fs.trail .location source, ¬ hidden place)
    (hclear : ∀ place ∈ fs.trail .location path, ¬ hidden place) :
    other.isSamePlace source path = fs.isSamePlace source path := by
  unfold isSamePlace canonicalize
  rw [h.locate_eq hsource, h.locate_eq hclear]

/-! ### Writing, copying and removing -/

theorem openEmpty (h : fs.EqualBut hidden other)
    (hclear : ∀ place ∈ fs.trail .creation path, ¬ hidden place) :
    SameResult (EqualOutcome hidden) (fs.openEmpty path) (other.openEmpty path) := by
  unfold FileSystem.openEmpty
  rw [h.locate_eq hclear]
  cases hlocate : fs.locate .creation path with
  | error fault => exact .fault fault
  | ok spot =>
    have hlookup := h.lookup_spot hclear hlocate
    cases spot with
    | vacant directory name => exact .done ⟨h.put _ _, rfl⟩
    | found place =>
      -- whether it can be emptied is read off the entry, which is the same in both trees
      dsimp only [Spot.location] at hlookup ⊢
      rw [hlookup]
      cases fs.lookup place with
      | none => exact .fault .isDirectory
      | some entry =>
        cases entry with
        | file => exact .done ⟨h.put _ _, rfl⟩
        | directory | link => exact .fault .isDirectory

theorem writeFile (h : fs.EqualBut hidden other)
    (hclear : ∀ place ∈ fs.trail .creation path, ¬ hidden place) (content : ByteArray) :
    SameResult (EqualBut hidden) (fs.writeFile path content) (other.writeFile path content) := by
  unfold FileSystem.writeFile
  rcases (h.openEmpty hclear).error_or_ok with
    ⟨fault, hopen, hother⟩ | ⟨opened, last, hopen, hother, hopened⟩
  · rw [hopen, hother]
    exact .fault fault
  · rw [hopen, hother]
    dsimp only
    rw [hopened.answer_eq]
    exact .done (hopened.equalBut.put _ _)

theorem copyFile (h : fs.EqualBut hidden other)
    (hsource : ∀ place ∈ fs.trail .target source, ¬ hidden place)
    (hclear : ∀ place ∈ fs.trail .creation path, ¬ hidden place) :
    SameResult (EqualBut hidden) (fs.copyFile source path) (other.copyFile source path) := by
  unfold FileSystem.copyFile
  rw [h.locate_eq hsource]
  cases hlocate : fs.locate .target source with
  | error fault => exact .fault fault
  | ok spot =>
    cases spot with
    | vacant directory name => exact .fault .noEntry
    | found origin =>
      have horigin : ¬ hidden origin := hsource _ (location_mem_trail hlocate)
      dsimp only
      rcases (h.openEmpty hclear).error_or_ok with
        ⟨fault, hopen, hother⟩ | ⟨opened, last, hopen, hother, hopened⟩
      · rw [hopen, hother]
        exact .fault fault
      · rw [hopen, hother]
        -- the source is not hidden, so it is read as the same also if it was just emptied
        dsimp only
        rw [hopened.equalBut.lookup_eq horigin, hopened.answer_eq]
        cases opened.1.lookup origin with
        | none => exact .fault .isDirectory
        | some entry =>
          cases entry with
          | file content => exact .done (hopened.equalBut.put _ _)
          | directory | link => exact .fault .isDirectory

theorem removeFile (h : fs.EqualBut hidden other)
    (hclear : ∀ place ∈ fs.trail .entry path, ¬ hidden place) :
    SameResult (EqualBut hidden) (fs.removeFile path) (other.removeFile path) := by
  unfold FileSystem.removeFile
  rw [h.locate_eq hclear]
  cases hlocate : fs.locate .entry path with
  | error fault => exact .fault fault
  | ok spot =>
    have hlookup := h.lookup_spot hclear hlocate
    cases spot with
    | vacant directory name => exact .fault .noEntry
    | found place =>
      dsimp only [Spot.location] at hlookup ⊢
      rw [hlookup]
      split
      next => exact .fault .isDirectory
      next => exact .done (h.remove place)

/-! ### Making directories -/

theorem makeDirectory (h : fs.EqualBut hidden other)
    (hclear : ∀ place ∈ fs.trail .entry path, ¬ hidden place) :
    SameResult (EqualBut hidden) (fs.makeDirectory path) (other.makeDirectory path) := by
  unfold FileSystem.makeDirectory
  rw [h.locate_eq hclear]
  cases fs.locate .entry path with
  | error fault => exact .fault fault
  | ok spot =>
    cases spot with
    | found place => exact .fault .occupied
    | vacant directory name => exact .done (h.put _ _)

theorem ensureDirectory (h : fs.EqualBut hidden other)
    (hclear : ∀ place ∈ fs.ensureTrail path, ¬ hidden place) :
    SameResult (EqualBut hidden) (fs.ensureDirectory path) (other.ensureDirectory path) := by
  rw [ensureTrail, List.forall_mem_append] at hclear
  obtain ⟨hentry, htarget⟩ := hclear
  unfold FileSystem.ensureDirectory
  rcases (h.makeDirectory hentry).error_or_ok with
    ⟨fault, hmake, hother⟩ | ⟨made, last, hmake, hother, hmade⟩
  · -- only what is in the way is followed through links, to see whether it is a directory
    rw [hmake] at htarget
    rw [hmake, hother]
    dsimp only
    by_cases hoccupied : fault = .occupied
    · subst hoccupied
      rw [h.isDirectory_eq htarget]
      split
      next => exact .done h
      next => exact .fault .occupied
    · have hno (directory : Prop) : ¬ (fault = .occupied ∧ directory) := fun hboth =>
        hoccupied hboth.1
      rw [if_neg (hno _), if_neg (hno _)]
      exact .fault fault
  · rw [hmake, hother]
    exact .done hmade

/-- Directories are made one after the other, each in the trees that the one before has left. -/
theorem makeAncestors {paths : List String} (h : fs.EqualBut hidden other)
    (hclear : ∀ place ∈ fs.ancestorsTrail paths, ¬ hidden place) :
    EqualOutcome hidden (fs.makeAncestors paths) (other.makeAncestors paths) := by
  induction paths with
  | nil => exact ⟨h, rfl⟩
  | cons path above ih =>
    rw [ancestorsTrail, List.forall_mem_append] at hclear
    obtain ⟨hpath, hothers⟩ := hclear
    rw [FileSystem.makeAncestors, FileSystem.makeAncestors]
    rcases (h.ensureDirectory hpath).error_or_ok with
      ⟨fault, hensure, hother⟩ | ⟨made, last, hensure, hother, hmade⟩
    · rw [hensure, hother]
      rw [hensure] at hothers
      dsimp only
      by_cases hmissing : fault = .noEntry
      · subst hmissing
        rw [if_pos rfl, if_pos rfl]
        dsimp only at hothers
        rw [List.forall_mem_append] at hothers
        obtain ⟨habove, hagain⟩ := hothers
        -- the directories above come first, and then this one is tried again
        obtain ⟨made, last, answer, hmake, hlast, hmade⟩ := (ih habove).exists_eq
        rw [hmake] at hagain
        rw [hmake, hlast]
        cases answer with
        | error fault => exact ⟨hmade, rfl⟩
        | ok =>
          dsimp only at hagain ⊢
          rcases (hmade.ensureDirectory hagain).error_or_ok with
            ⟨fault, hensure, hother⟩ | ⟨done, lastDone, hensure, hother, hdone⟩
          · rw [hensure, hother]
            exact ⟨hmade, rfl⟩
          · rw [hensure, hother]
            exact ⟨hdone, rfl⟩
      · rw [if_neg hmissing, if_neg hmissing]
        exact ⟨h, rfl⟩
    · rw [hensure, hother]
      exact ⟨hmade, rfl⟩

/-! ### Replacing -/

theorem makeNumbered {attempts number : Nat} (h : fs.EqualBut hidden other)
    (hclear : ∀ place ∈ fs.numberedTrail directory attempts number, ¬ hidden place) :
    SameResult (EqualOutcome hidden) (fs.makeNumbered directory attempts number)
      (other.makeNumbered directory attempts number) := by
  -- each attempt looks at one more name, and the first vacant one is the same in both trees
  induction attempts generalizing number with
  | zero => exact .fault _
  | succ attempts ih =>
    rw [numberedTrail, List.forall_mem_append] at hclear
    obtain ⟨hentry, hothers⟩ := hclear
    rw [FileSystem.makeNumbered, FileSystem.makeNumbered, h.locate_eq hentry]
    cases hlocate : fs.locate .entry (Path.join directory (temporaryName number)) with
    | error fault => exact .fault _
    | ok spot =>
      rw [hlocate] at hothers
      cases spot with
      | found place => exact ih hothers
      | vacant above name => exact .done ⟨h.put _ _, rfl⟩

theorem makeTemporary (h : fs.EqualBut hidden other)
    (hclear : ∀ place ∈ fs.temporaryTrail directory, ¬ hidden place) :
    SameResult (EqualOutcome hidden) (fs.makeTemporary directory)
      (other.makeTemporary directory) := by
  unfold FileSystem.makeTemporary
  rw [h.workingDirectory_eq]
  exact h.makeNumbered hclear

theorem rename {temporary : Location} (h : fs.EqualBut hidden other)
    (hclear : ∀ place ∈ fs.trail .entry path, ¬ hidden place)
    (htemporary : other.lookup temporary = fs.lookup temporary) :
    SameResult (EqualBut hidden) (fs.rename temporary path) (other.rename temporary path) := by
  unfold FileSystem.rename
  rw [h.locate_eq hclear, htemporary]
  cases hlocate : fs.locate .entry path with
  | error fault => exact .fault fault
  | ok spot =>
    have hlookup := h.lookup_spot hclear hlocate
    cases fs.lookup temporary with
    | none => exact .fault .noEntry
    | some entry =>
      cases spot with
      | vacant directory name => exact .done ((h.remove temporary).put _ _)
      | found place =>
        dsimp only [Spot.location] at hlookup ⊢
        rw [hlookup]
        split
        next => exact .fault .isDirectory
        next => exact .done ((h.remove temporary).put _ _)

theorem replaceFile {content : ByteArray} (h : fs.EqualBut hidden other)
    (hclear : ∀ place ∈ fs.replacementTrail path content, ¬ hidden place) :
    EqualOutcome hidden (fs.replaceFile path content) (other.replaceFile path content) := by
  rw [replacementTrail, List.forall_mem_append] at hclear
  obtain ⟨htemporary, hpath⟩ := hclear
  unfold FileSystem.replaceFile
  rcases (h.makeTemporary htemporary).error_or_ok with
    ⟨fault, hmake, hother⟩ |
      ⟨⟨made, temporary⟩, ⟨last, place⟩, hmake, hother, hmade, hplace⟩
  · rw [hmake, hother]
    exact ⟨h, rfl⟩
  · obtain rfl : place = temporary := hplace
    obtain ⟨⟨above, name, rfl, -⟩, -, -⟩ := put_of_makeTemporary hmake
    rw [hmake] at hpath
    rw [hmake, hother]
    dsimp only at hmade hpath ⊢
    -- the temporary file holds the new content in both trees when it is moved
    have hwritten := hmade.put (name :: above) (.file content)
    have hne : name :: above ≠ [] := List.cons_ne_nil name above
    have hlookup : (last.put (name :: above) (.file content)).lookup (name :: above) =
        (made.put (name :: above) (.file content)).lookup (name :: above) := by
      rw [lookup_put_self _ hne, lookup_put_self _ hne]
    rcases (hwritten.rename hpath hlookup).error_or_ok with
      ⟨fault, hrename, hlast⟩ | ⟨renamed, lastRenamed, hrename, hlast, hrenamed⟩
    · rw [hrename, hlast]
      exact ⟨hwritten.remove _, rfl⟩
    · rw [hrename, hlast]
      exact ⟨hrenamed, rfl⟩

end EqualBut

end TextShell.FileSystem
