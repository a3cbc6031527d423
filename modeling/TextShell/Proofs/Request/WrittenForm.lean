import TextShell.Proofs.Request.Scanning

/-!
# The written form of copies, creations and deletions

What is asked for is written in one way: paths and texts between quotes, with single spaces between
them and an option in front. A text is read as a request if and only if it is the written form of
that request with nothing but blank characters behind it. No text can be taken for two requests, or
cut in two ways, and every text that is not of this form is refused with the form of the command.

* `CopyRequest.written`, `CreateRequest.written`, `DeleteRequest.written`: the written form.
* `CopyRequest.isPath_of_read` and its like: the paths of a request can be written as paths.
* `ReadsExactly`: a command reads what is written and refuses all else.
* `readsExactly_requests`: so do the three commands.
-/

namespace TextShell

namespace Reading

variable {text source destination path item : List Char}

/-! ### What is read -/

/-- What is read as a copy is two paths in quotes. -/
theorem copy?_eq_some_iff :
    copy? text = some (source, destination) ↔
      (IsPath source ∧ IsPath destination) ∧ ∃ blanks, isEnd blanks = true ∧
        text = "\"".toList ++ (source ++ '"' :: (" \"".toList ++
          (destination ++ '"' :: blanks))) := by
  simp only [copy?, Option.bind_eq_bind, Option.bind_eq_some_iff, Prod.exists, skip?_eq_some_iff,
    path?_eq_some_iff, Option.ite_none_right_eq_some, Option.some.injEq, Prod.mk.injEq]
  constructor
  · rintro ⟨_, rfl, _, _, ⟨hsource, rfl⟩, _, rfl, _, blanks, ⟨hdestination, rfl⟩, hend, rfl, rfl⟩
    exact ⟨⟨hsource, hdestination⟩, blanks, hend, rfl⟩
  · rintro ⟨⟨hsource, hdestination⟩, blanks, hend, rfl⟩
    exact ⟨_, rfl, source, _, ⟨hsource, rfl⟩, _, rfl, destination, blanks, ⟨hdestination, rfl⟩,
      hend, rfl, rfl⟩

theorem isPath_of_copy? (h : copy? text = some (source, destination)) :
    isPath source = true ∧ isPath destination = true := by
  obtain ⟨⟨hsource, hdestination⟩, -⟩ := copy?_eq_some_iff.mp h
  exact ⟨hsource.isPath, hdestination.isPath⟩

/-- What is read as a deletion is a path in quotes behind the option. -/
theorem delete?_eq_some_iff :
    delete? text = some path ↔
      IsPath path ∧ ∃ blanks, isEnd blanks = true ∧
        text = "-f \"".toList ++ (path ++ '"' :: blanks) := by
  simp only [delete?, Option.bind_eq_bind, Option.bind_eq_some_iff, Prod.exists, skip?_eq_some_iff,
    path?_eq_some_iff, Option.ite_none_right_eq_some, Option.some.injEq]
  constructor
  · rintro ⟨_, rfl, _, blanks, ⟨hpath, rfl⟩, hend, rfl⟩
    exact ⟨hpath, blanks, hend, rfl⟩
  · rintro ⟨hpath, blanks, hend, rfl⟩
    exact ⟨_, rfl, path, blanks, ⟨hpath, rfl⟩, hend, rfl⟩

theorem isPath_of_delete? (h : delete? text = some path) : isPath path = true :=
  (delete?_eq_some_iff.mp h).1.isPath

/-- A quote is not blank, so a text that begins behind a path is not the end. -/
theorem isEnd_append_quote (before rest : List Char) : isEnd (before ++ '"' :: rest) = false := by
  have hquote : Text.isBlank '"' = false := by decide
  simp [isEnd, hquote]

/-- What is read as a creation without a text is a path in quotes behind the option. -/
theorem create?_eq_some_none_iff :
    create? text = some (path, none) ↔
      IsPath path ∧ ∃ blanks, isEnd blanks = true ∧
        text = "-f \"".toList ++ (path ++ '"' :: blanks) := by
  simp only [create?, Option.bind_eq_bind, Option.bind_eq_some_iff, Prod.exists, skip?_eq_some_iff,
    path?_eq_some_iff]
  constructor
  · rintro ⟨_, rfl, found, blanks, ⟨hpath, rfl⟩, hcreate⟩
    split at hcreate
    next hend =>
      obtain ⟨rfl, -⟩ := Prod.mk.inj (Option.some.inj hcreate)
      exact ⟨hpath, blanks, hend, rfl⟩
    next => simp [Option.bind_eq_some_iff] at hcreate
  · rintro ⟨hpath, blanks, hend, rfl⟩
    exact ⟨_, rfl, path, blanks, ⟨hpath, rfl⟩, if_pos hend⟩

/-- What is read as a creation with a text is a path and a text in quotes behind the option. -/
theorem create?_eq_some_some_iff :
    create? text = some (path, some item) ↔
      (IsPath path ∧ IsItem item) ∧ ∃ blanks, isEnd blanks = true ∧
        text = "-f \"".toList ++ (path ++ '"' :: (" \"".toList ++ (item ++ '"' :: blanks))) := by
  simp only [create?, Option.bind_eq_bind, Option.bind_eq_some_iff, Prod.exists, skip?_eq_some_iff,
    path?_eq_some_iff]
  constructor
  · rintro ⟨_, rfl, found, rest, ⟨hpath, rfl⟩, hcreate⟩
    split at hcreate
    next => simp at hcreate
    next =>
      simp only [Option.bind_eq_some_iff, skip?_eq_some_iff, lastText?_eq_some_iff,
        Option.some.injEq, Prod.mk.injEq] at hcreate
      obtain ⟨_, rfl, _, ⟨blanks, hitem, hend, rfl⟩, rfl, rfl⟩ := hcreate
      exact ⟨⟨hpath, hitem⟩, blanks, hend, rfl⟩
  · rintro ⟨⟨hpath, hitem⟩, blanks, hend, rfl⟩
    refine ⟨_, rfl, path, _, ⟨hpath, rfl⟩, ?_⟩
    have hmore : isEnd (" \"".toList ++ (item ++ '"' :: blanks)) = false :=
      isEnd_append_quote [' '] _
    simp only [hmore, Bool.false_eq_true, if_false, skip?_append, Option.bind_some,
      lastText?_eq_some_iff.mpr ⟨blanks, hitem, hend, rfl⟩]

end Reading

open Reading

/-! ### What is written -/

/-- A copy as it is written. -/
def CopyRequest.written (request : CopyRequest) : String :=
  "\"" ++ request.source ++ "\" \"" ++ request.destination ++ "\""

/-- A copy that can be written. -/
def CopyRequest.IsProper (request : CopyRequest) : Prop :=
  IsPath request.source.toList ∧ IsPath request.destination.toList

/-- A creation as it is written. -/
def CreateRequest.written : CreateRequest → String
  | { path, text := none } => "-f \"" ++ path ++ "\""
  | { path, text := some text } => "-f \"" ++ path ++ "\" \"" ++ text ++ "\""

/-- A creation that can be written. -/
def CreateRequest.IsProper (request : CreateRequest) : Prop :=
  IsPath request.path.toList ∧ ∀ text, request.text = some text → IsItem text.toList

/-- A deletion as it is written. -/
def DeleteRequest.written (request : DeleteRequest) : String := "-f \"" ++ request.path ++ "\""

/-- A deletion that can be written. -/
def DeleteRequest.IsProper (request : DeleteRequest) : Prop := IsPath request.path.toList

/-- A command reads exactly what is written: proper requests with blank characters behind them. -/
structure ReadsExactly {Request : Type} (read : String → Except Failure Request)
    (IsProper : Request → Prop) (written : Request → String) (refusal : Failure) : Prop where
  /-- A text is read as a request if it is the written request and blank characters. -/
  read_eq_ok_iff {arguments : String} {request : Request} :
    read arguments = .ok request ↔
      IsProper request ∧ ∃ blanks, Text.isBlankText blanks = true ∧
        arguments = written request ++ blanks
  /-- There is one way at most to cut a text into the two. -/
  unique {request other : Request} {blanks rest : String} :
    IsProper request → IsProper other → Text.isBlankText blanks = true →
      Text.isBlankText rest = true → written request ++ blanks = written other ++ rest →
      request = other ∧ blanks = rest
  /-- Every other text is refused in the same way. -/
  read_eq_error_iff {arguments : String} {failure : Failure} :
    read arguments = .error failure ↔
      failure = refusal ∧ ¬ ∃ request blanks, IsProper request ∧
        Text.isBlankText blanks = true ∧ arguments = written request ++ blanks

/-- It is enough to know what is read, and that there is one way of refusing. -/
theorem ReadsExactly.of_read_eq_ok_iff {Request : Type} {read : String → Except Failure Request}
    {IsProper : Request → Prop} {written : Request → String} {refusal : Failure}
    (hok : ∀ arguments request, read arguments = .ok request ↔
      IsProper request ∧ ∃ blanks, Text.isBlankText blanks = true ∧
        arguments = written request ++ blanks)
    (hrefusal : ∀ arguments failure, read arguments = .error failure → failure = refusal) :
    ReadsExactly read IsProper written refusal where
  read_eq_ok_iff := hok _ _
  unique {request other blanks rest} hrequest hother hblanks hrest heq := by
    -- both requests are what is read from the one text
    have hread := (hok _ request).mpr ⟨hrequest, blanks, hblanks, rfl⟩
    rw [heq, (hok _ other).mpr ⟨hother, rest, hrest, rfl⟩] at hread
    obtain rfl := Except.ok.inj hread
    exact ⟨rfl, (String.append_right_inj _).mp heq⟩
  read_eq_error_iff {arguments failure} := by
    constructor
    · intro hread
      refine ⟨hrefusal _ _ hread, ?_⟩
      rintro ⟨request, blanks, hrequest, hblanks, heq⟩
      rw [(hok _ request).mpr ⟨hrequest, blanks, hblanks, heq⟩] at hread
      cases hread
    · rintro ⟨rfl, hnone⟩
      cases hread : read arguments with
      | error failure => rw [hrefusal _ _ hread]
      | ok request =>
        obtain ⟨hrequest, blanks, hblanks, heq⟩ := (hok _ _).mp hread
        exact absurd ⟨request, blanks, hrequest, hblanks, heq⟩ hnone

/-! ### The three commands -/

/-- The end of a text can be given by its characters. -/
theorem exists_blanks_iff {text before : String} :
    (∃ blanks, isEnd blanks = true ∧ text.toList = before.toList ++ blanks) ↔
      ∃ blanks, Text.isBlankText blanks = true ∧ text = before ++ blanks := by
  constructor
  · rintro ⟨blanks, hend, htext⟩
    refine ⟨.ofList blanks, ?_, ?_⟩
    · rwa [Text.isBlankText, String.toList_ofList]
    · rw [← String.toList_inj, String.toList_append, String.toList_ofList, htext]
  · rintro ⟨blanks, hblanks, rfl⟩
    exact ⟨blanks.toList, hblanks, String.toList_append⟩

theorem CopyRequest.read_eq_ok_iff (arguments : String) (request : CopyRequest) :
    read arguments = .ok request ↔
      request.IsProper ∧ ∃ blanks, Text.isBlankText blanks = true ∧
        arguments = request.written ++ blanks := by
  have hread : read arguments = .ok request ↔
      copy? arguments.toList = some (request.source.toList, request.destination.toList) := by
    obtain ⟨source, destination⟩ := request
    unfold read
    split
    next source' destination' hcopy =>
      simp [hcopy, ← String.toList_inj]
    next hnone => simp [hnone]
  have hwritten (blanks : List Char) : request.written.toList ++ blanks =
      "\"".toList ++ (request.source.toList ++ '"' :: (" \"".toList ++
        (request.destination.toList ++ '"' :: blanks))) := by
    simp [written]
  rw [hread, copy?_eq_some_iff, ← exists_blanks_iff]
  simp only [hwritten, IsProper]

theorem CreateRequest.read_eq_ok_iff (arguments : String) (request : CreateRequest) :
    read arguments = .ok request ↔
      request.IsProper ∧ ∃ blanks, Text.isBlankText blanks = true ∧
        arguments = request.written ++ blanks := by
  have hread : read arguments = .ok request ↔
      create? arguments.toList = some (request.path.toList, request.text.map String.toList) := by
    obtain ⟨path, text⟩ := request
    unfold read
    split
    next path' text' hcreate =>
      cases text <;> cases text' <;> simp [hcreate, ← String.toList_inj]
    next hnone => simp [hnone]
  obtain ⟨path, text⟩ := request
  rw [hread, ← exists_blanks_iff]
  cases text with
  | none =>
    have hwritten (blanks : List Char) : (written ⟨path, none⟩).toList ++ blanks =
        "-f \"".toList ++ (path.toList ++ '"' :: blanks) := by
      simp [written]
    simp only [Option.map_none, create?_eq_some_none_iff, hwritten, IsProper, reduceCtorEq,
      false_implies, implies_true, and_true]
  | some text =>
    have hwritten (blanks : List Char) : (written ⟨path, some text⟩).toList ++ blanks =
        "-f \"".toList ++ (path.toList ++ '"' :: (" \"".toList ++
          (text.toList ++ '"' :: blanks))) := by
      simp [written]
    simp only [Option.map_some, create?_eq_some_some_iff, hwritten, IsProper, Option.some.injEq,
      forall_eq']

theorem DeleteRequest.read_eq_ok_iff (arguments : String) (request : DeleteRequest) :
    read arguments = .ok request ↔
      request.IsProper ∧ ∃ blanks, Text.isBlankText blanks = true ∧
        arguments = request.written ++ blanks := by
  have hread : read arguments = .ok request ↔
      delete? arguments.toList = some request.path.toList := by
    obtain ⟨path⟩ := request
    unfold read
    split
    next path' hdelete => simp [hdelete, ← String.toList_inj]
    next hnone => simp [hnone]
  have hwritten (blanks : List Char) : request.written.toList ++ blanks =
      "-f \"".toList ++ (request.path.toList ++ '"' :: blanks) := by
    simp [written]
  rw [hread, delete?_eq_some_iff, ← exists_blanks_iff]
  simp only [hwritten, IsProper]

/-- The paths of a copy that was read are paths that commands accept. -/
theorem CopyRequest.isPath_of_read {arguments : String} {request : CopyRequest}
    (h : read arguments = .ok request) :
    isPath request.source.toList = true ∧ isPath request.destination.toList = true := by
  obtain ⟨⟨hsource, hdestination⟩, -⟩ := (read_eq_ok_iff ..).mp h
  exact ⟨hsource.isPath, hdestination.isPath⟩

/-- The path of a creation that was read is one that commands accept. -/
theorem CreateRequest.isPath_of_read {arguments : String} {request : CreateRequest}
    (h : read arguments = .ok request) : isPath request.path.toList = true :=
  ((read_eq_ok_iff ..).mp h).1.1.isPath

/-- The path of a deletion that was read is one that commands accept. -/
theorem DeleteRequest.isPath_of_read {arguments : String} {request : DeleteRequest}
    (h : read arguments = .ok request) : isPath request.path.toList = true :=
  IsPath.isPath ((read_eq_ok_iff ..).mp h).1

/-- The arguments of a copy, a creation and a deletion: each command reads what is written in its
form, with blank characters behind it, as the one request that is written there, and refuses every
other text with its form. -/
theorem readsExactly_requests :
    ReadsExactly CopyRequest.read CopyRequest.IsProper CopyRequest.written
      (.usage "copy" CommandForm.copy.form) ∧
    ReadsExactly CreateRequest.read CreateRequest.IsProper CreateRequest.written
      (.usage "create" CommandForm.create.form) ∧
    ReadsExactly DeleteRequest.read DeleteRequest.IsProper DeleteRequest.written
      (.usage "delete" CommandForm.delete.form) := by
  refine ⟨.of_read_eq_ok_iff CopyRequest.read_eq_ok_iff ?_,
    .of_read_eq_ok_iff CreateRequest.read_eq_ok_iff ?_,
    .of_read_eq_ok_iff DeleteRequest.read_eq_ok_iff ?_⟩
  all_goals
    intro arguments failure hread
    simp only [CopyRequest.read, CreateRequest.read, DeleteRequest.read] at hread
    -- there is a failure only where nothing is read
    split at hread
    · cases hread
    · exact (Except.error.inj hread).symm

example : CreateRequest.read "-f \"a.txt b.txt\" \"x\ny\" \u3000" =
    .ok ⟨"a.txt b.txt", some "x\ny"⟩ := by
  decide +kernel

example : CreateRequest.read "-f \"a.txt\" \"\"" = .error CommandForm.create.failure := by
  decide +kernel

end TextShell
