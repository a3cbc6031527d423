import Mathlib.Data.Nat.Digits.Defs
import TextShell.Proofs.Request.Scanning

/-!
# The form of update arguments

The arguments of an update are written in one form: the option and the path, a change in one of four
ways, and blank characters at the end. A text is read as an update if and only if it has this form,
and no text has it in two ways. The number in a change may have leading zeros and any length; if its
value does not fit into 64 bits, the failure names it as it was written.

* `Reading.UpdateForm`: a path, a change and blank characters, and the arguments that they make up.
* `Reading.update?_eq_some_iff`: what is read is what was written.
* `UpdateRequest.read_form`: the arguments that have the form, and what each of them asks for.
-/

namespace TextShell

namespace Reading

/-! ### Changes -/

namespace WrittenEdit

/-- A change as it stands in the arguments, and what follows it. -/
def chars : WrittenEdit → List Char → List Char
  | replace text, rest => "\"".toList ++ (text ++ '"' :: rest)
  | append text, rest => "-a \"".toList ++ (text ++ '"' :: rest)
  | insertAt digits text, rest =>
    "-nl ".toList ++ (digits ++ (" \"".toList ++ (text ++ '"' :: rest)))
  | deleteAt digits, rest => "-dl ".toList ++ (digits ++ rest)

/-- A change that can be written: its text can stand between quotes and its number is one. -/
def IsProper : WrittenEdit → Prop
  | replace text | append text => IsItem text
  | insertAt digits text => IsNumeral digits ∧ IsItem text
  | deleteAt digits => IsNumeral digits

end WrittenEdit

variable {text path digits : List Char} {written : WrittenEdit}

/-- What follows a change does not change with it. -/
theorem WrittenEdit.chars_injective (written : WrittenEdit) :
    Function.Injective written.chars := by
  intro rest other h
  cases written with
  | replace text | append text =>
    exact (List.cons.inj (List.append_cancel_left (List.append_cancel_left h))).2
  | insertAt digits text =>
    have htext := List.append_cancel_left (List.append_cancel_left (List.append_cancel_left h))
    exact (List.cons.inj (List.append_cancel_left htext)).2
  | deleteAt digits => exact List.append_cancel_left (List.append_cancel_left h)

/-- A change that can be written is read where nothing but blank characters follows. -/
theorem writtenEdit?_chars (h : written.IsProper) {blanks : List Char}
    (hend : isEnd blanks = true) :
    writtenEdit? (written.chars blanks) = some written := by
  have hlast (make : List Char → WrittenEdit) {item : List Char} (hitem : IsItem item) :
      (lastText? (item ++ '"' :: blanks)).map make = some (make item) :=
    map_lastText?_eq_some_iff.mpr ⟨item, blanks, hitem, hend, rfl, rfl⟩
  cases written with
  -- the option decides the way, and a quote is none of the options
  | replace text | append text => exact hlast _ h
  | insertAt digits text =>
    obtain ⟨hdigits, htext⟩ := h
    have hnumeral : digits? (digits ++ (" \"".toList ++ (text ++ '"' :: blanks))) =
        some (digits, " \"".toList ++ (text ++ '"' :: blanks)) :=
      digits?_eq_some_iff.mpr ⟨hdigits, by simp, rfl⟩
    have hskip : writtenEdit? ((WrittenEdit.insertAt digits text).chars blanks) =
        ((digits? (digits ++ (" \"".toList ++ (text ++ '"' :: blanks)))).bind fun found =>
          (skip? " \"".toList found.2).bind fun rest =>
            (lastText? rest).map (.insertAt found.1)) := rfl
    rw [hskip, hnumeral, Option.bind_some, skip?_append, Option.bind_some]
    exact hlast _ htext
  | deleteAt digits =>
    have hnumeral : digits? (digits ++ blanks) = some (digits, blanks) :=
      digits?_eq_some_iff.mpr ⟨h, isDigit_head?_of_isEnd hend, rfl⟩
    have hskip : writtenEdit? ((WrittenEdit.deleteAt digits).chars blanks) =
        ((digits? (digits ++ blanks)).bind fun found =>
          if isEnd found.2 then some (.deleteAt found.1) else none) := rfl
    rw [hskip, hnumeral, Option.bind_some, if_pos hend]

/-- What is read as a change is one that was written, with blank characters behind it. -/
theorem exists_blanks_of_writtenEdit? (h : writtenEdit? text = some written) :
    ∃ blanks, written.IsProper ∧ isEnd blanks = true ∧ text = written.chars blanks := by
  unfold writtenEdit? at h
  split at h
  next rest hskip =>
    obtain rfl := skip?_eq_some_iff.mp hskip
    obtain ⟨item, blanks, hitem, hend, rfl, rfl⟩ := map_lastText?_eq_some_iff.mp h
    exact ⟨blanks, hitem, hend, rfl⟩
  next =>
    split at h
    next rest hskip =>
      obtain rfl := skip?_eq_some_iff.mp hskip
      simp only [Option.bind_eq_bind, Option.bind_eq_some_iff, Prod.exists, digits?_eq_some_iff,
        skip?_eq_some_iff, map_lastText?_eq_some_iff] at h
      obtain ⟨digits, _, ⟨hdigits, -, rfl⟩, _, rfl, item, blanks, hitem, hend, rfl, rfl⟩ := h
      exact ⟨blanks, ⟨hdigits, hitem⟩, hend, rfl⟩
    next =>
      split at h
      next rest hskip =>
        obtain rfl := skip?_eq_some_iff.mp hskip
        simp only [Option.bind_eq_bind, Option.bind_eq_some_iff, Prod.exists, digits?_eq_some_iff,
          Option.ite_none_right_eq_some, Option.some.injEq] at h
        obtain ⟨digits, blanks, ⟨hdigits, -, rfl⟩, hend, rfl⟩ := h
        exact ⟨blanks, hdigits, hend, rfl⟩
      next =>
        simp only [Option.bind_eq_bind, Option.bind_eq_some_iff, skip?_eq_some_iff,
          map_lastText?_eq_some_iff] at h
        obtain ⟨_, rfl, item, blanks, hitem, hend, rfl, rfl⟩ := h
        exact ⟨blanks, hitem, hend, rfl⟩

/-! ### The whole form -/

/-- A path, a change and the blank characters behind them. -/
structure UpdateForm where
  /-- The path. -/
  path : List Char
  /-- The change. -/
  change : WrittenEdit
  /-- What stands at the end. -/
  blanks : List Char
  deriving DecidableEq, Repr

/-- The number that digits stand for in the decimal system. -/
def decimal (digits : List Char) : Nat :=
  Nat.ofDigits 10 (digits.reverse.map fun digit => digit.toNat - '0'.toNat)

namespace UpdateForm

/-- A form as it stands in the arguments. -/
def chars (form : UpdateForm) : List Char :=
  "-f \"".toList ++ (form.path ++ '"' :: (" ".toList ++ form.change.chars form.blanks))

/-- The argument text that has a form. -/
def arguments (form : UpdateForm) : String := .ofList form.chars

/-- A form that arguments can have. -/
structure IsProper (form : UpdateForm) : Prop where
  /-- The path can stand between quotes and has the ending `.txt`. -/
  path : IsPath form.path
  /-- The change can be written. -/
  change : form.change.IsProper
  /-- The end is blank. -/
  blanks : ∀ c ∈ form.blanks, Text.isBlank c = true

/-- What arguments of a form ask for. -/
def request (form : UpdateForm) : Except Failure UpdateRequest :=
  let path := String.ofList form.path
  match form.change with
  | .replace text => .ok { path, edit := .replace (.ofList text) }
  | .append text => .ok { path, edit := .append (.ofList text) }
  | .insertAt digits text =>
    if decimal digits < UInt64.size then
      .ok { path, edit := .insertAt (.ofNat (decimal digits)) (.ofList text) }
    else .error (.insertOutOfRange (.ofList digits))
  | .deleteAt digits =>
    if decimal digits < UInt64.size then
      .ok { path, edit := .deleteAt (.ofNat (decimal digits)) }
    else .error (.deleteOutOfRange (.ofList digits))

end UpdateForm

/-- What is read as an update is what was written. -/
theorem update?_eq_some_iff :
    update? text = some (path, written) ↔
      ∃ blanks, UpdateForm.IsProper ⟨path, written, blanks⟩ ∧
        text = UpdateForm.chars ⟨path, written, blanks⟩ := by
  simp only [update?, Option.bind_eq_bind, Option.bind_eq_some_iff, Prod.exists, Option.some.injEq,
    Prod.mk.injEq, skip?_eq_some_iff, path?_eq_some_iff]
  constructor
  · rintro ⟨_, rfl, path, _, ⟨hpath, rfl⟩, rest, rfl, written, hwritten, rfl, rfl⟩
    obtain ⟨blanks, hproper, hend, rfl⟩ := exists_blanks_of_writtenEdit? hwritten
    exact ⟨blanks, ⟨hpath, hproper, isEnd_iff.mp hend⟩, rfl⟩
  · rintro ⟨blanks, hform, rfl⟩
    have hwritten := writtenEdit?_chars hform.change (isEnd_iff.mpr hform.blanks)
    refine ⟨_, rfl, path, _, ⟨hform.path, rfl⟩, _, rfl, written, hwritten, rfl, rfl⟩

theorem isPath_of_update? (h : update? text = some (path, written)) : isPath path = true := by
  obtain ⟨_, hform, -⟩ := update?_eq_some_iff.mp h
  exact hform.path.isPath

/-- Two forms of the same arguments are the same. -/
theorem UpdateForm.eq_of_chars_eq {form other : UpdateForm} (hform : form.IsProper)
    (hother : other.IsProper) (h : form.chars = other.chars) : form = other := by
  obtain ⟨path, change, blanks⟩ := form
  obtain ⟨path', change', blanks'⟩ := other
  -- both are what is read from the one text
  have hread := update?_eq_some_iff.mpr ⟨blanks, hform, rfl⟩
  rw [h, update?_eq_some_iff.mpr ⟨blanks', hother, rfl⟩] at hread
  obtain ⟨rfl, rfl⟩ := Prod.mk.inj (Option.some.inj hread)
  -- what stands before the blanks is the same, and so are they
  have hrest := (List.cons.inj (List.append_cancel_left (List.append_cancel_left h))).2
  obtain rfl : blanks = blanks' :=
    WrittenEdit.chars_injective _ (List.append_cancel_left hrest)
  rfl

/-- The number that is read is the one that the digits stand for. -/
theorem number_eq_decimal (digits : List Char) : number digits = decimal digits := by
  rw [decimal, Nat.ofDigits_eq_foldr, number, List.foldr_map, List.foldr_reverse]
  congr
  funext value digit
  exact Nat.add_comm ..

end Reading

open Reading

/-- The path of an update that was read is one that commands accept. -/
theorem UpdateRequest.isPath_of_read {arguments : String} {request : UpdateRequest}
    (h : read arguments = .ok request) : isPath request.path.toList = true := by
  unfold read at h
  split at h
  next => cases h
  next hread =>
    split at h
    next =>
      obtain rfl := Except.ok.inj h
      simpa using isPath_of_update? hread
    next => cases h

/-- Arguments of a form are read as what they ask for. -/
theorem UpdateRequest.read_arguments {form : UpdateForm} (h : form.IsProper) :
    read form.arguments = form.request := by
  obtain ⟨path, change, blanks⟩ := form
  have hread :
      update? (UpdateForm.arguments ⟨path, change, blanks⟩).toList = some (path, change) := by
    refine update?_eq_some_iff.mpr ⟨blanks, h, ?_⟩
    rw [UpdateForm.arguments, String.toList_ofList]
  rw [read, hread, UpdateForm.request]
  cases change with
  | replace text | append text => rfl
  | insertAt digits text | deleteAt digits =>
    by_cases hsize : decimal digits < UInt64.size <;>
      simp [WrittenEdit.edit, lineNumber?, number_eq_decimal, hsize]

/-- Update arguments. A text is refused as no update if and only if it does not have the form; one
that has it has it in one way only, and what is asked for is what the form says, or the failure of a
number that does not fit. -/
theorem UpdateRequest.read_form (arguments : String) :
    (read arguments = .error CommandForm.update.failure ↔
      ¬ ∃ form : UpdateForm, form.IsProper ∧ form.arguments = arguments) ∧
    ∀ form : UpdateForm, form.IsProper → form.arguments = arguments →
      read arguments = form.request ∧
      ∀ other : UpdateForm, other.IsProper → other.arguments = arguments → other = form := by
  refine ⟨⟨?_, ?_⟩, ?_⟩
  · rintro hread ⟨form, hform, rfl⟩
    rw [read_arguments hform] at hread
    -- what arguments of a form ask for is never refused in this way
    obtain ⟨path, change, blanks⟩ := form
    cases change with
    | replace text | append text => cases hread
    | insertAt digits text | deleteAt digits =>
      simp only [UpdateForm.request, CommandForm.failure] at hread
      split at hread <;> cases hread
  · intro hnone
    have hread : update? arguments.toList = none := by
      rw [Option.eq_none_iff_forall_ne_some]
      rintro ⟨path, written⟩ hsome
      obtain ⟨blanks, hform, htext⟩ := update?_eq_some_iff.mp hsome
      exact hnone ⟨_, hform, by rw [UpdateForm.arguments, ← htext, String.ofList_toList]⟩
    rw [read, hread]
  · rintro form hform rfl
    refine ⟨read_arguments hform, fun other hother heq => ?_⟩
    have hchars : other.chars = form.chars := String.ofList_injective heq
    exact UpdateForm.eq_of_chars_eq hother hform hchars

/-- A number with leading zeros that is just too large is reported as it was written. -/
theorem UpdateRequest.read_form_too_large :
    let form : UpdateForm :=
      ⟨"a.txt".toList, .insertAt "0018446744073709551616".toList "x".toList, ['\u3000']⟩
    form.IsProper ∧ form.arguments = "-f \"a.txt\" -nl 0018446744073709551616 \"x\"\u3000" ∧
      read "-f \"a.txt\" -nl 0018446744073709551616 \"x\"\u3000" =
        .error (.insertOutOfRange "0018446744073709551616") := by
  intro form
  have hdigits : "0018446744073709551616".toList.all Char.isDigit = true := by decide +kernel
  have hblanks : isEnd ['\u3000'] = true := by decide +kernel
  have hproper : form.IsProper :=
    { path := ⟨⟨['a'], by decide, by decide +kernel⟩, by decide +kernel⟩
      change := ⟨⟨by decide +kernel, List.all_eq_true.mp hdigits⟩,
        ⟨by decide +kernel, by decide +kernel⟩⟩
      blanks := isEnd_iff.mp hblanks }
  have harguments : form.arguments = "-f \"a.txt\" -nl 0018446744073709551616 \"x\"\u3000" := by
    decide +kernel
  obtain ⟨hread, -⟩ := (read_form _).2 form hproper harguments
  refine ⟨hproper, harguments, hread.trans ?_⟩
  decide +kernel

end TextShell
