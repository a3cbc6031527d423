import Mathlib.Data.List.Basic
import TextShell.Proofs.Request.UpdateForm
import TextShell.Proofs.Request.WrittenForm

/-!
# Blank characters behind arguments

Each of the four forms of arguments ends in a quote or a digit, and any blank characters may follow.
More of them at the end of a text make no difference then: they cannot complete a form that is not
there, and they cannot break one that is. So arguments are read as the same request, or refused for
the same reason, with and without them.

* `Reading.exists_append_blanks_iff`: blank characters behind a text that is not blank at its end.
* `Reading.read?_append_blanks`: what holds of any reader that takes blank characters at the end.
* `CopyRequest.read_append_blanks` and its like: the four commands.
-/

namespace TextShell

namespace Reading

variable {text body blanks : List Char}

/-- The last character of a text is not blank. -/
def EndsInMark (text : List Char) : Prop :=
  ∃ before mark, text = before ++ [mark] ∧ Text.isBlank mark = false

theorem endsInMark_quote (before : List Char) : EndsInMark (before ++ ['"']) :=
  ⟨before, '"', rfl, by decide⟩

/-- A numeral ends in a digit, which is not blank. -/
theorem IsNumeral.endsInMark {digits : List Char} (h : IsNumeral digits) : EndsInMark digits := by
  rcases List.eq_nil_or_concat' digits with rfl | ⟨others, last, rfl⟩
  · exact absurd rfl h.ne_nil
  · refine ⟨others, last, rfl, ?_⟩
    have hdigit := h.isDigit last (by simp)
    rw [← Bool.not_eq_true]
    intro hblank
    rw [isDigit_of_isBlank hblank] at hdigit
    cases hdigit

theorem EndsInMark.append_left (h : EndsInMark text) (before : List Char) :
    EndsInMark (before ++ text) := by
  obtain ⟨others, mark, rfl, hmark⟩ := h
  exact ⟨before ++ others, mark, (List.append_assoc ..).symm, hmark⟩

theorem isEnd_append (before after : List Char) :
    isEnd (before ++ after) = true ↔ isEnd before = true ∧ isEnd after = true := by
  rw [isEnd, List.all_append, Bool.and_eq_true]
  rfl

/-- Blank characters that follow a text are among those that follow its last mark. -/
theorem exists_append_blanks_iff (hbody : EndsInMark body) (hblanks : isEnd blanks = true)
    (text : List Char) :
    (∃ rest, isEnd rest = true ∧ text ++ blanks = body ++ rest) ↔
      ∃ rest, isEnd rest = true ∧ text = body ++ rest := by
  constructor
  · rintro ⟨rest, hrest, htext⟩
    rcases List.append_eq_append_iff.mp htext with ⟨more, hmore, hcut⟩ | ⟨less, hless, hcut⟩
    · -- the text ends within the body, so what is left of the body is blank, and there is no such
      obtain ⟨before, mark, rfl, hmark⟩ := hbody
      rw [hcut, isEnd_append] at hblanks
      rcases List.eq_nil_or_concat' more with rfl | ⟨others, last, rfl⟩
      · exact ⟨[], rfl, by simpa using hmore.symm⟩
      · rw [← List.append_assoc, List.append_singleton_inj] at hmore
        have hlast := isEnd_iff.mp hblanks.1 last (by simp)
        rw [← hmore.2, hmark] at hlast
        cases hlast
    · rw [hcut, isEnd_append] at hrest
      exact ⟨less, hrest.1, hless⟩
  · rintro ⟨rest, hrest, rfl⟩
    exact ⟨rest ++ blanks, (isEnd_append ..).mpr ⟨hrest, hblanks⟩, List.append_assoc ..⟩

/-! ### The four forms -/

theorem copy?_append_blanks (text : List Char) (hblanks : isEnd blanks = true) :
    copy? (text ++ blanks) = copy? text := by
  refine Option.ext fun ⟨source, destination⟩ => ?_
  rw [copy?_eq_some_iff, copy?_eq_some_iff]
  refine and_congr_right fun _ => ?_
  have hquote := endsInMark_quote ("\"".toList ++ source ++ "\" \"".toList ++ destination)
  simpa using exists_append_blanks_iff hquote hblanks text

theorem delete?_append_blanks (text : List Char) (hblanks : isEnd blanks = true) :
    delete? (text ++ blanks) = delete? text := by
  refine Option.ext fun path => ?_
  rw [delete?_eq_some_iff, delete?_eq_some_iff]
  refine and_congr_right fun _ => ?_
  have hquote := endsInMark_quote ("-f \"".toList ++ path)
  simpa using exists_append_blanks_iff hquote hblanks text

theorem create?_append_blanks (text : List Char) (hblanks : isEnd blanks = true) :
    create? (text ++ blanks) = create? text := by
  refine Option.ext fun ⟨path, item?⟩ => ?_
  cases item? with
  | none =>
    rw [create?_eq_some_none_iff, create?_eq_some_none_iff]
    refine and_congr_right fun _ => ?_
    have hquote := endsInMark_quote ("-f \"".toList ++ path)
    simpa using exists_append_blanks_iff hquote hblanks text
  | some item =>
    rw [create?_eq_some_some_iff, create?_eq_some_some_iff]
    refine and_congr_right fun _ => ?_
    have hquote := endsInMark_quote ("-f \"".toList ++ path ++ "\" \"".toList ++ item)
    simpa using exists_append_blanks_iff hquote hblanks text

theorem WrittenEdit.chars_eq_append (written : WrittenEdit) (rest : List Char) :
    written.chars rest = written.chars [] ++ rest := by
  cases written <;> simp only [chars, List.append_assoc] <;> rfl

/-- A change ends in the quote behind its text, or in the last digit of its number. -/
theorem WrittenEdit.IsProper.endsInMark {written : WrittenEdit} (h : written.IsProper) :
    EndsInMark (written.chars []) := by
  have hquote (text : List Char) : EndsInMark (text ++ ['"']) := endsInMark_quote text
  cases written with
  | replace text | append text => exact (hquote text).append_left _
  | insertAt digits text =>
    exact (((hquote text).append_left _).append_left digits).append_left _
  | deleteAt digits =>
    have hdigits : EndsInMark (digits ++ []) := by
      rw [List.append_nil]
      exact IsNumeral.endsInMark h
    exact hdigits.append_left _

/-- What is read as an update is a path and a change with blank characters behind them. -/
theorem update?_eq_some_iff_append {path : List Char} {written : WrittenEdit} :
    update? text = some (path, written) ↔ (IsPath path ∧ written.IsProper) ∧
      ∃ rest, isEnd rest = true ∧
        text = "-f \"".toList ++ path ++ "\" ".toList ++ written.chars [] ++ rest := by
  have hchars (rest : List Char) : UpdateForm.chars ⟨path, written, rest⟩ =
      "-f \"".toList ++ path ++ "\" ".toList ++ written.chars [] ++ rest := by
    simp only [UpdateForm.chars, WrittenEdit.chars_eq_append written rest, List.append_assoc]
    rfl
  simp only [update?_eq_some_iff, hchars]
  constructor
  · rintro ⟨rest, hproper, htext⟩
    exact ⟨⟨hproper.path, hproper.change⟩, rest, isEnd_iff.mpr hproper.blanks, htext⟩
  · rintro ⟨⟨hpath, hchange⟩, rest, hrest, htext⟩
    exact ⟨rest, ⟨hpath, hchange, isEnd_iff.mp hrest⟩, htext⟩

theorem update?_append_blanks (text : List Char) (hblanks : isEnd blanks = true) :
    update? (text ++ blanks) = update? text := by
  refine Option.ext fun ⟨path, written⟩ => ?_
  rw [update?_eq_some_iff_append, update?_eq_some_iff_append]
  refine and_congr_right fun ⟨_, hchange⟩ => ?_
  exact exists_append_blanks_iff (hchange.endsInMark.append_left _) hblanks text

end Reading

open Reading

/-! ### The four commands -/

variable {blanks : String}

theorem CopyRequest.read_append_blanks (arguments : String)
    (hblanks : Text.isBlankText blanks = true) : read (arguments ++ blanks) = read arguments := by
  rw [read, read, String.toList_append, copy?_append_blanks _ hblanks]

theorem CreateRequest.read_append_blanks (arguments : String)
    (hblanks : Text.isBlankText blanks = true) : read (arguments ++ blanks) = read arguments := by
  rw [read, read, String.toList_append, create?_append_blanks _ hblanks]

theorem DeleteRequest.read_append_blanks (arguments : String)
    (hblanks : Text.isBlankText blanks = true) : read (arguments ++ blanks) = read arguments := by
  rw [read, read, String.toList_append, delete?_append_blanks _ hblanks]

theorem UpdateRequest.read_append_blanks (arguments : String)
    (hblanks : Text.isBlankText blanks = true) : read (arguments ++ blanks) = read arguments := by
  rw [read, read, String.toList_append, update?_append_blanks _ hblanks]

end TextShell
