import TextShell.Text.Uppercase

/-!
# Verbs

The five verbs of the shell. The first word of a line names a verb if its upper case is the verb's
spelling.

* `Verb.ofWord?`, `Verb.read`: the verb that a word names, if there is one.
* `Verb.ofWord?_eq_some_iff`: no two verbs are named by one word.
-/

namespace TextShell

/-- What a line can ask for. -/
inductive Verb where
  /-- Copy a file. -/
  | copy
  /-- Create a file, or empty it. -/
  | create
  /-- Delete a file. -/
  | delete
  /-- Change the lines of a file. -/
  | update
  /-- End the session. -/
  | exit
  deriving DecidableEq, Repr

/-- A word that names no verb. -/
structure UnknownVerb where
  /-- The word as it was given. -/
  word : String
  deriving DecidableEq, Repr

namespace Verb

/-- Every verb. -/
def all : List Verb := [copy, create, delete, update, exit]

/-- The spelling of a verb in capital letters. -/
def spelling : Verb → String
  | copy => "COPY"
  | create => "CREATE"
  | delete => "DELETE"
  | update => "UPDATE"
  | exit => "EXIT"

/-- The verb that a word names. -/
def ofWord? (word : String) : Option Verb :=
  all.find? fun verb => decide (Text.uppercase word.toList = verb.spelling.toList)

/-- The verb that a word names, or the word itself. -/
def read (word : String) : Except UnknownVerb Verb :=
  match ofWord? word with
  | some verb => .ok verb
  | none => .error { word }

/-- No verb is missing from the list. -/
theorem mem_all (verb : Verb) : verb ∈ all := by cases verb <;> decide

/-- No two verbs are spelled in the same way. -/
theorem eq_of_spelling_eq {verb other : Verb} (h : verb.spelling = other.spelling) :
    verb = other := by
  revert h
  cases verb <;> cases other <;> decide

/-- A word names the verb that is spelled by its upper case. -/
theorem ofWord?_eq_some_iff {word : String} {verb : Verb} :
    ofWord? word = some verb ↔ Text.uppercase word.toList = verb.spelling.toList := by
  constructor
  · intro h
    simpa using List.find?_some h
  · intro h
    cases hfound : ofWord? word with
    | none =>
      -- the verb itself would have been found
      have hnone := List.find?_eq_none.mp hfound verb (mem_all verb)
      exact absurd h (by simpa using hnone)
    | some other =>
      have hother : Text.uppercase word.toList = other.spelling.toList := by
        simpa using List.find?_some hfound
      rw [h, String.toList_inj] at hother
      rw [eq_of_spelling_eq hother]

theorem read_eq_ok_iff {word : String} {verb : Verb} :
    read word = .ok verb ↔ ofWord? word = some verb := by
  unfold read
  cases ofWord? word <;> simp

theorem read_eq_error_iff {word : String} {unknown : UnknownVerb} :
    read word = .error unknown ↔ unknown = { word } ∧ ofWord? word = none := by
  unfold read
  cases ofWord? word <;> simp [eq_comm]

example : ofWord? "Ex\u0131t" = some .exit := by decide +kernel

example : ofWord? "copy " = none := by decide +kernel

end Verb

end TextShell
