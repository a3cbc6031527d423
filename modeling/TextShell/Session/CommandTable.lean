import TextShell.Session.Action
import TextShell.Verb

/-!
# Command tables

Which action each verb is bound to. A verb without a binding, like a word that names no verb, is
rejected.

* `CommandTable.action`: what is done for a word.
* `CommandTable.standard`: every verb bound to the action of its name.
-/

namespace TextShell

/-- The bindings of verbs to actions, the latest first. -/
structure CommandTable where
  /-- The bindings. -/
  bindings : List (Verb × Action)

/-- The action with the name of a verb. -/
def Action.ofVerb : Verb → Action
  | .copy => .copy
  | .create => .create
  | .delete => .delete
  | .update => .update
  | .exit => .exit

namespace CommandTable

/-- The table without bindings. -/
def empty : CommandTable where
  bindings := []

/-- Bind a verb to an action, whatever it was bound to before. -/
def bind (table : CommandTable) (verb : Verb) (action : Action) : CommandTable where
  bindings := (verb, action) :: table.bindings

/-- The action that a verb is bound to. -/
def binding? (table : CommandTable) (verb : Verb) : Option Action :=
  (table.bindings.find? fun entry => entry.1 = verb).map Prod.snd

/-- The action that a word asks for, if it names a verb with a binding. -/
def action? (table : CommandTable) (word : String) : Option Action :=
  (Verb.ofWord? word).bind table.binding?

/-- What is done for a word. -/
def action (table : CommandTable) (word : String) : Action := (table.action? word).getD .reject

/-- Whether a word names a verb with a binding. -/
def knows (table : CommandTable) (word : String) : Bool := (table.action? word).isSome

/-- Every verb bound to the action of its name. -/
def standard : CommandTable :=
  empty.bind .copy .copy |>.bind .create .create |>.bind .delete .delete
    |>.bind .update .update |>.bind .exit .exit

/-- A new binding replaces the one before it. -/
@[simp]
theorem binding?_bind_self (table : CommandTable) (verb : Verb) (action : Action) :
    (table.bind verb action).binding? verb = some action := by
  simp [binding?, bind]

/-- A new binding does not touch the other verbs. -/
theorem binding?_bind_of_ne (table : CommandTable) {verb other : Verb} (action : Action)
    (h : verb ≠ other) : (table.bind verb action).binding? other = table.binding? other := by
  simp [binding?, bind, h]

/-- The standard table does for a word what the verb that it names says. -/
theorem action_standard (word : String) :
    standard.action word = ((Verb.ofWord? word).map Action.ofVerb).getD .reject := by
  unfold action action?
  cases Verb.ofWord? word with
  | none => rfl
  | some verb => cases verb <;> rfl

theorem action_of_ofWord? {word : String} {verb : Verb} (h : Verb.ofWord? word = some verb) :
    standard.action word = .ofVerb verb := by
  rw [action_standard, h]
  rfl

end CommandTable

end TextShell
