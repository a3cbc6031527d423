import Mathlib.Data.List.Induction
import TextShell.Proofs.Text.Capitals
import TextShell.Session.CommandTable

/-!
# The names of commands

A word names a verb exactly if it has the letters of its spelling, each in upper or lower case or,
for the letter I, without its dot. No other character of Unicode can take part in a name, though many
have an upper case of several characters, because none of the spellings has an F or an S. What is done
for a word is settled by the last binding of the verb that it names.

* `Verb.IsSpelledBy`: the words that name a verb, letter by letter.
* `Verb.ofWord?_eq_some_iff_isSpelledBy`: these are the words that are looked up.
* `CommandTable.IsLastBinding`: the last of the bindings of a verb.
* `CommandTable.action_ofBindings`: words, verbs and actions in a table of any bindings.
-/

namespace TextShell

namespace Verb

/-- A word has as many characters as the spelling of a verb, and each of them stands for the letter in
its place. -/
def IsSpelledBy (verb : Verb) (word : String) : Prop :=
  List.Forall₂ Text.Spells word.toList verb.spelling.toList

/-- No spelling has a letter of which there are further forms. -/
theorem isPlainCapital_of_mem_spelling {verb : Verb} {letter : Char}
    (h : letter ∈ verb.spelling.toList) : Text.IsPlainCapital letter.toNat := by
  have hspelling : verb.spelling.toList.all (fun letter => Text.IsPlainCapital letter.toNat) =
      true := by
    cases verb <;> decide
  exact of_decide_eq_true (List.all_eq_true.mp hspelling letter h)

/-- The words that name a verb are its spellings. -/
theorem ofWord?_eq_some_iff_isSpelledBy {word : String} {verb : Verb} :
    ofWord? word = some verb ↔ verb.IsSpelledBy word := by
  rw [ofWord?_eq_some_iff]
  exact Text.uppercase_eq_iff fun _ => isPlainCapital_of_mem_spelling

theorem read_eq_ok_iff_isSpelledBy {word : String} {verb : Verb} :
    read word = .ok verb ↔ verb.IsSpelledBy word := by
  rw [read_eq_ok_iff, ofWord?_eq_some_iff_isSpelledBy]

/-- A word that is not a spelling of any verb is handed back as it is. -/
theorem read_eq_error_iff_isSpelledBy {word : String} {unknown : UnknownVerb} :
    read word = .error unknown ↔ unknown = { word } ∧ ∀ verb : Verb, ¬ verb.IsSpelledBy word := by
  rw [read_eq_error_iff, Option.eq_none_iff_forall_ne_some]
  simp only [Ne, ofWord?_eq_some_iff_isSpelledBy]

end Verb

namespace CommandTable

variable {bindings : List (Verb × Action)} {binding : Verb × Action} {verb : Verb}
  {action : Action} {word : String}

/-- The table in which verbs are bound to actions one after the other. -/
def ofBindings (bindings : List (Verb × Action)) : CommandTable :=
  bindings.foldl (fun table binding => table.bind binding.1 binding.2) empty

/-- A verb is bound to an action, and not bound again after that. -/
def IsLastBinding (bindings : List (Verb × Action)) (verb : Verb) (action : Action) : Prop :=
  ∃ before after, bindings = before ++ (verb, action) :: after ∧ ∀ later ∈ after, later.1 ≠ verb

theorem ofBindings_append_singleton :
    ofBindings (bindings ++ [binding]) = (ofBindings bindings).bind binding.1 binding.2 := by
  rw [ofBindings, List.foldl_append]
  rfl

/-- One more binding is the last one of its verb, and leaves those of the others. -/
theorem isLastBinding_append_singleton_iff :
    IsLastBinding (bindings ++ [binding]) verb action ↔
      binding = (verb, action) ∨ binding.1 ≠ verb ∧ IsLastBinding bindings verb action := by
  constructor
  · rintro ⟨before, after, hbindings, hafter⟩
    -- either nothing comes after the last binding of the verb, or the new one does
    rcases List.eq_nil_or_concat' after with rfl | ⟨rest, last, rfl⟩
    · exact .inl (List.append_singleton_inj.mp hbindings).2
    · rw [← List.cons_append, ← List.append_assoc, List.append_singleton_inj] at hbindings
      obtain ⟨rfl, rfl⟩ := hbindings
      rw [List.forall_mem_append, List.forall_mem_singleton] at hafter
      exact .inr ⟨hafter.2, before, rest, rfl, hafter.1⟩
  · rintro (rfl | ⟨hne, before, after, rfl, hafter⟩)
    · exact ⟨bindings, [], rfl, by simp⟩
    · refine ⟨before, after ++ [binding], by simp, ?_⟩
      rw [List.forall_mem_append, List.forall_mem_singleton]
      exact ⟨hafter, hne⟩

/-- In a table of bindings, a verb is bound to the action of the last one. -/
theorem binding?_ofBindings_eq_some_iff :
    (ofBindings bindings).binding? verb = some action ↔ IsLastBinding bindings verb action := by
  -- a binding comes after all before it, so that these are dealt with first
  induction bindings using List.reverseRecOn with
  | nil =>
    constructor
    · intro h
      cases h
    · rintro ⟨before, after, hbindings, -⟩
      simp at hbindings
  | append_singleton bindings binding ih =>
    rw [ofBindings_append_singleton, isLastBinding_append_singleton_iff]
    by_cases hverb : binding.1 = verb
    · subst hverb
      rw [binding?_bind_self, Option.some.injEq]
      constructor
      · rintro rfl
        exact .inl rfl
      · rintro (h | ⟨hne, -⟩)
        · rw [h]
        · exact absurd rfl hne
    · rw [binding?_bind_of_ne _ _ hverb, ih]
      constructor
      · intro h
        exact .inr ⟨hverb, h⟩
      · rintro (rfl | ⟨-, h⟩)
        · exact absurd rfl hverb
        · exact h

/-- In a table of bindings, the verbs that none of them is about are not bound. -/
theorem isSome_binding?_ofBindings_iff :
    ((ofBindings bindings).binding? verb).isSome = true ↔ ∃ binding ∈ bindings, binding.1 = verb := by
  induction bindings using List.reverseRecOn with
  | nil => simp [ofBindings, empty, binding?]
  | append_singleton bindings binding ih =>
    rw [ofBindings_append_singleton]
    by_cases hverb : binding.1 = verb
    · subst hverb
      simp
    · rw [binding?_bind_of_ne _ _ hverb, ih]
      simp [or_and_right, exists_or, hverb]

theorem action_of_read {table : CommandTable} (h : Verb.read word = .ok verb) :
    table.action word = (table.binding? verb).getD .reject := by
  rw [action, action?, Verb.read_eq_ok_iff.mp h, Option.bind_some]

theorem knows_iff {table : CommandTable} :
    table.knows word = true ↔
      ∃ verb, Verb.read word = .ok verb ∧ (table.binding? verb).isSome = true := by
  simp only [knows, action?, Option.isSome_iff_exists, Option.bind_eq_some_iff,
    Verb.read_eq_ok_iff]
  constructor
  · rintro ⟨action, verb, hverb, haction⟩
    exact ⟨verb, hverb, action, haction⟩
  · rintro ⟨verb, hverb, action, haction⟩
    exact ⟨action, verb, hverb, haction⟩

/-- A table of bindings knows the words that name one of its verbs. -/
theorem knows_ofBindings_iff :
    (ofBindings bindings).knows word = true ↔
      ∃ binding ∈ bindings, Verb.read word = .ok binding.1 := by
  simp only [knows_iff, isSome_binding?_ofBindings_iff]
  constructor
  · rintro ⟨verb, hverb, binding, hbinding, rfl⟩
    exact ⟨binding, hbinding, hverb⟩
  · rintro ⟨binding, hbinding, hverb⟩
    exact ⟨binding.1, hverb, binding, hbinding, rfl⟩

/-- Words, verbs and actions. A word names the verb whose spelling it has letter by letter, and is
handed back unchanged if it has none. Whatever verbs were bound to whatever actions in a table, and in
whatever order, what is done for a word is the last action that its verb was bound to; if there is
none, the word is rejected. And the table knows the word exactly if there is one. -/
theorem action_ofBindings (bindings : List (Verb × Action)) (word : String) :
    (∀ verb, Verb.read word = .ok verb ↔ verb.IsSpelledBy word) ∧
    (∀ unknown, Verb.read word = .error unknown ↔
      unknown = { word } ∧ ∀ verb : Verb, ¬ verb.IsSpelledBy word) ∧
    (∀ binding ∈ bindings, Verb.read word = .ok binding.1 →
      IsLastBinding bindings binding.1 ((ofBindings bindings).action word)) ∧
    ((¬ ∃ binding ∈ bindings, Verb.read word = .ok binding.1) →
      (ofBindings bindings).action word = .reject) ∧
    ((ofBindings bindings).knows word = true ↔
      ∃ binding ∈ bindings, Verb.read word = .ok binding.1) := by
  refine ⟨fun _ => Verb.read_eq_ok_iff_isSpelledBy, fun _ => Verb.read_eq_error_iff_isSpelledBy,
    ?_, ?_, knows_ofBindings_iff⟩
  · intro binding hbinding hverb
    obtain ⟨action, haction⟩ := Option.isSome_iff_exists.mp
      (isSome_binding?_ofBindings_iff.mpr ⟨binding, hbinding, rfl⟩)
    rw [action_of_read hverb, haction, Option.getD_some]
    exact binding?_ofBindings_eq_some_iff.mp haction
  · intro hnone
    have hknows := mt knows_ofBindings_iff.mp hnone
    rw [knows, Bool.not_eq_true, Option.isSome_eq_false_iff, Option.isNone_iff_eq_none] at hknows
    rw [action, hknows]
    rfl

/-- An i without a dot is read as one with it, in a table where the exit was bound twice. A long s is
no letter of any verb. -/
theorem action_ofBindings_dotless :
    let bindings : List (Verb × Action) := [(.exit, .exit), (.copy, .copy), (.exit, .delete)]
    Verb.exit.IsSpelledBy "eXıt" ∧
      IsLastBinding bindings .exit ((ofBindings bindings).action "eXıt") ∧
      IsLastBinding bindings .exit .delete ∧
      (ofBindings bindings).action "ſ" = .reject := by
  intro bindings
  have hexit : Verb.read "eXıt" = .ok .exit := by decide +kernel
  have hnone : ¬ ∃ binding ∈ bindings, Verb.read "ſ" = .ok binding.1 := by
    have hread : Verb.read "ſ" = .error ⟨"ſ"⟩ := by decide +kernel
    simp [hread]
  have hlast : IsLastBinding bindings .exit .delete :=
    ⟨[(.exit, .exit), (.copy, .copy)], [], rfl, by simp⟩
  obtain ⟨hspelled, -, hbound, -⟩ := action_ofBindings bindings "eXıt"
  exact ⟨(hspelled .exit).mp hexit, hbound (.exit, .exit) (List.mem_cons_self ..) hexit, hlast,
    (action_ofBindings bindings "ſ").2.2.2.1 hnone⟩

/-- The standard table is a table of bindings. -/
example : standard = ofBindings (Verb.all.map fun verb => (verb, .ofVerb verb)) := rfl

end CommandTable

end TextShell
