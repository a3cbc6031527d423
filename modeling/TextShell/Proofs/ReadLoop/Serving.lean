import TextShell.ReadLoop.Loop

/-!
# Which lines are served

Of the lines of its input, a read loop serves those up to the first one after which the session is to
end, up to one that has no text, or all of them. This is said of sessions and tables of commands
alone, without the loop.

* `Input.commands`: the commands on lines of input.
* `ReadLoop.Serves`: which lines are served and why no other is.
* `ReadLoop.Serves.fault?_eq_some_iff`: when a line that has no text is reached.
* `ReadLoop.Serves.exists_input_eq`: which bytes have been read.
-/

namespace TextShell

/-- The command on a line of input: its text, unless that is blank or there is none. -/
def Input.command? (line : List UInt8) : Option String :=
  (read line).toOption.filter fun text => !Text.isBlankText text

/-- The commands on lines of input. -/
def Input.commands (lines : List (List UInt8)) : List String := lines.filterMap command?

theorem Input.command?_eq_some_iff {line : List UInt8} {text : String} :
    command? line = some text ↔ read line = .ok text ∧ Text.isBlankText text = false := by
  unfold command?
  cases read line <;> simp [Except.toOption]

theorem Input.commands_cons (line : List UInt8) (lines : List (List UInt8)) :
    commands (line :: lines) = commands [line] ++ commands lines := by
  unfold commands
  rw [← List.singleton_append, List.filterMap_append]

theorem Input.commands_singleton {line : List UInt8} {text : String} (h : read line = .ok text) :
    commands [line] = if Text.isBlankText text then [] else [text] := by
  have hcommand : command? line = if Text.isBlankText text then none else some text := by
    cases hblank : Text.isBlankText text <;> simp [command?, h, hblank, Except.toOption]
  rw [commands, List.filterMap_cons, hcommand]
  cases Text.isBlankText text <;> rfl

namespace ReadLoop

/-- Why no line is served after those that were, with what is left of the lines and why the last one
that was read has no text, if it has none. -/
inductive Stops (after : Session) (lines served : List (List UInt8)) :
    List (List UInt8) → Option LineFault → Prop where
  /-- The session is to end. Nothing is read behind the line that brought this about. -/
  | closing {unread : List (List UInt8)} :
      after.workspace.closing = true → lines = served ++ unread → Stops after lines served unread none
  /-- There are no more lines. -/
  | endOfInput : after.workspace.closing = false → lines = served → Stops after lines served [] none
  /-- The next line has no text. It has been read when this is found out. -/
  | unreadable {bad : List UInt8} {unread : List (List UInt8)} {fault : LineFault} :
      after.workspace.closing = false → Input.read bad = .error fault →
      lines = served ++ bad :: unread → Stops after lines served unread (some fault)

/-- Lines are served from a session on until there is a reason to stop, and no longer. -/
structure Serves (table : CommandTable) (session : Session)
    (lines served unread : List (List UInt8)) (fault? : Option LineFault) : Prop where
  /-- Every line that is served has a text. -/
  exists_read_eq {line : List UInt8} : line ∈ served → ∃ text, Input.read line = .ok text
  /-- Before each line that is served the session was not yet to end. -/
  open_before {before later : List (List UInt8)} : served = before ++ later → later ≠ [] →
    (session.dispatchAll table (Input.commands before)).workspace.closing = false
  /-- There is a reason to stop behind them. -/
  stops : Stops (session.dispatchAll table (Input.commands served)) lines served unread fault?

variable {table : CommandTable} {session : Session} {line : List UInt8}
  {lines served unread : List (List UInt8)} {fault? : Option LineFault} {fault : LineFault}
  {text : String}

/-- No line is served where there is a reason to stop at once. -/
theorem Serves.of_stops (h : Stops session lines [] unread fault?) :
    Serves table session lines [] unread fault? where
  exists_read_eq hline := by simp at hline
  open_before hserved hlater := absurd (List.append_eq_nil_iff.mp hserved.symm).2 hlater
  stops := by simpa [Input.commands] using h

/-- One more line is served in front, if the session is not to end before it. -/
theorem Serves.cons (hopen : session.workspace.closing = false) (htext : Input.read line = .ok text)
    (h : Serves table (session.dispatchAll table (Input.commands [line])) lines served unread
      fault?) :
    Serves table session (line :: lines) (line :: served) unread fault? where
  exists_read_eq hline := by
    obtain rfl | hline := List.mem_cons.mp hline
    · exact ⟨text, htext⟩
    · exact h.exists_read_eq hline
  open_before {before later} hserved hlater := by
    cases before with
    | nil => simpa [Input.commands] using hopen
    | cons first before =>
      obtain ⟨rfl, hrest⟩ := List.cons.inj hserved
      rw [Input.commands_cons, Session.dispatchAll_append]
      exact h.open_before hrest hlater
  stops := by
    rw [Input.commands_cons, Session.dispatchAll_append]
    cases h.stops with
    | closing hclosing hlines => exact .closing hclosing (by rw [hlines, List.cons_append])
    | endOfInput hclosing hlines => exact .endOfInput hclosing (by rw [hlines])
    | unreadable hclosing hbad hlines =>
      exact .unreadable hclosing hbad (by rw [hlines, List.cons_append])

/-- A line that has no text is not among those that are served. -/
theorem Serves.not_mem_served (h : Serves table session lines served unread fault?)
    (hbad : Input.read line = .error fault) : line ∉ served := by
  intro hline
  obtain ⟨text, htext⟩ := h.exists_read_eq hline
  rw [hbad] at htext
  cases htext

/-- What is served is cut off before any line that has no text. -/
theorem Serves.prefix_before {before rest : List (List UInt8)}
    (h : Serves table session (before ++ line :: rest) served unread fault?)
    (hbad : Input.read line = .error fault) : served <+: before := by
  have hserved : served <+: before ++ line :: rest := by
    cases h.stops with
    | closing _ hlines => exact ⟨_, hlines.symm⟩
    | endOfInput _ hlines => exact ⟨[], by rw [List.append_nil, hlines]⟩
    | unreadable _ _ hlines => exact ⟨_, hlines.symm⟩
  obtain hprefix | ⟨later, rfl⟩ := List.prefix_or_prefix_of_prefix hserved
    (List.prefix_append before (line :: rest))
  · exact hprefix
  · cases later with
    | nil => simp
    | cons first later =>
      obtain ⟨rfl, -⟩ := List.cons_prefix_cons.mp ((List.prefix_append_right_inj before).mp hserved)
      exact absurd (by simp) (h.not_mem_served hbad)

/-- Where a line that has no text can be reached, it is the one at which serving stops. -/
theorem Serves.eq_some_of_reached {before rest : List (List UInt8)}
    (h : Serves table session (before ++ line :: rest) served unread fault?)
    (htext : ∀ other ∈ before, ∃ text, Input.read other = .ok text)
    (hbad : Input.read line = .error fault)
    (hopen : ∀ first, first <+: before →
      (session.dispatchAll table (Input.commands first)).workspace.closing = false) :
    fault? = some fault := by
  have hprefix := h.prefix_before hbad
  cases h.stops with
  | closing hclosing =>
    rw [hopen served hprefix] at hclosing
    cases hclosing
  | endOfInput _ hserved => exact absurd (by simp [← hserved]) (h.not_mem_served hbad)
  | @unreadable other _ _ _ hother hlines =>
    -- the line at which serving stops stands before the other one or is the same
    obtain ⟨later, rfl⟩ := hprefix
    rw [List.append_assoc, List.append_cancel_left_eq] at hlines
    cases later with
    | nil =>
      obtain ⟨rfl, -⟩ := List.cons.inj hlines
      rw [hbad] at hother
      exact congrArg some (Except.error.inj hother).symm
    | cons first later =>
      obtain ⟨rfl, -⟩ := List.cons.inj hlines
      obtain ⟨text, hfirst⟩ := htext first (by simp)
      rw [hother] at hfirst
      cases hfirst

/-- Serving stops with a fault exactly when a line that has no text for this reason is reached: all
before it have one, and the session is not to end before it. -/
theorem Serves.fault?_eq_some_iff (h : Serves table session lines served unread fault?) :
    fault? = some fault ↔ ∃ before bad rest, lines = before ++ bad :: rest ∧
      (∀ line ∈ before, ∃ text, Input.read line = .ok text) ∧ Input.read bad = .error fault ∧
      ∀ first, first <+: before →
        (session.dispatchAll table (Input.commands first)).workspace.closing = false := by
  constructor
  · rintro rfl
    cases h.stops with
    | unreadable hclosing hbad hlines =>
      refine ⟨served, _, unread, hlines, fun _ => h.exists_read_eq, hbad, ?_⟩
      rintro first ⟨later, rfl⟩
      by_cases hlater : later = []
      · subst hlater
        rwa [List.append_nil] at hclosing
      · exact h.open_before rfl hlater
  · rintro ⟨before, bad, rest, rfl, htext, hbad, hopen⟩
    exact h.eq_some_of_reached htext hbad hopen

/-- No byte is lost: what has been read is the lines served and the one that has no text, if there
was one, and the rest is left. -/
theorem Serves.exists_input_eq {input : List UInt8}
    (h : Serves table session (Input.lines input) served unread fault?) :
    ∃ bad, input = Input.rest served ++ bad ++ Input.rest unread ∧ (fault? = none → bad = []) ∧
      ∀ fault, fault? = some fault → Input.read bad = .error fault := by
  have hrest := Input.rest_lines input
  cases h.stops with
  | closing _ hlines =>
    refine ⟨[], ?_, fun _ => rfl, by simp⟩
    rw [← hrest, hlines]
    simp [Input.rest]
  | endOfInput _ hlines =>
    refine ⟨[], ?_, fun _ => rfl, by simp⟩
    rw [← hrest, hlines]
    simp [Input.rest]
  | @unreadable bad _ fault _ hbad hlines =>
    refine ⟨bad, ?_, by simp, ?_⟩
    · rw [← hrest, hlines]
      simp [Input.rest]
    · rintro _ ⟨⟩
      exact hbad

end ReadLoop

end TextShell
