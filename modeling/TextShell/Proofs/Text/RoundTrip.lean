import TextShell.Proofs.Text.Lines

/-!
# Lines and texts, there and back

Which lines come back from the text that holds them, and which texts come back from their lines.
Lines come back unless one of them has a line feed in it or a carriage return at its end. A text
comes back if its last line is ended and no line ends in a carriage return and a line feed. Written
once, it comes back from then on unless a carriage return is left at the end of a line.

* `Text.IsPlain`: a text with line feeds for all of its line endings, the last one included.
* `Text.breakLines_joinLines_iff`: the lines that come back.
* `Text.joinLines_breakLines_iff`: the texts that come back are the plain ones.
* `Text.roundTrip_iff`: both, and what comes back of a text that was written once.
-/

namespace TextShell.Text

/-- A text in which every line ends in a line feed alone. -/
structure IsPlain (text : String) : Prop where
  /-- No carriage return stands before a line feed. -/
  no_return : ¬ "\r\n".toList <:+: text.toList
  /-- The last line is ended, if there is one. -/
  ended : text = "" ∨ text.toList.getLast? = some '\n'

variable {text : String} {lines : List String}

/-! ### Lines that come back -/

/-- A carriage return and a line feed are one ending. -/
theorem dropLineEnding_append_return (line : List Char) :
    dropLineEnding (line ++ ['\r', '\n']) = line := by
  simp [dropLineEnding]

/-- A line is all that is left of it with a line feed, unless it ends in a carriage return. -/
theorem dropLineEnding_append_lineFeed_iff {line : List Char} :
    dropLineEnding (line ++ ['\n']) = line ↔ line.getLast? ≠ some '\r' := by
  refine ⟨fun h hlast => ?_, dropLineEnding_append_lineFeed⟩
  obtain ⟨before, rfl⟩ := List.getLast?_eq_some_iff.mp hlast
  rw [List.append_assoc, List.singleton_append, dropLineEnding_append_return] at h
  simp at h

/-- The lines that come back from the text that holds them. -/
theorem breakLines_joinLines_iff :
    breakLines (joinLines lines) = lines ↔ ∀ line ∈ lines, IsLine line := by
  refine ⟨fun h => ?_, breakLines_joinLines⟩
  have hfeed : ∀ line ∈ lines, '\n' ∉ line.toList := by
    intro line hline
    rw [← h] at hline
    exact not_mem_of_mem_breakLines hline
  rw [breakLines_joinLines_eq_map hfeed] at h
  intro line hline
  refine ⟨hfeed line hline, ?_⟩
  -- each line on its own is what is left of it
  have hsame := List.map_inj_left.mp (h.trans (List.map_id _).symm) line hline
  rw [← dropLineEnding_append_lineFeed_iff]
  simpa [← String.toList_inj] using hsame

/-! ### Texts that come back -/

/-- The text of lines ends in a line feed, if there is a line. -/
theorem ended_joinLines (lines : List String) :
    joinLines lines = "" ∨ (joinLines lines).toList.getLast? = some '\n' := by
  cases lines.eq_nil_or_concat with
  | inl hnil =>
    subst hnil
    exact .inl rfl
  | inr hlast =>
    obtain ⟨before, line, rfl⟩ := hlast
    exact .inr (by simp [joinLines])

/-- A carriage return and a line feed stand in a text whose first line is given in that line and the
feed behind it, or in the rest. -/
theorem infix_append_cons_iff {line rest : List Char} (h : '\n' ∉ line) :
    "\r\n".toList <:+: line ++ '\n' :: rest ↔
      line.getLast? = some '\r' ∨ "\r\n".toList <:+: rest := by
  constructor
  · rintro ⟨before, after, heq⟩
    have hcut : before ++ '\r' :: '\n' :: after = line ++ '\n' :: rest := by simpa using heq
    obtain ⟨middle, rfl, hmiddle⟩ | ⟨middle, rfl, hmiddle⟩ := List.append_eq_append_iff.mp hcut
    · -- the pair begins in the line, and its feed is the one behind the line
      match middle, hmiddle with
      | [], hmiddle => simp at hmiddle
      | [first], hmiddle =>
        obtain ⟨rfl, -⟩ := List.cons.inj hmiddle
        exact .inl (by simp)
      | first :: second :: middle, hmiddle =>
        obtain ⟨rfl, -⟩ := List.cons.inj (List.cons.inj hmiddle).2
        simp at h
    · -- the pair begins behind the line, and not with the feed
      cases middle with
      | nil => simp at hmiddle
      | cons first middle =>
        obtain ⟨-, rfl⟩ := List.cons.inj hmiddle
        exact .inr ⟨middle, after, by simp⟩
  · rintro (hlast | ⟨before, after, rfl⟩)
    · obtain ⟨before, rfl⟩ := List.getLast?_eq_some_iff.mp hlast
      exact ⟨before, rest, by simp⟩
    · exact ⟨line ++ '\n' :: before, after, by simp⟩

/-- In the text of lines a carriage return stands before a line feed where a line ends in one. -/
theorem infix_joinLines_iff (h : ∀ line ∈ lines, '\n' ∉ line.toList) :
    "\r\n".toList <:+: (joinLines lines).toList ↔
      ∃ line ∈ lines, line.toList.getLast? = some '\r' := by
  induction lines with
  | nil => simp [joinLines]
  | cons line lines ih =>
    have ih := ih fun other hother => h other (List.mem_cons_of_mem _ hother)
    rw [toList_joinLines_cons, infix_append_cons_iff (h line (List.mem_cons_self ..)), ih]
    simp only [List.mem_cons, exists_eq_or_imp]

/-- The text of lines without line feeds is plain if and only if they come back from it. -/
theorem isPlain_joinLines_iff (h : ∀ line ∈ lines, '\n' ∉ line.toList) :
    IsPlain (joinLines lines) ↔ ∀ line ∈ lines, line.toList.getLast? ≠ some '\r' := by
  have hreturn := not_congr (infix_joinLines_iff h)
  simp only [not_exists, not_and] at hreturn
  rw [← hreturn]
  exact ⟨IsPlain.no_return, fun hno => ⟨hno, ended_joinLines lines⟩⟩

/-- A text whose last line is ended is the text of lines. -/
theorem exists_lines_of_ended (h : text = "" ∨ text.toList.getLast? = some '\n') :
    ∃ lines, text = joinLines lines ∧ ∀ line ∈ lines, '\n' ∉ line.toList := by
  suffices hlist : ∀ chars : List Char, chars = [] ∨ chars.getLast? = some '\n' →
      ∃ lines, chars = (joinLines lines).toList ∧ ∀ line ∈ lines, '\n' ∉ line.toList by
    obtain ⟨lines, heq, hlines⟩ := hlist text.toList (h.imp (by rintro rfl; rfl) id)
    exact ⟨lines, String.toList_inj.mp heq, hlines⟩
  intro chars hended
  induction chars with
  | nil => exact ⟨[], rfl, by simp⟩
  | cons char rest ih =>
    -- a character stands in front of the lines of the rest, or is itself the end of an empty one
    by_cases hrest : rest = []
    · obtain rfl : char = '\n' := by simpa [hrest] using hended
      exact ⟨[""], by simp [hrest, joinLines], by simp⟩
    obtain ⟨last, others, rfl⟩ := List.exists_cons_of_ne_nil hrest
    obtain ⟨lines, heq, hlines⟩ := ih (by simpa using hended)
    by_cases hchar : char = '\n'
    · exact ⟨"" :: lines, by rw [toList_joinLines_cons, ← heq, hchar]; rfl, by simpa using hlines⟩
    · cases lines with
      | nil => cases heq
      | cons line lines =>
        refine ⟨.ofList (char :: line.toList) :: lines, ?_, ?_⟩
        · rw [heq, toList_joinLines_cons, toList_joinLines_cons, String.toList_ofList]
          rfl
        · simpa [Ne.symm hchar] using hlines

/-- The texts that come back from their lines. -/
theorem joinLines_breakLines_iff : joinLines (breakLines text) = text ↔ IsPlain text := by
  have hfeed : ∀ line ∈ breakLines text, '\n' ∉ line.toList :=
    fun _ => not_mem_of_mem_breakLines
  constructor
  · intro h
    -- the lines are read from their own text, so they are lines that come back
    have hlines := breakLines_joinLines_iff.mp (congrArg breakLines h)
    rw [← h, isPlain_joinLines_iff hfeed]
    exact fun line hline => (hlines line hline).no_return
  · intro h
    obtain ⟨lines, rfl, hlines⟩ := exists_lines_of_ended h.ended
    have hreturn := (isPlain_joinLines_iff hlines).mp h
    rw [breakLines_joinLines fun line hline => ⟨hlines line hline, hreturn line hline⟩]

/-- Lines and texts, there and back. Lines come back from their text if and only if none of them has
a line feed in it or a carriage return at its end. No line of a text has a line feed in it. A text
comes back from its lines if and only if no line in it ends in a carriage return and a line feed and
the last one is ended. Once it is written from its lines, it comes back if and only if no carriage
return is left at the end of one of them. -/
theorem roundTrip_iff :
    (∀ lines : List String, breakLines (joinLines lines) = lines ↔
      ∀ line ∈ lines, '\n' ∉ line.toList ∧ line.toList.getLast? ≠ some '\r') ∧
    ∀ text : String,
      (∀ line ∈ breakLines text, '\n' ∉ line.toList) ∧
      (joinLines (breakLines text) = text ↔
        ¬ "\r\n".toList <:+: text.toList ∧ (text = "" ∨ text.toList.getLast? = some '\n')) ∧
      (joinLines (breakLines (joinLines (breakLines text))) = joinLines (breakLines text) ↔
        ∀ line ∈ breakLines text, line.toList.getLast? ≠ some '\r') := by
  refine ⟨fun lines => ?_, fun text => ⟨fun _ => not_mem_of_mem_breakLines, ?_, ?_⟩⟩
  · rw [breakLines_joinLines_iff]
    exact forall₂_congr fun _ _ => ⟨fun h => ⟨h.no_lineFeed, h.no_return⟩, fun h => ⟨h.1, h.2⟩⟩
  · rw [joinLines_breakLines_iff]
    exact ⟨fun h => ⟨h.no_return, h.ended⟩, fun h => ⟨h.1, h.2⟩⟩
  · rw [joinLines_breakLines_iff, isPlain_joinLines_iff fun _ => not_mem_of_mem_breakLines]

end TextShell.Text
