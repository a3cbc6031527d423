import TextShell.Text.LineBreak

/-!
# Writing and reading lines

Lines that hold no line feed and do not end in a carriage return are read again from the text that
holds them. A text gives no other lines than these, except that a carriage return can be left at the
end of a line.

* `Text.IsLine`: what can be written as a line and read again.
* `Text.breakLines_joinLines`: the round trip.
* `Text.not_mem_of_mem_breakLines`: no line of a text holds a line feed.
-/

namespace TextShell.Text

/-- A text that is one line, also when a line feed is put behind it. -/
structure IsLine (line : String) : Prop where
  /-- There is no line feed in it. -/
  no_lineFeed : '\n' ∉ line.toList
  /-- No carriage return is taken for a part of the ending. -/
  no_return : line.toList.getLast? ≠ some '\r'

theorem isLine_empty : IsLine "" where
  no_lineFeed := by simp
  no_return := by simp

/-- The text of lines is made up of the lines, each with a line feed behind it. -/
theorem joinLines_eq_join (lines : List String) :
    joinLines lines = String.join (lines.map (· ++ "\n")) := by
  rw [← String.toList_inj]
  simp [joinLines, String.toList_join, List.flatMap_map]

/-! ### Pieces -/

section Pieces

variable {α : Type} [DecidableEq α] {stop : α}

/-- A piece is cut off behind the first stop. -/
theorem pieces_append_cons {before : List α} (h : stop ∉ before) (after : List α) :
    pieces stop (before ++ stop :: after) = (before ++ [stop]) :: pieces stop after := by
  induction before with
  | nil => simp [pushPiece]
  | cons item before ih =>
    rw [List.mem_cons, not_or] at h
    rw [List.cons_append, pieces_cons, ih h.2]
    simp [pushPiece, Ne.symm h.1]

/-- A piece holds the stop at its end or not at all. -/
theorem exists_of_mem_pieces {items piece : List α} (h : piece ∈ pieces stop items) :
    ∃ before, stop ∉ before ∧ (piece = before ∨ piece = before ++ [stop]) := by
  induction items generalizing piece with
  | nil => simp at h
  | cons item items ih =>
    rw [pieces_cons] at h
    unfold pushPiece at h
    split at h
    next hstop =>
      obtain rfl | hmem := List.mem_cons.mp h
      · exact ⟨[], by simp, .inr (by rw [hstop, List.nil_append])⟩
      · exact ih hmem
    next hstop =>
      split at h
      next =>
        obtain rfl := List.mem_singleton.mp h
        exact ⟨[item], by simpa using Ne.symm hstop, .inl rfl⟩
      next first others hpieces =>
        obtain rfl | hmem := List.mem_cons.mp h
        · obtain ⟨before, hbefore, hfirst⟩ := ih (hpieces ▸ List.mem_cons_self ..)
          refine ⟨item :: before, by simp [hbefore, Ne.symm hstop], ?_⟩
          obtain rfl | rfl := hfirst
          · exact .inl rfl
          · exact .inr rfl
        · exact ih (hpieces ▸ List.mem_cons_of_mem _ hmem)

end Pieces

/-! ### Line endings -/

/-- A line feed is dropped from behind a line. -/
theorem dropLineEnding_append_lineFeed {line : List Char} (h : line.getLast? ≠ some '\r') :
    dropLineEnding (line ++ ['\n']) = line := by
  unfold dropLineEnding
  rw [List.reverse_append, List.reverse_singleton, List.singleton_append]
  -- what stands before the line feed is no carriage return
  split
  next reversed hreversed =>
    have hhead : line.reverse = '\r' :: reversed := (List.cons.inj hreversed).2
    rw [← List.head?_reverse, hhead] at h
    exact absurd rfl h
  next reversed _ hreversed =>
    rw [← (List.cons.inj hreversed).2, List.reverse_reverse]
  next _ hother => exact absurd rfl (hother _)

/-- With the line feed no more than a carriage return is dropped. -/
theorem isPrefix_dropLineEnding (line : List Char) : dropLineEnding (line ++ ['\n']) <+: line := by
  unfold dropLineEnding
  rw [List.reverse_append, List.reverse_singleton, List.singleton_append]
  split
  next reversed hreversed =>
    have hline : line.reverse = '\r' :: reversed := (List.cons.inj hreversed).2
    exact ⟨['\r'], by rw [← List.reverse_cons, ← hline, List.reverse_reverse]⟩
  next reversed _ hreversed =>
    have hline : reversed.reverse = line := by
      rw [← (List.cons.inj hreversed).2, List.reverse_reverse]
    exact ⟨[], by rw [List.append_nil, hline]⟩
  next _ hother => exact absurd rfl (hother _)

/-- A piece without a line feed has no ending. -/
theorem dropLineEnding_of_not_mem {piece : List Char} (h : '\n' ∉ piece) :
    dropLineEnding piece = piece := by
  have hreverse : '\n' ∉ piece.reverse := by rwa [List.mem_reverse]
  unfold dropLineEnding
  split
  next hreversed => simp [hreversed] at hreverse
  next hreversed => simp [hreversed] at hreverse
  next => rfl

/-! ### Lines -/

/-- No line of a text holds a line feed. -/
theorem not_mem_of_mem_breakLines {text line : String} (h : line ∈ breakLines text) :
    '\n' ∉ line.toList := by
  obtain ⟨piece, hpiece, rfl⟩ := List.mem_map.mp h
  rw [String.toList_ofList]
  obtain ⟨before, hbefore, rfl | rfl⟩ := exists_of_mem_pieces hpiece
  · rwa [dropLineEnding_of_not_mem hbefore]
  · exact fun hmem => hbefore ((isPrefix_dropLineEnding before).subset hmem)

theorem toList_joinLines_cons (line : String) (lines : List String) :
    (joinLines (line :: lines)).toList = line.toList ++ '\n' :: (joinLines lines).toList := by
  simp [joinLines]

/-- A text of lines without line feeds is cut behind each of its lines. -/
theorem pieces_joinLines {lines : List String} (h : ∀ line ∈ lines, '\n' ∉ line.toList) :
    pieces '\n' (joinLines lines).toList = lines.map fun line => line.toList ++ ['\n'] := by
  induction lines with
  | nil => rfl
  | cons line lines ih =>
    -- the first line feed is the one behind the first line
    rw [toList_joinLines_cons, pieces_append_cons (h line (List.mem_cons_self ..)), List.map_cons]
    exact congrArg _ (ih fun other hother => h other (List.mem_cons_of_mem _ hother))

/-- No two lists of lines without line feeds have the same text. -/
theorem joinLines_inj {lines others : List String} (h : ∀ line ∈ lines, '\n' ∉ line.toList)
    (hothers : ∀ line ∈ others, '\n' ∉ line.toList) :
    joinLines lines = joinLines others ↔ lines = others := by
  refine ⟨fun heq => ?_, congrArg joinLines⟩
  have hpieces := congrArg (fun text => pieces '\n' text.toList) heq
  rw [pieces_joinLines h, pieces_joinLines hothers] at hpieces
  refine (List.map_inj_right fun line other hline => ?_).mp hpieces
  exact String.toList_inj.mp (List.append_cancel_right hline)

/-- Lines without line feeds are read again from the text that holds them, each without what is taken
for its ending. -/
theorem breakLines_joinLines_eq_map {lines : List String}
    (h : ∀ line ∈ lines, '\n' ∉ line.toList) :
    breakLines (joinLines lines) =
      lines.map fun line => String.ofList (dropLineEnding (line.toList ++ ['\n'])) := by
  rw [breakLines, pieces_joinLines h, List.map_map]
  rfl

/-- Lines are read again from the text that holds them. -/
theorem breakLines_joinLines {lines : List String} (h : ∀ line ∈ lines, IsLine line) :
    breakLines (joinLines lines) = lines := by
  have hsame : ∀ line ∈ lines, String.ofList (dropLineEnding (line.toList ++ ['\n'])) = line := by
    intro line hline
    rw [dropLineEnding_append_lineFeed (h line hline).no_return, String.ofList_toList]
  rw [breakLines_joinLines_eq_map fun line hline => (h line hline).no_lineFeed,
    List.map_congr_left hsame, List.map_id']

end TextShell.Text
