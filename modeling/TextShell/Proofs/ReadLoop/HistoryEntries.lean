import Mathlib.Data.List.Destutter
import Mathlib.Data.List.DropRight
import TextShell.Proofs.FileSystem.Effect
import TextShell.Proofs.Text.Lines
import TextShell.ReadLoop.History

/-!
# Entries of a history

A history is a queue of bounded length that leaves out immediate repetitions. Adding lines to it one
after the other comes to the same as collapsing the repetitions in all of them at once and keeping
the last of what is left.

* `History.latest`: this closed form.
* `History.entries_add`, `History.entries_foldl_add`: one line, and any lines.
* `History.IsTidy.load`: what is loaded keeps to the bound and has no repetitions either.
* `History.Gains`: lines of which one becomes an entry, so that there is something to save.
* `History.render_eq_iff`: a history file determines its entries.
-/

namespace TextShell.History

variable {history : History} {entries lines : List String} {line : String}

/-! ### Collapsing repetitions -/

/-- Lines without those that repeat the line before. -/
def collapse (lines : List String) : List String := lines.destutter (· ≠ ·)

/-- The entries that lines come to: repetitions are collapsed, and the last `capacity` lines of what
is left are kept. -/
def latest (lines : List String) : List String := (collapse lines).rtake capacity

theorem destutter'_append_singleton (first last : String) (lines : List String) :
    (lines ++ [last]).destutter' (· ≠ ·) first =
      if (first :: lines).getLast? = some last then lines.destutter' (· ≠ ·) first
      else lines.destutter' (· ≠ ·) first ++ [last] := by
  -- the first line is the one that the next is compared with, so it changes with each that is kept
  induction lines generalizing first with
  | nil => by_cases h : first = last <;> simp [h]
  | cons next lines ih =>
    rw [List.cons_append, List.getLast?_cons_cons]
    by_cases h : first = next
    · subst h
      rw [List.destutter'_cons_neg _ (not_not.mpr rfl), List.destutter'_cons_neg _ (not_not.mpr rfl),
        ih]
    · rw [List.destutter'_cons_pos _ h, List.destutter'_cons_pos _ h, ih]
      split <;> rfl

/-- A line is left out if it repeats the one before it. -/
theorem collapse_append_singleton (lines : List String) (last : String) :
    collapse (lines ++ [last]) =
      if lines.getLast? = some last then collapse lines else collapse lines ++ [last] := by
  cases lines with
  | nil => rfl
  | cons first lines => exact destutter'_append_singleton first last lines

/-- Whatever is left out, the last line stays the last. -/
theorem getLast?_collapse (lines : List String) :
    (collapse lines).getLast? = lines.getLast? := by
  induction lines using List.reverseRecOn with
  | nil => rfl
  | append_singleton lines last ih =>
    rw [collapse_append_singleton, List.getLast?_concat]
    split
    next hrepeats => rw [ih, hrepeats]
    next => exact List.getLast?_concat

theorem getLast?_latest (lines : List String) : (latest lines).getLast? = lines.getLast? := by
  rw [latest, List.rtake_eq_reverse_take_reverse, List.getLast?_reverse, List.head?_take,
    if_neg (by decide), List.head?_reverse, getLast?_collapse]

/-- A repetition of the last line makes no difference. -/
theorem latest_append_of_repeats (h : lines.getLast? = some line) :
    latest (lines ++ [line]) = latest lines := by
  rw [latest, collapse_append_singleton, if_pos h, latest]

/-- Any other line is the last, and the first makes room if there are too many. -/
theorem latest_append_of_ne (h : lines.getLast? ≠ some line) :
    latest (lines ++ [line]) = (latest lines ++ [line]).rtake capacity := by
  rw [latest, collapse_append_singleton, if_neg h, latest]
  -- the line itself is one of those kept, and of the others there remains one less than before
  have hcapacity : capacity = 99 + 1 := rfl
  rw [hcapacity, List.rtake_concat_succ, List.rtake_concat_succ]
  simp [List.rtake_eq_reverse_take_reverse, List.take_take]

/-! ### Tidy entries -/

/-- There are no more entries than can be kept, and none repeats the one before it. -/
structure IsTidy (entries : List String) : Prop where
  /-- They are not too many. -/
  length_le : entries.length ≤ capacity
  /-- No two neighbours are equal. -/
  isChain : entries.IsChain (· ≠ ·)

theorem isTidy_latest (lines : List String) : IsTidy (latest lines) := by
  have hsuffix : latest lines <:+ collapse lines := List.drop_suffix _ _
  constructor
  · rw [latest, List.rtake_eq_reverse_take_reverse, List.length_reverse, List.length_take]
    exact Nat.min_le_left _ _
  · exact (List.isChain_destutter _ lines).suffix hsuffix

/-- Of tidy entries nothing is left out. -/
theorem IsTidy.latest_eq (h : IsTidy entries) : latest entries = entries := by
  have hcollapse : collapse entries = entries :=
    List.destutter_of_isChain _ entries h.isChain
  rw [latest, hcollapse, List.rtake, Nat.sub_eq_zero_of_le h.length_le, List.drop_zero]

/-! ### Adding lines -/

/-- One more line, after any that the entries have come from. -/
theorem entries_add (hline : line ≠ "") (h : history.entries = latest lines) :
    (history.add line).entries = latest (lines ++ [line]) := by
  have hlast : history.entries.getLast? = lines.getLast? := by
    rw [h, getLast?_latest]
  by_cases hrepeats : lines.getLast? = some line
  · rw [latest_append_of_repeats hrepeats, ← h, add, if_pos (.inr (hlast.trans hrepeats))]
  · have hadd : ¬ (line = "" ∨ history.entries.getLast? = some line) := by
      rw [hlast, not_or]
      exact ⟨hline, hrepeats⟩
    rw [latest_append_of_ne hrepeats, ← h, add, if_neg hadd, List.rtake, List.length_append]
    rfl

/-- Lines one after the other come to the same as all of them at once. -/
theorem entries_foldl_add (hlines : ∀ line ∈ lines, line ≠ "") (h : IsTidy history.entries) :
    (lines.foldl add history).entries = latest (history.entries ++ lines) := by
  -- the lines that were added so far, with the entries before them, are what the entries come from
  have hpast (past : List String) (hpast : history.entries = latest past) :
      (lines.foldl add history).entries = latest (past ++ lines) := by
    clear h
    induction lines generalizing history past with
    | nil => simpa using hpast
    | cons line lines ih =>
      obtain ⟨hline, hothers⟩ := List.forall_mem_cons.mp hlines
      rw [List.foldl_cons, ih hothers _ (entries_add hline hpast), List.append_assoc]
      rfl
  exact hpast _ h.latest_eq.symm

/-! ### Loaded entries -/

theorem IsTidy.add (h : IsTidy history.entries) (line : String) :
    IsTidy (history.add line).entries := by
  by_cases hline : line = ""
  · rwa [History.add, if_pos (.inl hline)]
  · rw [entries_add hline h.latest_eq.symm]
    exact isTidy_latest _

theorem IsTidy.take {state : ReadState} (h : IsTidy state.history.entries) (escaped : Bool)
    (line : String) : IsTidy (state.take escaped line).history.entries := by
  unfold ReadState.take
  split
  next => exact h
  next =>
    split
    next => split <;> exact h.add _
    next => exact h.add _

theorem IsTidy.of_readPieces {state after : ReadState} {escaped complete : Bool}
    {pieces : List (List UInt8)} (h : IsTidy state.history.entries)
    (hread : readPieces escaped pieces state = (after, complete)) :
    IsTidy after.history.entries := by
  -- reading stops at a piece that is not UTF-8, with what was taken in before it
  induction pieces generalizing state with
  | nil =>
    obtain ⟨rfl, -⟩ := Prod.mk.inj hread
    exact h
  | cons piece pieces ih =>
    unfold readPieces at hread
    split at hread
    next =>
      obtain ⟨rfl, -⟩ := Prod.mk.inj hread
      exact h
    next => exact ih (h.take escaped _) hread

theorem IsTidy.read (h : IsTidy history.entries) (content : ByteArray) :
    IsTidy (history.read content).1.history.entries := by
  have hempty : IsTidy (ReadState.mk history []).history.entries := h
  unfold History.read
  dsimp only
  split
  next state hread =>
    have hstate : IsTidy state.history.entries := hempty.of_readPieces hread
    exact hstate
  next hread => exact hempty.of_readPieces hread

/-- Whatever is in a history file, and whether it can be read, a loaded history is tidy. -/
theorem IsTidy.load (h : IsTidy history.entries) (fs : FileSystem) (path : String) :
    IsTidy (history.load fs path).1.history.entries := by
  unfold History.load
  split
  next => exact h
  next content _ =>
    have hread := h.read content
    split
    next hcontent => rwa [hcontent] at hread
    next hcontent => rwa [hcontent] at hread

/-! ### Something to save -/

/-- There are entries that are not in the history file. -/
structure IsUnsaved (history : History) : Prop where
  /-- There are entries. -/
  entries_ne_nil : history.entries ≠ []
  /-- Not all of them are in the file. -/
  unsaved_ne_zero : history.unsaved ≠ 0

/-- At least one of some lines becomes an entry when they are added one after the other. -/
def Gains (history : History) (lines : List String) : Prop :=
  ∃ before line after, lines = before ++ line :: after ∧
    (before.foldl add history).add line ≠ before.foldl add history

/-- An entry that was added is in no file. -/
theorem isUnsaved_add (h : history.add line ≠ history) : (history.add line).IsUnsaved := by
  unfold add at h ⊢
  split at h
  next => exact absurd rfl h
  next hadd =>
    rw [if_neg hadd]
    -- the new entry itself is never the one that makes room
    have hlength : 0 < ((history.entries ++ [line]).drop
        (history.entries.length + 1 - capacity)).length := by
      rw [List.length_drop, List.length_append]
      simp only [capacity, List.length_singleton]
      omega
    exact ⟨List.ne_nil_of_length_pos hlength, by dsimp only; omega⟩

theorem IsUnsaved.add (h : history.IsUnsaved) (line : String) : (history.add line).IsUnsaved := by
  by_cases hadd : history.add line = history
  · rwa [hadd]
  · exact isUnsaved_add hadd

theorem IsUnsaved.foldl_add (h : history.IsUnsaved) (lines : List String) :
    (lines.foldl History.add history).IsUnsaved := by
  induction lines generalizing history with
  | nil => exact h
  | cons line lines ih => exact ih (h.add line)

theorem Gains.isUnsaved (h : history.Gains lines) : (lines.foldl add history).IsUnsaved := by
  obtain ⟨before, line, after, rfl, hadd⟩ := h
  rw [List.foldl_append, List.foldl_cons]
  exact (isUnsaved_add hadd).foldl_add after

/-- What is not saved yet is written where the path can be opened. -/
theorem IsUnsaved.save_eq {fs : FileSystem} {path : String} {place : Location}
    (h : history.IsUnsaved) (hplace : fs.openPlace? path = some place) :
    history.save fs path = .ok (fs.put place (.file history.render.toUTF8)) := by
  rw [save, if_neg (not_or.mpr ⟨h.entries_ne_nil, h.unsaved_ne_zero⟩)]
  exact FileSystem.writeFile_eq_ok_iff.mpr ⟨place, hplace, rfl⟩

/-! ### History files -/

theorem escape_injective : Function.Injective escape := by
  intro entry other h
  have hread := congrArg unescape? h
  rw [unescape?_escape, unescape?_escape] at hread
  exact Option.some.inj hread

theorem lineFeed_not_mem_escape (entry : List Char) : '\n' ∉ escape entry := by
  induction entry with
  | nil => simp [escape]
  | cons c rest ih =>
    by_cases hslash : c = '\\'
    · simp [escape, hslash, ih]
    · by_cases hfeed : c = '\n'
      · simp [escape, hfeed, ih]
      · simp [escape, hslash, hfeed, ih, Ne.symm hfeed]

/-- Two history files are the same if and only if they have the same entries. -/
theorem render_eq_iff {other : History} :
    history.render = other.render ↔ history.entries = other.entries := by
  have hlines (history : History) : ∀ line ∈ header :: history.entries.map fun entry =>
      String.ofList (escape entry.toList), '\n' ∉ line.toList := by
    rw [List.forall_mem_cons, List.forall_mem_map]
    refine ⟨by decide, fun entry _ => ?_⟩
    rw [String.toList_ofList]
    exact lineFeed_not_mem_escape entry.toList
  -- no entry is cut at a line feed of its own, so the lines of the two files are the same
  rw [render, render, Text.joinLines_inj (hlines history) (hlines other), List.cons_inj_right]
  refine List.map_inj_right fun entry last h => ?_
  exact String.toList_inj.mp (escape_injective (String.ofList_injective h))

end TextShell.History
