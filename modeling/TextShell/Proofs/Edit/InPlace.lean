import TextShell.Proofs.Edit.Script

/-!
# Edits in place

An edit made on the lines themselves, one step after the other, with line numbers and counts of
64 bits. A step can be impossible: there is no number before zero and none after the largest, a line
can be put in front of another or behind the last one only, and only a line that is there can be
taken out. An edit asks for none of these, however large its number is, and it has changed nothing
when it finds that it cannot be made.

* `Edit.inPlace?`: the steps of an edit.
* `Edit.inPlace?_eq`: every step is possible, and together they do what the edit is to do.
-/

namespace TextShell.Edit

/-! ### Steps -/

/-- The number before a number. -/
def predecessor? (number : UInt64) : Option UInt64 :=
  if number = 0 then none else some (number - 1)

/-- The number after a number. -/
def successor? (number : UInt64) : Option UInt64 :=
  if number + 1 = 0 then none else some (number + 1)

/-- By how much a number is larger than another, zero if it is not. -/
def excess (number other : UInt64) : UInt64 :=
  if other ≤ number then number - other else 0

/-- How many lines there are. -/
def lineCount (lines : List String) : UInt64 := .ofNat lines.length

/-- As many lines as the count says: lines are left off at the end, or empty ones are added. -/
def resize (lines : List String) (count : UInt64) : List String :=
  lines.take count.toNat ++ List.replicate (count.toNat - lines.length) ""

/-- The lines with a text in front of the one at an index, or behind the last one. -/
def insertBefore? (lines : List String) (index : UInt64) (text : String) : Option (List String) :=
  if index.toNat ≤ lines.length then
    some (lines.take index.toNat ++ text :: lines.drop index.toNat)
  else none

/-- The lines without the one at an index. -/
def takeOut? (lines : List String) (index : UInt64) : Option (List String) :=
  if index.toNat < lines.length then some (lines.eraseIdx index.toNat) else none

/-- The steps of an edit: what comes of it, or nothing if one of its steps is impossible. Before
lines are added, room for them is asked for. -/
def inPlace? (hasRoom : UInt64 → Bool) : Edit → List String → Option Step
  | replace text, _ => some { failure? := none, lines := [text] }
  | append text, lines => some { failure? := none, lines := lines ++ [text] }
  | insertAt line text, lines =>
    let refused : Step := { failure? := some (.insertOutOfRange line.toNat.repr), lines }
    if line = 0 then some refused
    else do
      let index ← predecessor? line
      let padding := excess index (lineCount lines)
      if maxPadding < padding.toNat then some refused
      else
        let more ← successor? padding
        if hasRoom more then
          let padded := if 0 < padding then resize lines index else lines
          let edited ← insertBefore? padded index text
          some { failure? := none, lines := edited }
        else some refused
  | deleteAt line, lines =>
    let refused : Step := { failure? := some (.deleteOutOfRange line.toNat.repr), lines }
    if line = 0 ∨ lineCount lines < line then some refused
    else do
      let index ← predecessor? line
      let edited ← takeOut? lines index
      some { failure? := none, lines := edited }

/-! ### Every step is possible -/

variable {lines : List String} {number : UInt64} {text : String}

theorem toNat_eq_zero_iff : number.toNat = 0 ↔ number = 0 := by
  rw [← UInt64.toNat_zero, UInt64.toNat_inj]

/-- A number other than zero has one before it. -/
theorem exists_predecessor (h : number ≠ 0) :
    ∃ index, predecessor? number = some index ∧ index.toNat = number.toNat - 1 := by
  refine ⟨number - 1, by rw [predecessor?, if_neg h], ?_⟩
  have hpositive : 1 ≤ number.toNat := by
    have hne : number.toNat ≠ 0 := mt toNat_eq_zero_iff.mp h
    omega
  have hle : (1 : UInt64) ≤ number := UInt64.le_iff_toNat_le.mpr hpositive
  rw [UInt64.toNat_sub_of_le _ _ hle]
  rfl

/-- A number that is not the largest has one after it. -/
theorem exists_successor (h : number.toNat + 1 < UInt64.size) :
    ∃ more, successor? number = some more := by
  have hne : number + 1 ≠ 0 := by
    intro hzero
    have hsum : (number.toNat + 1) % UInt64.size = 0 := by
      have hvalue := congrArg UInt64.toNat hzero
      rw [UInt64.toNat_add] at hvalue
      exact hvalue
    rw [Nat.mod_eq_of_lt h] at hsum
    omega
  exact ⟨number + 1, by rw [successor?, if_neg hne]⟩

theorem toNat_excess (number other : UInt64) :
    (excess number other).toNat = number.toNat - other.toNat := by
  unfold excess
  split
  next hle => exact UInt64.toNat_sub_of_le _ _ hle
  next hgt =>
    have hlt : number.toNat < other.toNat := by
      rw [UInt64.le_iff_toNat_le] at hgt
      omega
    rw [Nat.sub_eq_zero_of_le (Nat.le_of_lt hlt)]
    rfl

theorem toNat_lineCount (h : lines.length < UInt64.size) : (lineCount lines).toNat = lines.length :=
  UInt64.toNat_ofNat_of_lt' h

/-- With enough room, a text is put in its place: the lines reach up to it once they are filled
up. -/
theorem insertBefore?_padded (index : UInt64) (text : String)
    (hlength : lines.length < UInt64.size) :
    insertBefore? (if 0 < excess index (lineCount lines) then resize lines index else lines) index
        text =
      some (lines.take index.toNat ++ List.replicate (index.toNat - lines.length) "" ++
        text :: lines.drop index.toNat) := by
  have hexcess : (excess index (lineCount lines)).toNat = index.toNat - lines.length := by
    rw [toNat_excess, toNat_lineCount hlength]
  split
  next hbehind =>
    have hlong : lines.length < index.toNat := by
      rw [UInt64.lt_iff_toNat_lt, hexcess] at hbehind
      exact Nat.lt_of_sub_pos hbehind
    -- the filled-up lines end where the text goes, and so do the old ones before that
    have hresize : (resize lines index).length = index.toNat := by
      rw [resize, List.length_append, List.length_take, List.length_replicate]
      omega
    have hend : (resize lines index).length ≤ index.toNat := Nat.le_of_eq hresize
    rw [insertBefore?, if_pos (Nat.le_of_eq hresize.symm), List.take_of_length_le hend,
      List.drop_eq_nil_of_le hend, List.drop_eq_nil_of_le (Nat.le_of_lt hlong)]
    rfl
  next hinside =>
    have hshort : index.toNat - lines.length = 0 := by
      rw [UInt64.lt_iff_toNat_lt, hexcess] at hinside
      exact Nat.eq_zero_of_not_pos hinside
    rw [insertBefore?, if_pos (Nat.le_of_sub_eq_zero hshort), hshort, List.replicate_zero,
      List.append_nil]

/-- Every step of an edit is possible, and together they do what the edit is to do. What is asked
for is that the lines can be counted and that there is room. -/
theorem inPlace?_eq {hasRoom : UInt64 → Bool} (hroom : ∀ more, hasRoom more = true)
    (hlength : lines.length < UInt64.size) (edit : Edit) :
    edit.inPlace? hasRoom lines = some (edit.step lines) := by
  cases edit with
  | replace text | append text => rfl
  | insertAt line text =>
    by_cases hzero : line = 0
    · simp [inPlace?, step, apply, hzero]
    obtain ⟨index, hindex, hvalue⟩ := exists_predecessor hzero
    have hgap : (excess index (lineCount lines)).toNat = gap line lines := by
      rw [toNat_excess, toNat_lineCount hlength, hvalue, gap]
    simp only [inPlace?, if_neg hzero, hindex, Option.bind_eq_bind, Option.bind_some, hgap]
    by_cases hlarge : maxPadding < gap line lines
    · rw [if_pos hlarge, step, apply, if_pos (.inr hlarge)]
    · -- the count of new lines is far from the largest number
      have hcount : (excess index (lineCount lines)).toNat + 1 < UInt64.size := by
        have hmax : maxPadding + 1 < UInt64.size := by decide
        omega
      obtain ⟨more, hmore⟩ := exists_successor hcount
      rw [if_neg hlarge, hmore, Option.bind_some, if_pos (hroom more),
        insertBefore?_padded index text hlength, Option.bind_some, step, apply,
        if_neg (not_or.mpr ⟨hzero, hlarge⟩), hvalue, gap]
  | deleteAt line =>
    have hcount : lineCount lines < line ↔ lines.length < line.toNat := by
      rw [UInt64.lt_iff_toNat_lt, toNat_lineCount hlength]
    simp only [inPlace?, hcount]
    by_cases hrange : line = 0 ∨ lines.length < line.toNat
    · rw [if_pos hrange, step, apply, if_pos hrange]
    · obtain ⟨hzero, hinside⟩ := not_or.mp hrange
      obtain ⟨index, hindex, hvalue⟩ := exists_predecessor hzero
      have hline : index.toNat < lines.length := by
        have hpositive : line.toNat ≠ 0 := mt toNat_eq_zero_iff.mp hzero
        omega
      rw [if_neg hrange, hindex, step, apply, if_neg hrange, ← hvalue]
      simp [takeOut?, hline]

end TextShell.Edit
