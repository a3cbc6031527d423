import Mathlib.Data.List.TakeWhile
import TextShell.Request.Reading

/-!
# The pieces of arguments

What each piece of the arguments of a command takes from a text: a fixed word is what the text
begins with, a quoted item reaches to the next quote, a numeral reaches as far as there are digits.
Each reads a text in one way at most, and reads every text that is written that way.

* `Reading.IsItem`, `Reading.IsPath`, `Reading.IsNumeral`: the characters that a piece may consist
  of.
* `Reading.skip?_eq_some_iff`, `Reading.quoted?_eq_some_iff` and their like: a piece is read exactly
  where it stands at the beginning of the text.
-/

namespace TextShell.Reading

variable {text item rest digits : List Char}

/-- What can stand between quotes: at least one character, and no quote. -/
structure IsItem (item : List Char) : Prop where
  /-- There is a character. -/
  ne_nil : item ≠ []
  /-- None is a quote. -/
  not_mem : '"' ∉ item

/-- What can stand between quotes as a path: something before the ending `.txt`, and no quote. -/
structure IsPath (path : List Char) : Prop where
  /-- The ending stands behind at least one character. -/
  exists_stem : ∃ stem ≠ [], path = stem ++ extension
  /-- None is a quote. -/
  not_mem : '"' ∉ path

/-- What can stand for a number: at least one character, and all of them are digits. -/
structure IsNumeral (digits : List Char) : Prop where
  /-- There is a character. -/
  ne_nil : digits ≠ []
  /-- All are digits. -/
  isDigit : ∀ c ∈ digits, c.isDigit = true

/-! ### Fixed words -/

@[simp]
theorem skip?_append (beginning rest : List Char) :
    skip? beginning (beginning ++ rest) = some rest := by
  have hprefix : beginning.isPrefixOf (beginning ++ rest) = true :=
    List.isPrefixOf_iff_prefix.mpr (List.prefix_append _ _)
  rw [skip?, if_pos hprefix, List.drop_left]

/-- A fixed word is left off where the text begins with it. -/
theorem skip?_eq_some_iff {beginning : List Char} :
    skip? beginning text = some rest ↔ text = beginning ++ rest := by
  constructor
  · intro h
    unfold skip? at h
    split at h
    next hprefix =>
      obtain ⟨behind, rfl⟩ := List.isPrefixOf_iff_prefix.mp hprefix
      rw [List.drop_left] at h
      rw [Option.some.inj h]
    next => cases h
  · rintro rfl
    exact skip?_append beginning rest

/-! ### Runs of characters -/

/-- A run of characters ends in front of the first one that does not belong to it. -/
theorem takeWhile_append_of_head {p : Char → Bool} (hitem : ∀ c ∈ item, p c = true)
    (hrest : ∀ c ∈ rest.head?, p c = false) :
    (item ++ rest).takeWhile p = item ∧ (item ++ rest).dropWhile p = rest := by
  have hstop : rest.takeWhile p = [] ∧ rest.dropWhile p = rest := by
    cases rest with
    | nil => exact ⟨rfl, rfl⟩
    | cons c behind =>
      have hc : p c = false := hrest c rfl
      simp [hc]
  rw [List.takeWhile_append_of_pos hitem, List.dropWhile_append_of_pos hitem, hstop.1, hstop.2,
    List.append_nil]
  exact ⟨rfl, rfl⟩

/-- A quoted item is read where it stands in front of a quote. -/
theorem quoted?_eq_some_iff :
    quoted? text = some (item, rest) ↔ IsItem item ∧ text = item ++ '"' :: rest := by
  constructor
  · intro h
    unfold quoted? at h
    split at h
    next _ behind hbehind =>
      split at h
      next => cases h
      next hne =>
        obtain ⟨rfl, rfl⟩ := Prod.mk.inj (Option.some.inj h)
        refine ⟨⟨hne, fun hquote => ?_⟩, ?_⟩
        · simpa using List.mem_takeWhile_imp hquote
        · rw [← hbehind, List.takeWhile_append_dropWhile]
    next => cases h
  · rintro ⟨hitem, rfl⟩
    have hbefore : ∀ c ∈ item, decide (c ≠ '"') = true := by
      intro c hc
      rw [decide_eq_true_eq]
      rintro rfl
      exact hitem.not_mem hc
    have hquote : ∀ c ∈ ('"' :: rest).head?, decide (c ≠ '"') = false := by simp
    obtain ⟨htake, hdrop⟩ := takeWhile_append_of_head hbefore hquote
    rw [quoted?, htake, hdrop]
    exact if_neg hitem.ne_nil

theorem isPath_iff : IsPath item ↔ IsItem item ∧ isPath item = true := by
  rw [isPath, Bool.and_eq_true, List.isSuffixOf_iff_suffix, decide_eq_true_eq]
  constructor
  · rintro ⟨⟨stem, hne, rfl⟩, hquote⟩
    refine ⟨⟨by simp [hne], hquote⟩, List.suffix_append _ _, ?_⟩
    have hpos := List.length_pos_iff.mpr hne
    rw [List.length_append]
    omega
  · rintro ⟨hitem, ⟨stem, rfl⟩, hlength⟩
    refine ⟨⟨stem, ?_, rfl⟩, hitem.not_mem⟩
    rintro rfl
    exact Nat.lt_irrefl _ hlength

theorem IsPath.isPath (h : IsPath item) : isPath item = true := (isPath_iff.mp h).2

/-- A path is read where it stands in front of a quote. -/
theorem path?_eq_some_iff :
    path? text = some (item, rest) ↔ IsPath item ∧ text = item ++ '"' :: rest := by
  rw [isPath_iff]
  constructor
  · intro h
    unfold path? at h
    split at h
    next found behind hquoted =>
      split at h
      next hpath =>
        obtain ⟨rfl, rfl⟩ := Prod.mk.inj (Option.some.inj h)
        obtain ⟨hitem, htext⟩ := quoted?_eq_some_iff.mp hquoted
        exact ⟨⟨hitem, hpath⟩, htext⟩
      next => cases h
    next => cases h
  · rintro ⟨⟨hitem, hpath⟩, htext⟩
    rw [path?, quoted?_eq_some_iff.mpr ⟨hitem, htext⟩]
    exact if_pos hpath

/-- A numeral is read where it stands in front of something else than a digit, or at the end. -/
theorem digits?_eq_some_iff :
    digits? text = some (digits, rest) ↔
      IsNumeral digits ∧ (∀ c ∈ rest.head?, c.isDigit = false) ∧ text = digits ++ rest := by
  constructor
  · intro h
    unfold digits? at h
    split at h
    next => cases h
    next hne =>
      obtain ⟨rfl, rfl⟩ := Prod.mk.inj (Option.some.inj h)
      refine ⟨⟨hne, fun c hc => List.mem_takeWhile_imp hc⟩, ?_, ?_⟩
      · intro c hc
        have hstop := List.head?_dropWhile_not Char.isDigit text
        rwa [Option.mem_def.mp hc] at hstop
      · exact List.takeWhile_append_dropWhile.symm
  · rintro ⟨hdigits, hrest, rfl⟩
    obtain ⟨htake, hdrop⟩ := takeWhile_append_of_head hdigits.isDigit hrest
    rw [digits?, htake, hdrop, if_neg hdigits.ne_nil]

/-! ### The end -/

theorem isEnd_iff : isEnd text = true ↔ ∀ c ∈ text, Text.isBlank c = true := List.all_eq_true

/-- The last text is read where nothing but blank characters follows its quote. -/
theorem lastText?_eq_some_iff :
    lastText? text = some item ↔
      ∃ blanks, IsItem item ∧ isEnd blanks = true ∧ text = item ++ '"' :: blanks := by
  simp only [lastText?, Option.bind_eq_bind, Option.bind_eq_some_iff, Prod.exists,
    quoted?_eq_some_iff, Option.ite_none_right_eq_some, Option.some.injEq]
  constructor
  · rintro ⟨found, blanks, ⟨hitem, htext⟩, hend, rfl⟩
    exact ⟨blanks, hitem, hend, htext⟩
  · rintro ⟨blanks, hitem, hend, htext⟩
    exact ⟨item, blanks, ⟨hitem, htext⟩, hend, rfl⟩

theorem map_lastText?_eq_some_iff {α : Type} {make : List Char → α} {made : α} :
    (lastText? text).map make = some made ↔
      ∃ item blanks, IsItem item ∧ isEnd blanks = true ∧ text = item ++ '"' :: blanks ∧
        make item = made := by
  simp only [Option.map_eq_some_iff, lastText?_eq_some_iff]
  constructor
  · rintro ⟨item, ⟨blanks, hitem, hend, htext⟩, hmake⟩
    exact ⟨item, blanks, hitem, hend, htext, hmake⟩
  · rintro ⟨item, blanks, hitem, hend, htext, hmake⟩
    exact ⟨item, ⟨blanks, hitem, hend, htext⟩, hmake⟩

/-- No digit is blank. -/
theorem isDigit_of_isBlank {c : Char} (h : Text.isBlank c = true) : c.isDigit = false := by
  have hdigits : ∀ point ∈ List.range' 48 10,
      Text.CodePointSet.inside Text.whiteSpace.changes point = false := by decide
  rw [Bool.eq_false_iff]
  intro hdigit
  simp only [Char.isDigit, Bool.and_eq_true, decide_eq_true_eq] at hdigit
  have hpoint : c.toNat ∈ List.range' 48 10 := by
    have hfirst : 48 ≤ c.toNat := hdigit.1
    have hlast : c.toNat ≤ 57 := hdigit.2
    rw [List.mem_range'_1]
    omega
  exact Bool.noConfusion ((hdigits c.toNat hpoint).symm.trans h)

/-- Blank characters end a numeral. -/
theorem isDigit_head?_of_isEnd (h : isEnd text = true) : ∀ c ∈ text.head?, c.isDigit = false :=
  fun _ hc => isDigit_of_isBlank (isEnd_iff.mp h _ (List.mem_of_mem_head? hc))

end TextShell.Reading
