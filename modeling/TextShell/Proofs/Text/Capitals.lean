import Mathlib.Data.List.Forall2
import TextShell.Text.Uppercase

/-!
# Texts whose upper case is a word in capitals

The upper case of a text can have more characters than the text, and a capital can be the upper case
of other characters than the capital itself and its lower case. Among the capitals of ASCII there are
few such cases. The letters F and S have a long s, a sharp s and ligatures that become one or two of
them; the letter I has an i without a dot. All other characters that become several ones become a
character outside ASCII. So a word in capitals without F and S is the upper case of those texts only
that agree with it letter by letter.

* `Text.Spells`: the characters that stand for a capital.
* `Text.exists_eq_of_uppercasePoints`: what the tables say about plain capitals.
* `Text.uppercase_eq_iff`: the texts whose upper case is a word in plain capitals.
-/

namespace TextShell.Text

/-- A character stands for a capital: it is the capital, its lower case, or the i without a dot. -/
def Spells (c letter : Char) : Prop := c = letter ∨ c = letter.toLower ∨ c = 'ı' ∧ letter = 'I'

/-- A code point is that of a capital of ASCII other than F and S. -/
def IsPlainCapital (point : Nat) : Prop :=
  0x41 ≤ point ∧ point ≤ 0x5A ∧ point ≠ 0x46 ∧ point ≠ 0x53

instance (c letter : Char) : Decidable (Spells c letter) :=
  inferInstanceAs (Decidable (c = letter ∨ c = letter.toLower ∨ c = 'ı' ∧ letter = 'I'))

instance (point : Nat) : Decidable (IsPlainCapital point) :=
  inferInstanceAs (Decidable (0x41 ≤ point ∧ point ≤ 0x5A ∧ point ≠ 0x46 ∧ point ≠ 0x53))

variable {c letter : Char} {point : Nat} {run : CaseRun} {text word : List Char}

/-! ### What the tables say -/

/-- Of the runs, one holds the lower case of ASCII, one the i without a dot and one the long s. No
other run leads to the capitals of ASCII. -/
theorem eq_of_image_of_mem_caseRuns (hrun : run ∈ caseRuns) (hpoint : run.contains point = true)
    (h : IsPlainCapital (run.image point)) :
    point = run.image point + 0x20 ∨ point = 0x131 ∧ run.image point = 0x49 := by
  have htable : ∀ run ∈ caseRuns, run.last + run.offset < 0x41 ∨ 0x5A < run.first + run.offset ∨
      run.offset = -0x20 ∨ run.first = 0x131 ∧ run.last = 0x131 ∧ run.offset = -0xE8 ∨
      run.first = 0x17F ∧ run.last = 0x17F ∧ run.offset = -0x12C := by
    decide +kernel
  have hcase := htable run hrun
  simp only [CaseRun.contains, decide_eq_true_eq] at hpoint
  unfold IsPlainCapital at h
  unfold CaseRun.image at h ⊢
  omega

/-- What becomes several characters becomes one that is no plain capital. -/
theorem exists_not_isPlainCapital_of_mem_caseExpansions {points : List Nat}
    (h : (point, points) ∈ caseExpansions) : ∃ image ∈ points, ¬ IsPlainCapital image := by
  have htable : ∀ entry ∈ caseExpansions, ∃ image ∈ entry.2, ¬ IsPlainCapital image := by
    decide +kernel
  exact htable _ h

/-- A code point whose upper case consists of plain capitals has a single one, of which it is the
capital, the lower case, or the i without a dot. -/
theorem exists_eq_of_uppercasePoints (h : ∀ image ∈ uppercasePoints point, IsPlainCapital image) :
    ∃ image, IsPlainCapital image ∧ uppercasePoints point = [image] ∧
      (point = image ∨ point = image + 0x20 ∨ point = 0x131 ∧ image = 0x49) := by
  unfold uppercasePoints at h ⊢
  cases hrun : caseRuns.find? (·.contains point) with
  | some run =>
    rw [hrun] at h
    have himage := h _ (List.mem_singleton_self _)
    have hpoint : run.contains point = true := by simpa using List.find?_some hrun
    have hcase := eq_of_image_of_mem_caseRuns (List.mem_of_find?_eq_some hrun) hpoint himage
    exact ⟨_, himage, rfl, .inr hcase⟩
  | none =>
    rw [hrun] at h
    cases hlookup : caseExpansions.lookup point with
    | some points =>
      -- it becomes several characters, so one of them is no plain capital
      rw [hlookup] at h
      obtain ⟨before, after, htable, -⟩ := List.lookup_eq_some_iff.mp hlookup
      have hmem : (point, points) ∈ caseExpansions := by
        rw [htable]
        exact List.mem_append_right _ (List.mem_cons_self ..)
      obtain ⟨image, himage, hnot⟩ := exists_not_isPlainCapital_of_mem_caseExpansions hmem
      exact absurd (h image himage) hnot
    | none =>
      rw [hlookup] at h
      exact ⟨point, h _ (List.mem_singleton_self _), rfl, .inl rfl⟩

theorem IsPlainCapital.mem_range' (h : IsPlainCapital point) : point ∈ List.range' 0x41 26 := by
  obtain ⟨hfirst, hlast, -⟩ := h
  rw [List.mem_range'_1]
  omega

/-- The upper case of plain capitals and of their lower case. -/
theorem uppercasePoints_of_isPlainCapital (h : IsPlainCapital point) :
    uppercasePoints point = [point] ∧ uppercasePoints (point + 0x20) = [point] := by
  have htable : ∀ point ∈ List.range' 0x41 26,
      uppercasePoints point = [point] ∧ uppercasePoints (point + 0x20) = [point] := by
    decide +kernel
  exact htable point h.mem_range'

/-! ### Characters -/

/-- What is made into a plain capital is the code point of the capital. -/
theorem toNat_ofNat_of_isPlainCapital (h : IsPlainCapital (Char.ofNat point).toNat) :
    (Char.ofNat point).toNat = point := by
  by_cases hvalid : point.isValidChar
  · rw [Char.ofNat, dif_pos hvalid]
    rfl
  · rw [Char.ofNat, dif_neg hvalid] at h
    exact absurd h (by decide)

theorem toNat_toLower (h : IsPlainCapital letter.toNat) :
    letter.toLower.toNat = letter.toNat + 0x20 := by
  have htable : ∀ point ∈ List.range' 0x41 26,
      (Char.ofNat point).toLower.toNat = point + 0x20 := by
    decide +kernel
  have hlower := htable letter.toNat h.mem_range'
  rwa [Char.ofNat_toNat] at hlower

/-- The characters that stand for a plain capital, by their code points. -/
theorem spells_iff_toNat (h : IsPlainCapital letter.toNat) :
    Spells c letter ↔ c.toNat = letter.toNat ∨ c.toNat = letter.toNat + 0x20 ∨
      c.toNat = 0x131 ∧ letter.toNat = 0x49 := by
  have hdotless : c.toNat = 0x131 ↔ c = 'ı' := Char.toNat_inj (d := 'ı')
  have hcapital : letter.toNat = 0x49 ↔ letter = 'I' := Char.toNat_inj (d := 'I')
  rw [hdotless, hcapital, ← toNat_toLower h, Char.toNat_inj, Char.toNat_inj]
  rfl

/-- Every character that stands for a plain capital has it as its upper case, and no other has. -/
theorem uppercaseChar_eq_singleton_iff (h : IsPlainCapital letter.toNat) :
    uppercaseChar c = [letter] ↔ Spells c letter := by
  rw [spells_iff_toNat h]
  constructor
  · intro hupper
    -- the code point of the capital is the one that the tables give
    obtain ⟨image, himages, rfl⟩ := List.map_eq_singleton_iff.mp hupper
    have hvalue := toNat_ofNat_of_isPlainCapital h
    rw [hvalue] at h ⊢
    have hplain : ∀ point ∈ uppercasePoints c.toNat, IsPlainCapital point := by
      rwa [himages, List.forall_mem_singleton]
    obtain ⟨other, -, hother, hcase⟩ := exists_eq_of_uppercasePoints hplain
    rw [himages, List.singleton_inj] at hother
    rwa [hother]
  · intro hcase
    obtain ⟨hcapital, hlower⟩ := uppercasePoints_of_isPlainCapital h
    have hpoints : uppercasePoints c.toNat = [letter.toNat] := by
      rcases hcase with hcase | hcase | ⟨hcase, hletter⟩
      · rwa [hcase]
      · rwa [hcase]
      · rw [hcase, hletter]
        decide
    rw [uppercaseChar, hpoints, List.map_singleton, Char.ofNat_toNat]

/-- A character whose upper case consists of plain capitals has a single one. -/
theorem exists_uppercaseChar_eq_singleton
    (h : ∀ letter ∈ uppercaseChar c, IsPlainCapital letter.toNat) :
    ∃ letter, uppercaseChar c = [letter] := by
  have hplain : ∀ image ∈ uppercasePoints c.toNat, IsPlainCapital image := by
    intro image himage
    have hletter := h (Char.ofNat image) (List.mem_map_of_mem himage)
    rwa [toNat_ofNat_of_isPlainCapital hletter] at hletter
  obtain ⟨image, -, himages, -⟩ := exists_eq_of_uppercasePoints hplain
  exact ⟨Char.ofNat image, by rw [uppercaseChar, himages, List.map_singleton]⟩

/-! ### Texts -/

/-- The texts whose upper case is a word in plain capitals agree with it letter by letter. -/
theorem uppercase_eq_iff (hword : ∀ letter ∈ word, IsPlainCapital letter.toNat) :
    uppercase text = word ↔ List.Forall₂ Spells text word := by
  -- each character takes one letter off the word, so the rest of the text has to give the rest
  induction text generalizing word with
  | nil =>
    rw [List.forall₂_nil_left_iff]
    exact eq_comm
  | cons c text ih =>
    rw [List.forall₂_cons_left_iff]
    have hcons : uppercase (c :: text) = uppercaseChar c ++ uppercase text := List.flatMap_cons
    rw [hcons]
    constructor
    · rintro rfl
      rw [List.forall_mem_append] at hword
      obtain ⟨letter, hletter⟩ := exists_uppercaseChar_eq_singleton hword.1
      rw [hletter, List.forall_mem_singleton] at hword
      exact ⟨letter, uppercase text, (uppercaseChar_eq_singleton_iff hword.1).mp hletter,
        (ih hword.2).mp rfl, by rw [hletter, List.singleton_append]⟩
    · rintro ⟨letter, rest, hletter, hrest, rfl⟩
      rw [List.forall_mem_cons] at hword
      rw [(uppercaseChar_eq_singleton_iff hword.1).mpr hletter, (ih hword.2).mpr hrest,
        List.singleton_append]

end TextShell.Text
