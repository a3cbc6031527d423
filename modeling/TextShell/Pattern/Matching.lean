import TextShell.Pattern.Reading
import TextShell.Pattern.Size

/-!
# Matching

Whether a pattern matches somewhere in a text. The places of a text are kept as the bits of a number,
the first place as the lowest bit. A pattern then takes the places where it may start to those where
it may end; steps and conditions are bits as well, worked out once for the text.

* `Pattern.advance_or`: what is reached from several places is what is reached from each of them.
* `Pattern.rounds_eq_repeat`: rounds may stop as soon as they change nothing.
-/

namespace TextShell.Pattern

/-- Whether something holds, as a bit. -/
def bit (holds : Bool) : Nat := if holds then 1 else 0

/-- The places in front of the characters that a step goes over. -/
def stepPlaces (set : Text.CodePointSet) (text : List Char) : Nat :=
  text.foldr (fun c places => bit (set.contains c) ||| (places <<< 1)) 0

/-- The places where a condition holds, from behind a character on, if there is one. -/
def lookPlaces (look : Look) : Option Char → List Char → Nat
  | before?, [] => bit (look.anchor.holds look.modes before? none)
  | before?, c :: rest =>
    bit (look.anchor.holds look.modes before? (some c)) ||| (lookPlaces look (some c) rest <<< 1)

/-- The places after a number of rounds. -/
def rounds (advance : Nat → Nat) : Nat → Nat → Nat
  | 0, places => places
  | count + 1, places =>
    if advance places = places then places else rounds advance count (advance places)

/-- The places after any number of rounds up to a greatest. -/
def roundsUpTo (advance : Nat → Nat) (count places : Nat) : Nat :=
  rounds (fun places => places ||| advance places) count places

/-- The places where a pattern may end, from those where it may start. More rounds of a repetition
than there are places make no difference. -/
def advance (count : Nat) : Pattern Nat Nat → Nat → Nat
  | nothing, places => places
  | step taken, places => (places &&& taken) <<< 1
  | condition holding, places => places &&& holding
  | sequence first second, places => second.advance count (first.advance count places)
  | choice first second, places => first.advance count places ||| second.advance count places
  | repetition least greatest? body, places =>
    roundsUpTo (body.advance count)
      (match greatest? with
        | none => count
        | some greatest => min (greatest - least) count)
      (rounds (body.advance count) (min least count) places)
  | kept body, places => body.advance count places

/-- A pattern with its steps and conditions worked out for a text. -/
def onText (pattern : TextPattern) (text : List Char) : Pattern Nat Nat :=
  pattern.map (stepPlaces · text) (lookPlaces · none text)

/-- Whether a pattern matches somewhere in a text. -/
def occursIn (pattern : TextPattern) (text : String) : Bool :=
  let count := text.length + 1
  (pattern.onText text.toList).advance count (Nat.pow 2 count - 1) ≠ 0

/-- The pattern that a text describes. -/
def read (text : String) : Except Fault TextPattern := do
  let expression ← Expression.read text
  let pattern ← expression.meaning
  if pattern.size ≤ sizeLimit then .ok pattern else .error .tooLarge

/-- Places that a round does not change stay the same. -/
theorem rounds_of_eq {advance : Nat → Nat} {places : Nat} (h : advance places = places)
    (count : Nat) : rounds advance count places = places := by
  cases count <;> simp [rounds, h]

/-- One more round may be made first. -/
theorem rounds_succ (advance : Nat → Nat) (count places : Nat) :
    rounds advance (count + 1) places = rounds advance count (advance places) := by
  by_cases h : advance places = places
  · rw [rounds_of_eq h, h, rounds_of_eq h]
  · simp [rounds, h]

/-- One more round may be made last. -/
theorem rounds_succ_eq_advance (advance : Nat → Nat) (count places : Nat) :
    rounds advance (count + 1) places = advance (rounds advance count places) := by
  induction count generalizing places with
  | zero => exact rounds_succ advance 0 places
  | succ count ih => rw [rounds_succ, ih, ← rounds_succ]

/-- Rounds may stop as soon as they change nothing. -/
theorem rounds_eq_repeat (advance : Nat → Nat) (count places : Nat) :
    rounds advance count places = Nat.repeat advance count places := by
  induction count with
  | zero => rfl
  | succ count ih => rw [rounds_succ_eq_advance, ih, Nat.repeat]

/-- What rounds reach from several places is what they reach from each of them. -/
theorem rounds_or {advance : Nat → Nat}
    (h : ∀ places others, advance (places ||| others) = advance places ||| advance others)
    (count places others : Nat) :
    rounds advance count (places ||| others) =
      rounds advance count places ||| rounds advance count others := by
  induction count with
  | zero => rfl
  | succ count ih => simp only [rounds_succ_eq_advance, ih, h]

/-- What is reached from several places is what is reached from each of them. -/
theorem advance_or (count : Nat) (pattern : Pattern Nat Nat) (places others : Nat) :
    pattern.advance count (places ||| others) =
      pattern.advance count places ||| pattern.advance count others := by
  induction pattern generalizing places others with
  | nothing => rfl
  | step taken => simp [advance, Nat.and_or_distrib_right, Nat.shiftLeft_or_distrib]
  | condition holding => exact Nat.and_or_distrib_right places others holding
  | sequence first second hfirst hsecond => simp only [advance, hfirst, hsecond]
  | choice first second hfirst hsecond =>
    simp only [advance, hfirst, hsecond]
    ac_rfl
  | repetition least greatest? body hbody =>
    simp only [advance, roundsUpTo, rounds_or hbody]
    refine rounds_or (fun places others => ?_) _ _ _
    rw [hbody]
    ac_rfl
  | kept body hbody => exact hbody places others

end TextShell.Pattern
