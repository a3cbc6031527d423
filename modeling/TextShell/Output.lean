/-!
# Output

The text that a session writes for its user. An output need not take every message: it says for
each attempt, by its number, whether it refuses it, and how much of the message it takes before.

* `Output.write_written_of_accepted`: an accepted message is added at the end.
* `Output.write_fresh`: writing takes no notice of what was written before.
-/

namespace TextShell

/-- How a message is refused. -/
structure Refusal where
  /-- How many characters of the message are still taken. -/
  taken : Nat
  /-- The reason given. -/
  reason : String
  deriving DecidableEq, Repr

/-- An output with what it has taken so far. -/
structure Output where
  /-- The text taken so far. -/
  written : String
  /-- How many messages were tried so far. -/
  attempts : Nat
  /-- Which attempts are refused, and how. -/
  refusal? : Nat → Option Refusal

namespace Output

/-- A fresh output that takes every message. -/
def working : Output where
  written := ""
  attempts := 0
  refusal? _ := none

/-- A fresh output that takes nothing. -/
def broken (reason : String) : Output where
  written := ""
  attempts := 0
  refusal? _ := some { taken := 0, reason }

/-- The output as it is to whoever writes next: nothing is taken yet, and the refusals are those
still to come. -/
def fresh (output : Output) : Output where
  written := ""
  attempts := 0
  refusal? attempt := output.refusal? (output.attempts + attempt)

/-- The output after what was written to a fresh one. -/
def append (output later : Output) : Output where
  written := output.written ++ later.written
  attempts := output.attempts + later.attempts
  refusal? := output.refusal?

/-- Try to write a message: the output afterwards, and the reason if the message was refused. -/
def write (output : Output) (message : String) : Output × Option String :=
  match output.refusal? output.attempts with
  | none =>
    ({ output with written := output.written ++ message, attempts := output.attempts + 1 }, none)
  | some refusal =>
    ({ output with
        written := output.written ++ String.ofList (message.toList.take refusal.taken)
        attempts := output.attempts + 1 },
      some refusal.reason)

/-- Every message is taken. -/
def IsAccepting (output : Output) : Prop := ∀ attempt, output.refusal? attempt = none

/-- An accepted message is added at the end. -/
theorem write_written_of_accepted {output : Output} (message : String)
    (h : output.refusal? output.attempts = none) :
    (output.write message).1.written = output.written ++ message := by
  simp [write, h]

/-- Writing does not change which attempts are refused. -/
@[simp]
theorem write_refusal? (output : Output) (message : String) :
    (output.write message).1.refusal? = output.refusal? := by
  unfold write
  split <;> rfl

/-- Every message is one attempt, refused or not. -/
@[simp]
theorem write_attempts (output : Output) (message : String) :
    (output.write message).1.attempts = output.attempts + 1 := by
  unfold write
  split <;> rfl

@[simp]
theorem append_written (output later : Output) :
    (output.append later).written = output.written ++ later.written := rfl

@[simp]
theorem fresh_written (output : Output) : output.fresh.written = "" := rfl

@[simp]
theorem fresh_fresh (output : Output) : output.fresh.fresh = output.fresh := by
  simp [fresh]

/-- Nothing is added by an output that nothing was written to. -/
@[simp]
theorem append_fresh (output : Output) : output.append output.fresh = output := by
  simp [append, fresh]

theorem append_assoc (output later last : Output) :
    (output.append later).append last = output.append (later.append last) := by
  simp [append, String.append_assoc, Nat.add_assoc]

/-- Two outputs that are the same to whoever writes next are so after the same writing. -/
theorem fresh_append_congr {output other : Output} (later : Output)
    (h : output.fresh = other.fresh) : (output.append later).fresh = (other.append later).fresh := by
  have hrefusal (attempt : Nat) :
      output.refusal? (output.attempts + attempt) = other.refusal? (other.attempts + attempt) :=
    congrFun (congrArg refusal? h) attempt
  simp [append, fresh, Nat.add_assoc, hrefusal]

/-- Writing takes no notice of what was written before. -/
theorem write_fresh (output : Output) (message : String) :
    output.write message =
      (output.append (output.fresh.write message).1, (output.fresh.write message).2) := by
  cases h : output.refusal? output.attempts <;> simp [write, fresh, append, h]

theorem isAccepting_working : working.IsAccepting := fun _ => rfl

/-- An output that takes every message takes the whole of it. -/
theorem IsAccepting.write_written {output : Output} (h : output.IsAccepting) (message : String) :
    (output.write message).1.written = output.written ++ message :=
  write_written_of_accepted message (h output.attempts)

/-- To whoever writes next, an output that takes every message is one that nothing was written to. -/
theorem IsAccepting.fresh_eq {output : Output} (h : output.IsAccepting) :
    output.fresh = working := by
  simp only [fresh, working, h (output.attempts + _)]

end Output

end TextShell
