/-!
# Control sequences

A text without what a terminal would obey instead of showing: control characters other than white
space, and the sequences that an escape character begins, such as those for colours and titles.

* `withoutControls_of_forall_isPlain`: a text of plain characters stays as it is.
-/

namespace TextShell.Text

/-- The character that begins a sequence. -/
def escape : Char := '\x1b'

/-- Whether a character breaks off a sequence. -/
def cancels (c : Char) : Bool := c = '\x18' || c = '\x1a'

/-- Whether a character is white space to a terminal, which is shown even within most sequences. -/
def isTerminalSpace (c : Char) : Bool := c = '\t' || c = '\n' || c = '\x0c' || c = '\r'

/-- Whether a character is shown where it stands outside of sequences. -/
def isPlain (c : Char) : Bool := (0x20 ≤ c.toNat && c.toNat ≠ 0x7F) || isTerminalSpace c

/-- Whether a character has the string terminator of eight-bit terminals among the bytes that encode
it, behind the first. -/
def hidesTerminator (c : Char) : Bool :=
  0x80 ≤ c.toNat &&
    (c.toNat % 0x40 = 0x1C || (0x800 ≤ c.toNat && c.toNat / 0x40 % 0x40 = 0x1C) ||
      (0x10000 ≤ c.toNat && c.toNat / 0x1000 % 0x40 = 0x1C))

/-- How far a sequence has come. -/
inductive ControlState where
  /-- There is none. -/
  | outside
  /-- The escape character. -/
  | escaped
  /-- An escape character and characters that await a last one. -/
  | designating
  /-- A control sequence, up to its last character, a letter or sign from `@` on. -/
  | sequence
  /-- The start of a device control string. -/
  | deviceStart
  /-- The parameters of a device control string. -/
  | deviceParameters
  /-- What comes between the parameters and the last character before a device control string. -/
  | deviceDesignating
  /-- A string for the terminal, up to its terminator. -/
  | string
  /-- A command to the system, such as a title, up to a bell. -/
  | systemCommand
  deriving DecidableEq, Repr

namespace ControlState

/-- Whether a code point lies between two bounds, both included. -/
private def within (low high point : Nat) : Bool := decide (low ≤ point ∧ point ≤ high)

/-- The state after the character behind an escape character. -/
def afterEscape (point : Nat) : ControlState :=
  if within 0x20 0x2F point then .designating
  else if point = 0x5B then .sequence
  else if point = 0x5D then .systemCommand
  else if point = 0x50 then .deviceStart
  else if point = 0x58 || within 0x5E 0x5F point then .string
  else if within 0x30 0x7E point then .outside
  else .escaped

/-- The state after a character before a device control string. Once a character comes out of order,
the string is passed over. -/
def afterDevice (state : ControlState) (point : Nat) : ControlState :=
  if within 0x40 0x7E point then .string
  else if within 0x20 0x2F point then .deviceDesignating
  else if state = .deviceDesignating && within 0x30 0x3F point then .string
  else if state = .deviceParameters && within 0x3C 0x3F point then .string
  else if within 0x30 0x3F point then .deviceParameters
  else state

/-- The state after one more character. -/
def next (state : ControlState) (c : Char) : ControlState :=
  if c = escape then .escaped
  else if cancels c then .outside
  else match state with
  | .outside => .outside
  | .escaped => afterEscape c.toNat
  | .designating => if within 0x30 0x7E c.toNat then .outside else .designating
  | .sequence => if within 0x40 0x7E c.toNat then .outside else .sequence
  | .deviceStart | .deviceParameters | .deviceDesignating => afterDevice state c.toNat
  | .string => if hidesTerminator c then .outside else .string
  | .systemCommand => if c = '\x07' then .outside else .systemCommand

/-- Whether a character is shown in a state. -/
def shows (state : ControlState) (c : Char) : Bool :=
  match state with
  | .outside => isPlain c
  | .escaped | .designating | .sequence => isTerminalSpace c
  | _ => false

end ControlState

/-- A text without controls, from a state on. White space within a sequence is shown, and so is what
comes behind it, as told by `showing`: up to the next control character, which takes the sequence up
again, or up to a character beyond ASCII, behind which the sequence is forgotten. -/
def withoutControlsFrom (state : ControlState) (showing : Bool) : List Char → List Char
  | [] => []
  | c :: rest =>
    if showing && isPlain c then
      c :: withoutControlsFrom (if 0x80 ≤ c.toNat then .outside else state) true rest
    else if state.shows c then c :: withoutControlsFrom state true rest
    else withoutControlsFrom (state.next c) false rest

/-- A text without controls. -/
def withoutControls (text : String) : String :=
  String.ofList (withoutControlsFrom .outside false text.toList)

/-- Outside of sequences plain characters are shown. -/
theorem withoutControlsFrom_outside_of_forall_isPlain (showing : Bool) {text : List Char}
    (h : ∀ c ∈ text, isPlain c = true) : withoutControlsFrom .outside showing text = text := by
  induction text generalizing showing with
  | nil => rfl
  | cons c rest ih =>
    have hc : isPlain c = true := h c (by simp)
    have hrest := fun showing => ih showing fun d hd => h d (by simp [hd])
    cases showing <;> simp [withoutControlsFrom, ControlState.shows, hc, hrest]

/-- A text of plain characters stays as it is. -/
theorem withoutControls_of_forall_isPlain {text : String}
    (h : ∀ c ∈ text.toList, isPlain c = true) : withoutControls text = text := by
  simp [withoutControls, withoutControlsFrom_outside_of_forall_isPlain false h]

example : withoutControls "a\x1b[31mb\x07c" = "abc" := by decide +kernel

example : withoutControls "\x1b]0;title\x07after" = "after" := by decide +kernel

example : withoutControls "\x1b[3\t1m" = "\t1m" := by decide +kernel

end TextShell.Text
