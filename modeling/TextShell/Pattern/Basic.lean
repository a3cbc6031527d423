import TextShell.Pattern.Members

/-!
# Patterns

What a pattern means, free of how it is written: single steps over characters and conditions on the
place, put together in order, by choice and by repetition. A pattern is built over any kinds of steps
and conditions, so that both can be replaced by what they amount to on a given text.

* `Expression.meaning`: what an expression means.
-/

namespace TextShell

/-- A pattern over steps and conditions of the given kinds. -/
inductive Pattern (Step Condition : Type) where
  /-- Nothing. -/
  | nothing
  /-- A step over one character. -/
  | step (step : Step)
  /-- A condition on the place. -/
  | condition (condition : Condition)
  /-- One part after another. -/
  | sequence (first second : Pattern Step Condition)
  /-- One of two parts. -/
  | choice (first second : Pattern Step Condition)
  /-- A part from a least to a greatest number of times, if there is one. -/
  | repetition (least : Nat) (greatest? : Option Nat) (body : Pattern Step Condition)
  /-- A part of which what it matches is kept. -/
  | kept (body : Pattern Step Condition)
  deriving DecidableEq, Repr

namespace Pattern

/-- The same pattern with other steps and conditions. -/
def map {Step Condition NewStep NewCondition : Type} (onStep : Step → NewStep)
    (onCondition : Condition → NewCondition) : Pattern Step Condition → Pattern NewStep NewCondition
  | nothing => nothing
  | step one => step (onStep one)
  | condition one => condition (onCondition one)
  | sequence first second => sequence (first.map onStep onCondition) (second.map onStep onCondition)
  | choice first second => choice (first.map onStep onCondition) (second.map onStep onCondition)
  | repetition least greatest? body => repetition least greatest? (body.map onStep onCondition)
  | kept body => kept (body.map onStep onCondition)

/-- A condition on a place under the modes where it stands. -/
structure Look where
  /-- The condition. -/
  anchor : Anchor
  /-- The modes. -/
  modes : Modes
  deriving DecidableEq, Repr

/-- A pattern for texts. -/
abbrev TextPattern := Pattern Text.CodePointSet Look

/-- What a single member means outside of sets. -/
def Member.meaning (modes : Modes) : Member → Except Fault TextPattern
  | letter single => do
    let c ← located single.span (single.alone modes)
    -- without the properties of characters beyond ASCII, those are like themselves only
    let alike := if 0x80 ≤ c.toNat && !modes.unicode then .single c.toNat
      else modes.fold (.single c.toNat)
    .ok (.step alike)
  | other => do
    let members ← other.members modes
    .ok (.step members)

/-- What the dot means. -/
def Modes.dot (modes : Modes) (span : Span) : Except Fault TextPattern :=
  if modes.unicode then .ok (.step modes.lineEnds.compl) else .error (fault .notText span)

mutual

/-- What an expression means under the modes before it, and the modes behind it. -/
def Expression.meaningUnder (modes : Modes) : Expression → Except Fault (TextPattern × Modes)
  | empty _ => .ok (.nothing, modes)
  | flags _ items => .ok (.nothing, modes.set items)
  | member part => do
    let pattern ← part.meaning modes
    .ok (pattern, modes)
  | dot span => do
    let pattern ← modes.dot span
    .ok (pattern, modes)
  | anchor _ kind => .ok (.condition ⟨kind, modes⟩, modes)
  | bracketed span negated set => do
    let members ← (SetExpression.bracketed span negated set).members modes
    .ok (.step members, modes)
  | repetition _ least greatest? body => do
    let (pattern, after) ← body.meaningUnder modes
    .ok (.repetition least greatest? pattern, after)
  | group _ items keeps body => do
    -- flags in a group end with it
    let (pattern, _) ← body.meaningUnder (modes.set items)
    .ok (if keeps then .kept pattern else pattern, modes)
  | alternation _ branches => Expression.meaningOfBranches modes branches
  | sequence _ parts => Expression.meaningOfParts modes parts

/-- What parts one after the other mean. -/
def Expression.meaningOfParts (modes : Modes) :
    List Expression → Except Fault (TextPattern × Modes)
  | [] => .ok (.nothing, modes)
  | [part] => part.meaningUnder modes
  | part :: parts => do
    let (first, between) ← part.meaningUnder modes
    let (second, after) ← Expression.meaningOfParts between parts
    .ok (.sequence first second, after)

/-- What branches mean of which one is to match. Flags in a branch hold for those behind it, too. -/
def Expression.meaningOfBranches (modes : Modes) :
    List Expression → Except Fault (TextPattern × Modes)
  | [] => .ok (.nothing, modes)
  | [branch] => branch.meaningUnder modes
  | branch :: branches => do
    let (first, between) ← branch.meaningUnder modes
    let (second, after) ← Expression.meaningOfBranches between branches
    .ok (.choice first second, after)

end

/-- What an expression means. -/
def Expression.meaning (expression : Expression) : Except Fault TextPattern := do
  let (pattern, _) ← expression.meaningUnder .start
  .ok pattern

end Pattern

end TextShell
