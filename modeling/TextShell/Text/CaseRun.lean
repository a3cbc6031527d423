/-!
# Runs of case pairs

Case mappings of Unicode are mostly regular: neighbouring characters, or every second one, are
mapped to characters at the same distance. Such a run is kept as one entry of a table.
-/

namespace TextShell.Text

/-- A run of characters, every `stride`-th code point from `first` to `last`, that are mapped to the
characters at a constant distance. -/
structure CaseRun where
  /-- The first code point of the run. -/
  first : Nat
  /-- The last code point of the run. -/
  last : Nat
  /-- The step from one code point of the run to the next. -/
  stride : Nat
  /-- The distance from a code point to what it is mapped to. -/
  offset : Int

namespace CaseRun

/-- Whether a code point lies in the run. -/
def contains (run : CaseRun) (point : Nat) : Bool :=
  decide (run.first ≤ point ∧ point ≤ run.last ∧ (point - run.first) % run.stride = 0)

/-- What a code point of the run is mapped to. -/
def image (run : CaseRun) (point : Nat) : Nat := (point + run.offset).toNat

/-- The code points of the run, each with what it is mapped to. -/
def pairs (run : CaseRun) : List (Nat × Nat) :=
  (List.range ((run.last - run.first) / run.stride + 1)).map fun index =>
    let point := run.first + index * run.stride
    (point, run.image point)

end CaseRun

end TextShell.Text
