import TextShell.Text.GraphemeClass

/-!
# Grapheme clusters

Text cut into extended grapheme clusters, the units that a reader takes for one character, and
the effect of backspaces on them.

* `clusters_flatten`: the clusters of a text, put together, are the text.
* `eraseBackspaces?`: a text with its backspaces carried out.
-/

namespace TextShell.Text

/-- How far a cluster has come towards two pictographs joined into one. -/
inductive PictographJoin where
  /-- The cluster does not end in a pictograph. -/
  | absent
  /-- The cluster ends in a pictograph and its marks. -/
  | pictograph
  /-- The cluster ends in a pictograph, its marks and a joiner. -/
  | joined
  deriving DecidableEq, Repr

/-- How far a cluster has come towards two consonants written as one. -/
inductive ConjunctJoin where
  /-- The cluster does not end in a consonant of a conjunct. -/
  | absent
  /-- The cluster ends in a consonant and its marks. -/
  | consonant
  /-- The cluster ends in a consonant and its marks, with a linker among them. -/
  | linked
  deriving DecidableEq, Repr

/-- What the end of a cluster tells about the character that may follow. -/
structure ClusterEnd where
  /-- The class of the last character. -/
  last : GraphemeClass
  /-- Whether the cluster ends in a flag that lacks its second half. -/
  halfFlag : Bool
  /-- The state of a sequence of pictographs. -/
  pictographs : PictographJoin
  /-- The state of a conjunct of consonants. -/
  conjunct : ConjunctJoin

namespace ClusterEnd

/-- The pictograph state after one more character. -/
def nextPictographs (state : PictographJoin) (next : GraphemeClass) : PictographJoin :=
  match next, state with
  | .pictograph, _ => .pictograph
  | .extend, .pictograph => .pictograph
  | .joiner, .pictograph => .joined
  | _, _ => .absent

/-- The conjunct state after one more character. -/
def nextConjunct (state : ConjunctJoin) (c : Char) : ConjunctJoin :=
  if conjunctConsonants.contains c then .consonant
  else if state = .absent then .absent
  else if conjunctLinkers.contains c then .linked
  else if (GraphemeClass.of c = .extend ∧ c ≠ '\u200c') ∨ GraphemeClass.of c = .joiner then state
  else .absent

/-- The end of a cluster of one character. -/
def single (c : Char) : ClusterEnd where
  last := .of c
  halfFlag := GraphemeClass.of c = .regionalIndicator
  pictographs := nextPictographs .absent (.of c)
  conjunct := nextConjunct .absent c

/-- The end of a cluster after one more character. -/
def push (state : ClusterEnd) (c : Char) : ClusterEnd where
  last := .of c
  halfFlag := GraphemeClass.of c = .regionalIndicator && !state.halfFlag
  pictographs := nextPictographs state.pictographs (.of c)
  conjunct := nextConjunct state.conjunct c

/-- Whether a cluster with this end takes in the next character. -/
def takes (state : ClusterEnd) (c : Char) : Bool :=
  match state.last, GraphemeClass.of c with
  | .carriageReturn, .lineFeed => true
  | .carriageReturn, _ | .lineFeed, _ | .control, _ => false
  | _, .carriageReturn | _, .lineFeed | _, .control => false
  | _, .extend | _, .joiner | _, .spacingMark => true
  | .prependedMark, _ => true
  | .hangulLeading, .hangulLeading | .hangulLeading, .hangulVowel => true
  | .hangulLeading, .hangulOpen | .hangulLeading, .hangulClosed => true
  | .hangulOpen, .hangulVowel | .hangulOpen, .hangulTrailing => true
  | .hangulVowel, .hangulVowel | .hangulVowel, .hangulTrailing => true
  | .hangulClosed, .hangulTrailing | .hangulTrailing, .hangulTrailing => true
  | .regionalIndicator, .regionalIndicator => state.halfFlag
  | .joiner, .pictograph => state.pictographs = .joined
  | _, _ => state.conjunct = .linked && conjunctConsonants.contains c

end ClusterEnd

/-- The clusters of a text whose first cluster has begun: `current` holds its characters, the last
one first, and `state` its end. -/
def clustersFrom (state : ClusterEnd) (current : List Char) : List Char → List (List Char)
  | [] => [current.reverse]
  | c :: rest =>
    if state.takes c then clustersFrom (state.push c) (c :: current) rest
    else current.reverse :: clustersFrom (.single c) [c] rest

/-- The extended grapheme clusters of a text. -/
def clusters : List Char → List (List Char)
  | [] => []
  | c :: rest => clustersFrom (.single c) [c] rest

/-- The character that erases the cluster before it. -/
def backspace : Char := '\x08'

/-- The number of bytes of characters. -/
def byteCount : List Char → Nat
  | [] => 0
  | c :: chars => c.utf8Size + byteCount chars

/-- The number of bytes that a backspace removes for a cluster. The size of a cluster is kept in
one byte, so that of a cluster of 256 bytes or more only the remainder counts. -/
def reach (cluster : List Char) : Nat := byteCount cluster % 256

/-- A text, its last character first, without its last `count` bytes, unless this would leave a part
of a character. -/
def dropBytes? (count : Nat) : List Char → Option (List Char)
  | [] => if count = 0 then some [] else none
  | c :: rest =>
    if count = 0 then some (c :: rest)
    else if c.utf8Size ≤ count then dropBytes? (count - c.utf8Size) rest
    else none

/-- A text in which backspaces are being carried out. -/
structure Erasure where
  /-- The characters kept so far, the last one first. -/
  kept : List Char
  /-- How far a backspace reaches for each cluster that was taken in and not erased, the last one
  first. -/
  reaches : List Nat

namespace Erasure

/-- Nothing taken in yet. -/
def empty : Erasure where
  kept := []
  reaches := []

/-- One more cluster: a backspace removes what the last cluster reaches over, if there is one, and
any other cluster is kept. -/
def step? (state : Erasure) (cluster : List Char) : Option Erasure :=
  if cluster = [backspace] then
    match state.reaches with
    | [] => some state
    | count :: reaches => (dropBytes? count state.kept).map fun kept => { kept, reaches }
  else some ⟨cluster.reverse ++ state.kept, reach cluster :: state.reaches⟩

end Erasure

/-- A text with its backspaces carried out, unless one of them would leave a part of a character. -/
def eraseBackspaces? (text : List Char) : Option (List Char) :=
  ((clusters text).foldlM Erasure.step? .empty).map fun state => state.kept.reverse

/-- The clusters of a text already begun, put together, are what was begun and the rest. -/
theorem clustersFrom_flatten (state : ClusterEnd) (current rest : List Char) :
    (clustersFrom state current rest).flatten = current.reverse ++ rest := by
  induction rest generalizing state current with
  | nil => simp [clustersFrom]
  | cons c rest ih =>
    by_cases h : state.takes c = true
    · simp [clustersFrom, h, ih]
    · simp [clustersFrom, h, ih]

/-- No character is lost or added by cutting a text into clusters. -/
theorem clusters_flatten (text : List Char) : (clusters text).flatten = text := by
  cases text with
  | nil => rfl
  | cons c rest => simp [clusters, clustersFrom_flatten]

example : eraseBackspaces? ['a', 'e', '\u0301', '\x08', 'b'] = some ['a', 'b'] := by
  decide +kernel

example : eraseBackspaces? ['\x08', 'a'] = some ['a'] := by decide +kernel

-- a cluster of 257 bytes counts as one byte, and its last character has two
example : eraseBackspaces? ('€' :: List.replicate 127 '\u0301' ++ ['\x08']) = none := by
  decide +kernel

end TextShell.Text
