/-!
# Sets of code points

A set of code points is kept as the increasing list of the code points at which membership
changes: outside before the first, inside from the first up to the second, and so on. Character
properties of a few hundred ranges stay short and are looked up by one walk over the list, and two
sets are put together by one walk over both lists.

* `CodePointSet.inside_cons_of_lt`, `CodePointSet.inside_cons_of_le`: the steps of a walk over one
  list.
* `CodePointSet.contains_combine`: a combined set holds what the combination says.
-/

namespace TextShell.Text

/-- A set of code points, given by the code points where membership changes. -/
structure CodePointSet where
  /-- The places of change, in increasing order; the first enters the set. -/
  changes : List Nat
  deriving DecidableEq, Repr

namespace CodePointSet

/-- Whether a code point lies in the set with the given places of change. -/
def inside : List Nat → Nat → Bool
  | [], _ => false
  | change :: changes, point => if point < change then false else !inside changes point

/-- Whether the set holds the character. -/
def contains (set : CodePointSet) (c : Char) : Bool :=
  inside set.changes c.toNat

/-- The set without members. -/
def empty : CodePointSet := ⟨[]⟩

/-- The set of all code points. -/
def all : CodePointSet := ⟨[0]⟩

/-- The set of the code points between two bounds, both included. -/
def range (first last : Nat) : CodePointSet := ⟨if first ≤ last then [first, last + 1] else []⟩

/-- The set of one code point. -/
def single (point : Nat) : CodePointSet := range point point

/-- The ranges of a set, each with its two ends, both of them in it. -/
def rangesFrom : List Nat → List (Nat × Nat)
  | [] => []
  | [first] => [(first, 0x10FFFF)]
  | first :: next :: changes => (first, next - 1) :: rangesFrom changes

/-- The ranges of a set, in increasing order. -/
def ranges (set : CodePointSet) : List (Nat × Nat) := rangesFrom set.changes

/-- Changes with one more in front, if there is one at the place. -/
def addChange (place : Nat) (before after : Bool) (changes : List Nat) : List Nat :=
  if before = after then changes else place :: changes

/-- The places where a combination of two sets changes, from a place on where the sets hold as
given. -/
def combineFrom (op : Bool → Bool → Bool) (left right : Bool) : List Nat → List Nat → List Nat
  | [], [] => []
  | x :: xs, [] =>
    addChange x (op left right) (op (!left) right) (combineFrom op (!left) right xs [])
  | [], y :: ys =>
    addChange y (op left right) (op left (!right)) (combineFrom op left (!right) [] ys)
  | x :: xs, y :: ys =>
    if x < y then
      addChange x (op left right) (op (!left) right) (combineFrom op (!left) right xs (y :: ys))
    else if y < x then
      addChange y (op left right) (op left (!right)) (combineFrom op left (!right) (x :: xs) ys)
    else
      addChange x (op left right) (op (!left) (!right)) (combineFrom op (!left) (!right) xs ys)
termination_by xs ys => xs.length + ys.length

/-- The code points for which a combination of membership in two sets holds. It must not hold where
neither set does. -/
def combine (op : Bool → Bool → Bool) (left right : CodePointSet) : CodePointSet :=
  ⟨combineFrom op false false left.changes right.changes⟩

/-- The code points in one of two sets or in both. -/
def union (left right : CodePointSet) : CodePointSet := combine or left right

/-- The code points in both of two sets. -/
def inter (left right : CodePointSet) : CodePointSet := combine and left right

/-- The code points in the first of two sets and not in the second. -/
def diff (left right : CodePointSet) : CodePointSet := combine (fun a b => a && !b) left right

/-- The code points in exactly one of two sets. -/
def symmDiff (left right : CodePointSet) : CodePointSet := combine xor left right

/-- The code points that are not in a set. -/
def compl (set : CodePointSet) : CodePointSet := diff all set

/-- The set of the given code points. -/
def ofPoints (points : List Nat) : CodePointSet :=
  points.foldl (fun set point => union set (single point)) empty

/-- The code points in one of the given sets. -/
def unions (sets : List CodePointSet) : CodePointSet := sets.foldl union empty

/-- Whether the places of change are in order. -/
def Sorted (set : CodePointSet) : Prop := set.changes.Pairwise (· < ·)

/-- Before the first change nothing is inside. -/
theorem inside_cons_of_lt {change : Nat} {changes : List Nat} {point : Nat}
    (h : point < change) : inside (change :: changes) point = false := by
  simp [inside, h]

/-- From the first change on, the later changes count the other way round. -/
theorem inside_cons_of_le {change : Nat} {changes : List Nat} {point : Nat}
    (h : change ≤ point) : inside (change :: changes) point = !inside changes point := by
  simp [inside, Nat.not_lt.2 h]

/-- Before all changes nothing is inside. -/
theorem inside_of_forall_lt {changes : List Nat} {point : Nat}
    (h : ∀ change ∈ changes, point < change) : inside changes point = false := by
  cases changes with
  | nil => rfl
  | cons change changes => exact inside_cons_of_lt (h change (by simp))

/-- Where the first change comes later, all do. -/
theorem forall_lt_of_lt_head {change : Nat} {changes : List Nat} {point : Nat}
    (h : (change :: changes).Pairwise (· < ·)) (hlt : point < change) :
    ∀ other ∈ change :: changes, point < other := by
  intro other hmem
  rcases List.mem_cons.1 hmem with rfl | hmem
  · exact hlt
  · exact Nat.lt_trans hlt ((List.pairwise_cons.1 h).1 other hmem)

/-- A combination changes only where one of the two sets does. -/
theorem mem_or_mem_of_mem_combineFrom {op : Bool → Bool → Bool} {left right : Bool}
    {xs ys : List Nat} {point : Nat} (h : point ∈ combineFrom op left right xs ys) :
    point ∈ xs ∨ point ∈ ys := by
  fun_induction combineFrom op left right xs ys <;> grind [addChange]

/-- Before all changes of both sets a combination does not change. -/
theorem inside_combineFrom_of_forall_lt {op : Bool → Bool → Bool} {left right : Bool}
    {xs ys : List Nat} {point : Nat} (hxs : ∀ change ∈ xs, point < change)
    (hys : ∀ change ∈ ys, point < change) :
    inside (combineFrom op left right xs ys) point = false :=
  inside_of_forall_lt fun change hmem =>
    (mem_or_mem_of_mem_combineFrom hmem).elim (hxs change) (hys change)

/-- From a place on, a change there turns what held before into what holds after. -/
theorem inside_addChange_of_le {place : Nat} {before after : Bool} {changes : List Nat}
    {point : Nat} (h : place ≤ point) :
    (inside (addChange place before after changes) point ^^ before) =
      (inside changes point ^^ after) := by
  by_cases heq : before = after
  · simp [addChange, heq]
  · rw [addChange, if_neg heq, inside_cons_of_le h, Bool.eq_not_of_ne heq]
    simp

/-- Before a place where a change may be added nothing is inside if nothing was. -/
theorem inside_addChange_of_lt {place : Nat} {before after : Bool} {changes : List Nat}
    {point : Nat} (h : point < place) (hchanges : inside changes point = false) :
    inside (addChange place before after changes) point = false := by
  by_cases heq : before = after
  · simp [addChange, heq, hchanges]
  · rw [addChange, if_neg heq, inside_cons_of_lt h]

/-- What a combined walk says about a code point, seen from a place where the sets hold as given. -/
theorem inside_combineFrom (op : Bool → Bool → Bool) (left right : Bool) {xs ys : List Nat}
    (hxs : xs.Pairwise (· < ·)) (hys : ys.Pairwise (· < ·)) (point : Nat) :
    (inside (combineFrom op left right xs ys) point ^^ op left right) =
      op (inside xs point ^^ left) (inside ys point ^^ right) := by
  have later {xs ys left right} (hxs : ∀ change ∈ xs, point < change)
      (hys : ∀ change ∈ ys, point < change) :
      inside (combineFrom op left right xs ys) point = false :=
    inside_combineFrom_of_forall_lt hxs hys
  fun_induction combineFrom op left right xs ys with
  | case1 => simp [inside]
  | case2 left right x xs ih =>
    rcases Nat.lt_or_ge point x with hlt | hle
    · have hafter := forall_lt_of_lt_head hxs hlt
      rw [inside_addChange_of_lt hlt (later (fun c h => hafter c (by simp [h])) (by simp)),
        inside_cons_of_lt hlt]
      simp [inside]
    · rw [inside_addChange_of_le hle, ih hxs.of_cons hys, inside_cons_of_le hle]
      simp
  | case3 left right y ys ih =>
    rcases Nat.lt_or_ge point y with hlt | hle
    · have hafter := forall_lt_of_lt_head hys hlt
      rw [inside_addChange_of_lt hlt (later (by simp) (fun c h => hafter c (by simp [h]))),
        inside_cons_of_lt hlt]
      simp [inside]
    · rw [inside_addChange_of_le hle, ih hxs hys.of_cons, inside_cons_of_le hle]
      simp
  | case4 left right x xs y ys hxy ih =>
    rcases Nat.lt_or_ge point x with hlt | hle
    · have hafter := forall_lt_of_lt_head hxs hlt
      have hother := Nat.lt_trans hlt hxy
      rw [inside_addChange_of_lt hlt (later (fun c h => hafter c (by simp [h]))
        (forall_lt_of_lt_head hys hother)), inside_cons_of_lt hlt, inside_cons_of_lt hother]
      simp
    · rw [inside_addChange_of_le hle, ih hxs.of_cons hys, inside_cons_of_le hle]
      simp
  | case5 left right x xs y ys _ hyx ih =>
    rcases Nat.lt_or_ge point y with hlt | hle
    · have hafter := forall_lt_of_lt_head hys hlt
      have hother := Nat.lt_trans hlt hyx
      rw [inside_addChange_of_lt hlt (later (forall_lt_of_lt_head hxs hother)
        (fun c h => hafter c (by simp [h]))), inside_cons_of_lt hlt, inside_cons_of_lt hother]
      simp
    · rw [inside_addChange_of_le hle, ih hxs hys.of_cons, inside_cons_of_le hle]
      simp
  | case6 left right x xs y ys hxy hyx ih =>
    obtain rfl : x = y := by omega
    rcases Nat.lt_or_ge point x with hlt | hle
    · have hleft := forall_lt_of_lt_head hxs hlt
      have hright := forall_lt_of_lt_head hys hlt
      rw [inside_addChange_of_lt hlt (later (fun c h => hleft c (by simp [h]))
        (fun c h => hright c (by simp [h]))), inside_cons_of_lt hlt, inside_cons_of_lt hlt]
      simp
    · rw [inside_addChange_of_le hle, ih hxs.of_cons hys.of_cons, inside_cons_of_le hle,
        inside_cons_of_le hle]
      simp

/-- A combined set holds what the combination says about membership in the two sets. -/
theorem contains_combine {op : Bool → Bool → Bool} (hop : op false false = false)
    {left right : CodePointSet} (hleft : left.Sorted) (hright : right.Sorted) (c : Char) :
    (combine op left right).contains c = op (left.contains c) (right.contains c) := by
  simpa [hop, contains, combine] using inside_combineFrom op false false hleft hright c.toNat

example : union (range 0x61 0x7A) (single 0x7B) = range 0x61 0x7B := by decide +kernel

example : (compl (range 0x61 0x7A)).ranges = [(0, 0x60), (0x7B, 0x10FFFF)] := by decide +kernel

end CodePointSet

end TextShell.Text
