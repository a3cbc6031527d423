import TextShell.Text.CodePointSet

/-!
# Named sets of characters

Sets of characters that can be asked for by name. A name may be written with any case, and spaces,
underscores, hyphens and a leading `is` do not count.

* `looseName`: what is left of a name.
* `NamedSet.lookup`: the set of a name.
-/

namespace TextShell.Text

/-- A set of characters with its names. -/
structure NamedSet where
  /-- The names, without anything that does not count. -/
  names : List String
  /-- The characters. -/
  members : CodePointSet

/-- The set with a name, if there is one. -/
def NamedSet.lookup (sets : List NamedSet) (name : String) : Option CodePointSet :=
  (sets.find? (·.names.contains name)).map (·.members)

/-- Whether a character of a name does not count. -/
def isFiller (c : Char) : Bool := c = ' ' || c = '_' || c = '-' || 0x80 ≤ c.toNat

/-- The characters of a name that count, in lower case. -/
def tightened (name : List Char) : List Char :=
  (name.filter (!isFiller ·)).map Char.toLower

/-- A name without what does not count. The name `isc` keeps its beginning, for it would otherwise
be that of another set. -/
def looseName (name : List Char) : String :=
  match name with
  | i :: s :: rest =>
    if i.toLower = 'i' ∧ s.toLower = 's' then
      if tightened rest = ['c'] then "isc" else .ofList (tightened rest)
    else .ofList (tightened name)
  | _ => .ofList (tightened name)

example : looseName ['I', 's', '_', 'G', 'r', 'e', 'e', 'k'] = "greek" := by decide +kernel

end TextShell.Text
