import TextShell.Pattern.Escape
import TextShell.Pattern.Modes

/-!
# Members of sets

Which characters a set of characters as it is written holds, under the modes that its place in the
pattern has.

* `SetExpression.members`: the characters of a set.
-/

namespace TextShell.Pattern

open Text

/-- The names of the property that is the script of a character or a script that it is used with. -/
def scriptNames : List String := ["sc", "script", "scx", "scriptextensions"]

/-- The names of the property that is the general category of a character. -/
def categoryNames : List String := ["gc", "generalcategory"]

/-- Short names of categories that are also names of other properties. -/
def ambiguousNames : List String := ["cf", "sc", "lc"]

/-- The characters with a property, by a name without what does not count. -/
def namedMembers (name : String) : Except Cause CodePointSet :=
  let property? := if ambiguousNames.contains name then none else NamedSet.lookup binaryProperties name
  match property? with
  | some members => .ok members
  | none =>
    if otherProperties.contains name && !ambiguousNames.contains name then .error .unknownProperty
    else if (vacantCategories ++ vacantScripts).contains name then .error .unknownPropertyValue
    else match (NamedSet.lookup generalCategories name).or (NamedSet.lookup scripts name) with
      | some members => .ok members
      | none => .error .unknownProperty

/-- The characters with a value of a property, by names without what does not count. -/
def valuedMembers (name value : String) : Except Cause CodePointSet :=
  let members? :=
    if categoryNames.contains name then NamedSet.lookup generalCategories value
    else if scriptNames.contains name then NamedSet.lookup scripts value
    else none
  match members? with
  | some members => .ok members
  | none =>
    if (NamedSet.lookup binaryProperties name).isSome || otherProperties.contains name then
      .error .unknownPropertyValue
    else .error .unknownProperty

/-- The characters with a property. -/
def PropertyQuery.members : PropertyQuery → Except Cause CodePointSet
  | named name => namedMembers (looseName name)
  | valued name value => valuedMembers (looseName name) (looseName value)

/-- A result with the place in the text where it is wrong. -/
def located {α : Type} (span : Span) : Except Cause α → Except Fault α
  | .ok result => .ok result
  | .error cause => .error (fault cause span)

/-- A set or all characters outside of it. Where only ASCII is meant, what is outside would not be
text. -/
def Modes.negateIf (modes : Modes) (negated : Bool) (set : CodePointSet) :
    Except Cause CodePointSet :=
  if !negated then .ok set
  else if modes.unicode then .ok set.compl
  else .error .notText

/-- The character that a letter stands for on its own. -/
def Letter.alone (modes : Modes) (letter : Letter) : Except Cause Char :=
  if !modes.unicode && letter.isByte && 0x80 ≤ letter.char.toNat then .error .notText
  else .ok letter.char

/-- The code point that a letter stands for in a set. -/
def Letter.point (modes : Modes) (letter : Letter) : Except Cause Nat := do
  let c ← letter.alone modes
  if !modes.unicode && 0x80 ≤ c.toNat then .error .beyondAscii else .ok c.toNat

/-- The characters with a property, or all others. -/
def Modes.property (modes : Modes) (negated : Bool) (query : PropertyQuery) :
    Except Cause CodePointSet := do
  if modes.unicode then
    let members ← query.members
    modes.negateIf negated (modes.fold members)
  else .error .beyondAscii

/-- The characters that a member stands for. -/
def Member.members (modes : Modes) : Member → Except Fault CodePointSet
  | letter single => do
    let point ← located single.span (single.point modes)
    .ok (.single point)
  | shorthand span negated kind => located span (modes.negateIf negated (modes.shorthand kind))
  | property span negated query => located span (modes.property negated query)

/-- Two sets put together. -/
def SetOperation.apply : SetOperation → CodePointSet → CodePointSet → CodePointSet
  | inter => .inter
  | diff => .diff
  | symmDiff => .symmDiff

mutual

/-- The characters of a set. Characters that are like a member are added before other characters are
meant. -/
def SetExpression.members (modes : Modes) : SetExpression → Except Fault CodePointSet
  | empty _ => .ok .empty
  | member part => part.members modes
  | range _ first last => do
    let low ← located first.span (first.point modes)
    let high ← located last.span (last.point modes)
    .ok (.range low high)
  | ascii span negated kind => located span (modes.negateIf negated (modes.fold kind.members))
  | bracketed span negated set => do
    let members ← set.members modes
    located span (modes.negateIf negated (modes.fold members))
  | union _ parts => SetExpression.allMembers modes parts
  | combined _ operation left right => do
    let leftMembers ← left.members modes
    let rightMembers ← right.members modes
    .ok (operation.apply (modes.fold leftMembers) (modes.fold rightMembers))

/-- The characters of several sets. -/
def SetExpression.allMembers (modes : Modes) : List SetExpression → Except Fault CodePointSet
  | [] => .ok .empty
  | part :: parts => do
    let members ← part.members modes
    let others ← SetExpression.allMembers modes parts
    .ok (members.union others)

end

end TextShell.Pattern
