import TextShell.Proofs.FileSystem.TextFiles
import TextShell.Proofs.Path.Components

/-!
# Straight paths

An absolute path without double dots goes straight down from the root. In a tree without links its
components, the last one first, are the location that it leads to, and following it looks at the
entries on the way there and at nothing else.

* `Path.location`: the location of a straight path.
* `FileSystem.location_of_locate`: a path that leads anywhere leads to its location.
* `FileSystem.locate_congr`: trees with the same entries on the way are the same to a path.
-/

namespace TextShell

namespace Path

/-- The location that a straight path leads to. -/
def location (path : String) : Location := (components path).reverse

/-- A path that goes straight down from the root. -/
structure IsStraight (path : String) : Prop where
  /-- The path starts at the root. -/
  isAbsolute : isAbsolute path = true
  /-- The path never goes up. -/
  no_up : ".." ∉ components path

/-- The location of a path ends in its last name. -/
theorem EndsIn.location_eq {path : String} {above : List String} {name : String}
    (h : EndsIn path above name) :
    location path = name :: (above.filter (· ≠ ".")).reverse := by
  rw [location, h.components_eq, List.reverse_concat]

/-- The path above a straight path is straight, and its location is the directory of the other. -/
theorem IsStraight.exists_parent? {path : String} {above : List String} {name : String}
    (hpath : IsStraight path) (hends : EndsIn path above name) :
    ∃ parent, parent? path = some parent ∧ IsStraight parent ∧
      location path = name :: location parent := by
  obtain ⟨parent, hparent, habsolute, hcomponents⟩ := hends.exists_parent?
  have hup : ".." ∉ components parent := by
    have hno := hpath.no_up
    rw [hends.components_eq, ← hcomponents] at hno
    exact fun hmem => hno (List.mem_append_left _ hmem)
  refine ⟨parent, hparent, ⟨habsolute.trans hpath.isAbsolute, hup⟩, ?_⟩
  rw [hends.location_eq, location, hcomponents]

/-- A name that is looked up continues a straight path to a straight one. -/
theorem IsStraight.join {directory path name : String} (h : IsStraight directory)
    (hends : EndsIn path [] name) :
    IsStraight (join directory path) ∧
      location (join directory path) = name :: location directory := by
  have hcomponents : components (Path.join directory path) = components directory ++ [name] := by
    rw [components_join, hends.components_eq]
    rfl
  refine ⟨⟨isAbsolute_join path h.isAbsolute, ?_⟩, ?_⟩
  · rw [hcomponents]
    intro hmem
    obtain hmem | hmem := List.mem_append.mp hmem
    · exact h.no_up hmem
    · exact hends.ne_up (List.mem_singleton.mp hmem).symm
  · rw [location, hcomponents, List.reverse_concat, location]

end Path

/-- The location of a spot, whether something is there or not. -/
def Spot.location : Spot → Location
  | .found location => location
  | .vacant directory name => name :: directory

namespace FileSystem

variable {fs other : FileSystem} {purpose : Purpose} {path : String}

/-- Without links and double dots, names lead down along the other names. -/
theorem Walks.location_eq {links : Nat} {here : Location} {names : List String} {slash : Bool}
    {spot : Spot} (hfree : fs.IsLinkFree) (hup : ".." ∉ names)
    (h : Walks fs purpose links here names slash spot) :
    spot.location = (names.filter (· ≠ ".")).reverse ++ here := by
  induction h with
  | arrive => rfl
  | stay _ ih => simpa using ih fun hmem => hup (List.mem_cons_of_mem _ hmem)
  | up => exact absurd (List.mem_cons_self ..) hup
  | vacant hname | file hname => simp [Spot.location, hname.ne_dot]
  | enter hname _ _ _ ih =>
    rw [ih fun hmem => hup (List.mem_cons_of_mem _ hmem)]
    simp [hname.ne_dot]
  | link _ hlink | follow _ hlink => exact absurd hlink (hfree _ _)

/-- Without links and double dots, names are followed by looking at the entries on the way down. -/
theorem descend_congr {follow onward : Location → List String → Bool → Except FileFault Spot}
    {slash : Bool} {here : Location} {names : List String} (hfree : fs.IsLinkFree)
    (hup : ".." ∉ names)
    (h : ∀ location, location <:+ (names.filter (· ≠ ".")).reverse ++ here →
      other.lookup location = fs.lookup location) :
    other.descend purpose onward slash here names = fs.descend purpose follow slash here names := by
  induction names generalizing here with
  | nil => rfl
  | cons name rest ih =>
    have hrest : ".." ∉ rest := fun hmem => hup (List.mem_cons_of_mem _ hmem)
    have hname : name ≠ ".." := fun heq => hup (heq ▸ List.mem_cons_self ..)
    simp only [descend]
    by_cases hdot : name = "."
    · rw [if_pos hdot, if_pos hdot]
      exact ih hrest (by simpa [hdot] using h)
    · rw [if_neg hdot, if_neg hdot, if_neg hname, if_neg hname]
      have hway : ((name :: rest).filter (· ≠ ".")).reverse ++ here =
          (rest.filter (· ≠ ".")).reverse ++ (name :: here) := by
        simp [hdot]
      rw [hway] at h
      -- the one entry that decides how to go on is the same
      rw [h (name :: here) (List.suffix_append _ _)]
      cases hlookup : fs.lookup (name :: here) with
      | none => rfl
      | some entry =>
        cases entry with
        | directory => simp only [ih hrest h]
        | file => rfl
        | link target => exact absurd hlookup (hfree _ _)

/-- A straight path leads nowhere but to its location. -/
theorem location_of_locate {spot : Spot} (hfree : fs.IsLinkFree) (hpath : Path.IsStraight path)
    (h : fs.locate purpose path = .ok spot) : spot.location = Path.location path := by
  obtain ⟨-, hwalks⟩ := locate_eq_ok_iff.mp h
  rw [pathStart, if_pos hpath.isAbsolute] at hwalks
  have hlocation := hwalks.location_eq hfree (mt Path.up_mem_components.mpr hpath.no_up)
  rw [hlocation, List.append_nil]
  rfl

/-- Where the entries on the way are the same, a straight path leads the same way. -/
theorem locate_congr (hfree : fs.IsLinkFree) (hpath : Path.IsStraight path)
    (h : ∀ location, location <:+ Path.location path →
      other.lookup location = fs.lookup location) :
    other.locate purpose path = fs.locate purpose path := by
  have hwalk : other.walk purpose linkLimit [] (Path.names path) (Path.endsInSlash path) =
      fs.walk purpose linkLimit [] (Path.names path) (Path.endsInSlash path) := by
    apply descend_congr hfree (mt Path.up_mem_components.mpr hpath.no_up)
    rw [List.append_nil]
    exact h
  unfold locate
  rw [if_pos hpath.isAbsolute, if_pos hpath.isAbsolute, hwalk]

/-- With a temporary file, the file at the location of a straight path is replaced. -/
theorem IsLinkFree.replaceFile_eq {above : List String} {name : String}
    {made : FileSystem × Location} (hfree : fs.IsLinkFree) (hpath : Path.IsStraight path)
    (hends : Path.EndsIn path above name) (hfile : fs.isFile path = true)
    (hmake : fs.makeTemporary ((Path.parent? path).getD ".") = .ok made) (content : ByteArray) :
    fs.replaceFile path content = (fs.put (Path.location path) (.file content), .ok ()) := by
  obtain ⟨directory, old, hlocate, -, hreplace⟩ :=
    hfree.exists_replaceFile_eq hends hfile hmake content
  rw [hreplace, ← location_of_locate hfree hpath hlocate]
  rfl

end FileSystem

end TextShell
