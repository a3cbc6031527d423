import TextShell.Proofs.FileSystem.Footprint

/-!
# Trails

The places at which a path makes its way: each name along it is looked up somewhere, links included,
and the path leads to one of these places. What is in all other places makes no difference to it.

* `FileSystem.trail`: the places of a path, computed along with the walk.
* `FileSystem.location_mem_trail`: the spot that a path leads to is one of them.
* `FileSystem.EqualBut`: two trees that are equal except for some places, which are out of sight of
  paths that keep off them (`FileSystem.EqualBut.locate_eq`).
-/

namespace TextShell.FileSystem

/-! ### Places along a path -/

instance {purpose : Purpose} {slash : Bool} {here : Location} {name : String}
    {rest : List String} : Decidable (IsLookedUp purpose slash here name rest) :=
  decidable_of_iff
    ((name ≠ "." ∧ name ≠ ".." ∧ ¬ nameLimit < name.utf8ByteSize) ∧
      ¬ (purpose = .creation ∧ rest = [] ∧ slash = true) ∧
      ¬ (purpose = .location ∧ pathLimit ≤ (Location.path (name :: here)).utf8ByteSize))
    ⟨fun ⟨⟨hdot, hup, hshort⟩, hslash, hlocation⟩ => ⟨⟨hdot, hup, hshort⟩, hslash, hlocation⟩,
      fun ⟨⟨hdot, hup, hshort⟩, hslash, hlocation⟩ => ⟨⟨hdot, hup, hshort⟩, hslash, hlocation⟩⟩

instance {purpose : Purpose} {path : String} : Decidable (IsFollowable purpose path) :=
  decidable_of_iff
    ('\x00' ∉ path.toList ∧ path ≠ "" ∧
      ¬ (purpose ≠ .location ∧ pathLimit ≤ path.utf8ByteSize))
    ⟨fun ⟨hzero, hempty, hshort⟩ => ⟨hzero, hempty, hshort⟩,
      fun ⟨hzero, hempty, hshort⟩ => ⟨hzero, hempty, hshort⟩⟩

/-- The places at which names are looked up from a directory on, and the one at which there are no
more. `follow` gives the places that come after a link. -/
def descendTrail (fs : FileSystem) (purpose : Purpose)
    (follow : Location → List String → Bool → List Location) (slash : Bool) (here : Location) :
    List String → List Location
  | [] => [here]
  | name :: rest =>
    if name = "." then fs.descendTrail purpose follow slash here rest
    else if name = ".." then fs.descendTrail purpose follow slash here.tail rest
    else if IsLookedUp purpose slash here name rest then
      (name :: here) ::
        match fs.lookup (name :: here) with
        | some .directory => fs.descendTrail purpose follow slash (name :: here) rest
        | some (.link target) =>
          -- the places of the link's own path belong to it only where the link is followed
          if purpose = .entry ∧ rest = [] ∧ slash = false then []
          else follow (linkStart here target) (Path.names target ++ rest)
            (linkSlash rest slash target)
        | _ => []
    else []

/-- The places at which names are looked up through at most the given number of links. -/
def walkTrail (fs : FileSystem) (purpose : Purpose) :
    Nat → Location → List String → Bool → List Location
  | 0, here, names, slash => fs.descendTrail purpose (fun _ _ _ => []) slash here names
  | links + 1, here, names, slash =>
    fs.descendTrail purpose (fs.walkTrail purpose links) slash here names

/-- The places at which a path makes its way. -/
def trail (fs : FileSystem) (purpose : Purpose) (path : String) : List Location :=
  if IsFollowable purpose path then
    fs.walkTrail purpose linkLimit (fs.pathStart path) (Path.names path) (Path.endsInSlash path)
  else []

section Places

variable {fs : FileSystem} {purpose : Purpose} {links : Nat} {here : Location}
  {names rest : List String} {name path : String} {slash : Bool} {spot : Spot}

/-- The places that come after a link. -/
private def onwardTrail (fs : FileSystem) (purpose : Purpose) :
    Nat → Location → List String → Bool → List Location
  | 0 => fun _ _ _ => []
  | links + 1 => fs.walkTrail purpose links

private theorem walkTrail_eq_descendTrail (fs : FileSystem) (purpose : Purpose) (links : Nat)
    (here : Location) (names : List String) (slash : Bool) :
    fs.walkTrail purpose links here names slash =
      fs.descendTrail purpose (fs.onwardTrail purpose links) slash here names := by
  cases links <;> rfl

private theorem descendTrail_of_isLookedUp
    (follow : Location → List String → Bool → List Location)
    (h : IsLookedUp purpose slash here name rest) :
    fs.descendTrail purpose follow slash here (name :: rest) =
      (name :: here) ::
        match fs.lookup (name :: here) with
        | some .directory => fs.descendTrail purpose follow slash (name :: here) rest
        | some (.link target) =>
          if purpose = .entry ∧ rest = [] ∧ slash = false then []
          else follow (linkStart here target) (Path.names target ++ rest)
            (linkSlash rest slash target)
        | _ => [] := by
  rw [descendTrail, if_neg h.ne_dot, if_neg h.ne_up, if_pos h]

/-- The spot that names lead to is one of their places. -/
theorem Walks.location_mem_walkTrail (h : Walks fs purpose links here names slash spot) :
    spot.location ∈ fs.walkTrail purpose links here names slash := by
  induction h with
  | arrive =>
    rw [walkTrail_eq_descendTrail, descendTrail]
    exact List.mem_singleton_self _
  | stay _ ih =>
    rw [walkTrail_eq_descendTrail] at ih ⊢
    rwa [descendTrail, if_pos rfl]
  | up _ ih =>
    rw [walkTrail_eq_descendTrail] at ih ⊢
    rwa [descendTrail, if_neg (by decide), if_pos rfl]
  | vacant hname | file hname | link hname =>
    rw [walkTrail_eq_descendTrail, descendTrail_of_isLookedUp _ hname]
    exact List.mem_cons_self
  | enter hname hlookup _ _ ih =>
    rw [walkTrail_eq_descendTrail] at ih ⊢
    rw [descendTrail_of_isLookedUp _ hname, hlookup]
    exact List.mem_cons_of_mem _ ih
  | follow hname hlookup hlast _ ih =>
    rw [walkTrail_eq_descendTrail, descendTrail_of_isLookedUp _ hname, hlookup]
    refine List.mem_cons_of_mem _ ?_
    dsimp only
    rw [if_neg hlast]
    exact ih

theorem location_mem_trail (h : fs.locate purpose path = .ok spot) :
    spot.location ∈ fs.trail purpose path := by
  obtain ⟨hpath, hwalks⟩ := locate_eq_ok_iff.mp h
  rw [trail, if_pos hpath]
  exact hwalks.location_mem_walkTrail

/-- A name that cannot be looked up is a fault, whatever the files are. -/
theorem exists_fault_of_not_isLookedUp (hdot : name ≠ ".") (hup : name ≠ "..")
    (hname : ¬ IsLookedUp purpose slash here name rest) :
    ∃ fault, ∀ (fs : FileSystem) (follow : Location → List String → Bool → Except FileFault Spot),
      fs.descend purpose follow slash here (name :: rest) = .error fault := by
  -- the checks are made one after the other, and the first that is not passed gives the fault
  by_cases hslash : purpose = .creation ∧ rest = [] ∧ slash = true
  · refine ⟨.isDirectory, ?_⟩
    intro fs follow
    rw [descend, if_neg hdot, if_neg hup, if_pos hslash]
  by_cases hshort : nameLimit < name.utf8ByteSize
  · refine ⟨.nameTooLong, ?_⟩
    intro fs follow
    rw [descend, if_neg hdot, if_neg hup, if_neg hslash, if_pos hshort]
  by_cases hlocation : purpose = .location ∧
      pathLimit ≤ (Location.path (name :: here)).utf8ByteSize
  · refine ⟨.nameTooLong, ?_⟩
    intro fs follow
    rw [descend, if_neg hdot, if_neg hup, if_neg hslash, if_neg hshort, if_pos hlocation]
  · exact absurd ⟨⟨hdot, hup, hshort⟩, hslash, hlocation⟩ hname

/-- A path that cannot be followed is a fault, whatever the files are. -/
theorem exists_fault_of_not_isFollowable (hpath : ¬ IsFollowable purpose path) :
    ∃ fault, ∀ fs : FileSystem, fs.locate purpose path = .error fault := by
  by_cases hzero : '\x00' ∈ path.toList
  · refine ⟨.zeroCharacter, ?_⟩
    intro fs
    rw [locate, if_pos hzero]
  by_cases hempty : path = ""
  · refine ⟨.noEntry, ?_⟩
    intro fs
    rw [locate, if_neg hzero, if_pos hempty]
  by_cases hshort : purpose ≠ .location ∧ pathLimit ≤ path.utf8ByteSize
  · refine ⟨.nameTooLong, ?_⟩
    intro fs
    rw [locate, if_neg hzero, if_neg hempty, if_pos hshort]
  · exact absurd ⟨hzero, hempty, hshort⟩ hpath

end Places

/-! ### Trees that are equal except for some places -/

/-- Two trees that start relative paths in the same place and hold the same in every place that is
not hidden. -/
structure EqualBut (hidden : Location → Prop) (fs other : FileSystem) : Prop where
  /-- Relative paths start in the same place. -/
  workingDirectory_eq : other.workingDirectory = fs.workingDirectory
  /-- A place that is not hidden holds the same. -/
  lookup_eq {place : Location} : ¬ hidden place → other.lookup place = fs.lookup place

namespace EqualBut

variable {fs other last : FileSystem} {hidden : Location → Prop} {purpose : Purpose}
  {path : String}

theorem refl (fs : FileSystem) : fs.EqualBut hidden fs where
  workingDirectory_eq := rfl
  lookup_eq _ := rfl

theorem symm (h : fs.EqualBut hidden other) : other.EqualBut hidden fs where
  workingDirectory_eq := h.workingDirectory_eq.symm
  lookup_eq hplace := (h.lookup_eq hplace).symm

theorem trans (hfirst : fs.EqualBut hidden other) (hsecond : other.EqualBut hidden last) :
    fs.EqualBut hidden last where
  workingDirectory_eq := hsecond.workingDirectory_eq.trans hfirst.workingDirectory_eq
  lookup_eq hplace := (hsecond.lookup_eq hplace).trans (hfirst.lookup_eq hplace)

/-- Trees stay equal when more places are hidden. -/
theorem mono {more : Location → Prop} (h : fs.EqualBut hidden other)
    (hmore : ∀ place, hidden place → more place) : fs.EqualBut more other where
  workingDirectory_eq := h.workingDirectory_eq
  lookup_eq {place} hplace := h.lookup_eq fun hhidden => hplace (hmore place hhidden)

/-- Trees stay equal under the same change, hidden or not. -/
theorem alter (h : fs.EqualBut hidden other) (place : Location) (entry : Option Entry) :
    (fs.alter place entry).EqualBut hidden (other.alter place entry) where
  workingDirectory_eq := by
    rw [workingDirectory_alter, workingDirectory_alter, h.workingDirectory_eq]
  lookup_eq hlocation := lookup_alter_congr (h.lookup_eq hlocation) place entry

theorem put (h : fs.EqualBut hidden other) (place : Location) (entry : Entry) :
    (fs.put place entry).EqualBut hidden (other.put place entry) :=
  h.alter place (some entry)

theorem remove (h : fs.EqualBut hidden other) (place : Location) :
    (fs.remove place).EqualBut hidden (other.remove place) :=
  h.alter place none

/-- A hidden place can be given any entry. -/
theorem put_hidden {place : Location} (hplace : hidden place) (hne : place ≠ []) (entry : Entry) :
    fs.EqualBut hidden (fs.put place entry) where
  workingDirectory_eq := rfl
  lookup_eq {location} hlocation := by
    have hother : location ≠ place := by
      rintro rfl
      exact hlocation hplace
    exact lookup_put_of_ne entry hne hother

/-- Names with no hidden place among their places lead the same way. -/
private theorem descend_eq {follow onward : Location → List String → Bool → Except FileFault Spot}
    {places : Location → List String → Bool → List Location} {slash : Bool} {here : Location}
    {names : List String} (h : fs.EqualBut hidden other)
    (hfollow : ∀ here names slash, (∀ place ∈ places here names slash, ¬ hidden place) →
      onward here names slash = follow here names slash)
    (hclear : ∀ place ∈ fs.descendTrail purpose places slash here names, ¬ hidden place) :
    other.descend purpose onward slash here names =
      fs.descend purpose follow slash here names := by
  -- a link hands over to `follow`, so the induction is on the names before the next one
  induction names generalizing here with
  | nil => rfl
  | cons name rest ih =>
    by_cases hdot : name = "."
    · rw [descendTrail, if_pos hdot] at hclear
      rw [descend, descend, if_pos hdot, if_pos hdot]
      exact ih hclear
    by_cases hup : name = ".."
    · rw [descendTrail, if_neg hdot, if_pos hup] at hclear
      rw [descend, descend, if_neg hdot, if_neg hdot, if_pos hup, if_pos hup]
      exact ih hclear
    by_cases hname : IsLookedUp purpose slash here name rest
    · rw [descendTrail_of_isLookedUp _ hname, List.forall_mem_cons] at hclear
      obtain ⟨hhere, hrest⟩ := hclear
      rw [descend_of_isLookedUp _ hname, descend_of_isLookedUp _ hname, h.lookup_eq hhere]
      -- the entry at this place decides where the others are
      cases hlookup : fs.lookup (name :: here) with
      | none => rfl
      | some entry =>
        rw [hlookup] at hrest
        cases entry with
        | directory => simp only [ih hrest]
        | file => rfl
        | link target =>
          by_cases hlast : purpose = .entry ∧ rest = [] ∧ slash = false
          · simp [hlast]
          · dsimp only at hrest ⊢
            rw [if_neg hlast] at hrest
            rw [hfollow _ _ _ hrest]
    · obtain ⟨fault, hfault⟩ := exists_fault_of_not_isLookedUp hdot hup hname
      rw [hfault, hfault]

private theorem walk_eq {links : Nat} {here : Location} {names : List String} {slash : Bool}
    (h : fs.EqualBut hidden other)
    (hclear : ∀ place ∈ fs.walkTrail purpose links here names slash, ¬ hidden place) :
    other.walk purpose links here names slash = fs.walk purpose links here names slash := by
  induction links generalizing here names slash with
  | zero => exact h.descend_eq (fun _ _ _ _ => rfl) hclear
  | succ links ih => exact h.descend_eq (fun _ _ _ => ih) hclear

/-- A path that keeps off the hidden places leads the same way. -/
theorem locate_eq (h : fs.EqualBut hidden other)
    (hclear : ∀ place ∈ fs.trail purpose path, ¬ hidden place) :
    other.locate purpose path = fs.locate purpose path := by
  by_cases hpath : IsFollowable purpose path
  · rw [trail, if_pos hpath] at hclear
    have hstart : other.pathStart path = fs.pathStart path := by
      rw [pathStart, pathStart, h.workingDirectory_eq]
    rw [hpath.locate_eq, hpath.locate_eq, hstart]
    exact h.walk_eq hclear
  · obtain ⟨fault, hfault⟩ := exists_fault_of_not_isFollowable hpath
    rw [hfault, hfault]

/-- Where such a path leads, the same is found. -/
theorem lookup_spot {spot : Spot} (h : fs.EqualBut hidden other)
    (hclear : ∀ place ∈ fs.trail purpose path, ¬ hidden place)
    (hlocate : fs.locate purpose path = .ok spot) :
    other.lookup spot.location = fs.lookup spot.location :=
  h.lookup_eq (hclear _ (location_mem_trail hlocate))

end EqualBut

end TextShell.FileSystem
