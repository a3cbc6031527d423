import TextShell.FileSystem.Resolution

/-!
# Walks

What it means that a path leads to a spot, as a relation with one rule for each kind of step. Facts
about paths are proved by induction on these rules.

* `FileSystem.walk_eq_ok_iff`: the relation holds exactly when the path is followed to that spot.
* `FileSystem.missing_of_vacant`: nothing is at a vacant spot.
-/

namespace TextShell.FileSystem

/-- A name that can stand in a directory: it is no dot or double dot, and it is not too long. -/
structure IsEntryName (name : String) : Prop where
  /-- The name does not stay where it is. -/
  ne_dot : name ≠ "."
  /-- The name does not go up. -/
  ne_up : name ≠ ".."
  /-- The name is short enough. -/
  short : ¬ nameLimit < name.utf8ByteSize

/-- A name along a path is looked up in the files: it can stand in a directory, and if it is to be
made then no slash follows it. -/
structure IsLookedUp (purpose : Purpose) (slash : Bool) (here : Location) (name : String)
    (rest : List String) : Prop extends IsEntryName name where
  /-- What is to be made is no directory. -/
  no_slash : ¬ (purpose = .creation ∧ rest = [] ∧ slash = true)
  /-- Where a location is asked for, it is short enough. -/
  short_location : ¬ (purpose = .location ∧ pathLimit ≤ (Location.path (name :: here)).utf8ByteSize)

/-- Where a location is asked for, and what is left of the path asks for a directory at this place,
the location of the place is short enough to take a slash. -/
def TakesSlash (purpose : Purpose) (slash : Bool) (place : Location) (rest : List String) : Prop :=
  ¬ (purpose = .location ∧ asksForDirectory slash rest = true ∧
    pathLimit ≤ (Location.path place).utf8ByteSize + 1)

/-- Only where a location is asked for does this matter. -/
theorem takesSlash_of_ne {purpose : Purpose} {slash : Bool} {place : Location}
    {rest : List String} (h : purpose ≠ .location) : TakesSlash purpose slash place rest :=
  fun hlong => h hlong.1

/-- Where the path of a link starts. -/
def linkStart (here : Location) (target : String) : Location :=
  if Path.isAbsolute target then [] else here

/-- Whether a directory is asked for after a link in the place of a name. -/
def linkSlash (rest : List String) (slash : Bool) (target : String) : Bool :=
  if rest = [] then slash || Path.endsInSlash target else slash

/-- Names lead from a directory to a spot through at most the given number of links. -/
inductive Walks (fs : FileSystem) (purpose : Purpose) :
    Nat → Location → List String → Bool → Spot → Prop where
  /-- No name is left. -/
  | arrive {links : Nat} {here : Location} {slash : Bool} :
      Walks fs purpose links here [] slash (.found here)
  /-- The dot stays. -/
  | stay {links : Nat} {here : Location} {rest : List String} {slash : Bool} {spot : Spot} :
      Walks fs purpose links here rest slash spot →
      Walks fs purpose links here ("." :: rest) slash spot
  /-- The double dot goes up. -/
  | up {links : Nat} {here : Location} {rest : List String} {slash : Bool} {spot : Spot} :
      Walks fs purpose links here.tail rest slash spot →
      Walks fs purpose links here (".." :: rest) slash spot
  /-- The last name may be missing. -/
  | vacant {links : Nat} {here : Location} {name : String} {slash : Bool} :
      IsLookedUp purpose slash here name [] → fs.lookup (name :: here) = none →
      Walks fs purpose links here [name] slash (.vacant here name)
  /-- A directory is entered. -/
  | enter {links : Nat} {here : Location} {name : String} {rest : List String} {slash : Bool}
      {spot : Spot} :
      IsLookedUp purpose slash here name rest → fs.lookup (name :: here) = some .directory →
      TakesSlash purpose slash (name :: here) rest →
      Walks fs purpose links (name :: here) rest slash spot →
      Walks fs purpose links here (name :: rest) slash spot
  /-- A file can only be the last. -/
  | file {links : Nat} {here : Location} {name : String} {content : ByteArray} :
      IsLookedUp purpose false here name [] → fs.lookup (name :: here) = some (.file content) →
      Walks fs purpose links here [name] false (.found (name :: here))
  /-- Where an entry is asked for, the last link is not followed. -/
  | link {links : Nat} {here : Location} {name target : String} :
      IsLookedUp purpose false here name [] → fs.lookup (name :: here) = some (.link target) →
      purpose = .entry → Walks fs purpose links here [name] false (.found (name :: here))
  /-- Any other link is followed. -/
  | follow {links : Nat} {here : Location} {name target : String} {rest : List String}
      {slash : Bool} {spot : Spot} :
      IsLookedUp purpose slash here name rest → fs.lookup (name :: here) = some (.link target) →
      ¬ (purpose = .entry ∧ rest = [] ∧ slash = false) →
      Walks fs purpose links (linkStart here target) (Path.names target ++ rest)
        (linkSlash rest slash target) spot →
      Walks fs purpose (links + 1) here (name :: rest) slash spot

section Function

variable {fs : FileSystem} {purpose : Purpose} {links : Nat} {here : Location}
  {names : List String} {slash : Bool} {spot : Spot}

/-- How a walk goes on after a link. -/
def onward (fs : FileSystem) (purpose : Purpose) :
    Nat → Location → List String → Bool → Except FileFault Spot
  | 0 => fun _ _ _ => .error .tooManyLinks
  | links + 1 => fs.walk purpose links

theorem walk_eq_descend (fs : FileSystem) (purpose : Purpose) (links : Nat)
    (here : Location) (names : List String) (slash : Bool) :
    fs.walk purpose links here names slash =
      fs.descend purpose (fs.onward purpose links) slash here names := by
  cases links <;> rfl

/-- A name that is looked up leads on as its entry says. -/
theorem descend_of_isLookedUp {name : String} {rest : List String}
    (follow : Location → List String → Bool → Except FileFault Spot)
    (h : IsLookedUp purpose slash here name rest) :
    fs.descend purpose follow slash here (name :: rest) =
      match fs.lookup (name :: here) with
      | none => if rest = [] then .ok (.vacant here name) else .error .noEntry
      | some .directory =>
        if purpose = .location ∧ asksForDirectory slash rest = true ∧
            pathLimit ≤ (Location.path (name :: here)).utf8ByteSize + 1 then .error .nameTooLong
        else fs.descend purpose follow slash (name :: here) rest
      | some (.file _) =>
        if rest = [] ∧ !slash then .ok (.found (name :: here)) else .error .notDirectory
      | some (.link target) =>
        if purpose = .entry ∧ rest = [] ∧ !slash then .ok (.found (name :: here))
        else follow (linkStart here target) (Path.names target ++ rest)
          (linkSlash rest slash target) := by
  rw [descend, if_neg h.ne_dot, if_neg h.ne_up, if_neg h.no_slash, if_neg h.short,
    if_neg h.short_location]
  rfl

theorem walk_stay (rest : List String) :
    fs.walk purpose links here ("." :: rest) slash = fs.walk purpose links here rest slash := by
  rw [walk_eq_descend, walk_eq_descend, descend, if_pos rfl]

theorem walk_up (rest : List String) :
    fs.walk purpose links here (".." :: rest) slash =
      fs.walk purpose links here.tail rest slash := by
  rw [walk_eq_descend, walk_eq_descend, descend, if_neg (by decide), if_pos rfl]

/-- Nothing but the last name may be missing. -/
theorem walk_of_missing {name : String} {rest : List String}
    (h : IsLookedUp purpose slash here name rest) (hlookup : fs.lookup (name :: here) = none) :
    fs.walk purpose links here (name :: rest) slash =
      if rest = [] then .ok (.vacant here name) else .error .noEntry := by
  rw [walk_eq_descend, descend_of_isLookedUp _ h, hlookup]

theorem walk_of_directory {name : String} {rest : List String}
    (h : IsLookedUp purpose slash here name rest)
    (hlookup : fs.lookup (name :: here) = some .directory)
    (hroom : TakesSlash purpose slash (name :: here) rest) :
    fs.walk purpose links here (name :: rest) slash =
      fs.walk purpose links (name :: here) rest slash := by
  rw [walk_eq_descend, walk_eq_descend, descend_of_isLookedUp _ h, hlookup]
  exact if_neg hroom

/-- Any link but one in the last place, where an entry is asked for, is followed. -/
theorem walk_of_link {name target : String} {rest : List String}
    (h : IsLookedUp purpose slash here name rest)
    (hlookup : fs.lookup (name :: here) = some (.link target))
    (hlast : ¬ (purpose = .entry ∧ rest = [] ∧ slash = false)) :
    fs.walk purpose (links + 1) here (name :: rest) slash =
      fs.walk purpose links (linkStart here target) (Path.names target ++ rest)
        (linkSlash rest slash target) := by
  rw [walk_eq_descend, descend_of_isLookedUp _ h, hlookup]
  simp only [Bool.not_eq_true', hlast, if_false]
  rfl

/-- What is followed to a spot obeys the rules, if what comes after a link does. -/
private theorem walks_of_descend
    {follow : Location → List String → Bool → Except FileFault Spot}
    (hfollow : ∀ {here names slash spot}, follow here names slash = .ok spot →
      ∃ fewer, links = fewer + 1 ∧ Walks fs purpose fewer here names slash spot)
    (h : fs.descend purpose follow slash here names = .ok spot) :
    Walks fs purpose links here names slash spot := by
  induction names generalizing here with
  | nil =>
    rw [descend] at h
    obtain rfl := Except.ok.inj h
    exact .arrive
  | cons name rest ih =>
    by_cases hdot : name = "."
    · subst hdot
      rw [descend, if_pos rfl] at h
      exact .stay (ih h)
    by_cases hup : name = ".."
    · subst hup
      rw [descend, if_neg (by decide), if_pos rfl] at h
      exact .up (ih h)
    -- the checks of a looked-up name have passed, since the walk is no fault
    have hname : IsLookedUp purpose slash here name rest := by
      rw [descend, if_neg hdot, if_neg hup] at h
      split at h
      next => cases h
      next hslash =>
        split at h
        next => cases h
        next hshort =>
          split at h
          next => cases h
          next hlocation => exact ⟨⟨hdot, hup, hshort⟩, hslash, hlocation⟩
    rw [descend_of_isLookedUp follow hname] at h
    -- each kind of entry has its rule, and the last name has rules of its own
    split at h
    next hlookup =>
      split at h
      next hrest =>
        subst hrest
        obtain rfl := Except.ok.inj h
        exact .vacant hname hlookup
      next => cases h
    next hlookup =>
      split at h
      next => cases h
      next hroom => exact .enter hname hlookup hroom (ih h)
    next hlookup =>
      split at h
      next hlast =>
        obtain ⟨rfl, hslash⟩ := hlast
        obtain rfl : slash = false := by simpa using hslash
        obtain rfl := Except.ok.inj h
        exact .file hname hlookup
      next => cases h
    next hlookup =>
      split at h
      next hlast =>
        obtain ⟨hpurpose, rfl, hslash⟩ := hlast
        obtain rfl : slash = false := by simpa using hslash
        obtain rfl := Except.ok.inj h
        exact .link hname hlookup hpurpose
      next hlast =>
        obtain ⟨fewer, rfl, hwalks⟩ := hfollow h
        exact .follow hname hlookup (by simpa using hlast) hwalks

private theorem walks_of_walk (h : fs.walk purpose links here names slash = .ok spot) :
    Walks fs purpose links here names slash spot := by
  induction links generalizing here names slash spot with
  | zero =>
    rw [walk_eq_descend] at h
    exact walks_of_descend (fun hfollow => by cases hfollow) h
  | succ links ih =>
    rw [walk_eq_descend] at h
    exact walks_of_descend (fun hfollow => ⟨links, rfl, ih hfollow⟩) h

private theorem walk_of_walks (h : Walks fs purpose links here names slash spot) :
    fs.walk purpose links here names slash = .ok spot := by
  induction h with
  | arrive => rw [walk_eq_descend, descend]
  | stay _ ih =>
    rw [walk_eq_descend] at ih ⊢
    rw [descend, if_pos rfl, ih]
  | up _ ih =>
    rw [walk_eq_descend] at ih ⊢
    rw [descend, if_neg (by decide), if_pos rfl, ih]
  | vacant hname hlookup =>
    rw [walk_eq_descend, descend_of_isLookedUp _ hname, hlookup]
    rfl
  | enter hname hlookup hroom _ ih => rw [walk_of_directory hname hlookup hroom, ih]
  | file hname hlookup =>
    rw [walk_eq_descend, descend_of_isLookedUp _ hname, hlookup]
    rfl
  | link hname hlookup hpurpose =>
    rw [walk_eq_descend, descend_of_isLookedUp _ hname, hlookup]
    simp [hpurpose]
  | follow hname hlookup hlast _ ih =>
    rw [walk_eq_descend, descend_of_isLookedUp _ hname, hlookup]
    simp only [Bool.not_eq_true', hlast, if_false]
    exact ih

/-- The rules describe exactly how names are followed. -/
theorem walk_eq_ok_iff :
    fs.walk purpose links here names slash = .ok spot ↔
      Walks fs purpose links here names slash spot :=
  ⟨walks_of_walk, walk_of_walks⟩

end Function

section Inversion

variable {fs : FileSystem} {purpose : Purpose} {links : Nat} {here : Location}
  {rest : List String} {slash : Bool} {spot : Spot}

theorem Walks.of_stay (h : Walks fs purpose links here ("." :: rest) slash spot) :
    Walks fs purpose links here rest slash spot := by
  generalize hnames : "." :: rest = names at h
  cases h with
  | arrive => cases hnames
  | stay hwalks =>
    obtain rfl := (List.cons.inj hnames).2
    exact hwalks
  | up => exact absurd (List.cons.inj hnames).1 (by decide)
  | vacant hname | enter hname | file hname | link hname | follow hname =>
    exact absurd (List.cons.inj hnames).1.symm hname.ne_dot

theorem Walks.of_up (h : Walks fs purpose links here (".." :: rest) slash spot) :
    Walks fs purpose links here.tail rest slash spot := by
  generalize hnames : ".." :: rest = names at h
  cases h with
  | arrive => cases hnames
  | stay => exact absurd (List.cons.inj hnames).1 (by decide)
  | up hwalks =>
    obtain rfl := (List.cons.inj hnames).2
    exact hwalks
  | vacant hname | enter hname | file hname | link hname | follow hname =>
    exact absurd (List.cons.inj hnames).1.symm hname.ne_up

end Inversion

/-- Nothing is at a vacant spot, and its name can stand there. -/
theorem Walks.missing_of_vacant {fs : FileSystem} {purpose : Purpose} {links : Nat}
    {here directory : Location} {names : List String} {slash : Bool} {name : String}
    (h : Walks fs purpose links here names slash (.vacant directory name)) :
    IsEntryName name ∧ fs.lookup (name :: directory) = none := by
  generalize hspot : Spot.vacant directory name = spot at h
  induction h with
  | arrive | file | link => cases hspot
  | vacant hname hlookup =>
    obtain ⟨rfl, rfl⟩ := Spot.vacant.inj hspot
    exact ⟨hname.toIsEntryName, hlookup⟩
  | stay _ ih | up _ ih | enter _ _ _ _ ih | follow _ _ _ _ ih => exact ih hspot

/-! ### Paths -/

/-- A path text that can be followed at all. -/
structure IsFollowable (purpose : Purpose) (path : String) : Prop where
  /-- The path has no character zero. -/
  no_zero : '\x00' ∉ path.toList
  /-- The path has a character. -/
  ne_empty : path ≠ ""
  /-- The path is short enough, where its length matters. -/
  short : ¬ (purpose ≠ .location ∧ pathLimit ≤ path.utf8ByteSize)

/-- Where a path starts. -/
def pathStart (fs : FileSystem) (path : String) : Location :=
  if Path.isAbsolute path then [] else fs.workingDirectory

/-- A path that can be followed leads where its names lead. -/
theorem IsFollowable.locate_eq {fs : FileSystem} {purpose : Purpose} {path : String}
    (h : IsFollowable purpose path) :
    fs.locate purpose path = fs.walk purpose linkLimit (fs.pathStart path) (Path.names path)
      (Path.endsInSlash path) := by
  unfold locate
  rw [if_neg h.no_zero, if_neg h.ne_empty, if_neg h.short]
  rfl

/-- A path leads to a spot if it can be followed and its names lead there. -/
theorem locate_eq_ok_iff {fs : FileSystem} {purpose : Purpose} {path : String} {spot : Spot} :
    fs.locate purpose path = .ok spot ↔
      IsFollowable purpose path ∧ Walks fs purpose linkLimit (fs.pathStart path)
        (Path.names path) (Path.endsInSlash path) spot := by
  rw [← walk_eq_ok_iff]
  unfold locate pathStart
  constructor
  · intro h
    split at h
    next => cases h
    next hzero =>
      split at h
      next => cases h
      next hempty =>
        split at h
        next => cases h
        next hshort => exact ⟨⟨hzero, hempty, hshort⟩, h⟩
  · rintro ⟨⟨hzero, hempty, hshort⟩, hwalk⟩
    rw [if_neg hzero, if_neg hempty, if_neg hshort]
    exact hwalk

/-- Nothing is where a path leads to a vacant spot, and the name can stand there. -/
theorem missing_of_vacant {fs : FileSystem} {purpose : Purpose} {path : String}
    {directory : Location} {name : String}
    (h : fs.locate purpose path = .ok (.vacant directory name)) :
    IsEntryName name ∧ fs.lookup (name :: directory) = none :=
  (locate_eq_ok_iff.mp h).2.missing_of_vacant

end TextShell.FileSystem
