import TextShell.Proofs.FileSystem.Walk
import TextShell.Proofs.Path.Names

/-!
# Approaches

The way along a path up to its last name. It passes only through directories and links to them, so
a change of what no way passes through leaves it as it is.

* `FileSystem.Enters`: names lead into a directory.
* `FileSystem.IsDeadEnd`: no way passes through an entry. A missing entry is a dead end, and so are
  a file and a link that leads to one.
* `FileSystem.Enters.congr`: a way does not change with what is at a dead end.
-/

namespace TextShell.FileSystem

/-- Names lead from one directory into another; the numbers tell how many links may be followed
before and after. -/
inductive Enters (fs : FileSystem) : Nat → Location → List String → Nat → Location → Prop where
  /-- No name is left. -/
  | arrive {links : Nat} {here : Location} : Enters fs links here [] links here
  /-- The dot stays. -/
  | stay {links left : Nat} {here there : Location} {rest : List String} :
      Enters fs links here rest left there → Enters fs links here ("." :: rest) left there
  /-- The double dot goes up. -/
  | up {links left : Nat} {here there : Location} {rest : List String} :
      Enters fs links here.tail rest left there → Enters fs links here (".." :: rest) left there
  /-- A directory is entered. -/
  | enter {links left : Nat} {here there : Location} {name : String} {rest : List String} :
      IsEntryName name → fs.lookup (name :: here) = some .directory →
      Enters fs links (name :: here) rest left there → Enters fs links here (name :: rest) left there
  /-- A link is followed. -/
  | follow {links left : Nat} {here there : Location} {name target : String}
      {rest : List String} :
      IsEntryName name → fs.lookup (name :: here) = some (.link target) →
      Enters fs links (linkStart here target) (Path.names target ++ rest) left there →
      Enters fs (links + 1) here (name :: rest) left there

section Approach

variable {fs : FileSystem} {purpose : Purpose} {links left : Nat} {here there : Location}
  {names before last : List String} {slash : Bool} {spot : Spot}

/-- A name that others follow is looked up. -/
theorem IsEntryName.isLookedUp {name : String} {rest : List String} (h : IsEntryName name)
    (hrest : rest ≠ []) (hpurpose : purpose ≠ .location) :
    IsLookedUp purpose slash here name rest where
  toIsEntryName := h
  no_slash := by simp [hrest]
  short_location := by simp [hpurpose]

/-- A walk enters directories up to any of its names. -/
theorem Walks.exists_enters (h : Walks fs purpose links here (before ++ last) slash spot)
    (hlast : last ≠ []) :
    ∃ left there, Enters fs links here before left there ∧
      Walks fs purpose left there last slash spot := by
  generalize hnames : before ++ last = names at h
  -- in each step either no name is to be entered, and the walk itself goes on, or the step enters
  -- the first of them
  induction h generalizing before with
  | arrive => exact absurd (List.append_eq_nil_iff.mp hnames).2 hlast
  | @stay links here rest slash spot hwalks ih =>
    obtain ⟨rfl, rfl⟩ | ⟨tail, rfl, hrest⟩ := List.append_eq_cons_iff.mp hnames
    · exact ⟨links, here, .arrive, .stay hwalks⟩
    · obtain ⟨left, there, henters, htail⟩ := ih hrest.symm
      exact ⟨left, there, .stay henters, htail⟩
  | @up links here rest slash spot hwalks ih =>
    obtain ⟨rfl, rfl⟩ | ⟨tail, rfl, hrest⟩ := List.append_eq_cons_iff.mp hnames
    · exact ⟨links, here, .arrive, .up hwalks⟩
    · obtain ⟨left, there, henters, htail⟩ := ih hrest.symm
      exact ⟨left, there, .up henters, htail⟩
  | @vacant links here name slash hname hlookup =>
    obtain ⟨rfl, rfl⟩ | ⟨tail, rfl, hrest⟩ := List.append_eq_cons_iff.mp hnames
    · exact ⟨links, here, .arrive, .vacant hname hlookup⟩
    · exact absurd (List.append_eq_nil_iff.mp hrest.symm).2 hlast
  | @enter links here name rest slash spot hname hlookup hroom hwalks ih =>
    obtain ⟨rfl, rfl⟩ | ⟨tail, rfl, hrest⟩ := List.append_eq_cons_iff.mp hnames
    · exact ⟨links, here, .arrive, .enter hname hlookup hroom hwalks⟩
    · obtain ⟨left, there, henters, htail⟩ := ih hrest.symm
      exact ⟨left, there, .enter hname.toIsEntryName hlookup henters, htail⟩
  | @file links here name content hname hlookup =>
    obtain ⟨rfl, rfl⟩ | ⟨tail, rfl, hrest⟩ := List.append_eq_cons_iff.mp hnames
    · exact ⟨links, here, .arrive, .file hname hlookup⟩
    · exact absurd (List.append_eq_nil_iff.mp hrest.symm).2 hlast
  | @link links here name target hname hlookup hpurpose =>
    obtain ⟨rfl, rfl⟩ | ⟨tail, rfl, hrest⟩ := List.append_eq_cons_iff.mp hnames
    · exact ⟨links, here, .arrive, .link hname hlookup hpurpose⟩
    · exact absurd (List.append_eq_nil_iff.mp hrest.symm).2 hlast
  | @follow links here name target rest slash spot hname hlookup hfollow hwalks ih =>
    obtain ⟨rfl, rfl⟩ | ⟨tail, rfl, hrest⟩ := List.append_eq_cons_iff.mp hnames
    · exact ⟨links + 1, here, .arrive, .follow hname hlookup hfollow hwalks⟩
    · -- the names of the link come before those that are left
      subst hrest
      have hne : tail ++ last ≠ [] := by simp [hlast]
      rw [linkSlash, if_neg hne] at hwalks ih
      obtain ⟨left, there, henters, htail⟩ := ih (List.append_assoc ..)
      exact ⟨left, there, .follow hname.toIsEntryName hlookup henters, htail⟩

/-- A walk may begin with any way into a directory. -/
theorem Enters.walks (h : Enters fs links here before left there) (hlast : last ≠ [])
    (hpurpose : purpose ≠ .location) (hwalks : Walks fs purpose left there last slash spot) :
    Walks fs purpose links here (before ++ last) slash spot := by
  induction h with
  | arrive => exact hwalks
  | stay _ ih => exact .stay (ih hwalks)
  | up _ ih => exact .up (ih hwalks)
  | enter hname hlookup _ ih =>
    exact .enter (hname.isLookedUp (by simp [hlast]) hpurpose) hlookup
      (takesSlash_of_ne hpurpose) (ih hwalks)
  | @follow links left here there name target rest hname hlookup _ ih =>
    -- names are left behind the link, so it is followed whatever the walk is for
    have hne : rest ++ last ≠ [] := by simp [hlast]
    show Walks fs purpose (links + 1) here (name :: (rest ++ last)) slash spot
    refine .follow (hname.isLookedUp hne hpurpose) hlookup (fun h => hne h.2.1) ?_
    rw [linkSlash, if_neg hne, ← List.append_assoc]
    exact ih hwalks

/-- A way into a directory enters directories up to any of its names. -/
theorem Enters.split (h : Enters fs links here (before ++ last) left there) :
    ∃ middle between, Enters fs links here before middle between ∧
      Enters fs middle between last left there := by
  generalize hnames : before ++ last = names at h
  induction h generalizing before with
  | @arrive links here =>
    obtain ⟨rfl, rfl⟩ := List.append_eq_nil_iff.mp hnames
    exact ⟨links, here, .arrive, .arrive⟩
  | @stay links left here there rest henters ih =>
    obtain ⟨rfl, rfl⟩ | ⟨tail, rfl, hrest⟩ := List.append_eq_cons_iff.mp hnames
    · exact ⟨links, here, .arrive, .stay henters⟩
    · obtain ⟨middle, between, hfirst, hsecond⟩ := ih hrest.symm
      exact ⟨middle, between, .stay hfirst, hsecond⟩
  | @up links left here there rest henters ih =>
    obtain ⟨rfl, rfl⟩ | ⟨tail, rfl, hrest⟩ := List.append_eq_cons_iff.mp hnames
    · exact ⟨links, here, .arrive, .up henters⟩
    · obtain ⟨middle, between, hfirst, hsecond⟩ := ih hrest.symm
      exact ⟨middle, between, .up hfirst, hsecond⟩
  | @enter links left here there name rest hname hlookup henters ih =>
    obtain ⟨rfl, rfl⟩ | ⟨tail, rfl, hrest⟩ := List.append_eq_cons_iff.mp hnames
    · exact ⟨links, here, .arrive, .enter hname hlookup henters⟩
    · obtain ⟨middle, between, hfirst, hsecond⟩ := ih hrest.symm
      exact ⟨middle, between, .enter hname hlookup hfirst, hsecond⟩
  | @follow links left here there name target rest hname hlookup henters ih =>
    obtain ⟨rfl, rfl⟩ | ⟨tail, rfl, hrest⟩ := List.append_eq_cons_iff.mp hnames
    · exact ⟨links + 1, here, .arrive, .follow hname hlookup henters⟩
    · subst hrest
      obtain ⟨middle, between, hfirst, hsecond⟩ := ih (List.append_assoc ..)
      exact ⟨middle, between, .follow hname hlookup hfirst, hsecond⟩

/-- A way into a directory and one that goes on from there are one way. -/
theorem Enters.append {middle : Nat} {between : Location}
    (hfirst : Enters fs links here before middle between)
    (hlast : Enters fs middle between last left there) :
    Enters fs links here (before ++ last) left there := by
  induction hfirst with
  | arrive => exact hlast
  | stay _ ih => exact .stay (ih hlast)
  | up _ ih => exact .up (ih hlast)
  | enter hname hlookup _ ih => exact .enter hname hlookup (ih hlast)
  | @follow links middle here between name target rest hname hlookup _ ih =>
    -- the names of the link come before all that are left
    have hrest := ih hlast
    rw [List.append_assoc] at hrest
    exact .follow hname hlookup hrest

theorem Enters.of_stay (h : Enters fs links here ("." :: last) left there) :
    Enters fs links here last left there := by
  generalize hnames : "." :: last = names at h
  cases h with
  | arrive => cases hnames
  | stay henters =>
    obtain rfl := (List.cons.inj hnames).2
    exact henters
  | up => exact absurd (List.cons.inj hnames).1 (by decide)
  | enter hname | follow hname => exact absurd (List.cons.inj hnames).1.symm hname.ne_dot

/-- Dots make no difference to where names lead. -/
theorem enters_filter_iff :
    Enters fs links here (names.filter (· ≠ ".")) left there ↔
      Enters fs links here names left there := by
  induction names generalizing links here with
  | nil => rfl
  | cons name rest ih =>
    by_cases hdot : name = "."
    · subst hdot
      rw [List.filter_cons_of_neg (by simp), ih]
      exact ⟨.stay, .of_stay⟩
    · rw [List.filter_cons_of_pos (by simpa using hdot)]
      -- the way along the first name is one part, and that along the others is the rest
      have hcut {others : List String} :
          Enters fs links here (name :: others) left there ↔ ∃ middle between,
            Enters fs links here [name] middle between ∧
              Enters fs middle between others left there := by
        constructor
        · rw [← List.singleton_append]
          exact Enters.split
        · rintro ⟨middle, between, hfirst, hrest⟩
          exact hfirst.append hrest
      simp only [hcut, ih]

/-- Names that lead into a directory lead nowhere else. -/
theorem Enters.eq_found (h : Enters fs links here names left there) {other : Nat}
    (hwalks : Walks fs .target other here names slash spot) : spot = .found there := by
  induction h generalizing other slash with
  | arrive =>
    cases hwalks
    rfl
  | stay _ ih => exact ih hwalks.of_stay
  | up _ ih => exact ih hwalks.of_up
  | enter hname hlookup _ ih =>
    -- the entry decides which rule the walk follows
    cases hwalks with
    | stay => exact absurd rfl hname.ne_dot
    | up => exact absurd rfl hname.ne_up
    | enter _ _ _ hwalks => exact ih hwalks
    | vacant _ hother | file _ hother | link _ hother | follow _ hother => simp [hlookup] at hother
  | follow hname hlookup _ ih =>
    cases hwalks with
    | stay => exact absurd rfl hname.ne_dot
    | up => exact absurd rfl hname.ne_up
    | vacant _ hother | file _ hother | enter _ hother => simp [hlookup] at hother
    | link _ _ hpurpose => cases hpurpose
    | follow _ hother _ hwalks =>
      rw [hlookup] at hother
      obtain rfl := Entry.link.inj (Option.some.inj hother)
      exact ih hwalks

/-! ### In a tree -/

/-- What lies above a directory is a directory. -/
theorem WellFormed.lookup_tail (hfs : fs.WellFormed) (h : fs.lookup here = some .directory) :
    fs.lookup here.tail = some .directory := by
  cases here with
  | nil => rfl
  | cons name above => exact hfs.lookup_directory h

/-- The path of a link starts in a directory if the link lies in one. -/
theorem lookup_linkStart (target : String) (h : fs.lookup here = some .directory) :
    fs.lookup (linkStart here target) = some .directory := by
  unfold linkStart
  split
  · rfl
  · exact h

/-- A path starts in a directory. -/
theorem WellFormed.lookup_pathStart (hfs : fs.WellFormed) (path : String) :
    fs.lookup (fs.pathStart path) = some .directory := by
  unfold pathStart
  split
  · rfl
  · exact hfs.workingDirectory_isDirectory

/-- The way from a directory leads into a directory. -/
theorem Enters.lookup_eq_directory (hfs : fs.WellFormed)
    (h : Enters fs links here names left there) (hhere : fs.lookup here = some .directory) :
    fs.lookup there = some .directory := by
  induction h with
  | arrive => exact hhere
  | stay _ ih => exact ih hhere
  | up _ ih => exact ih (hfs.lookup_tail hhere)
  | enter _ hlookup _ ih => exact ih hlookup
  | follow _ _ _ ih => exact ih (lookup_linkStart _ hhere)

/-- A vacant spot that names lead to from a directory is one in a directory. -/
theorem Walks.lookup_of_vacant {directory : Location} {name : String} (hfs : fs.WellFormed)
    (h : Walks fs purpose links here names slash (.vacant directory name))
    (hhere : fs.lookup here = some .directory) : fs.lookup directory = some .directory := by
  generalize hspot : Spot.vacant directory name = spot at h
  induction h with
  | arrive | file | link => cases hspot
  | stay _ ih => exact ih hhere hspot
  | up _ ih => exact ih (hfs.lookup_tail hhere) hspot
  | vacant =>
    obtain ⟨rfl, -⟩ := Spot.vacant.inj hspot
    exact hhere
  | enter _ hlookup _ _ ih => exact ih hlookup hspot
  | follow _ _ _ _ ih => exact ih (lookup_linkStart _ hhere) hspot

end Approach

/-! ### Dead ends -/

/-- No way passes through an entry of a directory. -/
def IsDeadEnd (fs : FileSystem) (directory : Location) (name : String) : Prop :=
  ∀ links rest left there, ¬ Enters fs links directory (name :: rest) left there

section DeadEnd

variable {fs after : FileSystem} {directory : Location} {name : String}

/-- What is neither a directory nor a link is a dead end. -/
theorem isDeadEnd_of_ne (hname : IsEntryName name)
    (hdirectory : fs.lookup (name :: directory) ≠ some .directory)
    (hlink : ∀ target, fs.lookup (name :: directory) ≠ some (.link target)) :
    fs.IsDeadEnd directory name := by
  intro links rest left there henters
  cases henters with
  | stay => exact hname.ne_dot rfl
  | up => exact hname.ne_up rfl
  | enter _ hlookup => exact hdirectory hlookup
  | follow _ hlookup => exact hlink _ hlookup

/-- A missing entry is a dead end. -/
theorem isDeadEnd_of_missing (hname : IsEntryName name)
    (h : fs.lookup (name :: directory) = none) : fs.IsDeadEnd directory name :=
  isDeadEnd_of_ne hname (by simp [h]) (by simp [h])

/-- A file is a dead end. -/
theorem isDeadEnd_of_file {content : ByteArray} (hname : IsEntryName name)
    (h : fs.lookup (name :: directory) = some (.file content)) : fs.IsDeadEnd directory name :=
  isDeadEnd_of_ne hname (by simp [h]) (by simp [h])

/-- A link that leads to a file is a dead end. -/
theorem isDeadEnd_of_link {target : String} {links : Nat} {slash : Bool} {place : Location}
    {content : ByteArray} (hfs : fs.WellFormed) (hname : IsEntryName name)
    (hdirectory : fs.lookup directory = some .directory)
    (h : fs.lookup (name :: directory) = some (.link target))
    (hwalks : Walks fs .target links (linkStart directory target) (Path.names target) slash
      (.found place))
    (hplace : fs.lookup place = some (.file content)) : fs.IsDeadEnd directory name := by
  intro others rest left there henters
  cases henters with
  | stay => exact hname.ne_dot rfl
  | up => exact hname.ne_up rfl
  | enter _ hlookup => simp [h] at hlookup
  | follow _ hlookup henters =>
    rw [h] at hlookup
    obtain rfl := Entry.link.inj (Option.some.inj hlookup)
    -- the names of the link would lead into a directory, but they lead to the file
    obtain ⟨middle, between, hfirst, -⟩ := henters.split
    have hbetween := hfirst.lookup_eq_directory hfs (lookup_linkStart target hdirectory)
    obtain rfl := Spot.found.inj (hfirst.eq_found hwalks)
    simp [hplace] at hbetween

/-- A way stays as it is when no more than a dead end changes. -/
theorem Enters.congr {links left : Nat} {here there : Location} {names : List String}
    (h : Enters fs links here names left there) (hdead : fs.IsDeadEnd directory name)
    (hkeep : ∀ location, location ≠ name :: directory →
      after.lookup location = fs.lookup location) :
    Enters after links here names left there := by
  induction h with
  | arrive => exact .arrive
  | stay _ ih => exact .stay ih
  | up _ ih => exact .up ih
  | enter hother hlookup henters ih =>
    refine .enter hother ?_ ih
    rw [hkeep _ ?_, hlookup]
    -- an entry on the way is not the one that changes, as no way passes through that
    rintro heq
    obtain ⟨rfl, rfl⟩ := List.cons.inj heq
    exact hdead _ _ _ _ (.enter hother hlookup henters)
  | follow hother hlookup henters ih =>
    refine .follow hother ?_ ih
    rw [hkeep _ ?_, hlookup]
    rintro heq
    obtain ⟨rfl, rfl⟩ := List.cons.inj heq
    exact hdead _ _ _ _ (.follow hother hlookup henters)

end DeadEnd

end TextShell.FileSystem
