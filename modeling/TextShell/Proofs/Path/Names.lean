import TextShell.FileSystem.Path
import TextShell.Request.Reading

/-!
# The names along a path

A path that continues a directory has the names of the directory and then its own. The paths that
commands are given end in a name that is looked up: it ends in `.txt`, so it is neither of the
names that stand for a place, and no slash follows it.

* `Path.names_join`: the names of a continued path.
* `Path.endsIn_resolve`: a path that commands accept ends in a name with the ending `.txt`, whatever
  directory it continues.
-/

namespace TextShell.Path

/-- A path whose last name is looked up: the names before it, and it is neither the dot nor the
double dot, nor followed by a slash. -/
structure EndsIn (path : String) (above : List String) (name : String) : Prop where
  /-- The names along the path. -/
  names_eq : names path = above ++ [name]
  /-- The last name does not stay where it is. -/
  ne_dot : name ≠ "."
  /-- The last name does not go up. -/
  ne_up : name ≠ ".."
  /-- Nothing asks for a directory. -/
  no_slash : endsInSlash path = false

theorem EndsIn.ne_empty {path : String} {above : List String} {name : String}
    (h : EndsIn path above name) : path ≠ "" := by
  rintro rfl
  have hnames := h.names_eq
  simp [names, parts] at hnames

/-! ### Parts of a text cut at slashes -/

theorem parts_append_slash (path other : String) :
    parts (path ++ "/" ++ other) = parts path ++ parts other := by
  have hlist : (path ++ "/" ++ other).toList = path.toList ++ '/' :: other.toList := by simp
  rw [parts, hlist, List.splitOn_append_cons_self, List.map_append]
  rfl

/-- A text without a slash is its one part. -/
theorem parts_of_no_slash {path : String} (h : '/' ∉ path.toList) : parts path = [path] := by
  rw [parts, List.splitOn_eq_singleton h]
  simp

@[simp]
theorem names_empty : names "" = [] := by
  simp [names, parts]

theorem names_append_slash (path other : String) :
    names (path ++ "/" ++ other) = names path ++ names other := by
  rw [names, parts_append_slash, List.filter_append]
  rfl

/-- A text that ends in a slash is another one and that slash. -/
theorem exists_eq_append_slash {path : String} (h : endsInSlash path = true) :
    ∃ before, path = before ++ "/" := by
  simp only [endsInSlash, decide_eq_true_eq] at h
  obtain ⟨before, hbefore⟩ := List.getLast?_eq_some_iff.mp h
  exact ⟨.ofList before, by rw [← String.toList_inj]; simp [hbefore]⟩

/-- A continued path has the names of the directory and then its own. -/
theorem names_join (directory path : String) :
    names (join directory path) = names directory ++ names path := by
  unfold join
  split
  next h =>
    obtain rfl | hslash := h
    · simp
    · -- the slash at the end of the directory stands between it and the path
      obtain ⟨before, rfl⟩ := exists_eq_append_slash hslash
      have hbefore := names_append_slash before ""
      rw [String.append_empty, names_empty, List.append_nil] at hbefore
      rw [names_append_slash, hbefore]
  next => exact names_append_slash directory path

/-- The end of a text decides whether it ends in a slash. -/
theorem endsInSlash_append (path : String) {other : String} (h : other ≠ "") :
    endsInSlash (path ++ other) = endsInSlash other := by
  have hne : other.toList ≠ [] := by simpa using h
  have hlast := List.getLast?_eq_some_getLast hne
  simp only [endsInSlash, String.toList_append, List.getLast?_append, hlast, Option.some_or]

theorem endsInSlash_join (directory : String) {path : String} (h : path ≠ "") :
    endsInSlash (join directory path) = endsInSlash path := by
  unfold join
  split
  · exact endsInSlash_append _ h
  · exact endsInSlash_append _ h

/-- A path with a looked-up name at its end keeps it when it continues a directory. -/
theorem EndsIn.join {path : String} {above : List String} {name : String}
    (h : EndsIn path above name) (directory : String) :
    EndsIn (join directory path) (names directory ++ above) name where
  names_eq := by rw [names_join, h.names_eq, List.append_assoc]
  ne_dot := h.ne_dot
  ne_up := h.ne_up
  no_slash := by rw [endsInSlash_join directory h.ne_empty, h.no_slash]

/-- A path keeps its last name wherever it is resolved. -/
theorem EndsIn.resolve {path : String} {above : List String} {name : String}
    (h : EndsIn path above name) (directory : String) :
    ∃ before, EndsIn (resolve directory path) before name := by
  unfold Path.resolve
  split
  · exact ⟨above, h⟩
  · exact ⟨names directory ++ above, h.join directory⟩

theorem endsInSlash_of_no_slash {path : String} (h : '/' ∉ path.toList) :
    endsInSlash path = false := by
  rw [endsInSlash, decide_eq_false_iff_not]
  exact fun hlast => h (List.mem_of_getLast? hlast)

/-- A text without a slash is one name. -/
theorem endsIn_of_no_slash {name : String} (hslash : '/' ∉ name.toList) (hempty : name ≠ "")
    (hdot : name ≠ ".") (hup : name ≠ "..") : EndsIn name [] name where
  names_eq := by
    rw [names, parts_of_no_slash hslash]
    simp [hempty]
  ne_dot := hdot
  ne_up := hup
  no_slash := endsInSlash_of_no_slash hslash

/-! ### Paths of commands -/

/-- A name has the ending of the files that commands work on. -/
def IsTextName (name : String) : Prop := Reading.extension <:+ name.toList

instance (name : String) : Decidable (IsTextName name) :=
  inferInstanceAs (Decidable (_ <:+ _))

/-- An ending without a slash belongs to what stands after the last slash. -/
theorem suffix_of_suffix_append_slash {ending before after : List Char} (hslash : '/' ∉ ending)
    (h : ending <:+ before ++ '/' :: after) : ending <:+ after := by
  have hafter : '/' :: after <:+ before ++ '/' :: after := List.suffix_append _ _
  -- two ends of one text: the shorter is an end of the longer
  have hcompare := List.suffix_or_suffix_of_suffix h hafter
  obtain hin | hover := hcompare
  · obtain rfl | hin := List.suffix_cons_iff.mp hin
    · simp at hslash
    · exact hin
  · exact absurd (hover.subset (List.mem_cons_self ..)) hslash

/-- A text cut at its last slash. -/
theorem exists_last_slash {path : String} (h : '/' ∈ path.toList) :
    ∃ before after : String, path = before ++ "/" ++ after ∧ '/' ∉ after.toList := by
  obtain ⟨after, before, heq, hafter⟩ :=
    List.eq_append_cons_of_mem (List.mem_reverse.mpr h)
  refine ⟨.ofList before.reverse, .ofList after.reverse, ?_, by simpa using hafter⟩
  rw [← String.toList_inj]
  simpa using congrArg List.reverse heq

theorem IsTextName.ne_empty {name : String} (h : IsTextName name) : name ≠ "" := by
  rintro rfl
  exact absurd h (by decide)

theorem endsIn_of_isTextName {name : String} (hslash : '/' ∉ name.toList) (h : IsTextName name) :
    EndsIn name [] name := by
  refine endsIn_of_no_slash hslash h.ne_empty ?_ ?_ <;>
  · rintro rfl
    exact absurd h (by decide)

/-- A text with the ending `.txt` is a path whose last name has that ending. -/
theorem endsIn_of_extension {path : String} (h : IsTextName path) :
    ∃ above name, EndsIn path above name ∧ IsTextName name := by
  by_cases hslash : '/' ∈ path.toList
  · obtain ⟨before, after, rfl, hafter⟩ := exists_last_slash hslash
    -- the ending has no slash, so it belongs to the last name
    have hname : IsTextName after := by
      have htext : (before ++ "/" ++ after).toList = before.toList ++ '/' :: after.toList := by
        simp
      unfold IsTextName at h ⊢
      rw [htext] at h
      exact suffix_of_suffix_append_slash (by decide) h
    have hends : EndsIn after [] after := endsIn_of_isTextName hafter hname
    refine ⟨names before, after, ⟨?_, hends.ne_dot, hends.ne_up, ?_⟩, hname⟩
    · rw [names_append_slash, hends.names_eq, List.nil_append]
    · rw [endsInSlash_append _ hname.ne_empty, hends.no_slash]
  · exact ⟨[], path, endsIn_of_isTextName hslash h, h⟩

/-- A path that commands accept ends in a looked-up name with the ending `.txt`, whatever directory
it continues. -/
theorem endsIn_resolve (directory : String) {path : String}
    (h : Reading.isPath path.toList = true) :
    ∃ above name, EndsIn (resolve directory path) above name ∧ IsTextName name := by
  have hextension : IsTextName path := by
    simp only [Reading.isPath, Bool.and_eq_true, List.isSuffixOf_iff_suffix] at h
    exact h.1
  obtain ⟨above, name, hends, hname⟩ := endsIn_of_extension hextension
  obtain ⟨before, hresolve⟩ := hends.resolve directory
  exact ⟨before, name, hresolve, hname⟩

end TextShell.Path
