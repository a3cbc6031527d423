import TextShell.Proofs.Text.Lines
import TextShell.ReadLoop.Input

/-!
# Backspaces

A backspace erases the cluster that is left before it, if there is one. How many bytes to erase is
kept in one byte, so this holds where no cluster has 256 bytes or more. A backspace behind a longer
cluster erases fewer bytes than this has, and the first of them may lie inside a character.

* `Text.eraseBackspaces?_eq_none_iff`: erasing fails exactly at a backspace that reaches into a
  character.
* `Text.eraseBackspaces?_of_forall_short`: where clusters are short, each backspace erases one.
* `Text.eraseBackspaces?_of_not_mem`: without a backspace nothing is erased.
* `Input.le_length_of_cutCharacter`: only in a long line can a character be cut.
-/

namespace TextShell

namespace Text

/-! ### Bytes -/

@[simp]
theorem byteCount_cons (c : Char) (chars : List Char) :
    byteCount (c :: chars) = c.utf8Size + byteCount chars := rfl

@[simp]
theorem byteCount_append (before after : List Char) :
    byteCount (before ++ after) = byteCount before + byteCount after := by
  induction before with
  | nil => simp [byteCount]
  | cons c before ih => rw [List.cons_append, byteCount_cons, byteCount_cons, ih, Nat.add_assoc]

@[simp]
theorem byteCount_reverse (chars : List Char) : byteCount chars.reverse = byteCount chars := by
  induction chars with
  | nil => rfl
  | cons c chars ih =>
    rw [List.reverse_cons, byteCount_append, ih, byteCount_cons, byteCount_cons, byteCount,
      Nat.add_zero, Nat.add_comm]

theorem byteCount_le_flatten {piece : List Char} {pieces : List (List Char)} (h : piece ∈ pieces) :
    byteCount piece ≤ byteCount pieces.flatten := by
  obtain ⟨before, after, rfl⟩ := List.append_of_mem h
  simp only [List.flatten_append, List.flatten_cons, byteCount_append]
  omega

/-- The bytes of a text are those of its characters. -/
theorem byteCount_toList (text : String) : byteCount text.toList = text.utf8ByteSize := by
  have hsize (chars : List Char) : (String.ofList chars).utf8ByteSize = byteCount chars := by
    induction chars with
    | nil => rfl
    | cons c chars ih =>
      rw [← List.singleton_append, String.ofList_append, String.utf8ByteSize_append, ih,
        ← String.singleton_eq_ofList, String.utf8ByteSize_singleton, List.singleton_append,
        byteCount_cons]
  rw [← hsize, String.ofList_toList]

/-- Bytes can be dropped where they are those of whole characters. -/
theorem dropBytes?_append (dropped rest : List Char) :
    dropBytes? (byteCount dropped) (dropped ++ rest) = some rest := by
  induction dropped with
  | nil => cases rest <;> simp [byteCount, dropBytes?]
  | cons c dropped ih =>
    have hpos : 0 < c.utf8Size := Char.utf8Size_pos c
    rw [byteCount_cons, List.cons_append, dropBytes?, if_neg (by omega), if_pos (by omega),
      Nat.add_sub_cancel_left, ih]

theorem dropBytes?_eq_some_iff {count : Nat} {chars rest : List Char} :
    dropBytes? count chars = some rest ↔
      ∃ dropped, chars = dropped ++ rest ∧ byteCount dropped = count := by
  constructor
  · intro h
    induction chars generalizing count with
    | nil =>
      obtain ⟨rfl, rfl⟩ : count = 0 ∧ [] = rest := by simpa [dropBytes?] using h
      exact ⟨[], rfl, rfl⟩
    | cons c chars ih =>
      unfold dropBytes? at h
      split at h
      next hzero => exact ⟨[], Option.some.inj h, hzero.symm⟩
      next =>
        split at h
        next hsize =>
          obtain ⟨dropped, rfl, hdropped⟩ := ih h
          exact ⟨c :: dropped, rfl, by rw [byteCount_cons]; omega⟩
        next => cases h
  · rintro ⟨dropped, rfl, rfl⟩
    exact dropBytes?_append dropped rest

/-- So many bytes of a text, its last character first, end inside a character. -/
def EndsInside (count : Nat) (chars : List Char) : Prop :=
  ∃ before c after, chars = before ++ c :: after ∧ byteCount before < count ∧
    count < byteCount before + c.utf8Size

/-- Where there are so many bytes, only the end of the last one can be in the way. -/
theorem dropBytes?_eq_none_iff {count : Nat} {chars : List Char} (h : count ≤ byteCount chars) :
    dropBytes? count chars = none ↔ EndsInside count chars := by
  constructor
  · intro hnone
    induction chars generalizing count with
    | nil =>
      obtain rfl : count = 0 := Nat.le_zero.mp h
      simp [dropBytes?] at hnone
    | cons c chars ih =>
      rw [byteCount_cons] at h
      unfold dropBytes? at hnone
      split at hnone
      next => cases hnone
      next =>
        split at hnone
        next hsize =>
          obtain ⟨before, last, after, rfl, hbefore, hlast⟩ := ih (by omega) hnone
          refine ⟨c :: before, last, after, rfl, ?_, ?_⟩ <;> rw [byteCount_cons] <;> omega
        next hsize =>
          refine ⟨[], c, chars, rfl, ?_, ?_⟩ <;> simp only [byteCount] <;> omega
  · rintro ⟨before, c, after, rfl, hbefore, hlast⟩
    rw [Option.eq_none_iff_forall_ne_some]
    intro rest hrest
    -- whole characters end before the one that is cut or behind it
    obtain ⟨dropped, hchars, rfl⟩ := dropBytes?_eq_some_iff.mp hrest
    obtain ⟨more, rfl, hmore⟩ | ⟨more, rfl, hmore⟩ := List.append_eq_append_iff.mp hchars
    · cases more with
      | nil => simp at hbefore
      | cons first more =>
        obtain ⟨rfl, -⟩ := List.cons.inj hmore
        rw [byteCount_append, byteCount_cons] at hlast
        omega
    · rw [byteCount_append] at hbefore
      omega

/-! ### Clusters -/

namespace Erasure

/-- The clusters that are left after one more, the last one first. A backspace takes away the one
before it. -/
def pop (left : List (List Char)) (cluster : List Char) : List (List Char) :=
  if cluster = [backspace] then left.tail else cluster :: left

/-- The state in which clusters are left, the last one first. -/
def ofClusters (left : List (List Char)) : Erasure where
  kept := (left.map List.reverse).flatten
  reaches := left.map reach

variable {left pieces : List (List Char)} {cluster : List Char} {state next : Erasure}

/-- There are as many bytes as backspaces can ask for. -/
def IsCovered (state : Erasure) : Prop := state.reaches.foldr (· + ·) 0 ≤ byteCount state.kept

theorem isCovered_empty : empty.IsCovered := Nat.le_refl 0

theorem IsCovered.step? (h : state.IsCovered) (hstep : state.step? cluster = some next) :
    next.IsCovered := by
  unfold IsCovered at h
  unfold Erasure.step? at hstep
  split at hstep
  next =>
    split at hstep
    next =>
      obtain rfl := Option.some.inj hstep
      exact h
    next count reaches hreaches =>
      obtain ⟨kept, hkept, rfl⟩ := Option.map_eq_some_iff.mp hstep
      obtain ⟨dropped, hdropped, rfl⟩ := dropBytes?_eq_some_iff.mp hkept
      rw [hreaches, hdropped, List.foldr_cons, byteCount_append] at h
      exact Nat.le_of_add_le_add_left h
  next =>
    obtain rfl := Option.some.inj hstep
    have hreach : reach cluster ≤ byteCount cluster := Nat.mod_le _ _
    rw [IsCovered, List.foldr_cons, byteCount_append, byteCount_reverse]
    exact Nat.add_le_add hreach h

/-- A backspace is next that reaches into a character. -/
def IsStuck (state : Erasure) : Prop :=
  ∃ count reaches, state.reaches = count :: reaches ∧ EndsInside count state.kept

/-- One more cluster cannot be taken in exactly if it is a backspace that reaches into a
character. -/
theorem IsCovered.step?_eq_none_iff (h : state.IsCovered) :
    state.step? cluster = none ↔ cluster = [backspace] ∧ state.IsStuck := by
  unfold IsCovered at h
  unfold Erasure.step? IsStuck
  split
  next hcluster =>
    split
    next hreaches => simp [hreaches]
    next count reaches hreaches =>
      have hcount : count ≤ byteCount state.kept := by
        rw [hreaches, List.foldr_cons] at h
        exact Nat.le_trans (Nat.le_add_right count _) h
      simp [hreaches, hcluster, dropBytes?_eq_none_iff hcount]
  next hcluster => simp [hcluster]

/-- Taking in clusters fails exactly where a backspace among them reaches into a character. -/
theorem IsCovered.foldlM_eq_none_iff (h : state.IsCovered) :
    pieces.foldlM Erasure.step? state = none ↔
      ∃ before after last, pieces = before ++ [backspace] :: after ∧
        before.foldlM Erasure.step? state = some last ∧ last.IsStuck := by
  -- each cluster that is taken in leaves the bytes covered
  induction pieces generalizing state with
  | nil => simp
  | cons piece pieces ih =>
    rw [List.foldlM_cons]
    cases hstep : state.step? piece with
    | none =>
      obtain ⟨rfl, hstuck⟩ := h.step?_eq_none_iff.mp hstep
      exact ⟨fun _ => ⟨[], pieces, state, rfl, rfl, hstuck⟩, fun _ => rfl⟩
    | some next =>
      refine (ih (h.step? hstep)).trans ⟨?_, ?_⟩
      · rintro ⟨before, after, last, rfl, hlast, hstuck⟩
        refine ⟨piece :: before, after, last, rfl, ?_, hstuck⟩
        rw [List.foldlM_cons, hstep]
        exact hlast
      · rintro ⟨before, after, last, hpieces, hlast, hstuck⟩
        cases before with
        | nil =>
          obtain ⟨rfl, rfl⟩ := List.cons.inj hpieces
          obtain rfl := Option.some.inj hlast
          rw [h.step?_eq_none_iff.mpr ⟨rfl, hstuck⟩] at hstep
          cases hstep
        | cons first before =>
          obtain ⟨rfl, rfl⟩ := List.cons.inj hpieces
          rw [List.foldlM_cons, hstep] at hlast
          exact ⟨before, after, last, rfl, hlast, hstuck⟩

theorem reverse_kept_ofClusters (left : List (List Char)) :
    (ofClusters left).kept.reverse = left.reverse.flatten := by
  simp only [ofClusters, List.reverse_flatten, List.map_map, Function.comp_def,
    List.reverse_reverse, List.map_id']

/-- Any cluster that is no backspace is kept. -/
theorem step?_of_ne (left : List (List Char)) (h : cluster ≠ [backspace]) :
    (ofClusters left).step? cluster = some (ofClusters (cluster :: left)) := by
  simp [step?, h, ofClusters]

/-- A backspace takes away one cluster, if this is short. -/
theorem step?_backspace (h : ∀ other ∈ left, byteCount other < 256) :
    (ofClusters left).step? [backspace] = some (ofClusters left.tail) := by
  cases left with
  | nil => rfl
  | cons cluster left =>
    have hreach : reach cluster = byteCount cluster.reverse := by
      rw [byteCount_reverse, reach, Nat.mod_eq_of_lt (h cluster List.mem_cons_self)]
    have hdrop := dropBytes?_append cluster.reverse (left.map List.reverse).flatten
    rw [← hreach] at hdrop
    simp [step?, ofClusters, hdrop]

theorem mem_of_mem_pop {other : List Char} (h : other ∈ pop left cluster) :
    other = cluster ∨ other ∈ left := by
  unfold pop at h
  split at h
  next => exact .inr (List.mem_of_mem_tail h)
  next => exact List.mem_cons.mp h

/-- Clusters are taken in one after the other, and each backspace takes away one. Where there is a
backspace, all of them must be short. -/
theorem foldlM_step?
    (h : [backspace] ∈ pieces → ∀ cluster ∈ pieces ++ left, byteCount cluster < 256) :
    pieces.foldlM step? (ofClusters left) = some (ofClusters (pieces.foldl pop left)) := by
  induction pieces generalizing left with
  | nil => rfl
  | cons piece pieces ih =>
    have hstep : (ofClusters left).step? piece = some (ofClusters (pop left piece)) := by
      by_cases hback : piece = [backspace]
      · subst hback
        have hleft : ∀ cluster ∈ left, byteCount cluster < 256 := fun cluster hcluster =>
          h List.mem_cons_self cluster (List.mem_append_right _ hcluster)
        rw [step?_backspace hleft, pop, if_pos rfl]
      · rw [step?_of_ne left hback, pop, if_neg hback]
    have hnext : [backspace] ∈ pieces →
        ∀ cluster ∈ pieces ++ pop left piece, byteCount cluster < 256 := by
      intro hback cluster hcluster
      apply h (List.mem_cons_of_mem _ hback)
      -- what is left was there before or is the new cluster
      obtain hcluster | hcluster := List.mem_append.mp hcluster
      · exact List.mem_append_left _ (List.mem_cons_of_mem _ hcluster)
      · obtain rfl | hcluster := mem_of_mem_pop hcluster
        · exact List.mem_append_left _ List.mem_cons_self
        · exact List.mem_append_right _ hcluster
    rw [List.foldlM_cons, hstep, List.foldl_cons]
    exact ih hnext

theorem foldl_pop_of_forall_ne (h : ∀ piece ∈ pieces, piece ≠ [backspace]) :
    pieces.foldl pop left = pieces.reverse ++ left := by
  induction pieces generalizing left with
  | nil => rfl
  | cons piece pieces ih =>
    have hne : piece ≠ [backspace] := h piece List.mem_cons_self
    rw [List.foldl_cons, ih fun other hmem => h other (List.mem_cons_of_mem _ hmem), pop,
      if_neg hne, List.reverse_cons, List.append_assoc, List.singleton_append]

end Erasure

variable {text : List Char}

theorem backspace_mem_of_mem_clusters (h : [backspace] ∈ clusters text) : backspace ∈ text := by
  rw [← clusters_flatten text]
  exact List.mem_flatten.mpr ⟨[backspace], h, List.mem_singleton_self _⟩

/-- Erasing fails exactly where a backspace reaches into a character of what is left before it. -/
theorem eraseBackspaces?_eq_none_iff : eraseBackspaces? text = none ↔
    ∃ before after last, clusters text = before ++ [backspace] :: after ∧
      before.foldlM Erasure.step? .empty = some last ∧ last.IsStuck := by
  rw [eraseBackspaces?, Option.map_eq_none_iff, Erasure.isCovered_empty.foldlM_eq_none_iff]

/-- Where the clusters of a text are short, each backspace erases the cluster that is left before
it, and nothing else is lost. -/
theorem eraseBackspaces?_of_forall_short
    (h : backspace ∈ text → ∀ cluster ∈ clusters text, byteCount cluster < 256) :
    eraseBackspaces? text = some ((clusters text).foldl Erasure.pop []).reverse.flatten := by
  have hfold : (clusters text).foldlM Erasure.step? (.ofClusters []) =
      some (.ofClusters ((clusters text).foldl Erasure.pop [])) := by
    apply Erasure.foldlM_step?
    intro hback
    rw [List.append_nil]
    exact h (backspace_mem_of_mem_clusters hback)
  have hempty : Erasure.empty = .ofClusters [] := rfl
  rw [eraseBackspaces?, hempty, hfold, Option.map_some, Erasure.reverse_kept_ofClusters]

/-- A text without backspaces stays as it is. -/
theorem eraseBackspaces?_of_not_mem (h : backspace ∉ text) : eraseBackspaces? text = some text := by
  have hne : ∀ piece ∈ clusters text, piece ≠ [backspace] := by
    rintro piece hpiece rfl
    exact h (backspace_mem_of_mem_clusters hpiece)
  rw [eraseBackspaces?_of_forall_short fun hmem => absurd hmem h,
    Erasure.foldl_pop_of_forall_ne hne, List.append_nil, List.reverse_reverse, clusters_flatten]

theorem exists_eq_dropLineEnding_append (piece : List Char) :
    ∃ ending, piece = dropLineEnding piece ++ ending := by
  unfold dropLineEnding
  split
  next reversed h => exact ⟨['\r', '\n'], by rw [← List.reverse_reverse piece, h]; simp⟩
  next reversed h => exact ⟨['\n'], by rw [← List.reverse_reverse piece, h]; simp⟩
  next => exact ⟨[], (List.append_nil piece).symm⟩

end Text

/-- A character can be cut in a line of at least 256 bytes only. -/
theorem Input.le_length_of_cutCharacter {line : List UInt8}
    (h : Input.read line = .error .cutCharacter) : 256 ≤ line.length := by
  unfold Input.read at h
  split at h
  next => cases h
  next text hdecode =>
    split at h
    next herase =>
      apply Nat.le_of_not_lt
      intro hshort
      -- the line has the bytes of its clusters, and so none of these is long
      have hsize : Text.byteCount text.toList = line.length := by
        have hbytes : text.utf8ByteSize = text.toUTF8.size := rfl
        rw [Text.byteCount_toList, hbytes, Text.toUTF8_of_fromUTF8? hdecode]
        rfl
      rw [Text.eraseBackspaces?_of_forall_short] at herase
      · cases herase
      · intro _ cluster hcluster
        have hcluster := Text.byteCount_le_flatten hcluster
        rw [Text.clusters_flatten] at hcluster
        obtain ⟨ending, hending⟩ := Text.exists_eq_dropLineEnding_append text.toList
        rw [hending, Text.byteCount_append] at hsize
        omega
    next => cases h

end TextShell
