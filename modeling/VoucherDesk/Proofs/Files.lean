import Mathlib.Tactic.Tauto
import VoucherDesk.Export
import VoucherDesk.Proofs.Failure

/-!
# Files that are written

A directory that has been made is found again on the path that it was made for, and so is a text
that is then written into it: nothing that is made or written takes a directory away.
-/

namespace VoucherDesk

namespace FileTree

variable {tree after : FileTree} {here place : Place} {part name text : String}
  {parts : List String}

/-- The text that is found on a path from the working directory. -/
def textAt (tree : FileTree) (parts : List String) : Option String :=
  (tree.walk [] parts).toOption.bind tree.read?

/-- Whether all directories are still there later. -/
def KeepsDirectories (tree after : FileTree) : Prop :=
  ∀ place, tree.isDirectory place = true → after.isDirectory place = true

/-- Whether there are directories at a place and at every place above it. -/
def IsReached (tree : FileTree) (place : Place) : Prop :=
  ∀ above, above <+: place → tree.isDirectory above = true

theorem IsReached.isDirectory (h : tree.IsReached place) : tree.isDirectory place = true :=
  h place (List.prefix_refl place)

theorem IsReached.mono (h : tree.IsReached place) (hkeeps : tree.KeepsDirectories after) :
    after.IsReached place := fun above habove => hkeeps above (h above habove)

theorem isReached_nil (tree : FileTree) : tree.IsReached [] := by
  intro above habove
  rw [List.prefix_nil.mp habove]
  rfl

/-- A place is reached through the directory above it. -/
theorem IsReached.append (h : tree.IsReached here) (hplace : tree.isDirectory (here ++ [part])) :
    tree.IsReached (here ++ [part]) := by
  intro above habove
  rcases List.prefix_concat_iff.mp habove with rfl | hup
  · exact hplace
  · exact h above hup

/-- The directory above a place that is reached is reached. -/
theorem IsReached.up (h : tree.IsReached here) : tree.IsReached (up here) := by
  unfold FileTree.up
  split
  · exact h
  split
  · next habove =>
    refine h.append ?_
    simp [FileTree.isDirectory, habove]
  · exact fun above habove => h above (habove.trans (List.dropLast_prefix here))

/-- A place that is named in a directory that is reached is reached if it is a directory. -/
theorem IsReached.next (h : tree.IsReached here)
    (hplace : tree.isDirectory (next here part) = true) : tree.IsReached (next here part) := by
  unfold FileTree.next at hplace ⊢
  split
  · exact h.up
  · next hup =>
    rw [if_neg hup] at hplace
    split at hplace
    · next hroot =>
      rw [if_pos hroot]
      exact h.append hplace
    · next hroot =>
      rw [if_neg hroot]
      exact h.append hplace

/-- A part of a path that is not too long leads from a directory to the place that it names. -/
theorem walk_cons (hhere : tree.isDirectory here = true)
    (hshort : ¬ maxNameBytes < part.utf8ByteSize) (rest : List String) :
    tree.walk here (part :: rest) = tree.walk (next here part) rest := by
  rw [walk, hhere, Bool.not_true, if_neg Bool.false_ne_true, if_neg hshort]

/-- A step of a path whose directory is reached leads where making that directory leads. -/
theorem enter_eq_ok {isLast : Bool} (h : tree.enter here part isLast = .ok (after, place))
    (hhere : tree.IsReached here) :
    tree.KeepsDirectories after ∧ after.IsReached place ∧
      ∀ {later : FileTree}, later.isDirectory here = true → ∀ rest,
        later.walk here (part :: rest) = later.walk place rest := by
  unfold enter at h
  split at h
  · cases h
  next hshort =>
  dsimp only at h
  split at h
  · next hthere =>
    cases h
    exact ⟨fun _ => id, hhere.next hthere, fun hlater => walk_cons hlater hshort⟩
  · split at h
    · cases h
    · cases h
      have hkeeps : tree.KeepsDirectories
          { tree with directories := tree.directories ++ [FileTree.next here part] } := by
        intro p hp
        simp only [isDirectory, Bool.or_eq_true, List.contains_iff_mem, List.mem_append] at hp ⊢
        tauto
      refine ⟨hkeeps, (hhere.mono hkeeps).next ?_, fun hlater => walk_cons hlater hshort⟩
      simp [isDirectory]

/-- The path for which directories have been made leads to the last of them, also later on. -/
theorem walk_of_makeDirectory (h : tree.makeDirectory here parts = .ok (after, place))
    (hhere : tree.IsReached here) :
    tree.KeepsDirectories after ∧ after.IsReached place ∧
      ∀ {later : FileTree}, after.KeepsDirectories later → ∀ rest,
        later.walk here (parts ++ rest) = later.walk place rest := by
  induction parts generalizing tree here with
  | nil =>
    cases h
    exact ⟨fun _ => id, hhere, fun _ _ => rfl⟩
  | cons part more ih =>
    unfold makeDirectory at h
    obtain ⟨⟨between, next⟩, henter, hmore⟩ := bind_eq_ok.mp h
    obtain ⟨hkeeps, hnext, hstep⟩ := enter_eq_ok henter hhere
    obtain ⟨hkeeps', hplace, hwalk⟩ := ih hmore hnext
    refine ⟨fun p hp => hkeeps' p (hkeeps p hp), hplace, fun hlater rest => ?_⟩
    have hdirectory := hlater _ (hkeeps' _ (hkeeps _ hhere.isDirectory))
    rw [List.cons_append, hstep hdirectory]
    exact hwalk hlater rest

/-- Directories are made without touching a file. -/
theorem files_of_makeDirectory (h : tree.makeDirectory here parts = .ok (after, place)) :
    after.files = tree.files := by
  induction parts generalizing tree here with
  | nil =>
    cases h
    rfl
  | cons part more ih =>
    unfold makeDirectory at h
    obtain ⟨⟨between, next⟩, henter, hmore⟩ := bind_eq_ok.mp h
    have hfirst : between.files = tree.files := by
      unfold enter at henter
      dsimp only at henter
      split at henter
      · cases henter
      split at henter
      · cases henter
        rfl
      split at henter
      · cases henter
      · cases henter
        rfl
    exact (ih hmore).trans hfirst

/-- A text that is put at a place is read there. -/
theorem read?_put (tree : FileTree) (place : Place) (text : String) :
    (tree.put place text).read? place = some text := by
  have hnone : (tree.files.filter fun f => f.1 != place).lookup place = none := by
    rw [List.lookup_eq_none_iff]
    intro f hf
    have hother : f.1 ≠ place := bne_iff_ne.mp (List.mem_filter.mp hf).2
    exact bne_iff_ne.mpr hother.symm
  simp [read?, put, List.lookup_append, hnone]

/-- A text that is put at a place changes no file at another place. -/
theorem read?_put_of_ne (tree : FileTree) {place other : Place} (text : String)
    (hne : other ≠ place) : (tree.put place text).read? other = tree.read? other := by
  have hlast : [(place, text)].lookup other = none := by
    rw [List.lookup_cons, beq_false_of_ne hne]
    rfl
  have hrest : (tree.files.filter fun f => f.1 != place).lookup other =
      tree.files.lookup other := by
    induction tree.files with
    | nil => rfl
    | cons f rest ih =>
      obtain ⟨p, t⟩ := f
      by_cases hp : p = place
      · have hdropped : other ≠ p := hp ▸ hne
        rw [List.filter_cons_of_neg (by simpa using hp), ih, List.lookup_cons,
          beq_false_of_ne hdropped]
      · rw [List.filter_cons_of_pos (by simpa using hp), List.lookup_cons, List.lookup_cons, ih]
  rw [read?, put, List.lookup_append, hrest, hlast, Option.or_none, read?]

/-- A text that is put somewhere takes no directory away. -/
theorem keepsDirectories_put (tree : FileTree) (place : Place) (text : String) :
    tree.KeepsDirectories (tree.put place text) := by
  intro p hp
  simp only [isDirectory, put, Bool.or_eq_true, List.any_eq_true] at hp ⊢
  refine hp.imp_right fun ⟨f, hf, hbelow⟩ => ?_
  by_cases hsame : f.1 = place
  · exact ⟨(place, text), by simp, hsame ▸ hbelow⟩
  · exact ⟨f, List.mem_append_left _ (List.mem_filter.mpr ⟨hf, by simpa using hsame⟩), hbelow⟩

/-- A text that is written into a directory that is reached is found there. -/
theorem walk_of_write (h : tree.write here name text = .ok after) (hhere : tree.IsReached here)
    (hname : name ≠ "..") (hroot : name ≠ "//") :
    tree.KeepsDirectories after ∧ after.walk here [name] = .ok (here ++ [name]) ∧
      after.read? (here ++ [name]) = some text := by
  unfold write at h
  dsimp only at h
  split at h
  · cases h
  next hshort =>
  split at h
  · cases h
  cases h
  have hkeeps := keepsDirectories_put tree (here ++ [name]) text
  have hdirectory := hkeeps _ hhere.isDirectory
  refine ⟨hkeeps, ?_, read?_put ..⟩
  rw [walk_cons hdirectory hshort, next, if_neg hname, if_neg hroot, walk]

end FileTree

namespace Export

/-- The path of the file for the codes of a voucher, part by part. A tilde stands for itself only
where there is no home directory for it, and no codes are written. -/
def partsOf (tree : FileTree) (directory name : String) : List String :=
  let parts := FileTree.pathParts directory
  (expand tree.homes parts).getD parts ++ [fileName name]

/-- No file for codes stands for the directory above. -/
theorem fileName_ne_up (name : String) : fileName name ≠ ".." := by
  intro h
  have hlength := congrArg String.length h
  simp only [fileName, String.length_append] at hlength
  have htxt : ".txt".length = 4 := by decide
  have hup : "..".length = 2 := by decide
  omega

/-- No file for codes stands for the root. -/
theorem fileName_ne_root (name : String) : fileName name ≠ "//" := by
  intro h
  have hlength := congrArg String.length h
  simp only [fileName, String.length_append] at hlength
  have htxt : ".txt".length = 4 := by decide
  have hroot : "//".length = 2 := by decide
  omega

/-- A plain name gets its ending and nothing else. -/
theorem fileName_spring : fileName "spring" = "spring.txt" := by
  have htrim : Text.trim ("spring".map safeChar) = "spring" := by
    rw [Text.trim, String.toList_map]
    decide
  have hsome : "spring".isEmpty = false := by decide
  simp only [fileName, htrim, hsome]
  rfl

/-- The path of a plain directory has one part. -/
theorem pathParts_out : FileTree.pathParts "out" = ["out"] := by
  simp only [FileTree.pathParts, FileTree.segments, String.reduceToList]
  rfl

/-- A code is written into a plain directory, which is made for it. -/
theorem write_spring :
    write {} "out" "spring" ["code-1"] =
      .ok ({ files := [(["out", "spring.txt"], "code-1\n")], directories := [["out"]] },
        "out/spring.txt") := by
  have htext : textOf ["code-1"] = "code-1\n" := rfl
  simp only [write, fileName_spring, pathParts_out, htext]
  rfl

variable {tree after : FileTree} {directory name path : String} {codes : List String}

/-- Codes that have been written are found in the file of the voucher, in the directory that the
path leads to, and no other file is changed. -/
theorem directory_of_write (h : write tree directory name codes = .ok (after, path)) :
    ∃ parts, expand tree.homes (FileTree.pathParts directory) = some parts ∧
      path = pathOf parts (fileName name) ∧
      ∃ here, after.walk [] parts = .ok here ∧ after.isDirectory here = true ∧
        after.walk [] (parts ++ [fileName name]) = .ok (here ++ [fileName name]) ∧
        after.read? (here ++ [fileName name]) = some (textOf codes) ∧
        ∀ other, other ≠ here ++ [fileName name] → after.read? other = tree.read? other := by
  unfold write at h
  split at h
  · cases h
  next parts hparts =>
  split at h
  · cases h
  split at h
  · cases h
  next made here hmade =>
  split at h
  · cases h
  next written hwritten =>
  cases h
  obtain ⟨-, hreached, hwalk⟩ := FileTree.walk_of_makeDirectory hmade (FileTree.isReached_nil tree)
  obtain ⟨hkeeps, hlast, hread⟩ := FileTree.walk_of_write hwritten hreached (fileName_ne_up name)
    (fileName_ne_root name)
  have hhere : after.walk [] parts = .ok here := by
    have hwhole := hwalk hkeeps []
    rw [List.append_nil] at hwhole
    exact hwhole
  refine ⟨parts, hparts, rfl, here, hhere, hkeeps _ hreached.isDirectory,
    (hwalk hkeeps _).trans hlast, hread, fun other hother => ?_⟩
  unfold FileTree.write at hwritten
  dsimp only at hwritten
  split at hwritten
  · cases hwritten
  split at hwritten
  · cases hwritten
  cases hwritten
  rw [FileTree.read?_put_of_ne _ _ hother, FileTree.read?, FileTree.files_of_makeDirectory hmade,
    FileTree.read?]

/-- Codes that have been written are found, one on each line and in their order, in the file of the
voucher, whose path is told. No other file is changed. -/
theorem place_of_write (h : write tree directory name codes = .ok (after, path)) :
    path = FileTree.pathText (partsOf tree directory name) ∧
      ∃ place, after.walk [] (partsOf tree directory name) = .ok place ∧
        after.read? place = some (textOf codes) ∧
        ∀ other, other ≠ place → after.read? other = tree.read? other := by
  obtain ⟨parts, hparts, hpath, here, -, -, hwalk, hread, hothers⟩ := directory_of_write h
  have hwhole : partsOf tree directory name = parts ++ [fileName name] := by
    simp only [partsOf, hparts, Option.getD_some]
  rw [hwhole]
  exact ⟨hpath, _, hwalk, hread, hothers⟩

/-- In particular the text of that file is that of the codes. -/
theorem textAt_of_write (h : write tree directory name codes = .ok (after, path)) :
    path = FileTree.pathText (partsOf tree directory name) ∧
      after.textAt (partsOf tree directory name) = some (textOf codes) := by
  obtain ⟨hpath, place, hwalk, hread, -⟩ := place_of_write h
  exact ⟨hpath, by simp only [FileTree.textAt, hwalk, Except.toOption, Option.bind_some, hread]⟩

end Export

end VoucherDesk
