import VoucherDesk.Proofs.Files
import VoucherDesk.Proofs.Paths
import VoucherDesk.Proofs.Text.Blank

/-!
# Codes in their directory

Whatever a voucher is called, the file for its codes is named by one plain part of a path, and so
it lies in the directory that it is written into and in no other. It holds one line for each code,
and nothing else is written.
-/

namespace VoucherDesk.Export

open FileTree

section Names

/-- No character that is allowed in a file name leads out of a directory. -/
theorem safe_of_mem_map {c : Char} {cs : List Char} (h : c ∈ cs.map safeChar) :
    c ≠ '/' ∧ c ≠ '\\' ∧ c ≠ '\x00' := by
  obtain ⟨d, -, rfl⟩ := List.mem_map.mp h
  unfold safeChar
  split
  · decide
  · next hd => simpa using hd

/-- A file name is a text without such characters, with an ending. -/
theorem exists_fileName_eq (name : String) :
    ∃ safe, fileName name = safe ++ ".txt" ∧
      ∀ c ∈ safe.toList, c ≠ '/' ∧ c ≠ '\\' ∧ c ≠ '\x00' := by
  refine ⟨_, rfl, fun c hc => ?_⟩
  split at hc
  · have hsame : "redemption".toList.map safeChar = "redemption".toList := by decide
    rw [← hsame] at hc
    exact safe_of_mem_map hc
  · rw [Text.trim, String.toList_ofList] at hc
    have hmem : c ∈ (name.map safeChar).toList := Text.mem_of_mem_trimBoth hc
    rw [String.toList_map] at hmem
    exact safe_of_mem_map hmem

/-- No character of a file name is a slash of either kind or the null character. -/
theorem fileName_safe (name : String) :
    ∀ c ∈ (fileName name).toList, c ≠ '/' ∧ c ≠ '\\' ∧ c ≠ '\x00' := by
  obtain ⟨safe, hname, hsafe⟩ := exists_fileName_eq name
  have hsame : ".txt".toList.map safeChar = ".txt".toList := by decide
  rw [hname, String.toList_append]
  refine List.forall_mem_append.mpr ⟨hsafe, fun c hc => ?_⟩
  rw [← hsame] at hc
  exact safe_of_mem_map hc

/-- A file name is a plain part of a path. -/
theorem isPlain_fileName (name : String) : IsPlain (fileName name) := by
  obtain ⟨safe, hname, -⟩ := exists_fileName_eq name
  refine ⟨?_, ?_, fun hslash => (fileName_safe name _ hslash).1 rfl⟩
  · simp [hname]
  · intro hdot
    have hlength := congrArg List.length hdot
    simp [hname] at hlength

end Names

section Lines

/-- The text of codes, character by character. -/
theorem toList_textOf (codes : List String) :
    (textOf codes).toList = codes.flatMap fun code => code.toList ++ ['\n'] := by
  rw [textOf, String.toList_join, List.flatMap_map]
  exact List.flatMap_congr fun code _ => String.toList_append

/-- The lines of the text are the codes, if no code is made of several lines. -/
theorem splitOn_textOf {codes : List String} (h : ∀ code ∈ codes, '\n' ∉ code.toList) :
    (textOf codes).toList.splitOn '\n' = codes.map String.toList ++ [[]] := by
  have hcodes : ∀ line ∈ codes.map String.toList, '\n' ∉ line := List.forall_mem_map.mpr h
  rw [toList_textOf, ← Text.splitOn_flatMap_concat hcodes, List.flatMap_map]

end Lines

/-- The parts with a home directory in front are those of a path. -/
theorem isPath_expand {homes : String → Option String} {parts after : List String}
    (hparts : IsPath parts) (h : expand homes parts = some after) : IsPath after := by
  cases parts with
  | nil =>
    cases h
    exact hparts
  | cons first rest =>
    simp only [expand] at h
    split at h
    · split at h
      · split at h
        · cases h
        · cases h
          exact (isPath_pathParts _).append hparts.tail
      · cases h
    · cases h
      exact hparts

/-- Whatever a voucher is called and wherever the directory for its codes is, once the codes are
written the path that is told is that of the directory with one plain part after it, the name of
the file, and leads to a file in the directory. The file holds the codes in their order, each with
a line feed after it, and no other file is changed. -/
theorem codes_stay_in_directory (tree after : FileTree) (directory name path : String)
    (codes : List String) (h : write tree directory name codes = .ok (after, path)) :
    ∃ parts here, expand tree.homes (pathParts directory) = some parts ∧
      pathParts path = parts ++ [fileName name] ∧
      (∀ c ∈ (fileName name).toList, c ≠ '/' ∧ c ≠ '\\' ∧ c ≠ '\x00') ∧
      fileName name ≠ "." ∧ fileName name ≠ ".." ∧
      after.walk [] parts = .ok here ∧ after.isDirectory here = true ∧
      after.walk [] (pathParts path) = .ok (here ++ [fileName name]) ∧
      after.read? (here ++ [fileName name]) = some (textOf codes) ∧
      (textOf codes).toList = codes.flatMap (fun code => code.toList ++ ['\n']) ∧
      ((∀ code ∈ codes, '\n' ∉ code.toList) →
        (textOf codes).toList.splitOn '\n' = codes.map String.toList ++ [[]]) ∧
      ∀ other, other ≠ here ++ [fileName name] → after.read? other = tree.read? other := by
  obtain ⟨parts, hparts, rfl, here, hhere, hdirectory, hwalk, hread, hothers⟩ :=
    directory_of_write h
  have hpath : pathParts (pathOf parts (fileName name)) = parts ++ [fileName name] :=
    pathParts_pathText ((isPath_expand (isPath_pathParts directory) hparts).append
      (List.forall_mem_singleton.mpr (isPlain_fileName name)))
  refine ⟨parts, here, hparts, hpath, fileName_safe name, fun hdot => ?_, fileName_ne_up name,
    hhere, hdirectory, ?_, hread, toList_textOf codes, splitOn_textOf, hothers⟩
  · exact (isPlain_fileName name).ne_dot (congrArg String.toList hdot)
  · rw [hpath]
    exact hwalk

/-- A name that looks like a way up is a file in the home directory all the same. -/
theorem codes_stay_at_home :
    let homes : String → Option String := fun first => if first = "~" then some "/home/" else none
    ∃ after path, write { homes } "~//out/." "../a\\b " ["k1", "k2"] = .ok (after, path) ∧
      ∃ parts here, expand homes (pathParts "~//out/.") = some parts ∧
        pathParts path = parts ++ [".._a_b.txt"] ∧
        after.walk [] (pathParts path) = .ok (here ++ [".._a_b.txt"]) ∧
        after.read? (here ++ [".._a_b.txt"]) = some (textOf ["k1", "k2"]) ∧
        (textOf ["k1", "k2"]).toList.splitOn '\n' = [['k', '1'], ['k', '2'], []] := by
  intro homes
  have hname : fileName "../a\\b " = ".._a_b.txt" := by
    have htrim : Text.trim ("../a\\b ".map safeChar) = ".._a_b" := by
      rw [Text.trim, String.toList_map]
      decide
    have hsome : ".._a_b".isEmpty = false := by decide
    simp only [fileName, htrim, hsome]
    rfl
  have hwrite : write { homes } "~//out/." "../a\\b " ["k1", "k2"] =
      .ok ({ files := [(["/", "home", "out", ".._a_b.txt"], "k1\nk2\n")],
             directories := [["/", "home"], ["/", "home", "out"]], homes },
        "/home/out/.._a_b.txt") := by
    have hparts : pathParts "~//out/." = ["~", "out"] := by
      simp only [pathParts, segments, String.reduceToList]
      rfl
    have hhome : pathParts "/home/" = ["/", "home"] := by
      simp only [pathParts, segments, String.reduceToList]
      rfl
    have hexpand : expand homes ["~", "out"] = some ["/", "home", "out"] := by
      simp [expand, homes, hhome]
    have htext : textOf ["k1", "k2"] = "k1\nk2\n" := by decide
    simp only [write, hname, hparts, hexpand, htext]
    rfl
  obtain ⟨parts, here, hparts, hpath, -, -, -, -, -, hwalk, hread, -, hlines, -⟩ :=
    codes_stay_in_directory _ _ _ _ _ _ hwrite
  rw [hname] at hpath hwalk hread
  exact ⟨_, _, hwrite, parts, here, hparts, hpath, hwalk, hread, hlines (by decide)⟩

end VoucherDesk.Export
