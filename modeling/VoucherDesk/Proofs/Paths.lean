import VoucherDesk.FileTree
import VoucherDesk.Proofs.Text.Pieces

/-!
# Paths and their texts

A path is written from its parts and read into them again: the parts that a text is read into have
no slashes inside, say something, and come after one root at most, and such parts are what the text
that is written from them is read into.
-/

namespace VoucherDesk.FileTree

/-- A part of a path says something: it has no slash, and is neither empty nor a single dot. -/
structure IsPlain (part : String) : Prop where
  ne_nil : part.toList ≠ []
  ne_dot : part.toList ≠ ['.']
  no_slash : '/' ∉ part.toList

/-- The parts of a path are plain, but for a root in front of them. -/
inductive IsPath : List String → Prop where
  | relative {rest : List String} (plain : ∀ p ∈ rest, IsPlain p) : IsPath rest
  | absolute {rest : List String} (plain : ∀ p ∈ rest, IsPlain p) : IsPath ("/" :: rest)
  | doubled {rest : List String} (plain : ∀ p ∈ rest, IsPlain p) : IsPath ("//" :: rest)

variable {path : List Char} {part : String} {parts rest more : List String}

/-- Plain parts after those of a path make a longer path. -/
theorem IsPath.append (h : IsPath parts) (hmore : ∀ p ∈ more, IsPlain p) :
    IsPath (parts ++ more) := by
  cases h with
  | relative plain => exact .relative (List.forall_mem_append.mpr ⟨plain, hmore⟩)
  | absolute plain => exact .absolute (List.forall_mem_append.mpr ⟨plain, hmore⟩)
  | doubled plain => exact .doubled (List.forall_mem_append.mpr ⟨plain, hmore⟩)

/-- The parts after the first one of a path are plain. -/
theorem IsPath.tail (h : IsPath (part :: rest)) : ∀ p ∈ rest, IsPlain p := by
  cases h with
  | relative plain => exact fun p hp => plain p (List.mem_cons_of_mem _ hp)
  | absolute plain => exact plain
  | doubled plain => exact plain

section Reading

/-- What stands between slashes is plain. -/
theorem isPlain_of_mem_segments (h : part ∈ segments path) : IsPlain part := by
  obtain ⟨cs, hcs, rfl⟩ := List.mem_map.mp h
  obtain ⟨hsplit, hsays⟩ := List.mem_filter.mp hcs
  obtain ⟨hnil, hdot⟩ : cs ≠ [] ∧ cs ≠ ['.'] := by simpa using hsays
  rw [← String.toList_ofList (l := cs)] at hnil hdot
  refine ⟨hnil, hdot, ?_⟩
  rw [String.toList_ofList]
  exact Text.notMem_of_mem_splitOn hsplit

/-- The parts that a text is read into are those of a path. -/
theorem isPath_pathParts (path : String) : IsPath (pathParts path) := by
  have hplain : ∀ p ∈ segments path.toList, IsPlain p := fun p => isPlain_of_mem_segments
  unfold pathParts rootOf
  split
  · exact .absolute hplain
  · exact .doubled hplain
  · exact .absolute hplain
  · exact .relative hplain

end Reading

section Writing

/-- A slash in front says nothing about what stands between slashes. -/
theorem segments_cons_slash (path : List Char) : segments ('/' :: path) = segments path := by
  rw [segments, segments, List.splitOn_cons_eq_if_modifyHead, if_pos (beq_self_eq_true '/'),
    List.filter_cons_of_neg (by simp)]

/-- Plain parts stand between the slashes of the text that is written from them. -/
theorem segments_intercalate (h : ∀ p ∈ rest, IsPlain p) :
    segments ("/".intercalate rest).toList = rest := by
  by_cases hrest : rest = []
  · subst hrest
    rfl
  have hslash : ∀ l ∈ rest.map String.toList, '/' ∉ l :=
    List.forall_mem_map.mpr fun p hp => (h p hp).no_slash
  have hsplit : (("/".intercalate rest).toList).splitOn '/' = rest.map String.toList := by
    rw [String.toList_intercalate]
    exact List.splitOn_intercalate '/' hslash (by simpa using hrest)
  have hsays : (rest.map String.toList).filter (fun p => p != [] && p != ['.']) =
      rest.map String.toList := by
    refine List.filter_eq_self.mpr (List.forall_mem_map.mpr fun p hp => ?_)
    simp [(h p hp).ne_nil, (h p hp).ne_dot]
  rw [segments, hsplit, hsays, List.map_map]
  simp [Function.comp_def]

/-- The text that is written from plain parts does not begin with a slash. -/
theorem head?_intercalate (h : ∀ p ∈ rest, IsPlain p) :
    ("/".intercalate rest).toList.head? ≠ some '/' := by
  cases rest with
  | nil => simp
  | cons first others =>
    have hfirst := h first (List.mem_cons_self ..)
    obtain ⟨c, cs, hc⟩ := List.exists_cons_of_ne_nil hfirst.ne_nil
    have hslash : c ≠ '/' := fun heq => hfirst.no_slash (by simp [hc, heq])
    cases others <;> simp [String.toList_intercalate, hc, hslash]

/-- A text that does not begin with a slash has no root. -/
theorem rootOf_relative (h : path.head? ≠ some '/') : rootOf path = [] := by
  unfold rootOf
  split <;> simp_all

/-- A text with one slash in front has that root. -/
theorem rootOf_absolute (h : path.head? ≠ some '/') : rootOf ('/' :: path) = ["/"] := by
  cases path with
  | nil => rfl
  | cons c rest =>
    have hc : c ≠ '/' := by simpa using h
    simp [rootOf, hc]

/-- A text with two slashes in front and no more has that root. -/
theorem rootOf_doubled (h : path.head? ≠ some '/') : rootOf ('/' :: '/' :: path) = ["//"] := by
  cases path with
  | nil => rfl
  | cons c rest =>
    have hc : c ≠ '/' := by simpa using h
    simp [rootOf, hc]

/-- Plain parts are written with slashes between them. -/
theorem pathText_of_plain (h : ∀ p ∈ rest, IsPlain p) (hne : rest ≠ []) :
    pathText rest = "/".intercalate rest := by
  unfold pathText
  split
  · exact absurd rfl hne
  · exact absurd (h "/" (List.mem_cons_self ..)).no_slash (by decide)
  · exact absurd (h "//" (List.mem_cons_self ..)).no_slash (by decide)
  · rfl

/-- A path is read into the parts that it is written from. -/
theorem pathParts_pathText (h : IsPath parts) : pathParts (pathText parts) = parts := by
  cases h with
  | relative plain =>
    by_cases hne : parts = []
    · subst hne
      decide
    · rw [pathText_of_plain plain hne, pathParts, rootOf_relative (head?_intercalate plain),
        segments_intercalate plain, List.nil_append]
  | @absolute rest plain =>
    have htext : (pathText ("/" :: rest)).toList = '/' :: ("/".intercalate rest).toList :=
      String.toList_append
    rw [pathParts, htext, rootOf_absolute (head?_intercalate plain), segments_cons_slash,
      segments_intercalate plain]
    rfl
  | @doubled rest plain =>
    have htext : (pathText ("//" :: rest)).toList =
        '/' :: '/' :: ("/".intercalate rest).toList := String.toList_append
    rw [pathParts, htext, rootOf_doubled (head?_intercalate plain), segments_cons_slash,
      segments_cons_slash, segments_intercalate plain]
    rfl

end Writing

end VoucherDesk.FileTree
