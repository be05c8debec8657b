import Mathlib.Data.String.Basic
import VoucherDesk.Filter.WordList
import VoucherDesk.Proofs.Failure
import VoucherDesk.Proofs.Text.Blank
import VoucherDesk.Proofs.Text.Pieces

/-!
# Reading word lists back

A word list is read line by line when it is used, and line by line again when it is shown. Both
ways read the same entries: the lines without the blanks around them, unless nothing is left,
each of which is a word, a pattern or a refusal. The text of a list has each of its entries on a
line of its own. Reading gives lists in a canonical form only, and the lists in this form are
just those that are read back from their text.
-/

namespace VoucherDesk.WordList

section Lines

variable {cs : List Char} {text : String}

/-- The lines of the rest of a text, after the start of a line. -/
theorem split_eq_splitOn (start cs : List Char) :
    lines.split start cs = (cs.splitOn '\n').modifyHead (start.reverse ++ ·) := by
  induction cs generalizing start with
  | nil => simp [lines.split]
  | cons c rest ih =>
    rw [lines.split, List.splitOn_cons_eq_if_modifyHead, ih, ih]
    by_cases hc : c = '\n'
    · rw [if_pos hc, if_pos (beq_iff_eq.mpr hc), List.modifyHead_cons, List.append_nil]
      exact congrArg (start.reverse :: ·) (congrFun List.modifyHead_id _)
    · rw [if_neg hc, if_neg (beq_iff_eq.not.mpr hc), List.modifyHead_modifyHead]
      simp [Function.comp_def]

/-- The lines of a text are what stands between its line feeds. -/
theorem lines_eq_splitOn (text : String) : lines text = text.toList.splitOn '\n' := by
  rw [lines, split_eq_splitOn]
  exact congrFun List.modifyHead_id _

/-- The entries of lines: what is left of them without the blanks around them. -/
def entriesOf (ls : List (List Char)) : List (List Char) :=
  (ls.map Text.trimChars).filter fun l => !l.isEmpty

/-- The entries of a text: its lines without blanks around them, unless nothing is left. -/
def entryLines (text : String) : List (List Char) := entriesOf (lines text)

/-- Whether characters are an entry as they stand: not empty, trimmed, and on one line. -/
structure IsEntry (cs : List Char) : Prop where
  ne_nil : cs ≠ []
  trimmed : Text.trimChars cs = cs
  oneLine : '\n' ∉ cs

/-- The entries of a text are entries as they stand. -/
theorem isEntry_of_mem_entryLines (h : cs ∈ entryLines text) : IsEntry cs := by
  obtain ⟨hmem, hne⟩ := List.mem_filter.mp h
  obtain ⟨line, hline, rfl⟩ := List.mem_map.mp hmem
  refine ⟨by simpa using hne, Text.trimBoth_trimBoth, fun hfeed => ?_⟩
  rw [lines_eq_splitOn] at hline
  exact Text.notMem_of_mem_splitOn hline (Text.mem_of_mem_trimBoth hfeed)

/-- Entries that each stand on a line of their own are read as they stand. -/
theorem entryLines_of_isEntry {entries : List (List Char)} (h : ∀ cs ∈ entries, IsEntry cs)
    (htext : text.toList = entries.flatMap (· ++ ['\n'])) : entryLines text = entries := by
  have hlines : lines text = entries ++ [[]] := by
    rw [lines_eq_splitOn, htext]
    exact Text.splitOn_flatMap_concat fun cs hcs => (h cs hcs).oneLine
  have htrim : entries.map Text.trimChars = entries :=
    (List.map_congr_left fun cs hcs => (h cs hcs).trimmed).trans (List.map_id _)
  have hkept : entries.filter (fun l => !l.isEmpty) = entries :=
    List.filter_eq_self.mpr fun cs hcs => by simpa using (h cs hcs).ne_nil
  rw [entryLines, entriesOf, hlines, List.map_append, htrim, List.filter_append, hkept]
  simp [Text.trimChars, Text.trimBoth]

end Lines

section Entries

variable {line : List Char} {w p : String} {text : String} {l : WordList}

/-- The pattern of an entry, if it has the mark of one. -/
def patternOf? (line : List Char) : Option (List Char) :=
  if patternMark.toList.isPrefixOf line then some (line.drop patternMark.length) else none

/-- What an entry turns out to be. -/
inductive Entry where
  | word (w : String)
  | pattern (p : String)
  | dropped (p : String) (e : Pattern.Error)

/-- Reads an entry; a pattern that is refused for more than its form ends the reading. -/
def readEntry (line : List Char) : Except Failure Entry :=
  match patternOf? line with
  | none => .ok (.word (String.ofList line))
  | some p =>
    let source := String.ofList p
    match Pattern.ofText source with
    | .ok _ => .ok (.pattern source)
    | .error (.syntaxError e) => .ok (.dropped source e)
    | .error refusal => .error (.pattern refusal source)

/-- Adds an entry to a list, or to the warnings. -/
def add (read : WordList × List LogEntry) : Entry → WordList × List LogEntry
  | .word w => ({ read.1 with words := read.1.words ++ [w] }, read.2)
  | .pattern p => ({ read.1 with patterns := read.1.patterns ++ [p] }, read.2)
  | .dropped p e => (read.1, read.2 ++ [droppedWarning p e])

/-- Reads the entries from the first on; the warnings given so far stay when reading ends early. -/
def readEntries :
    List (List Char) → WordList × List LogEntry → Except Failure WordList × List LogEntry
  | [], read => (.ok read.1, read.2)
  | line :: rest, read =>
    match readEntry line with
    | .ok e => readEntries rest (add read e)
    | .error e => (.error e, read.2)

/-- What has the mark of a pattern is the pattern after the mark. -/
theorem patternOf?_eq_some {p : List Char} :
    patternOf? line = some p ↔ line = patternMark.toList ++ p := by
  rw [patternOf?]
  split
  next h =>
    obtain ⟨q, rfl⟩ := List.isPrefixOf_iff_prefix.mp h
    have hlength : patternMark.toList.length = patternMark.length := rfl
    rw [← hlength, List.drop_left, Option.some.injEq, List.append_cancel_left_eq]
  next h =>
    constructor
    · exact fun hnone => nomatch hnone
    · rintro rfl
      exact absurd (List.isPrefixOf_iff_prefix.mpr (List.prefix_append _ _)) h

/-- What does not have the mark of a pattern is none. -/
theorem patternOf?_eq_none : patternOf? line = none ↔ ¬ patternMark.toList <+: line := by
  rw [patternOf?, ← List.isPrefixOf_iff_prefix]
  split <;> simp [*]

/-- An entry as it is shown, from its line and what it turned out to be. -/
def shownAs (line : List Char) : Entry → WordEntry
  | .word _ => { line := String.ofList line }
  | .pattern _ => { line := String.ofList line, isPattern := true }
  | .dropped p e =>
    { line := String.ofList line, isPattern := true, error := some (e.message p) }

/-- An entry is a word when it does not have the mark of a pattern. -/
theorem readEntry_eq_word :
    readEntry line = .ok (.word w) ↔ line = w.toList ∧ ¬ patternMark.toList <+: line := by
  rw [readEntry, ← patternOf?_eq_none]
  cases patternOf? line with
  | none => simp [String.ofList_eq]
  | some p =>
    simp only [reduceCtorEq, and_false, iff_false]
    split <;> simp

/-- An entry is a pattern when what follows its mark can be used as one. -/
theorem readEntry_eq_pattern :
    readEntry line = .ok (.pattern p) ↔
      line = patternMark.toList ++ p.toList ∧ ∃ compiled, Pattern.ofText p = .ok compiled := by
  rw [readEntry, ← patternOf?_eq_some]
  cases patternOf? line with
  | none => simp
  | some q =>
    rw [Option.some.injEq, ← String.ofList_eq]
    constructor
    · intro h
      simp only at h
      split at h
      next compiled hcompiled =>
        cases h
        exact ⟨rfl, compiled, hcompiled⟩
      all_goals cases h
    · rintro ⟨rfl, compiled, hcompiled⟩
      simp only [hcompiled]

/-- The word that an entry is, if it is one. -/
def Entry.word? : Entry → Option String
  | .word w => some w
  | .pattern _ | .dropped _ _ => none

/-- The pattern that an entry is, if it can be used as one. -/
def Entry.pattern? : Entry → Option String
  | .pattern p => some p
  | .word _ | .dropped _ _ => none

/-- Entries are added in order: a list gets the words and the patterns among them. -/
theorem foldl_add_fst (es : List Entry) (read : WordList × List LogEntry) :
    (es.foldl add read).1 =
      { words := read.1.words ++ es.filterMap Entry.word?,
        patterns := read.1.patterns ++ es.filterMap Entry.pattern? } := by
  induction es generalizing read with
  | nil => simp
  | cons e rest ih =>
    rw [List.foldl_cons, ih]
    cases e <;> simp [add, List.filterMap_cons, Entry.word?, Entry.pattern?]

/-- Lines are read to a list when each of them is read to an entry. -/
theorem readEntries_fst (ls : List (List Char)) (read : WordList × List LogEntry) :
    (readEntries ls read).1 = (ls.mapM readEntry).map fun es => (es.foldl add read).1 := by
  induction ls generalizing read with
  | nil => rfl
  | cons line rest ih =>
    rw [readEntries, List.mapM_cons]
    cases readEntry line with
    | error e => rfl
    | ok e =>
      simp only [ih]
      cases rest.mapM readEntry <;> rfl

end Entries

section Loops

variable {raw : List Char} {rest : List (List Char)} {text : String} {l : WordList}

/-- A line has an entry unless it is blank. -/
theorem entriesOf_cons (raw : List Char) (rest : List (List Char)) :
    entriesOf (raw :: rest) =
      if (Text.trimChars raw).isEmpty then entriesOf rest
      else Text.trimChars raw :: entriesOf rest := by
  rw [entriesOf, List.map_cons, List.filter_cons]
  cases (Text.trimChars raw).isEmpty <;> rfl

/-- A line that is not blank is read for use as its entry is, and what the entry turns out to be
is added. -/
theorem readLines_cons (l : WordList) (log : List LogEntry)
    (h : (Text.trimChars raw).isEmpty = false) :
    readLines l log (raw :: rest) =
      match readEntry (Text.trimChars raw) with
      | .ok e => readLines (add (l, log) e).1 (add (l, log) e).2 rest
      | .error refused => (.error refused, log) := by
  simp only [readLines, readEntry, patternOf?, h, Bool.false_eq_true, if_false]
  by_cases hmarked : patternMark.toList.isPrefixOf (Text.trimChars raw)
  · simp only [if_pos hmarked]
    cases Pattern.ofText (String.ofList ((Text.trimChars raw).drop patternMark.length)) with
    | ok compiled => rfl
    | error refusal => cases refusal <;> rfl
  · simp only [if_neg hmarked]
    rfl

/-- A line that is not blank is listed as its entry is, with what the entry turns out to be. -/
theorem showLines_cons (shown : List WordEntry) (h : (Text.trimChars raw).isEmpty = false) :
    showLines shown (raw :: rest) =
      match readEntry (Text.trimChars raw) with
      | .ok e => showLines (shown ++ [shownAs (Text.trimChars raw) e]) rest
      | .error refused => .error refused := by
  simp only [showLines, readEntry, patternOf?, h, Bool.false_eq_true, if_false]
  by_cases hmarked : patternMark.toList.isPrefixOf (Text.trimChars raw)
  · simp only [hmarked, Bool.not_true, Bool.false_eq_true, if_false, if_true]
    cases Pattern.ofText (String.ofList ((Text.trimChars raw).drop patternMark.length)) with
    | ok compiled => rfl
    | error refusal => cases refusal <;> rfl
  · simp only [hmarked, Bool.not_false, Bool.false_eq_true, if_false, if_true]
    rfl

/-- Lines are read for use as their entries are. -/
theorem readLines_eq (l : WordList) (log : List LogEntry) (ls : List (List Char)) :
    readLines l log ls = readEntries (entriesOf ls) (l, log) := by
  induction ls generalizing l log with
  | nil => rfl
  | cons raw rest ih =>
    rw [entriesOf_cons]
    cases hblank : (Text.trimChars raw).isEmpty with
    | true =>
      rw [readLines]
      simp only [hblank, if_true, ih]
    | false =>
      rw [readLines_cons l log hblank, if_neg Bool.false_ne_true, readEntries]
      cases readEntry (Text.trimChars raw) with
      | error refused => rfl
      | ok e => exact ih ..

/-- Lines are listed with what their entries turn out to be. -/
theorem showLines_eq (shown : List WordEntry) (ls : List (List Char)) :
    showLines shown ls = ((entriesOf ls).mapM readEntry).map fun es =>
      shown ++ List.zipWith shownAs (entriesOf ls) es := by
  induction ls generalizing shown with
  | nil => exact congrArg Except.ok (List.append_nil shown).symm
  | cons raw rest ih =>
    rw [entriesOf_cons]
    cases hblank : (Text.trimChars raw).isEmpty with
    | true =>
      rw [showLines]
      simp only [hblank, if_true, ih]
    | false =>
      rw [showLines_cons shown hblank, if_neg Bool.false_ne_true, List.mapM_cons]
      cases readEntry (Text.trimChars raw) with
      | error refused => rfl
      | ok e =>
        simp only [ih]
        cases (entriesOf rest).mapM readEntry with
        | error refused => rfl
        | ok es =>
          simp only [Except.map, bind, Except.bind, pure, Except.pure, List.append_assoc,
            List.zipWith_cons_cons, List.singleton_append]

/-- A text is read to a list entry by entry. -/
theorem ofText_eq (text : String) : ofText text = readEntries (entryLines text) ({}, []) :=
  readLines_eq ..

/-- The entries of a text are shown when its lines can be read. -/
theorem entries_eq (text : String) :
    entries text =
      ((entryLines text).mapM readEntry).map (List.zipWith shownAs (entryLines text)) :=
  showLines_eq ..

/-- A text holds a list when its entries are the words and the patterns of the list. -/
theorem ofText_eq_ok :
    (ofText text).1 = .ok l ↔
      ∃ es, List.Forall₂ (fun line e => readEntry line = .ok e) (entryLines text) es ∧
        l.words = es.filterMap Entry.word? ∧ l.patterns = es.filterMap Entry.pattern? := by
  rw [ofText_eq, readEntries_fst]
  constructor
  · intro h
    cases hes : (entryLines text).mapM readEntry with
    | error e => simp [hes, Except.map] at h
    | ok es =>
      simp only [hes, Except.map, foldl_add_fst, List.nil_append, Except.ok.injEq] at h
      exact ⟨es, mapM_eq_ok.mp hes, h ▸ rfl, h ▸ rfl⟩
  · rintro ⟨es, hes, hwords, hpatterns⟩
    rw [mapM_eq_ok.mpr hes, Except.map, foldl_add_fst]
    simp [← hwords, ← hpatterns]

end Loops

section Canonical

variable {w p text : String} {l : WordList}

/-- Whether a text is a word of its own: an entry without the mark of a pattern. -/
structure IsPlainWord (w : String) : Prop extends IsEntry w.toList where
  unmarked : ¬ patternMark.toList <+: w.toList

/-- Whether a text is a pattern of its own: on one line, without blanks after it, and such that
it can be used. -/
structure IsPlainPattern (p : String) : Prop where
  oneLine : '\n' ∉ p.toList
  noBlankLast : ∀ c, p.toList.getLast? = some c → Text.isBlank c = false
  compiles : ∃ compiled, Pattern.ofText p = .ok compiled

/-- Whether a list has only words and patterns that stand for themselves. -/
structure IsCanonical (l : WordList) : Prop where
  words : ∀ w ∈ l.words, IsPlainWord w
  patterns : ∀ p ∈ l.patterns, IsPlainPattern p

/-- A pattern with its mark is an entry when it is on one line without blanks after it. -/
theorem isEntry_patternMark_append {cs : List Char} :
    IsEntry (patternMark.toList ++ cs) ↔
      '\n' ∉ cs ∧ ∀ c, cs.getLast? = some c → Text.isBlank c = false := by
  have htrimmed : Text.trimChars (patternMark.toList ++ cs) = patternMark.toList ++ cs ↔
      ∀ c, cs.getLast? = some c → Text.isBlank c = false := by
    have hfirst : ∀ c, (patternMark.toList ++ cs).head? = some c → Text.isBlank c = false := by
      rintro c ⟨⟩
      decide
    have hmark : Text.isBlank ':' = false := by decide
    rw [Text.trimChars, Text.trimBoth_eq_self_iff, and_iff_right hfirst, List.getLast?_append]
    cases hlast : cs.getLast? with
    | none => simpa [patternMark] using hmark
    | some c => simp
  have hfeed : '\n' ∉ patternMark.toList := by decide
  constructor
  · exact fun h => ⟨fun hmem => h.oneLine (List.mem_append_right _ hmem), htrimmed.mp h.trimmed⟩
  · rintro ⟨hline, hlast⟩
    exact
      { ne_nil := by simp [patternMark]
        trimmed := htrimmed.mpr hlast
        oneLine := by simp [List.mem_append, hfeed, hline] }

/-- A text of words and patterns that stand for themselves has them as its entries. -/
theorem IsCanonical.entryLines_toText (h : l.IsCanonical) :
    entryLines l.toText =
      l.words.map String.toList ++ l.patterns.map (patternMark.toList ++ ·.toList) := by
  refine entryLines_of_isEntry (fun cs hcs => ?_) ?_
  · rcases List.mem_append.mp hcs with hcs | hcs
    · obtain ⟨w, hw, rfl⟩ := List.mem_map.mp hcs
      exact (h.words w hw).toIsEntry
    · obtain ⟨p, hp, rfl⟩ := List.mem_map.mp hcs
      have hplain := h.patterns p hp
      exact isEntry_patternMark_append.mpr ⟨hplain.oneLine, hplain.noBlankLast⟩
  · simp [toText, String.toList_join, List.flatMap_map]

/-- A list of words and patterns that stand for themselves is read back from its text. -/
theorem IsCanonical.ofText_toText (h : l.IsCanonical) : (ofText l.toText).1 = .ok l := by
  have hwords : List.Forall₂ (fun line e => readEntry line = .ok e)
      (l.words.map String.toList) (l.words.map Entry.word) := by
    rw [List.forall₂_map_left_iff, List.forall₂_map_right_iff, List.forall₂_same]
    exact fun w hw => readEntry_eq_word.mpr ⟨rfl, (h.words w hw).unmarked⟩
  have hpatterns : List.Forall₂ (fun line e => readEntry line = .ok e)
      (l.patterns.map (patternMark.toList ++ ·.toList)) (l.patterns.map Entry.pattern) := by
    rw [List.forall₂_map_left_iff, List.forall₂_map_right_iff, List.forall₂_same]
    exact fun p hp => readEntry_eq_pattern.mpr ⟨rfl, (h.patterns p hp).compiles⟩
  refine ofText_eq_ok.mpr ⟨l.words.map Entry.word ++ l.patterns.map Entry.pattern, ?_, ?_, ?_⟩
  · rw [h.entryLines_toText]
    exact List.rel_append hwords hpatterns
  · simp [Entry.word?, Function.comp_def]
  · simp [Entry.pattern?, Function.comp_def]

/-- What is read has only words and patterns that stand for themselves. -/
theorem isCanonical_of_ofText (h : (ofText text).1 = .ok l) : l.IsCanonical := by
  obtain ⟨es, hes, hwords, hpatterns⟩ := ofText_eq_ok.mp h
  have hread (e : Entry) (he : e ∈ es) : ∃ cs, IsEntry cs ∧ readEntry cs = .ok e := by
    obtain ⟨cs, hcs, hread⟩ := exists_mem_of_mapM (mapM_eq_ok.mpr hes) he
    exact ⟨cs, isEntry_of_mem_entryLines hcs, hread⟩
  constructor
  · intro w hw
    rw [hwords, List.mem_filterMap] at hw
    obtain ⟨e, he, hword⟩ := hw
    obtain ⟨cs, hcs, hread⟩ := hread e he
    cases e with
    | word w' =>
      cases hword
      obtain ⟨rfl, hunmarked⟩ := readEntry_eq_word.mp hread
      exact { toIsEntry := hcs, unmarked := hunmarked }
    | pattern p | dropped p e => cases hword
  · intro p hp
    rw [hpatterns, List.mem_filterMap] at hp
    obtain ⟨e, he, hpattern⟩ := hp
    obtain ⟨cs, hcs, hread⟩ := hread e he
    cases e with
    | pattern p' =>
      cases hpattern
      obtain ⟨rfl, hcompiles⟩ := readEntry_eq_pattern.mp hread
      obtain ⟨hline, hlast⟩ := isEntry_patternMark_append.mp hcs
      exact ⟨hline, hlast, hcompiles⟩
    | word w | dropped p e => cases hpattern

/-- The text of the list that a text holds. -/
def normalized (text : String) : Except Failure String := (ofText text).1.map toText

/-- The lists that are read back from their text are just those whose words and patterns stand
for themselves. Reading any text gives such a list, so what is written once it has been read
stays the same from then on. -/
theorem read_back_iff_canonical :
    (∀ l : WordList, (ofText l.toText).1 = .ok l ↔ l.IsCanonical) ∧
      (∀ text l, (ofText text).1 = .ok l → l.IsCanonical) ∧
        ∀ text, (normalized text >>= normalized) = normalized text := by
  refine ⟨fun l => ⟨isCanonical_of_ofText, IsCanonical.ofText_toText⟩,
    fun text l => isCanonical_of_ofText, fun text => ?_⟩
  cases hread : (ofText text).1 with
  | error e => simp [normalized, hread, Except.map, bind, Except.bind]
  | ok l =>
    have hback := (isCanonical_of_ofText hread).ofText_toText
    simp [normalized, hread, hback, Except.map, bind, Except.bind]

end Canonical

end VoucherDesk.WordList
