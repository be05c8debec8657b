import VoucherDesk.Console.Desk
import VoucherDesk.Proofs.Filter.Joined

/-!
# The two readings of a word list

A text is read to a list when it is used, and to entries when it is shown, by a loop for each.
The steps of the two loops turn every line into the same word, pattern or refusal, so both
readings end with the same failure or not at all, the counts that are shown are those of the list
and of its warnings, and what is shown without an error is what the list looks for.
-/

namespace VoucherDesk.WordList

section Showing

variable {ls : List (List Char)} {es : List Entry} {line : List Char} {text : String}

/-- The warning that an entry with an error is worth. -/
def warningOf (shown : WordEntry) : Option LogEntry :=
  shown.error.map fun message => ⟨.warning, .words,
    "Dropping invalid sensitive-word pattern "
      ++ Text.quoted (String.ofList (shown.line.toList.drop patternMark.length)) ++ ": " ++ message⟩

/-- Whether an entry has an error at most if it is a pattern. -/
def ErrsAsPattern (shown : WordEntry) : Prop := shown.error.isSome → shown.isPattern

/-- Whether entries that were read and entries that are shown say the same of lines. -/
structure Alike (ls : List (List Char)) (es : List Entry) (shown : List WordEntry) : Prop where
  lines : shown.map WordEntry.line = ls.map String.ofList
  words : es.filterMap Entry.word? =
    (shown.filter fun s => !s.isPattern).map WordEntry.line
  patterns : (es.filterMap Entry.pattern?).map (patternMark ++ ·) =
    (shown.filter fun s => s.isPattern && s.error.isNone).map WordEntry.line
  warnings : es.filterMap Entry.warning? = shown.filterMap warningOf
  errs : ∀ s ∈ shown, ErrsAsPattern s

/-- The line of a pattern is its mark and the pattern. -/
theorem ofList_of_marked {p : List Char} (h : patternOf? line = some p) :
    String.ofList line = patternMark ++ String.ofList p := by
  rw [patternOf?_eq_some.mp h, String.ofList_append]
  rfl

/-- Entries are shown as what they were read to. -/
theorem alike_of_readsAs (h : List.Forall₂ ReadsAs ls es) :
    Alike ls es (List.zipWith shownAs ls es) := by
  induction h with
  | nil => exact ⟨rfl, rfl, rfl, rfl, fun _ hs => nomatch hs⟩
  | @cons line e _ _ hread _ ih =>
    rw [List.zipWith_cons_cons]
    have herrs : ErrsAsPattern (shownAs line e) := by cases e <;> simp [shownAs, ErrsAsPattern]
    refine ⟨?lines, ?words, ?patterns, ?warnings, List.forall_mem_cons.mpr ⟨herrs, ih.errs⟩⟩
    case lines =>
      rw [List.map_cons, List.map_cons, ih.lines]
      cases e <;> rfl
    case words =>
      cases hread <;> simp [List.filterMap_cons, Entry.word?, shownAs, ih.words]
    case patterns =>
      cases hread with
      | pattern marked accepted =>
        simp [Entry.pattern?, shownAs, ih.patterns, ofList_of_marked marked]
      | word | dropped => simp [List.filterMap_cons, Entry.pattern?, shownAs, ih.patterns]
    case warnings =>
      cases hread with
      | dropped marked refused =>
        have hlength : patternMark.length = patternMark.toList.length := rfl
        simp [Entry.warning?, shownAs, warningOf, droppedWarning, ih.warnings,
          patternOf?_eq_some.mp marked, hlength]
      | word | pattern =>
        simp [List.filterMap_cons, Entry.warning?, shownAs, warningOf, ih.warnings]

end Showing

section Agreement

variable {text : String} {l : WordList} {log : List LogEntry} {shown : List WordEntry}

/-- Whether a list and its warnings say the same as the entries that are shown of a text. -/
structure SameReading (text : String) (l : WordList) (log : List LogEntry)
    (shown : List WordEntry) : Prop where
  /-- The entries are what stands between the line feeds, without the blanks around it, unless
  nothing is left. -/
  lines : shown.map WordEntry.line =
    (((text.toList.splitOn '\n').map Text.trimChars).filter (· ≠ [])).map String.ofList
  /-- The words are the entries that are no patterns. -/
  words : l.words = (shown.filter fun s => !s.isPattern).map WordEntry.line
  /-- The patterns are those without an error. -/
  patterns : l.patterns.map (patternMark ++ ·) =
    (shown.filter fun s => s.isPattern && s.error.isNone).map WordEntry.line
  /-- The warnings are about the entries with an error. -/
  warnings : log = shown.filterMap warningOf
  /-- There are as many warnings as entries with an error. -/
  warned : log.length = shown.countP fun s => s.error.isSome
  /-- The list looks for just what is shown without an error. -/
  used : (l.words ++ l.patterns.map (patternMark ++ ·)).Perm
    ((shown.filter fun s => s.error.isNone).map WordEntry.line)
  /-- The counts that are shown are those of the list and of its warnings. -/
  counted : ∀ settings, (Console.Desk.filterLines settings shown)[2]? = some
    ("Words: " ++ toString l.words.length ++ ", patterns: "
      ++ toString (l.patterns.length + log.length) ++ ", invalid patterns: " ++ toString log.length)
  /-- The counts add up to the lines that are listed after them. -/
  listed : ∀ settings, ((Console.Desk.filterLines settings shown).drop 3).length =
    l.words.length + (l.patterns.length + log.length)

/-- What is no pattern has no error. -/
theorem ErrsAsPattern.not_and_isNone {s : WordEntry} (h : ErrsAsPattern s) :
    (!s.isPattern && s.error.isNone) = !s.isPattern := by
  cases herror : s.error with
  | none => exact Bool.and_true _
  | some message => rw [h (by rw [herror]; rfl)]; rfl

/-- What has an error is a pattern. -/
theorem ErrsAsPattern.isSome_and {s : WordEntry} (h : ErrsAsPattern s) :
    (s.error.isSome && s.isPattern) = s.error.isSome := by
  cases herror : s.error with
  | none => rfl
  | some message => exact h (by rw [herror]; rfl)

/-- What has no error is a word, or a pattern without an error. -/
theorem perm_words_patterns (h : ∀ s ∈ shown, ErrsAsPattern s) :
    ((shown.filter fun s => !s.isPattern) ++
      shown.filter fun s => s.isPattern && s.error.isNone).Perm
        (shown.filter fun s => s.error.isNone) := by
  have hwords : (shown.filter fun s => !s.isPattern) =
      (shown.filter fun s => s.error.isNone).filter fun s => !s.isPattern := by
    rw [List.filter_filter]
    exact List.filter_congr fun s hs => (h s hs).not_and_isNone.symm
  rw [hwords, ← List.filter_filter]
  exact List.perm_append_comm.trans (List.filter_append_perm WordEntry.isPattern _)

/-- The patterns with an error are all the entries with one. -/
theorem filter_patterns_isSome (h : ∀ s ∈ shown, ErrsAsPattern s) :
    ((shown.filter WordEntry.isPattern).filter fun s => s.error.isSome) =
      shown.filter fun s => s.error.isSome := by
  rw [List.filter_filter]
  exact List.filter_congr fun s hs => (h s hs).isSome_and

/-- A pattern has an error or none, and nothing else has one. -/
theorem length_patterns (h : ∀ s ∈ shown, ErrsAsPattern s) :
    (shown.filter WordEntry.isPattern).length =
      (shown.filter fun s => s.isPattern && s.error.isNone).length +
        (shown.filter fun s => s.error.isSome).length := by
  rw [List.length_eq_length_filter_add fun s : WordEntry => s.error.isSome,
    filter_patterns_isSome h, List.filter_filter, Nat.add_comm]
  simp only [Option.not_isSome, Bool.and_comm]

/-- The third line that is printed counts the entries by their kinds. -/
theorem filterLines_counts (settings : FilterSettings) (shown : List WordEntry) :
    (Console.Desk.filterLines settings shown)[2]? = some
      ("Words: " ++ toString (shown.length - (shown.filter WordEntry.isPattern).length)
        ++ ", patterns: " ++ toString (shown.filter WordEntry.isPattern).length
        ++ ", invalid patterns: " ++ toString
          ((shown.filter WordEntry.isPattern).filter fun s => s.error.isSome).length) :=
  rfl

/-- Entries that are alike make the same reading of a text. -/
theorem Alike.sameReading {es : List Entry} (h : Alike (entryLines text) es shown) :
    SameReading text ⟨es.filterMap Entry.word?, es.filterMap Entry.pattern?⟩
      (es.filterMap Entry.warning?) shown := by
  have hwords : (es.filterMap Entry.word?).length =
      (shown.filter fun s => !s.isPattern).length := by
    rw [h.words, List.length_map]
  have hpatterns : (es.filterMap Entry.pattern?).length =
      (shown.filter fun s => s.isPattern && s.error.isNone).length := by
    simpa using congrArg List.length h.patterns
  have hwarned : (es.filterMap Entry.warning?).length = shown.countP fun s => s.error.isSome := by
    rw [h.warnings, List.length_filterMap_eq_countP]
    simp only [warningOf, Option.isSome_map]
  have hmarked : (shown.filter WordEntry.isPattern).length =
      (es.filterMap Entry.pattern?).length + (es.filterMap Entry.warning?).length := by
    rw [length_patterns h.errs, hpatterns, hwarned, List.countP_eq_length_filter]
  have htotal : shown.length = (es.filterMap Entry.word?).length +
      (shown.filter WordEntry.isPattern).length := by
    rw [hwords, Nat.add_comm]
    exact List.length_eq_length_filter_add WordEntry.isPattern
  refine ⟨?lines, h.words, h.patterns, h.warnings, hwarned, ?used, fun settings => ?counted,
    fun settings => ?listed⟩
  case lines =>
    rw [h.lines, entryLines, entriesOf, lines_eq_splitOn]
    refine congrArg (List.map String.ofList) (List.filter_congr fun l _ => ?_)
    cases l <;> rfl
  case used =>
    rw [h.words, h.patterns, ← List.map_append]
    exact (perm_words_patterns h.errs).map _
  case counted =>
    have hrest : shown.length - (shown.filter WordEntry.isPattern).length =
        (es.filterMap Entry.word?).length := by omega
    have hinvalid : ((shown.filter WordEntry.isPattern).filter fun s => s.error.isSome).length =
        (es.filterMap Entry.warning?).length := by
      rw [filter_patterns_isSome h.errs, hwarned, List.countP_eq_length_filter]
    rw [filterLines_counts, hrest, hinvalid, hmarked]
  case listed =>
    rw [← hmarked, ← htotal]
    simp [Console.Desk.filterLines]

/-- Every text is read to a list just when it can be shown, with the same failure if not, and the
list and its warnings say the same as the entries that are shown. -/
theorem readings_agree (text : String) :
    (∃ e, (ofText text).1 = .error e ∧ entries text = .error e) ∨
      ∃ l log shown, ofText text = (.ok l, log) ∧ entries text = .ok shown ∧
        SameReading text l log shown := by
  cases hread : (entryLines text).mapM readEntry with
  | error e =>
    refine .inl ⟨e, ?_, ?_⟩
    · rw [ofText_eq, readEntries_fst, hread]
      rfl
    · rw [entries_eq, hread]
      rfl
  | ok es =>
    have hreads := mapM_eq_ok.mp hread
    refine .inr ⟨_, _, _, ?_, ?_,
      (alike_of_readsAs (hreads.imp fun _ _ => readsAs_of_readEntry)).sameReading⟩
    · rw [ofText_eq, readEntries_of_forall₂ hreads, foldl_add_fst, foldl_add_snd]
      rfl
    · rw [entries_eq, hread]
      rfl

end Agreement

end VoucherDesk.WordList
