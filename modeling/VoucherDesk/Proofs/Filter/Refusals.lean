import VoucherDesk.Proofs.Filter.WordList

/-!
# Patterns that are refused

A pattern that is refused for its form is left out of a list that is used, with one warning, and
is shown with the message of its error; the other entries are read as if it were not there. A
pattern that is refused for a number or for its flags ends the reading of the whole text, for
use and for display alike.
-/

namespace VoucherDesk

namespace Pattern

/-- Whether a pattern is refused for its form. -/
def Refusal.IsSyntax (r : Refusal) : Prop := ∃ e, r = .syntaxError e

private theorem append_ne_empty {s : String} (h : s ≠ "") (t : String) : s ++ t ≠ "" :=
  fun hempty => h (String.append_eq_empty_iff.mp hempty).1

/-- Every cause has a wording. -/
theorem Cause.text_ne_empty (c : Cause) : c.text ≠ "" := by
  cases c with
  | missingName what | badGroupName name | unknownGroup name | incompleteEscape escape
  | badEscape escape | unknownCharacter name | invalidGroup number | unknownExtension text
  | templateRepeat name => exact append_ne_empty (by decide) _
  | unterminatedName c | octalRange escape =>
    exact append_ne_empty (append_ne_empty (by decide) _) _
  | badRange low high =>
    exact append_ne_empty (append_ne_empty (append_ne_empty (by decide) _) _) _
  | repeatedGroup name number earlier =>
    iterate 5 refine append_ne_empty ?_ _
    decide
  | _ => decide

/-- Every error has a message. -/
theorem Error.message_ne_empty (e : Error) (pattern : String) : e.message pattern ≠ "" := by
  have hplace (p : Nat) : e.cause.text ++ " at position " ++ toString p ≠ "" :=
    append_ne_empty (append_ne_empty e.cause.text_ne_empty _) _
  unfold Error.message
  split
  · exact e.cause.text_ne_empty
  · next p _ =>
    dsimp only
    split
    · iterate 5 refine append_ne_empty ?_ _
      exact hplace p
    · exact hplace p

end Pattern

namespace WordList

section Reading

variable {line : List Char} {ls : List (List Char)} {e : Entry} {es : List Entry}

/-- How an entry is read: a line without the mark is a word, a pattern that can be used is one, and
a pattern that is refused for its form is dropped. -/
inductive ReadsAs (line : List Char) : Entry → Prop where
  | word (unmarked : patternOf? line = none) : ReadsAs line (.word (String.ofList line))
  | pattern {p : List Char} {compiled : Pattern} (marked : patternOf? line = some p)
      (accepted : Pattern.ofText (String.ofList p) = .ok compiled) :
      ReadsAs line (.pattern (String.ofList p))
  | dropped {p : List Char} {e : Pattern.Error} (marked : patternOf? line = some p)
      (refused : Pattern.ofText (String.ofList p) = .error (.syntaxError e)) :
      ReadsAs line (.dropped (String.ofList p) e)

/-- Every entry is read in one of these ways. -/
theorem readsAs_of_readEntry (h : readEntry line = .ok e) : ReadsAs line e := by
  unfold readEntry at h
  split at h
  · next hunmarked =>
    cases h
    exact .word hunmarked
  · next p hmarked =>
    dsimp only at h
    split at h
    · next compiled haccepted =>
      cases h
      exact .pattern hmarked haccepted
    · next refused hrefused =>
      cases h
      exact .dropped hmarked hrefused
    · cases h

/-- A pattern that is refused for more than its form ends the reading. -/
theorem readEntry_of_refused {p : List Char} {refusal : Pattern.Refusal}
    (hmarked : patternOf? line = some p)
    (hrefused : Pattern.ofText (String.ofList p) = .error refusal) (h : ¬ refusal.IsSyntax) :
    readEntry line = .error (.pattern refusal (String.ofList p)) := by
  simp only [readEntry, hmarked]
  split
  · next haccepted => cases haccepted.symm.trans hrefused
  · next e hsyntax =>
    cases hsyntax.symm.trans hrefused
    exact absurd ⟨e, rfl⟩ h
  · next other _ hother =>
    cases hother.symm.trans hrefused
    rfl

/-- Nothing but such a pattern ends the reading. -/
theorem exists_readEntry : (∃ e, readEntry line = .ok e) ↔ ∀ p, patternOf? line = some p →
    ∀ refusal, Pattern.ofText (String.ofList p) = .error refusal → refusal.IsSyntax := by
  constructor
  · rintro ⟨e, he⟩ p hmarked refusal hrefused
    by_contra hsyntax
    cases he.symm.trans (readEntry_of_refused hmarked hrefused hsyntax)
  · intro h
    unfold readEntry
    split
    · exact ⟨_, rfl⟩
    · next p hmarked =>
      dsimp only
      split
      · exact ⟨_, rfl⟩
      · exact ⟨_, rfl⟩
      · next refusal hnot hrefused =>
        obtain ⟨e, rfl⟩ := h p hmarked refusal hrefused
        exact absurd rfl (hnot e)

/-- The warning about an entry, if it is dropped. -/
def Entry.warning? : Entry → Option LogEntry
  | .dropped p e => some (droppedWarning p e)
  | .word _ | .pattern _ => none

/-- Each dropped entry adds its warning, and no other entry does. -/
theorem foldl_add_snd (es : List Entry) (read : WordList × List LogEntry) :
    (es.foldl add read).2 = read.2 ++ es.filterMap Entry.warning? := by
  induction es generalizing read with
  | nil => simp
  | cons e rest ih =>
    rw [List.foldl_cons, ih]
    cases e <;> simp [add, List.filterMap_cons, Entry.warning?]

/-- Lines that can all be read are added one by one. -/
theorem readEntries_of_forall₂ (h : List.Forall₂ (fun line e => readEntry line = .ok e) ls es)
    (read : WordList × List LogEntry) :
    readEntries ls read = (.ok (es.foldl add read).1, (es.foldl add read).2) := by
  induction h generalizing read with
  | nil => rfl
  | cons he _ ih =>
    rw [readEntries, he, List.foldl_cons]
    exact ih _

end Reading

section Listing

/-- The lines without the mark of a pattern. -/
def wordsIn (ls : List (List Char)) : List String :=
  (ls.filter fun l => (patternOf? l).isNone).map String.ofList

/-- The patterns of the lines that have the mark, those that are refused among them. -/
def patternsIn (ls : List (List Char)) : List String :=
  ls.filterMap fun l => (patternOf? l).map String.ofList

/-- Whether a pattern can be used. -/
def compiles (p : String) : Bool := (Pattern.ofText p).isOk

/-- Whether a pattern can be used and is found in a text. -/
def isHit (text p : String) : Bool :=
  match Pattern.ofText p with
  | .ok compiled => compiled.isFoundIn text
  | .error _ => false

/-- Whether an entry of the log is the warning about a pattern that is left out. -/
def IsWarningAbout (p : String) (entry : LogEntry) : Prop :=
  ∃ message, entry = ⟨.warning, .words,
    "Dropping invalid sensitive-word pattern " ++ Text.quoted p ++ ": " ++ message⟩

/-- Whether an entry shows a line: marked as a pattern if it is one, and with a message just when
the pattern is refused. -/
structure Shows (line : List Char) (shown : WordEntry) : Prop where
  verbatim : shown.line = String.ofList line
  marked : shown.isPattern = (patternOf? line).isSome
  refused : shown.error.isSome = (patternOf? line).any fun p => !compiles (String.ofList p)
  worded : ∀ message, shown.error = some message → message ≠ ""

/-- Whether every refused pattern of a text is left out with one warning and shown with its error,
and all other entries are kept, shown and matched. -/
structure Tolerates (text : String) : Prop where
  /-- The text is read to its words and the patterns that can be used. -/
  read : ∃ warnings,
    ofText text = (.ok ⟨wordsIn (entryLines text), (patternsIn (entryLines text)).filter compiles⟩,
      warnings) ∧
    List.Forall₂ IsWarningAbout ((patternsIn (entryLines text)).filter (!compiles ·)) warnings
  /-- The list finds its words and its patterns in every other text. -/
  matched : ∀ other,
    matchesIn ⟨wordsIn (entryLines text), (patternsIn (entryLines text)).filter compiles⟩ other =
      .ok ((wordsIn (entryLines text)).filter (fun w => occursIn w.toList other.toList) ++
        ((patternsIn (entryLines text)).filter (isHit other)).map (patternMark ++ ·))
  /-- Every line is shown. -/
  shown : ∃ shown, entries text = .ok shown ∧ List.Forall₂ Shows (entryLines text) shown

variable {line : List Char} {ls : List (List Char)} {e : Entry} {es : List Entry} {text : String}

theorem compiles_of_ok {p : String} {compiled : Pattern} (h : Pattern.ofText p = .ok compiled) :
    compiles p = true := by
  rw [compiles, h]
  rfl

theorem compiles_of_error {p : String} {refusal : Pattern.Refusal}
    (h : Pattern.ofText p = .error refusal) : compiles p = false := by
  rw [compiles, h]
  rfl

/-- Of lines that can all be read the words and the usable patterns are listed, and each refused
pattern is warned about. -/
theorem lists_of_readsAs (h : List.Forall₂ ReadsAs ls es) :
    es.filterMap Entry.word? = wordsIn ls ∧
      es.filterMap Entry.pattern? = (patternsIn ls).filter compiles ∧
        List.Forall₂ IsWarningAbout ((patternsIn ls).filter (!compiles ·))
          (es.filterMap Entry.warning?) := by
  induction h with
  | nil => exact ⟨rfl, rfl, .nil⟩
  | cons hread _ ih =>
    obtain ⟨hwords, hpatterns, hwarnings⟩ := ih
    cases hread with
    | word unmarked =>
      simp only [wordsIn, patternsIn, List.filterMap_cons, List.filter_cons, unmarked,
        Option.map_none, Option.isNone_none, ite_true, List.map_cons]
      exact ⟨congrArg _ hwords, hpatterns, hwarnings⟩
    | pattern marked accepted =>
      simp only [wordsIn, patternsIn, List.filterMap_cons, List.filter_cons, marked,
        Option.map_some, Option.isNone_some, Bool.false_eq_true, ite_false,
        compiles_of_ok accepted, Bool.not_true, ite_true]
      exact ⟨hwords, congrArg _ hpatterns, hwarnings⟩
    | dropped marked refused =>
      simp only [wordsIn, patternsIn, List.filterMap_cons, List.filter_cons, marked,
        Option.map_some, Option.isNone_some, Bool.false_eq_true, ite_false,
        compiles_of_error refused, Bool.not_false, ite_true]
      exact ⟨hwords, hpatterns, .cons ⟨_, rfl⟩ hwarnings⟩

/-- An entry is shown as what it was read to. -/
theorem shows_of_readsAs (h : ReadsAs line e) : Shows line (shownAs line e) := by
  cases h with
  | word unmarked =>
    exact { verbatim := rfl, marked := by simp [shownAs, unmarked],
            refused := by simp [shownAs, unmarked], worded := fun m hm => nomatch hm }
  | pattern marked accepted =>
    exact { verbatim := rfl, marked := by simp [shownAs, marked],
            refused := by simp [shownAs, marked, compiles_of_ok accepted],
            worded := fun m hm => nomatch hm }
  | dropped marked refused =>
    refine { verbatim := rfl, marked := by simp [shownAs, marked],
             refused := by simp [shownAs, marked, compiles_of_error refused], worded := ?_ }
    rintro m ⟨⟩
    exact Pattern.Error.message_ne_empty _ _

/-- Lines that can all be read are all shown. -/
theorem shows_zipWith (h : List.Forall₂ ReadsAs ls es) :
    List.Forall₂ Shows ls (List.zipWith shownAs ls es) := by
  induction h with
  | nil => exact .nil
  | cons hread _ ih => exact .cons (shows_of_readsAs hread) ih

/-- Patterns that can be used are all searched for. -/
theorem patternHits_of_compiles {ps : List String} (h : ∀ p ∈ ps, compiles p = true)
    (other : String) : patternHits other ps = .ok (ps.filter (isHit other)) := by
  induction ps with
  | nil => rfl
  | cons p rest ih =>
    obtain ⟨hp, hrest⟩ := List.forall_mem_cons.mp h
    cases hread : Pattern.ofText p with
    | error refusal => cases (compiles_of_error hread).symm.trans hp
    | ok compiled =>
      rw [List.filter_cons]
      simp only [patternHits, hread, ih hrest, isHit]

/-- A pattern that is found can be used. -/
theorem isHit_and_compiles (other p : String) : (isHit other p && compiles p) = isHit other p := by
  unfold isHit
  split
  · next hread => rw [compiles_of_ok hread, Bool.and_true]
  · rfl

/-- The lines of a text can all be read when no pattern among them is refused for more than its
form. -/
theorem exists_readEntry_of_syntax (h : ∀ p ∈ patternsIn ls, ∀ refusal,
    Pattern.ofText p = .error refusal → refusal.IsSyntax) :
    ∀ line ∈ ls, ∃ e, readEntry line = .ok e := by
  intro line hline
  refine exists_readEntry.mpr fun p hmarked => h _ (List.mem_filterMap.mpr ⟨line, hline, ?_⟩)
  rw [hmarked, Option.map_some]

/-- A text is tolerated just when its patterns are refused for nothing but their form. -/
theorem tolerates_iff : Tolerates text ↔ ∀ p ∈ patternsIn (entryLines text), ∀ refusal,
    Pattern.ofText p = .error refusal → refusal.IsSyntax := by
  constructor
  · intro h p hp refusal hrefused
    obtain ⟨warnings, hread, -⟩ := h.read
    obtain ⟨es, hes, -, -⟩ := ofText_eq_ok.mp (congrArg Prod.fst hread)
    obtain ⟨line, hline, hmarked⟩ := List.mem_filterMap.mp hp
    obtain ⟨q, hq, rfl⟩ := Option.map_eq_some_iff.mp hmarked
    exact exists_readEntry.mp (exists_of_mapM (mapM_eq_ok.mpr hes) hline) q hq refusal hrefused
  · intro h
    have hall := exists_readEntry_of_syntax h
    obtain ⟨es, hes⟩ : ∃ es, (entryLines text).mapM readEntry = .ok es := by
      obtain ⟨es, hes, -⟩ := exists_mapM_of_forall (P := fun _ _ => True)
        fun line hline => (hall line hline).imp fun _ he => ⟨he, trivial⟩
      exact ⟨es, hes⟩
    have hread := mapM_eq_ok.mp hes
    have hreads : List.Forall₂ ReadsAs (entryLines text) es :=
      hread.imp fun _ _ => readsAs_of_readEntry
    obtain ⟨hwords, hpatterns, hwarnings⟩ := lists_of_readsAs hreads
    exact
      { read := by
          refine ⟨es.filterMap Entry.warning?, ?_, hwarnings⟩
          rw [ofText_eq, readEntries_of_forall₂ hread, foldl_add_fst, foldl_add_snd, hwords,
            hpatterns]
          rfl
        matched := by
          intro other
          have hcompiles : ∀ p ∈ (patternsIn (entryLines text)).filter compiles,
              compiles p = true := fun p hp => (List.mem_filter.mp hp).2
          rw [matchesIn, patternHits_of_compiles hcompiles, List.filter_filter]
          simp only [Except.map, isHit_and_compiles]
        shown := by
          refine ⟨_, ?_, shows_zipWith hreads⟩
          rw [entries_eq, hes]
          rfl }

/-- The first pattern of a text that is refused for more than its form ends the reading. -/
theorem reading_of_refused {before after : List String} {p : String} {refusal : Pattern.Refusal}
    (hpatterns : patternsIn (entryLines text) = before ++ p :: after)
    (hbefore : ∀ b ∈ before, ∀ r, Pattern.ofText b = .error r → r.IsSyntax)
    (hrefused : Pattern.ofText p = .error refusal) (h : ¬ refusal.IsSyntax) :
    (ofText text).1 = .error (.pattern refusal p) ∧
      entries text = .error (.pattern refusal p) := by
  obtain ⟨first, rest, hlines, hfirst, hrest⟩ := List.filterMap_eq_append_iff.mp hpatterns
  obtain ⟨words, line, later, rfl, hwords, hline, -⟩ := List.filterMap_eq_cons_iff.mp hrest
  obtain ⟨q, hq, rfl⟩ := Option.map_eq_some_iff.mp hline
  have hread := readEntry_of_refused hq hrefused h
  have hbefore' : ∀ l ∈ first ++ words, ∃ e, readEntry l = .ok e := by
    refine exists_readEntry_of_syntax fun b hb => hbefore b ?_
    rw [patternsIn, List.filterMap_append, List.filterMap_eq_nil_iff.mpr hwords,
      List.append_nil, hfirst] at hb
    exact hb
  rw [← List.append_assoc] at hlines
  constructor
  · rw [ofText_eq, readEntries_fst, hlines, mapM_eq_error hbefore' hread]
    rfl
  · rw [entries_eq, hlines, mapM_eq_error hbefore' hread]
    rfl

/-- Every refused pattern of a text is left out with one warning and shown with its error, and all
other entries are kept, shown and matched, just when the patterns of the text are refused for
nothing but their form. The first pattern that is refused for something else, a number or its
flags, ends the reading for use and for display with that refusal. -/
theorem tolerates_iff_syntax (text : String) :
    (Tolerates text ↔ ∀ p ∈ patternsIn (entryLines text), ∀ refusal,
      Pattern.ofText p = .error refusal → refusal.IsSyntax) ∧
    ∀ before p after refusal, patternsIn (entryLines text) = before ++ p :: after →
      (∀ b ∈ before, ∀ r, Pattern.ofText b = .error r → r.IsSyntax) →
      Pattern.ofText p = .error refusal → ¬ refusal.IsSyntax →
        (ofText text).1 = .error (.pattern refusal p) ∧
          entries text = .error (.pattern refusal p) :=
  ⟨tolerates_iff, fun _ _ _ _ => reading_of_refused⟩

/-- A pattern with a number of rounds that is too large is not tolerated between two words. -/
theorem not_tolerates_large_repetition :
    ¬ Tolerates "spam\nregex:a\x7b4294967295\x7d\nham" := by
  have hlarge : Pattern.ofText "a\x7b4294967295\x7d" = .error .repetitionTooLarge := by
    simp only [Pattern.ofText, String.reduceToList]
    rfl
  have hlines : patternsIn (entryLines "spam\nregex:a\x7b4294967295\x7d\nham") =
      ["a\x7b4294967295\x7d"] := by
    simp only [entryLines, lines, String.reduceToList]
    rfl
  intro h
  obtain ⟨e, he⟩ := tolerates_iff.mp h _ (hlines ▸ List.mem_singleton_self _) _ hlarge
  cases he

end Listing

end WordList

end VoucherDesk
