import Mathlib.Data.List.Infix
import VoucherDesk.Proofs.Filter.Refusals

/-!
# Word lists that are joined

The entries of a word list are read each for itself. A text that is put together of two, with a
line feed between them, holds the words of both and the patterns of both, and a list finds its
words first whichever text they come from. Lines that are blank and patterns that are refused
for their form can stand anywhere and count for nothing.
-/

namespace VoucherDesk.WordList

section Reading

variable {ls ms : List (List Char)}

/-- The list with the words of two lists, and with the patterns of both. -/
def joined (l m : WordList) : WordList :=
  { words := l.words ++ m.words, patterns := l.patterns ++ m.patterns }

/-- A list without entries adds nothing to a list. -/
@[simp]
theorem joined_empty (l : WordList) : l.joined {} = l := by simp [joined]

/-- The entries of two groups of lines stand one after the other. -/
theorem entriesOf_append : entriesOf (ls ++ ms) = entriesOf ls ++ entriesOf ms := by
  rw [entriesOf, List.map_append, List.filter_append, entriesOf, entriesOf]

/-- The list that lines hold. -/
def listOf (ls : List (List Char)) : Except Failure WordList :=
  ((entriesOf ls).mapM readEntry).map fun es =>
    { words := es.filterMap Entry.word?, patterns := es.filterMap Entry.pattern? }

/-- A text holds the list that its lines hold. -/
theorem ofText_fst (text : String) : (ofText text).1 = listOf (lines text) := by
  rw [ofText_eq, readEntries_fst]
  simp only [foldl_add_fst, List.nil_append]
  rfl

/-- The lines of a group are read before those of the next, and each group for itself. -/
theorem listOf_append : listOf (ls ++ ms) = do
    let l ← listOf ls
    let m ← listOf ms
    return l.joined m := by
  rw [listOf, entriesOf_append, List.mapM_append, listOf, listOf]
  cases (entriesOf ls).mapM readEntry with
  | error e => rfl
  | ok es =>
    cases (entriesOf ms).mapM readEntry with
    | error e => rfl
    | ok fs =>
      simp only [bind, Except.bind, pure, Except.pure, Except.map, joined, List.filterMap_append]

/-- The lines of two texts with a line feed between them are those of the one, then those of the
other. -/
theorem lines_append_feed (a b : String) : lines (a ++ "\n" ++ b) = lines a ++ lines b := by
  rw [lines_eq_splitOn, lines_eq_splitOn, lines_eq_splitOn, String.toList_append,
    String.toList_append, List.append_assoc]
  exact List.splitOn_append_cons_self a.toList b.toList

/-- Two texts with a line feed between them hold the list of the one joined with that of the
other. -/
theorem ofText_append_feed (a b : String) : (ofText (a ++ "\n" ++ b)).1 = do
    let l ← (ofText a).1
    let m ← (ofText b).1
    return l.joined m := by
  rw [ofText_fst, ofText_fst, ofText_fst, lines_append_feed, listOf_append]

end Reading

section Idle

variable {ls before idle after : List (List Char)} {line : List Char}

/-- Whether a line counts for nothing: without the blanks around it, it is empty or a pattern
that is refused for its form. -/
def IsIdle (line : List Char) : Prop :=
  Text.trimChars line = [] ∨ ∃ p refusal, Text.trimChars line = patternMark.toList ++ p ∧
    Pattern.ofText (String.ofList p) = .error refusal ∧ refusal.IsSyntax

/-- A pattern that is refused for its form is dropped. -/
theorem readEntry_of_syntax {p : List Char} {e : Pattern.Error}
    (h : Pattern.ofText (String.ofList p) = .error (.syntaxError e)) :
    readEntry (patternMark.toList ++ p) = .ok (.dropped (String.ofList p) e) := by
  have hmarked : patternOf? (patternMark.toList ++ p) = some p := patternOf?_eq_some.mpr rfl
  simp only [readEntry, hmarked, h]

/-- A line that counts for nothing holds an empty list. -/
theorem IsIdle.listOf_singleton (h : IsIdle line) : listOf [line] = .ok {} := by
  rcases h with hblank | ⟨p, refusal, hmarked, hrefused, e, rfl⟩
  · have hnone : entriesOf [line] = [] := by simp [entriesOf, hblank]
    rw [listOf, hnone]
    rfl
  · have hone : entriesOf [line] = [patternMark.toList ++ p] := by
      simp [entriesOf, hmarked, patternMark]
    rw [listOf, hone, List.mapM_cons, readEntry_of_syntax hrefused]
    rfl

/-- Lines that count for nothing hold an empty list. -/
theorem listOf_of_isIdle (h : ∀ line ∈ idle, IsIdle line) : listOf idle = .ok {} := by
  induction idle with
  | nil => rfl
  | cons line rest ih =>
    obtain ⟨hline, hrest⟩ := List.forall_mem_cons.mp h
    rw [← List.singleton_append, listOf_append, hline.listOf_singleton, ih hrest]
    rfl

/-- Lines that count for nothing can stand anywhere between lines. -/
theorem listOf_insert (h : ∀ line ∈ idle, IsIdle line) :
    listOf (before ++ idle ++ after) = listOf (before ++ after) := by
  rw [listOf_append, listOf_append, listOf_append, listOf_of_isIdle h]
  cases listOf before with
  | error e => rfl
  | ok l =>
    cases listOf after with
    | error e => rfl
    | ok m => simp only [bind, Except.bind, pure, Except.pure, joined_empty]

end Idle

section Finding

variable {l m : WordList} {text other : String}

/-- The words of a list that are part of a text. -/
def wordHits (l : WordList) (text : String) : List String :=
  l.words.filter fun w => w.toList <:+: text.toList

/-- The patterns of a list that are found in a text, with their mark. -/
def markedHits (l : WordList) (text : String) : List String :=
  (l.patterns.filter (isHit text)).map (patternMark ++ ·)

/-- What a text finds in another: the matches of the list that it holds. -/
def found (text other : String) : Except Failure (List String) :=
  (ofText text).1 >>= fun l => l.matchesIn other

/-- A word occurs in a text just when it is a part of it. -/
theorem occursIn_iff {word cs : List Char} : occursIn word cs = true ↔ word <:+: cs := by
  induction cs with
  | nil => rw [occursIn, List.isEmpty_iff, List.infix_nil]
  | cons c rest ih =>
    rw [occursIn, Bool.or_eq_true, ih, List.isPrefixOf_iff_prefix, List.infix_cons_iff]

/-- The words of a list that occur in a text are those that are part of it. -/
theorem filter_occursIn (l : WordList) (text : String) :
    (l.words.filter fun w => occursIn w.toList text.toList) = l.wordHits text := by
  refine List.filter_congr fun w _ => ?_
  rw [Bool.eq_iff_iff, occursIn_iff, decide_eq_true_iff]

/-- The patterns of a list that is in canonical form can be used. -/
theorem IsCanonical.compiles (h : l.IsCanonical) : ∀ p ∈ l.patterns, compiles p = true :=
  fun p hp => by
    obtain ⟨compiled, hcompiled⟩ := (h.patterns p hp).compiles
    exact compiles_of_ok hcompiled

/-- A list whose patterns can be used finds its words, and then its patterns. -/
theorem matchesIn_of_compiles (h : ∀ p ∈ l.patterns, compiles p = true) (text : String) :
    l.matchesIn text = .ok (l.wordHits text ++ l.markedHits text) := by
  rw [matchesIn, patternHits_of_compiles h, filter_occursIn]
  rfl

/-- Two joined lists find the words of both before the patterns of both. -/
theorem matchesIn_joined (hl : ∀ p ∈ l.patterns, compiles p = true)
    (hm : ∀ p ∈ m.patterns, compiles p = true) (text : String) :
    (l.joined m).matchesIn text =
      .ok (l.wordHits text ++ m.wordHits text ++ l.markedHits text ++ m.markedHits text) := by
  have hboth : ∀ p ∈ (l.joined m).patterns, compiles p = true :=
    fun p hp => (List.mem_append.mp hp).elim (hl p) (hm p)
  have hwords : (l.joined m).wordHits text = l.wordHits text ++ m.wordHits text :=
    List.filter_append ..
  have hmarked : (l.joined m).markedHits text = l.markedHits text ++ m.markedHits text := by
    rw [markedHits, joined, List.filter_append, List.map_append, markedHits, markedHits]
  rw [matchesIn_of_compiles hboth, hwords, hmarked, List.append_assoc (_ ++ _)]

/-- The text of the list that a text holds finds what the text itself finds. -/
theorem found_normal (h : (ofText text).1 = .ok l) (other : String) :
    found l.toText other = found text other := by
  rw [found, found, (isCanonical_of_ofText h).ofText_toText, h]

/-- The entries of a word list are independent. Two texts with a line feed between them hold the
words and the patterns of the one followed by those of the other, and find the words of both
before the patterns of both, each as often as it is listed. So lines that count for nothing can
be inserted between any lines without changing what is found, and what a text finds is what the
text of its list finds. -/
theorem entries_independent (a b other : String) :
    (∀ l m, (ofText a).1 = .ok l → (ofText b).1 = .ok m →
      (ofText (a ++ "\n" ++ b)).1 =
          .ok { words := l.words ++ m.words, patterns := l.patterns ++ m.patterns } ∧
        found (a ++ "\n" ++ b) other =
          .ok (l.wordHits other ++ m.wordHits other ++ l.markedHits other ++ m.markedHits other)) ∧
      (∀ before idle after, lines a = before ++ after → lines b = before ++ idle ++ after →
        (∀ line ∈ idle, IsIdle line) →
          (ofText b).1 = (ofText a).1 ∧ found b other = found a other) ∧
        ∀ l, (ofText a).1 = .ok l → found l.toText other = found a other := by
  refine ⟨fun l m hl hm => ?_, fun before idle after ha hb hidle => ?_, fun l hl => ?_⟩
  · have hjoined : (ofText (a ++ "\n" ++ b)).1 = .ok (l.joined m) := by
      rw [ofText_append_feed, hl, hm]
      rfl
    refine ⟨hjoined, ?_⟩
    rw [found, hjoined]
    exact matchesIn_joined (isCanonical_of_ofText hl).compiles (isCanonical_of_ofText hm).compiles
      other
  · have hsame : (ofText b).1 = (ofText a).1 := by
      rw [ofText_fst, ofText_fst, ha, hb, listOf_insert hidle]
    exact ⟨hsame, by rw [found, found, hsame]⟩
  · exact found_normal hl other

/-- A blank line and a pattern that is refused, after the only word of a text, find nothing and
keep the word from nothing. -/
theorem found_spam_and_refused_pattern :
    found "spam\n \nregex:(" "no spam" = .ok ["spam"] := by
  have hidle : ∀ line ∈ [[' '], patternMark.toList ++ ['(']], IsIdle line := by
    simp only [List.forall_mem_cons, List.not_mem_nil, false_implies, implies_true, and_true]
    exact ⟨.inl (by decide), .inr ⟨['('], _, by decide, by rfl, _, rfl⟩⟩
  have hfound := ((entries_independent "spam" "spam\n \nregex:(" "no spam").2.1
    [['s', 'p', 'a', 'm']] _ [] (by decide) (by decide) hidle).2
  rw [hfound]
  simp only [found, ofText, lines, String.reduceToList]
  rfl

end Finding

end VoucherDesk.WordList
