import Mathlib.Data.List.DropRight
import VoucherDesk.Text.Blank

/-!
# Trimmed characters

Characters are trimmed when neither the first nor the last of them is of a class. Trimming
leaves trimmed characters as they are and gives nothing else, so it is done once and for all.
-/

namespace VoucherDesk.Text

variable {p : Char → Bool} {cs : List Char}

/-- Trimming drops characters at the front, and then at the back. -/
theorem trimBoth_eq_rdropWhile : trimBoth p cs = (cs.dropWhile p).rdropWhile p := rfl

/-- Trimming at the back leaves a front part. -/
theorem trimBoth_isPrefix (p : Char → Bool) (cs : List Char) :
    trimBoth p cs <+: cs.dropWhile p :=
  List.rdropWhile_prefix p _

/-- Trimming leaves characters as they are just when none of the class stands at either end. -/
theorem trimBoth_eq_self_iff :
    trimBoth p cs = cs ↔
      (∀ c, cs.head? = some c → p c = false) ∧ ∀ c, cs.getLast? = some c → p c = false := by
  have hfront : cs.dropWhile p = cs ↔ ∀ c, cs.head? = some c → p c = false := by
    cases cs with
    | nil => simp
    | cons c rest => simp [List.dropWhile_eq_self_iff]
  have hback : cs.rdropWhile p = cs ↔ ∀ c, cs.getLast? = some c → p c = false := by
    rw [List.rdropWhile_eq_self_iff]
    cases hlast : cs.getLast? with
    | none => simp [List.getLast?_eq_none_iff.mp hlast]
    | some c =>
      obtain ⟨before, rfl⟩ := List.getLast?_eq_some_iff.mp hlast
      simp
  rw [trimBoth_eq_rdropWhile, ← hfront, ← hback]
  constructor
  · intro h
    -- Both ways of dropping shorten, so neither of them has dropped anything.
    have hshort := (trimBoth_isPrefix p cs).length_le
    rw [trimBoth_eq_rdropWhile, h] at hshort
    have hkept : cs.dropWhile p = cs := (List.dropWhile_suffix p).eq_of_length_le hshort
    rw [hkept] at h
    exact ⟨hkept, h⟩
  · rintro ⟨hkept, hback⟩
    rw [hkept, hback]

/-- What trimming leaves is trimmed. -/
theorem trimBoth_trimBoth : trimBoth p (trimBoth p cs) = trimBoth p cs := by
  rw [trimBoth_eq_self_iff]
  constructor
  · intro c hc
    -- What is left begins as it did before the back was trimmed.
    have hhead : (cs.dropWhile p).head? = some c := by
      obtain ⟨rest, hrest⟩ := List.head?_eq_some_iff.mp hc
      obtain ⟨more, hmore⟩ := trimBoth_isPrefix p cs
      rw [← hmore, hrest]
      rfl
    obtain ⟨rest, hrest⟩ := List.head?_eq_some_iff.mp hhead
    simpa [hrest] using List.head_dropWhile_not p (by simp [hrest] : cs.dropWhile p ≠ [])
  · intro c hc
    obtain ⟨before, hbefore⟩ := List.getLast?_eq_some_iff.mp hc
    have hne : (cs.dropWhile p).rdropWhile p ≠ [] := by
      simp [← trimBoth_eq_rdropWhile, hbefore]
    simpa [← trimBoth_eq_rdropWhile, hbefore] using List.rdropWhile_last_not p _ hne

/-- Trimming brings no character in. -/
theorem mem_of_mem_trimBoth {c : Char} (h : c ∈ trimBoth p cs) : c ∈ cs :=
  (List.dropWhile_suffix p).subset ((trimBoth_isPrefix p cs).subset h)

/-- Characters are what trimming leaves of them, with characters of the class on both sides. -/
theorem exists_trimBoth (p : Char → Bool) (cs : List Char) :
    ∃ before after, cs = before ++ trimBoth p cs ++ after ∧
      (∀ c ∈ before, p c = true) ∧ ∀ c ∈ after, p c = true := by
  refine ⟨cs.takeWhile p, (cs.dropWhile p).rtakeWhile p, ?_, fun c hc => List.mem_takeWhile_imp hc,
    fun c hc => List.mem_rtakeWhile_imp hc⟩
  rw [List.append_assoc, trimBoth_eq_rdropWhile, List.rdropWhile_append_rtakeWhile,
    List.takeWhile_append_dropWhile]

/-- Characters of the class on both sides of others make no difference to trimming. -/
theorem trimBoth_append {before after : List Char} (hbefore : ∀ c ∈ before, p c = true)
    (hafter : ∀ c ∈ after, p c = true) : trimBoth p (before ++ cs ++ after) = trimBoth p cs := by
  rw [trimBoth_eq_rdropWhile, List.append_assoc, List.dropWhile_append_of_pos hbefore,
    List.dropWhile_append, trimBoth_eq_rdropWhile]
  split
  · next h =>
    rw [List.isEmpty_iff.mp h, List.dropWhile_eq_nil_iff.mpr hafter]
  · rw [List.rdropWhile, List.reverse_append,
      List.dropWhile_append_of_pos fun c hc => hafter c (List.mem_reverse.mp hc)]
    rfl

/-- Nothing is left by trimming just when there are characters of the class only. -/
theorem trimBoth_eq_nil_iff : trimBoth p cs = [] ↔ ∀ c ∈ cs, p c = true := by
  constructor
  · intro h
    obtain ⟨before, after, hcs, hbefore, hafter⟩ := exists_trimBoth p cs
    rw [h, List.append_nil] at hcs
    rw [hcs, List.forall_mem_append]
    exact ⟨hbefore, hafter⟩
  · intro h
    have hall : trimBoth p (cs ++ [] ++ []) = trimBoth p [] := trimBoth_append h (by simp)
    rwa [List.append_nil, List.append_nil] at hall

/-- Characters among which there is none of the class are trimmed. -/
theorem trimBoth_of_forall_not (h : ∀ c ∈ cs, p c = false) : trimBoth p cs = cs :=
  trimBoth_eq_self_iff.mpr
    ⟨fun c hc => h c (List.mem_of_head? hc), fun c hc => h c (List.mem_of_getLast? hc)⟩

/-- A trimmed text is trimmed. -/
theorem trim_trim (s : String) : trim (trim s) = trim s := by
  rw [trim, trim, String.toList_ofList, trimChars, trimChars, trimBoth_trimBoth]

/-- A text is empty when it is trimmed just when it is blank. -/
theorem isEmpty_trim (s : String) : (trim s).isEmpty = isBlankText s := by
  rw [Bool.eq_iff_iff, trim, String.isEmpty_iff, ← String.toList_inj, String.toList_ofList,
    trimChars]
  exact trimBoth_eq_nil_iff.trans List.all_eq_true.symm

/-- No digit is blank. -/
theorem isBlank_of_isDigit {c : Char} (h : c.isDigit = true) : isBlank c = false := by
  have hcode : 48 ≤ c.toNat ∧ c.toNat ≤ 57 := by
    simp only [Char.isDigit, Bool.and_eq_true, decide_eq_true_eq] at h
    exact h
  simp only [isBlank, isBlankCode, isSpaceCode, Bool.or_eq_false_iff, Bool.and_eq_false_iff,
    decide_eq_false_iff_not, beq_eq_false_iff_ne]
  omega

end VoucherDesk.Text
