import PostgresAccess.Proofs.Result
import PostgresAccess.Text.Blank
import PostgresAccess.Words

/-!
# Words of a command line

A line that holds anything but separators has a word: once the reader is inside of a word it cannot
leave it without keeping it, even if nothing but a pair of quotation marks was read.  Every
separator counts as a blank, so a line that is not blank never splits into nothing
(`split_ne_nil`).

Whether a line splits does not depend on its words, but only on what is open at its end: marks, or
a backslash.  `openedBy` follows that through a line without collecting words, and
`split_eq_error_iff` says that nothing else keeps a line from being split.

Every list of words can be written as a line, by putting each word between single marks: such a
line splits into the words as they are (`split_quotedLine`), whatever characters they are made of.
-/

namespace PostgresAccess.Words

/-! ## Words of lines that are not blank -/

theorem enter_ne_between (word : List Char) (c : Char) : enter word c ≠ .between := by
  unfold enter
  repeat' split
  all_goals simp

/-- Only between words, and only at separators, is nothing read. -/
theorem separators_of_splitFrom {place : Place} {cs : List Char}
    (h : splitFrom place cs = .ok []) :
    place = .between ∧ ∀ c ∈ cs, isSeparator c = true := by
  fun_induction splitFrom place cs with
  | case1 => simp
  | case2 | case3 | case4 | case5 | case6 => cases h
  | case7 c rest hc ih =>
    exact ⟨rfl, List.forall_mem_cons.2 ⟨hc, (ih h).2⟩⟩
  | case8 c rest hc ih => exact absurd (ih h).1 (enter_ne_between [] c)
  | case9 word c rest hc ih =>
    cases hrest : splitFrom .between rest <;> simp [hrest, Except.map] at h
  | case10 word c rest hc ih => exact absurd (ih h).1 (enter_ne_between word c)
  -- a step inside of a word stays inside of it, where the rest cannot be read as nothing
  | case11 | case12 | case13 | case14 | case15 | case16 | case17 | case18 =>
    rename_i ih
    cases (ih h).1

theorem isSeparator_iff {c : Char} :
    isSeparator c = true ↔ c = ' ' ∨ c = '\t' ∨ c = '\r' ∨ c = '\n' := by
  simp [isSeparator, or_assoc]

theorem isBlank_of_isSeparator {c : Char} (h : isSeparator c = true) : Text.isBlank c = true := by
  obtain rfl | rfl | rfl | rfl := isSeparator_iff.1 h <;> decide

theorem split_ne_nil {line : String} (h : ∃ c ∈ line.toList, Text.isBlank c = false) :
    split line ≠ .ok [] := by
  intro hsplit
  obtain ⟨c, hc, hblank⟩ := h
  have hnil : splitFrom .between line.toList = .ok [] := by
    cases hwords : splitFrom .between line.toList with
    | error fault => simp [split, hwords, Except.map] at hsplit
    | ok words =>
      simp only [split, hwords, Except.map, Except.ok.injEq, List.map_eq_nil_iff] at hsplit
      rw [hsplit]
  have hseparator := (separators_of_splitFrom hnil).2 c hc
  rw [isBlank_of_isSeparator hseparator] at hblank
  cases hblank

/-! ## What is open at the end of a line -/

/-- What is open at a place of a line: a backslash that waits for a character, or marks that are not
closed. -/
inductive Opened where
  | nothing
  /-- A backslash outside of quotation marks. -/
  | escape
  | single
  | double
  /-- A backslash between double marks. -/
  | doubleEscape
deriving DecidableEq, Repr

namespace Opened

/-- What is open after one more character. -/
def next : Opened → Char → Opened
  | .nothing, c =>
    if c = '\\' then .escape else if c = '\x27' then .single else if c = '\x22' then .double
    else .nothing
  | .escape, _ => .nothing
  | .single, c => if c = '\x27' then .nothing else .single
  | .double, c => if c = '\x22' then .nothing else if c = '\\' then .doubleEscape else .double
  | .doubleEscape, _ => .double

/-- What is wrong with a line at whose end something is open. -/
def fault? : Opened → Option Fault
  | .nothing => none
  | .single | .double => some .unclosedQuotation
  | .escape | .doubleEscape => some .unfinishedEscape

theorem fault?_eq_none_iff {opened : Opened} : opened.fault? = none ↔ opened = .nothing := by
  cases opened <;> simp [fault?]

end Opened

/-- What is open at the end of a line. -/
def openedBy (line : String) : Opened := line.toList.foldl Opened.next .nothing

/-- What is open where the reader is. -/
def Place.opened : Place → Opened
  | .between | .plain _ => .nothing
  | .escaped _ => .escape
  | .single _ => .single
  | .double _ => .double
  | .doubleEscaped _ => .doubleEscape

theorem opened_enter (word : List Char) (c : Char) :
    (enter word c).opened = Opened.nothing.next c := by
  simp only [enter, Opened.next, apply_ite Place.opened]
  rfl

theorem next_of_isSeparator {c : Char} (h : isSeparator c = true) :
    Opened.nothing.next c = .nothing := by
  obtain rfl | rfl | rfl | rfl := isSeparator_iff.1 h <;> rfl

/-- From every place on, a line is not split exactly because of what is open at its end. -/
theorem splitFrom_eq_error_iff {place : Place} {cs : List Char} {fault : Fault} :
    splitFrom place cs = .error fault ↔
      (cs.foldl Opened.next place.opened).fault? = some fault := by
  fun_induction splitFrom place cs with
  | case1 | case2 | case3 | case4 | case5 | case6 => simp [Place.opened, Opened.fault?]
  | case7 c rest hc ih =>
    rw [ih, List.foldl_cons, Place.opened, next_of_isSeparator hc]
  | case8 c rest hc ih => rw [ih, opened_enter, List.foldl_cons, Place.opened]
  | case9 word c rest hc ih =>
    rw [Result.map_eq_error, ih, List.foldl_cons, Place.opened, Place.opened,
      next_of_isSeparator hc]
  | case10 word c rest hc ih => rw [ih, opened_enter, List.foldl_cons, Place.opened]
  -- within marks and after a backslash, both readers look at the same characters
  | case11 | case12 | case13 | case14 | case15 | case16 | case17 | case18 =>
    rename_i ih
    rw [ih, List.foldl_cons]
    simp [Place.opened, Opened.next, *]

/-- Why a line is not split: what is open at its end. -/
theorem split_eq_error_iff {line : String} {fault : Fault} :
    split line = .error fault ↔ (openedBy line).fault? = some fault := by
  rw [split, Result.map_eq_error, splitFrom_eq_error_iff]
  rfl

theorem openedBy_of_split {line : String} {words : List String} (h : split line = .ok words) :
    openedBy line = .nothing := by
  cases hfault : (openedBy line).fault? with
  | none => exact Opened.fault?_eq_none_iff.1 hfault
  | some fault =>
    rw [split_eq_error_iff.2 hfault] at h
    cases h

example : openedBy "pass 'db' \"main\\" = .doubleEscape := rfl

/-! ## Words between single marks -/

/-- A character between single marks.  No character stands for a single mark there, so a single mark
closes the marks, comes between double marks, and opens them again. -/
def quoteChar (c : Char) : List Char :=
  if c = '\x27' then ['\x27', '\x22', '\x27', '\x22', '\x27'] else [c]

/-- A word between single marks. -/
def quote (word : String) : List Char := '\x27' :: (word.toList.flatMap quoteChar ++ ['\x27'])

/-- Words, each quoted after what separates it from the word before. -/
def quoteAll (words : List (List Char × String)) : List Char :=
  words.flatMap fun entry => entry.1 ++ quote entry.2

/-- The line of a word and more words, with characters around. -/
def quotedLine (before : List Char) (word : String) (more : List (List Char × String))
    (after : List Char) : String :=
  String.ofList (before ++ (quote word ++ (quoteAll more ++ after)))

/-- Characters that separate words; perhaps none. -/
def IsGap (cs : List Char) : Prop := ∀ c ∈ cs, isSeparator c = true

theorem splitFrom_gap {gap : List Char} (h : IsGap gap) (rest : List Char) :
    splitFrom .between (gap ++ rest) = splitFrom .between rest := by
  induction gap with
  | nil => rfl
  | cons c gap ih =>
    obtain ⟨hc, hgap⟩ := List.forall_mem_cons.1 h
    rw [List.cons_append, splitFrom, if_pos hc, ih hgap]

theorem splitFrom_plain_gap {gap : List Char} (h : IsGap gap) (hsome : gap ≠ [])
    (word rest : List Char) :
    splitFrom (.plain word) (gap ++ rest) =
      (splitFrom .between rest).map (word.reverse :: ·) := by
  cases gap with
  | nil => exact absurd rfl hsome
  | cons c gap =>
    obtain ⟨hc, hgap⟩ := List.forall_mem_cons.1 h
    rw [List.cons_append, splitFrom, if_pos hc, splitFrom_gap hgap]

/-- Between single marks, a quoted character is read as the character. -/
theorem splitFrom_quoteChar (word : List Char) (c : Char) (rest : List Char) :
    splitFrom (.single word) (quoteChar c ++ rest) = splitFrom (.single (c :: word)) rest := by
  by_cases hc : c = '\x27'
  · subst hc
    simp [quoteChar, splitFrom, enter, isSeparator]
  · simp [quoteChar, splitFrom, hc]

/-- Between single marks, quoted characters are read up to the mark that closes them. -/
theorem splitFrom_quoteChars (word cs rest : List Char) :
    splitFrom (.single word) (cs.flatMap quoteChar ++ '\x27' :: rest) =
      splitFrom (.plain (cs.reverse ++ word)) rest := by
  induction cs generalizing word with
  | nil => simp [splitFrom]
  | cons c cs ih =>
    rw [List.flatMap_cons, List.append_assoc, splitFrom_quoteChar, ih]
    simp

/-- A quoted word is read as the word, even if it is empty. -/
theorem splitFrom_quote (word : String) (rest : List Char) :
    splitFrom .between (quote word ++ rest) = splitFrom (.plain word.toList.reverse) rest := by
  have hopen : splitFrom .between (quote word ++ rest) =
      splitFrom (.single []) (word.toList.flatMap quoteChar ++ '\x27' :: rest) := by
    simp [quote, splitFrom, enter, isSeparator]
  rw [hopen, splitFrom_quoteChars, List.append_nil]

/-- Quoted words are read one after another, and separators after the last one are read as well. -/
theorem splitFrom_quoteAll {more : List (List Char × String)} {after : List Char}
    (hmore : ∀ entry ∈ more, IsGap entry.1 ∧ entry.1 ≠ []) (hafter : IsGap after)
    (word : List Char) :
    splitFrom (.plain word) (quoteAll more ++ after) =
      .ok (word.reverse :: more.map fun entry => entry.2.toList) := by
  -- `word` is what the last mark closed; it ends at the separators before the next word
  induction more generalizing word with
  | nil =>
    by_cases hnone : after = []
    · subst hnone
      rfl
    · have hend := splitFrom_gap hafter []
      have hlast := splitFrom_plain_gap hafter hnone word []
      rw [List.append_nil] at hlast
      rw [quoteAll, List.flatMap_nil, List.nil_append, hlast]
      rfl
  | cons entry more ih =>
    obtain ⟨⟨hgap, hsome⟩, hmore⟩ := List.forall_mem_cons.1 hmore
    have hline : quoteAll (entry :: more) ++ after =
        entry.1 ++ (quote entry.2 ++ (quoteAll more ++ after)) := by
      simp [quoteAll]
    rw [hline, splitFrom_plain_gap hgap hsome, splitFrom_quote, ih hmore, List.reverse_reverse]
    rfl

/-- A line of quoted words splits into the words. -/
theorem split_quotedLine {before after : List Char} {more : List (List Char × String)}
    (word : String) (hbefore : IsGap before)
    (hmore : ∀ entry ∈ more, IsGap entry.1 ∧ entry.1 ≠ []) (hafter : IsGap after) :
    split (quotedLine before word more after) = .ok (word :: more.map Prod.snd) := by
  have hwords : splitFrom .between (quotedLine before word more after).toList =
      .ok (word.toList :: more.map fun entry => entry.2.toList) := by
    rw [quotedLine, String.toList_ofList, splitFrom_gap hbefore, splitFrom_quote,
      splitFrom_quoteAll hmore hafter, List.reverse_reverse]
  rw [split, hwords]
  simp [Except.map]

example : quotedLine [] "it's" [([' ', '\n'], "")] ['\t'] = "'it'\"'\"'s' \n''\t" := rfl

/-- A line of quoted words is not blank: it holds a quotation mark. -/
theorem exists_not_isBlank_of_quotedLine (before : List Char) (word : String)
    (more : List (List Char × String)) (after : List Char) :
    ∃ c ∈ (quotedLine before word more after).toList, Text.isBlank c = false :=
  ⟨'\x27', by simp [quotedLine, quote], by decide⟩

end PostgresAccess.Words
