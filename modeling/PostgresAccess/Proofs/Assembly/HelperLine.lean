import PostgresAccess.Proofs.Assembly.Password
import PostgresAccess.Proofs.Assembly.Soundness

/-!
# Command lines of helpers

When valid settings hold no password, the command line alone decides which helper is called, and
with what.  There is nothing between the two outcomes of a line that is not blank: either something
is open at its end, and the assembling is refused before any helper is called, or the line has a
word, the helper of that name is called with the others, and the assembling fails only if the helper
does (`refused_or_called_of_line`).

No word is out of reach of a command line.  The line that puts each word between single marks calls
the helper with exactly these words (`calls_of_quotedLine`).
-/

namespace PostgresAccess

/-- A report of attributes that were refused, in some words, before any helper was called. -/
structure Report.IsRefused (report : Report) (message : String) : Prop where
  failure : ∃ failure, report.outcome = .error failure ∧ failure.kind = .configuration ∧
    failure.message = message
  calls : report.calls = []

namespace Assembly

variable {assembler : Assembler} {s : Settings}

/-! ## With and without words -/

theorem isRefused_of_unsplit {fault : Words.Fault} (runner : Runner) (hvalid : s.AreValid)
    (hserves : assembler.allocator.Serves s)
    (hsource : passwordSource assembler.timeout s = .error (.configuration (.unsplit fault))) :
    (assemble assembler runner s).IsRefused
      ("Cannot parse 'password_command': " ++ fault.message) := by
  obtain ⟨target, htarget⟩ := targetOf_of_areValid hvalid hserves
  have hreport : assemble assembler runner s = ⟨.error (.configuration (.unsplit fault)),
      deprecationNotices s ++ tunnelNotices s.jumphost target, []⟩ := by
    simp only [assemble, htarget, hsource]
  rw [hreport]
  exact ⟨⟨_, rfl, rfl, rfl⟩, rfl⟩

/-- A line that is not blank gives no source of a password if something is open at its end, and
otherwise its words do. -/
theorem passwordSource_of_openedBy (timeout : Value) {line : String} (hunset : s.password = .null)
    (hline : s.passwordCommand = .text line) (hnamed : isBlankText line = false) :
    (∃ fault, (Words.openedBy line).fault? = some fault ∧
      passwordSource timeout s = .error (.configuration (.unsplit fault))) ∨
    (Words.openedBy line = .nothing ∧
      ∃ command arguments, Words.split line = .ok (command :: arguments) ∧
        passwordSource timeout s = .ok (.helper ⟨command, arguments, timeout⟩)) := by
  rw [passwordSource_of_line timeout hunset hline]
  obtain ⟨fault, hfault, hsource⟩ | ⟨command, arguments, hsplit, hsource⟩ :=
    helperOfLine_of_not_isBlank timeout hnamed
  · exact .inl ⟨fault, Words.split_eq_error_iff.1 hfault, hsource⟩
  · exact .inr ⟨Words.openedBy_of_split hsplit, command, arguments, hsplit, hsource⟩

end Assembly

open Assembly

/-! ## Lines that are not blank -/

/-- A command line that is not blank leads to one of two things.  If marks or a backslash are open
at its end, the attributes are refused and no helper is called; a backslash counts as open between
double marks as well.  Otherwise the line has a first word, the helper of that name is called with
the other words, and the assembling fails only if the helper does. -/
theorem refused_or_called_of_line {s : Settings} {line : String} (assembler : Assembler)
    (runner : Runner) (hvalid : s.AreValid) (hserves : assembler.allocator.Serves s)
    (hunset : s.password = .null) (hline : s.passwordCommand = .text line)
    (hnamed : Text.trim line.toList ≠ []) :
    (Words.openedBy line = .single ∨ Words.openedBy line = .double →
      (assemble assembler runner s).IsRefused
        "Cannot parse 'password_command': No closing quotation") ∧
    (Words.openedBy line = .escape ∨ Words.openedBy line = .doubleEscape →
      (assemble assembler runner s).IsRefused
        "Cannot parse 'password_command': No escaped character") ∧
    (Words.openedBy line = .nothing →
      ∃ command arguments, Words.split line = .ok (command :: arguments) ∧
        (assemble assembler runner s).calls = [⟨command, arguments, assembler.timeout⟩] ∧
        ∀ failure, (assemble assembler runner s).outcome = .error failure →
          (runner ⟨command, arguments, assembler.timeout⟩).outcome = .error failure) := by
  have hblank : isBlankText line = false := by simpa [isBlankText] using hnamed
  obtain ⟨fault, hfault, hsource⟩ | ⟨hopened, command, arguments, hsplit, hsource⟩ :=
    passwordSource_of_openedBy assembler.timeout hunset hline hblank
  -- what is open at the end of the line tells the two faults apart, and neither is none
  · have hrefused := isRefused_of_unsplit runner hvalid hserves hsource
    refine ⟨?_, ?_, ?_⟩
    · rintro (hopened | hopened) <;> rw [hopened] at hfault <;> cases hfault <;> exact hrefused
    · rintro (hopened | hopened) <;> rw [hopened] at hfault <;> cases hfault <;> exact hrefused
    · intro hopened
      rw [hopened] at hfault
      cases hfault
  · have hcalls := calls_of_helper runner hvalid hserves hsource
    rw [hopened]
    exact ⟨by simp, by simp, fun _ => ⟨command, arguments, hsplit, hcalls⟩⟩

/-- Settings without a password that name a helper by a line. -/
def settingsNaming (line : String) : Settings :=
  tunnelledSettings.set .passwordCommand (.text line)

theorem areValid_settingsNaming (line : String) : (settingsNaming line).AreValid := by
  have hparse : Settings.parse .empty "<mapping>" tunnelledDocument = .ok tunnelledSettings := rfl
  have hcontent : Field.passwordCommand.Admits (.text line) := .inr ⟨line, rfl⟩
  exact (Settings.areValid_of_parse hparse).set hcontent

/-- A line that starts with a blank which separates no words, and ends after a backslash between
double marks. -/
def unfinishedLine : String := "\u00a0 pass \"db\\"

/-- A line that holds nothing but a pair of marks. -/
def emptyWordLine : String := "''"

/-- The first line is refused for its backslash; the second has a word, which is empty. -/
theorem refused_or_called_of_line_unfinished :
    (settingsNaming unfinishedLine).AreValid ∧ (settingsNaming emptyWordLine).AreValid ∧
    (∀ line, (Tunnel.Allocator.ofWord 7).Serves (settingsNaming line)) ∧
    Text.trim unfinishedLine.toList ≠ [] ∧ Text.trim emptyWordLine.toList ≠ [] ∧
    ∀ runner,
      (assemble ⟨.ofWord 7, .int 30, .text defaultApplicationName⟩ runner
        (settingsNaming unfinishedLine)).IsRefused
          "Cannot parse 'password_command': No escaped character" ∧
      (assemble ⟨.ofWord 7, .int 30, .text defaultApplicationName⟩ runner
        (settingsNaming emptyWordLine)).calls = [⟨"", [], .int 30⟩] := by
  have hserves := fun line => Tunnel.Allocator.serves_ofWord 7 (settingsNaming line)
  have hunfinished : Text.trim unfinishedLine.toList ≠ [] := by decide
  have hempty : Text.trim emptyWordLine.toList ≠ [] := by decide
  refine ⟨areValid_settingsNaming _, areValid_settingsNaming _, hserves, hunfinished, hempty, ?_⟩
  intro runner
  obtain ⟨-, hrefused, -⟩ :=
    refused_or_called_of_line ⟨.ofWord 7, .int 30, .text defaultApplicationName⟩ runner
      (areValid_settingsNaming unfinishedLine) (hserves _) rfl rfl hunfinished
  obtain ⟨-, -, hcalled⟩ :=
    refused_or_called_of_line ⟨.ofWord 7, .int 30, .text defaultApplicationName⟩ runner
      (areValid_settingsNaming emptyWordLine) (hserves _) rfl rfl hempty
  obtain ⟨command, arguments, hsplit, hcalls, -⟩ := hcalled rfl
  cases hsplit
  exact ⟨hrefused (.inr rfl), hcalls⟩

/-! ## Lines of quoted words -/

/-- A command line of words between single marks calls the helper that the first word names with
the other words, as they are and in their order, whatever separates and surrounds them. -/
theorem calls_of_quotedLine {s : Settings} {before after : List Char} {word : String}
    {more : List (List Char × String)} (assembler : Assembler) (runner : Runner)
    (hvalid : s.AreValid) (hserves : assembler.allocator.Serves s) (hunset : s.password = .null)
    (hline : s.passwordCommand = .text (Words.quotedLine before word more after))
    (hbefore : Words.IsGap before) (hmore : ∀ entry ∈ more, Words.IsGap entry.1 ∧ entry.1 ≠ [])
    (hafter : Words.IsGap after) :
    (assemble assembler runner s).calls =
      [⟨word, more.map Prod.snd, assembler.timeout⟩] := by
  have hnamed := Words.exists_not_isBlank_of_quotedLine before word more after
  have hsplit := Words.split_quotedLine word hbefore hmore hafter
  have hsource : passwordSource assembler.timeout s =
      .ok (.helper ⟨word, more.map Prod.snd, assembler.timeout⟩) :=
    passwordSource_eq_helper.2
      ⟨hunset, _, _, _, hline, isBlankText_eq_false.2 hnamed, hsplit, rfl⟩
  exact (calls_of_helper runner hvalid hserves hsource).1

/-- Words that are not written plainly: one with a mark, an empty one, and one of blanks, a number
sign, a backslash, a double mark and a letter with an accent. -/
def awkwardWords : List (List Char × String) :=
  [([' '], "it's"), (['\r', '\n'], ""), (['\t', ' '], " #\n\\\"é")]

/-- The line of the words, with blanks around. -/
def awkwardLine : String := Words.quotedLine ['\t'] "pass" awkwardWords ['\n']

/-- The words arrive as they are. -/
theorem calls_of_quotedLine_awkward :
    (settingsNaming awkwardLine).AreValid ∧
    (Tunnel.Allocator.ofWord 7).Serves (settingsNaming awkwardLine) ∧
    (∀ entry ∈ awkwardWords, Words.IsGap entry.1 ∧ entry.1 ≠ []) ∧
    ∀ runner, (assemble ⟨.ofWord 7, .int 30, .text defaultApplicationName⟩ runner
      (settingsNaming awkwardLine)).calls = [⟨"pass", ["it's", "", " #\n\\\"é"], .int 30⟩] := by
  have hvalid := areValid_settingsNaming awkwardLine
  have hserves := Tunnel.Allocator.serves_ofWord 7 (settingsNaming awkwardLine)
  have hbefore : Words.IsGap ['\t'] := by simp [Words.IsGap, Words.isSeparator]
  have hmore : ∀ entry ∈ awkwardWords, Words.IsGap entry.1 ∧ entry.1 ≠ [] := by
    simp [awkwardWords, Words.IsGap, Words.isSeparator]
  have hafter : Words.IsGap ['\n'] := by simp [Words.IsGap, Words.isSeparator]
  exact ⟨hvalid, hserves, hmore, fun runner =>
    calls_of_quotedLine ⟨.ofWord 7, .int 30, .text defaultApplicationName⟩ runner hvalid hserves
      rfl rfl hbefore hmore hafter⟩

end PostgresAccess
