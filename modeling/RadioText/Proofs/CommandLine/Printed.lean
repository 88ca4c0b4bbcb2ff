import RadioText.CommandLine.Run
import RadioText.Proofs.Style.Trailing

/-! The command that prints a style written back. Whatever is printed ends in one line break, and
the white space in front of that is cut off with it; the style that is left reads as the one that
was given, less the white space at its end. -/
namespace RadioText.CommandLine
open Token

def writeBack (s : Text) : List Text :=
  ["inspect".toList, "--format".toList, "template-style".toList, "--".toList, s]

theorem Form.take_divider {α : Type} (f : Form α) (p : Progress α) (args : List Text) :
    f.take p ("--".toList :: args) = (args.foldlM Progress.operand p).map (·.filled) := by
  rw [Form.take]
  rfl

theorem read_inspectForm (s : Text) :
    inspectForm.read ["--format".toList, "template-style".toList, "--".toList, s] =
      .ok { style := some s, format := "template-style".toList } := by
  let filled : InspectArguments := { format := "template-style".toList }
  rw [Form.read, Form.take]
  change inspectForm.take ⟨filled, inspectForm.operands, ["format"]⟩ ["--".toList, s] = _
  rw [Form.take_divider]
  rfl

theorem read_writeBack (s : Text) :
    Request.read (writeBack s) = .invoke (.inspect s "template-style".toList {}) := by
  change Request.ofCommand (.ofForm "inspect" _ inspectForm (·.invocation)) _ = _
  simp only [Request.ofCommand, Command.ofForm, read_inspectForm]
  rfl

/-- A run with these arguments prints, and does nothing else. -/
theorem run_writeBack (env : Environment) (folder : Folder) (input : Bytes) (s : Text) :
    run env folder input (writeBack s) =
      { output := (normalizeStyle s).trimEnd ++ ['\n'], folder } := by
  rw [run, read_writeBack]
  rfl

/-- A style that does not end in a lone backslash is printed as a style with the same groups, less
the white space at their end; so it is printed with the same groups unless they end in white
space. -/
theorem groups_printed (env : Environment) (folder : Folder) (input : Bytes) (s : Text)
    (h : (ofStyle s).getLast? ≠ some .backslash) :
    ∃ p, run env folder input (writeBack s) = { output := p ++ ['\n'], folder } ∧
      (Template.ofStyle p).groups = trimLines (Template.ofStyle s).groups ∧
      ((Template.ofStyle p).groups = (Template.ofStyle s).groups ↔
        ¬EndsBlank (Template.ofStyle s).groups) := by
  have hslash : SlashLast (Template.ofStyle s).groups := (slashLast_ofStyle s).2 fun hs => h hs.1
  have hgroups := groups_trimEnd_normalizeStyle hslash
  refine ⟨(normalizeStyle s).trimEnd, run_writeBack env folder input s, hgroups, ?_⟩
  rw [hgroups]
  exact trimLines_eq_self_iff (normalForm_groupsOfTokens (ofStyle s))

/-- White space inside the text is printed, at the end of a subgroup too. -/
theorem groups_printed_inside :
    (ofStyle " a |[b ]".toList).getLast? ≠ some .backslash ∧
      ∃ p, run {} {} [] (writeBack " a |[b ]".toList) = { output := p ++ ['\n'], folder := {} } ∧
        (Template.ofStyle p).groups =
          [[.literal [' ', 'a', ' ']], [.subgroup [.literal ['b', ' ']]]] := by
  have h : (ofStyle " a |[b ]".toList).getLast? ≠ some .backslash := by decide
  obtain ⟨p, hrun, hgroups, _⟩ := groups_printed {} {} [] " a |[b ]".toList h
  exact ⟨h, p, hrun, hgroups.trans rfl⟩

/-- White space at the very end is not printed. -/
theorem groups_printed_blank :
    (ofStyle "a ".toList).getLast? ≠ some .backslash ∧
      (run {} {} [] (writeBack "a ".toList)).output = ['a'] ++ ['\n'] ∧
      (Template.ofStyle ['a']).groups ≠ (Template.ofStyle "a ".toList).groups := by
  have hgroups : groupsOfTokens (ofStyle "a ".toList) = [[.literal ['a', ' ']]] := rfl
  have hprinted : normalizeStyle "a ".toList = ['a', ' '] := by
    rw [normalizeStyle_eq, hgroups]
    simp [groupsToStyle_cons, styleBehind, spellLiteral, control?]
  have hread : groupsOfTokens (ofStyle ['a']) = [[.literal ['a']]] := rfl
  refine ⟨by decide, ?_, ?_⟩
  · rw [run_writeBack, hprinted]
    rfl
  · rw [groups_ofStyle, groups_ofStyle, hread, hgroups]
    simp

end RadioText.CommandLine
