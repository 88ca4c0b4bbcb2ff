import RadioText.Proofs.Style.Outline
import RadioText.Proofs.Text.Decimal
import RadioText.Proofs.Text.Ends
import RadioText.Style.Parser

/-! How many lines a drawing has: its header, and one for every node. No label has a line feed in
it, since what a literal says is quoted; but the header shows the style as it is, and has a line
more for every line feed that it shows. -/
namespace RadioText

mutual

def Segment.total : Segment → Nat
  | .literal _ => 1
  | .field _ => 1
  | .subgroup g => 1 + Segment.totals g

def Segment.totals : List Segment → Nat
  | [] => 0
  | s :: g => s.total + Segment.totals g

end

/-! ### No line feed in a label -/

theorem newline_notMem_toDigits (n : Nat) : '\n' ∉ Nat.toDigits 16 n := by
  induction n using Nat.strong_induction_on with
  | _ n ih =>
    rw [Nat.toDigits_eq_if (by omega)]
    split
    · simp
    · simp [ih (n / 16) (by omega)]

theorem Quoted.newline_notMem_spell (c : Char) : '\n' ∉ spell c := by
  unfold spell
  split
  case h_7 hnewline _ _ _ =>
    split
    · simp [newline_notMem_toDigits]
    · simpa using Ne.symm hnewline
  all_goals decide

theorem Quoted.newline_notMem_quote (t : Text) : '\n' ∉ quote t := by
  simp [quote, newline_notMem_spell]

namespace TreeView
open Node

theorem newline_notMem_label (s : Segment) : '\n' ∉ label s := by
  cases s with
  | literal t =>
    change '\n' ∉ "◦ ".toList ++ Quoted.quote (Text.abbreviate limit t)
    simp [Quoted.newline_notMem_quote]
  | field k => cases k <;> decide
  | subgroup g =>
    change '\n' ∉ "⊂ subgroup".toList
    decide

theorem newline_notMem_number (n : Nat) : '\n' ∉ "↵ line ".toList ++ Decimal.write n := by
  intro h
  rcases List.mem_append.1 h with h | h
  · simp at h
  · exact absurd (Decimal.isDigit_of_mem_write h) (by decide)

/-! ### One line for a node -/

theorem lined_nodeLine (ancestors : List Bool) (last : Bool) {title : Text} (h : '\n' ∉ title) :
    (line ancestors last title).Lined 1 := by
  have hmargin : '\n' ∉ ancestors.flatMap rail := by
    simp only [List.mem_flatMap, not_exists, not_and]
    intro b _
    cases b <;> decide
  have hjoint : '\n' ∉ joint last := by cases last <;> decide
  have hall : '\n' ∉ ancestors.flatMap rail ++ joint last ++ ' ' :: title := by
    simp [hmargin, hjoint, h]
  have hline := Text.lined_line (ancestors.flatMap rail ++ joint last ++ ' ' :: title)
  rw [List.count_eq_zero.2 hall] at hline
  exact hline

theorem lined_outlines (g : Group) (ancestors : List Bool) :
    ∀ l ∈ outlines ancestors (ofSegments g), l.Lined 1 := by
  induction g using Group.induction generalizing ancestors with
  | nil => simp [ofSegments, outlines]
  | literal t g ih | field k g ih =>
    simp only [ofSegments, ofSegment, outlines, outline, List.singleton_append,
      List.forall_mem_cons]
    exact ⟨lined_nodeLine _ _ (newline_notMem_label _), ih ancestors⟩
  | subgroup inner g ihInner ih =>
    simp only [ofSegments, ofSegment, outlines, outline, List.cons_append, List.forall_mem_cons,
      List.forall_mem_append]
    exact ⟨lined_nodeLine _ _ (newline_notMem_label _), ihInner _, ih ancestors⟩

theorem length_outlines (g : Group) (ancestors : List Bool) :
    (outlines ancestors (ofSegments g)).length = Segment.totals g := by
  induction g using Group.induction generalizing ancestors with
  | nil => rfl
  | literal t g ih | field k g ih =>
    simp [ofSegments, ofSegment, outlines, outline, Segment.totals, Segment.total, ih, Nat.add_comm]
  | subgroup inner g ihInner ih =>
    simp only [ofSegments, ofSegment, outlines, outline, Segment.totals, Segment.total,
      List.length_append, List.length_cons, ihInner, ih]
    omega

theorem lined_ofGroups (gs : List Group) (first : Nat) :
    ∀ l ∈ outlines [] (ofGroups first gs), l.Lined 1 := by
  induction gs generalizing first with
  | nil => simp [ofGroups, outlines]
  | cons g gs ih =>
    simp only [ofGroups, ofGroup, outlines, outline, List.cons_append, List.forall_mem_cons,
      List.forall_mem_append]
    exact ⟨lined_nodeLine _ _ (newline_notMem_number first), lined_outlines g _, ih (first + 1)⟩

theorem length_ofGroups (gs : List Group) (first : Nat) :
    (outlines [] (ofGroups first gs)).length = gs.length + (gs.map Segment.totals).sum := by
  induction gs generalizing first with
  | nil => rfl
  | cons g gs ih =>
    simp only [ofGroups, ofGroup, outlines, outline, List.length_append, List.length_cons,
      length_outlines, ih, List.map_cons, List.sum_cons]
    omega

/-! ### The header -/

theorem count_abbreviate (t : Text) :
    (Text.abbreviate limit t).count '\n' = (t.take limit).count '\n' := by
  rw [Text.abbreviate]
  split
  · rw [List.count_append]
    rfl
  · rename_i h
    rw [List.take_of_length_le (Nat.le_of_not_lt h)]

theorem lined_header (source : Text) :
    (header source).Lined (1 + (source.take limit).count '\n') := by
  have h := Text.lined_line ("⧉ ".toList ++ Text.abbreviate limit source)
  have hicon : "⧉ ".toList.count '\n' = 0 := by decide
  rw [List.count_append, count_abbreviate, hicon, Nat.zero_add] at h
  exact h

theorem lined_draw (t : Template) :
    (draw t).Lined
      (1 + (t.source.take limit).count '\n' +
        (t.groups.length + (t.groups.map Segment.totals).sum)) := by
  rw [draw, lines_eq, List.flatten_cons, ← length_ofGroups t.groups 1]
  exact (lined_header t.source).append (Text.lined_flatten (lined_ofGroups t.groups 1))

/-- The drawing of a style has a line for its header, one for every group and one for every segment,
each ended by a line feed, unless there is a line feed among the characters that the header shows of
the style; every such one makes a line more. -/
theorem lined_draw_iff (s : Text) :
    let t := Template.ofStyle s
    let nodes := t.groups.length + (t.groups.map Segment.totals).sum
    ((draw t).Lined (1 + nodes) ↔ '\n' ∉ s.take limit) ∧
      (draw t).Lined (1 + (s.take limit).count '\n' + nodes) := by
  intro t nodes
  have hlined : (draw t).Lined (1 + (s.take limit).count '\n' + nodes) := lined_draw t
  refine ⟨⟨fun h => ?_, fun h => ?_⟩, hlined⟩
  · have hcount := hlined.count.symm.trans h.count
    exact List.count_eq_zero.1 (by omega)
  · rw [List.count_eq_zero.2 h] at hlined
    exact hlined

/-- One group with one segment, and a header of two lines. -/
theorem lined_draw_broken :
    let t := Template.ofStyle "a\nb".toList
    t.groups.length = 1 ∧ (t.groups.map Segment.totals).sum = 1 ∧
      ¬(draw t).Lined (1 + 1 + 1) ∧ (draw t).Lined 4 := by
  intro t
  have hlined : (draw t).Lined 4 := lined_draw t
  refine ⟨rfl, rfl, fun h => ?_, hlined⟩
  have hcount := hlined.count.symm.trans h.count
  omega

end TreeView
end RadioText
