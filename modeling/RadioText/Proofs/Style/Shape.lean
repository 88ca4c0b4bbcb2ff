import RadioText.Proofs.Style.Joining
import RadioText.Proofs.Style.Normalize

/-! Which lists of groups tokens are read as: those in normal form, and all of them. Normal form is
said here of a group and of each subgroup in it, whatever its depth. -/
namespace RadioText
open Token Piece Matching Grammar

namespace Group

inductive Within : Group → Group → Prop
  | self (g : Group) : Within g g
  | subgroup {h inner g : Group} (hi : Segment.subgroup inner ∈ g) : Within h inner → Within h g

structure Merged (g : Group) : Prop where
  filled : Segment.literal [] ∉ g
  apart : ∀ left t u right, g ≠ left ++ .literal t :: .literal u :: right

theorem Merged.tail {s : Segment} {g : Group} (h : Merged (s :: g)) : Merged g where
  filled hmem := h.filled (List.mem_cons_of_mem s hmem)
  apart left t u right heq := h.apart (s :: left) t u right (by rw [heq, List.cons_append])

theorem merged_nil : Merged [] where
  filled := List.not_mem_nil
  apart := by simp

/-- A segment may stand in front, unless it is an empty literal or one next to another. -/
theorem Merged.cons {s : Segment} {g : Group} (h : Merged g) (hs : s ≠ .literal [])
    (hne : ∀ t u rest, s = .literal t → g ≠ .literal u :: rest) : Merged (s :: g) where
  filled hmem := by
    rcases List.mem_cons.1 hmem with heq | hmem
    · exact hs heq.symm
    · exact h.filled hmem
  apart left t u right heq := by
    cases left with
    | nil =>
      obtain ⟨rfl, hg⟩ := List.cons.inj heq
      exact hne t u right rfl hg
    | cons _ left => exact h.apart left t u right (List.cons.inj heq).2

theorem Normal.merged {g : Group} (h : Normal g) : Merged g := by
  induction h with
  | nil => exact merged_nil
  | literal ht hg _ ih => exact ih.cons (by simpa using ht) fun _ u rest _ => hg u rest
  | field _ ih => exact ih.cons (by simp) (by simp)
  | subgroup _ _ _ ih => exact ih.cons (by simp) (by simp)

theorem Normal.of_mem {inner g : Group} (h : Normal g) (hi : Segment.subgroup inner ∈ g) :
    Normal inner := by
  induction h with
  | nil => cases hi
  | literal _ _ _ ih => exact ih (by simpa using hi)
  | field _ ih => exact ih (by simpa using hi)
  | subgroup hinner _ _ ih =>
    rcases List.mem_cons.1 hi with heq | hi
    · cases heq
      exact hinner
    · exact ih hi

theorem Normal.within {h g : Group} (hw : Within h g) (hn : Normal g) : Normal h := by
  induction hw with
  | self => exact hn
  | subgroup hi _ ih => exact ih (hn.of_mem hi)

/-- What is in a group is also in the group with one more segment, the group itself apart. -/
theorem Within.cons {h g : Group} (hw : Within h g) (s : Segment) : h = g ∨ Within h (s :: g) := by
  cases hw with
  | self => exact .inl rfl
  | subgroup hi hw => exact .inr (.subgroup (List.mem_cons_of_mem s hi) hw)

theorem normal_iff (g : Group) : Normal g ↔ ∀ h, Within h g → Merged h := by
  refine ⟨fun hn h hw => (hn.within hw).merged, fun hall => ?_⟩
  -- The conditions on a group are also met by what is behind its first segment.
  have tail {s : Segment} {g : Group} (hall : ∀ h, Within h (s :: g) → Merged h) :
      ∀ h, Within h g → Merged h := by
    intro h hw
    rcases hw.cons s with rfl | hw
    · exact (hall _ (.self _)).tail
    · exact hall h hw
  induction g using Group.induction with
  | nil => exact .nil
  | literal t g ih =>
    have hm := hall _ (.self _)
    refine .literal ?_ (fun u rest hg => ?_) (ih (tail hall))
    · rintro rfl
      exact hm.filled List.mem_cons_self
    · exact hm.apart [] t u rest (by rw [hg, List.nil_append])
  | field k g ih => exact .field (ih (tail hall))
  | subgroup inner g ihInner ih =>
    exact .subgroup (ihInner fun h hw => hall h (.subgroup List.mem_cons_self hw)) (ih (tail hall))

/-- Every group has tokens that spell it, each literal as one. -/
theorem exists_spelled_tokens (g : Group) : ∃ ts, Spelled ts g := by
  induction g using Group.induction with
  | nil => exact ⟨[], .nil⟩
  | literal t g ih =>
    obtain ⟨ts, hts⟩ := ih
    exact ⟨[.text t] ++ ts, .literal (by simp [controlChar?]) (by simp [Token.literal]) hts⟩
  | field k g ih =>
    obtain ⟨ts, hts⟩ := ih
    exact ⟨_, .field k hts⟩
  | subgroup inner g ihInner ih =>
    obtain ⟨is, his⟩ := ihInner
    obtain ⟨ts, hts⟩ := ih
    exact ⟨_, .subgroup his hts⟩

end Group

theorem groupsOfTokens_spelled {ts : List Token} {g : Group} (h : Spelled ts g) (hn : g.Normal)
    (hne : g ≠ []) : groupsOfTokens ts = [g] := by
  obtain ⟨qs, heq, -, hlines⟩ := h.pieces hn 0 0 []
  have hl : Lines (ofTokens ts) g [] := by
    rw [ofTokens_eq, ← List.append_nil ts, heq]
    exact hlines _ _ .nil
  rw [groupsOfTokens_eq hl]
  simp [keptLines, hne]

/-- Groups in normal form are read from some tokens, in which no closing bracket is left over. -/
theorem exists_tokens {gs : List Group} (h : NormalForm gs) :
    ∃ ts, freeClosers ts = 0 ∧ groupsOfTokens ts = gs := by
  induction gs with
  | nil => exact ⟨[], rfl, rfl⟩
  | cons g gs ih =>
    obtain ⟨⟨hne, hn⟩, hrest⟩ := List.forall_mem_cons.1 h
    obtain ⟨xs, hxs⟩ := g.exists_spelled_tokens
    obtain ⟨ys, hfree, hys⟩ := ih hrest
    refine ⟨xs ++ .pipe :: ys, ?_, ?_⟩
    · rwa [hxs.balanced.freeClosers_append, freeClosers_token (by simp) (by simp)]
    · rw [groupsOfTokens_append_pipe (.inr hfree), groupsOfTokens_spelled hxs hn hne, hys]
      rfl

/-- Whatever the tokens, no group that is read from them is empty, and in none, nor in any subgroup
at any depth, is a literal empty or next to another. Every list of such groups is read from some
tokens. -/
theorem groupsOfTokens_merged :
    (∀ ts, ∀ g ∈ groupsOfTokens ts, g ≠ [] ∧ ∀ h, Group.Within h g → Group.Merged h) ∧
      ∀ gs : List Group, (∀ g ∈ gs, g ≠ [] ∧ ∀ h, Group.Within h g → Group.Merged h) →
        ∃ ts, groupsOfTokens ts = gs := by
  simp only [← Group.normal_iff]
  refine ⟨normalForm_groupsOfTokens, fun gs h => ?_⟩
  obtain ⟨ts, -, hts⟩ := exists_tokens h
  exact ⟨ts, hts⟩

/-- Tokens that no style has: empty and neighbouring runs of text, and a control character escaped
that is none. -/
theorem groupsOfTokens_merged_unstyled :
    let ts : List Token := [.text [], .groupClose, .text ['a'], .text [], .groupOpen, .text ['b'],
      .fieldOpen, .escaped 'x', .fieldClose, .pipe, .text [], .pipe, .text ['c']]
    let g : Group := [.literal [']', 'a'], .subgroup [.literal ['b', '{', 'x', '}']]]
    (g ∈ groupsOfTokens ts ∧ g ≠ [] ∧ ∀ h, Group.Within h g → Group.Merged h) ∧
      (∀ g' ∈ [g], g' ≠ [] ∧ ∀ h, Group.Within h g' → Group.Merged h) ∧
      ∃ ts', groupsOfTokens ts' = [g] := by
  intro ts g
  have hts : groupsOfTokens ts = [g, [.literal ['c']]] := rfl
  have hmem : g ∈ groupsOfTokens ts := by simp [hts]
  obtain ⟨hread, hall⟩ := groupsOfTokens_merged
  have hg := hread ts g hmem
  have hone : ∀ g' ∈ [g], g' ≠ [] ∧ ∀ h, Group.Within h g' → Group.Merged h :=
    List.forall_mem_singleton.2 hg
  exact ⟨⟨hmem, hg⟩, hone, hall _ hone⟩

end RadioText
