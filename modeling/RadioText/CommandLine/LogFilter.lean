import RadioText.CommandLine.LogFilter.Rule

/-! Which lines get into the log. A filter is a list of rules with commas between them. The rule with
the longest start that fits a part decides, among those of one start one with a value, and a rule
stands for the earlier ones of its kind. Without a rule nothing is shown. -/
namespace RadioText

/-- Rules in the order given. -/
structure LogFilter where
  rules : List LogFilter.Rule

namespace LogFilter

def upTo (l : Level) : LogFilter := ⟨[.lines [] none ⟨some l⟩]⟩

def read (t : Text) : Except Fault LogFilter :=
  return ⟨← ((Text.split ',' t).filter (! ·.isEmpty)).mapM readRule⟩

/-- How closely a rule fits: the length of the start, and whether it names a value. -/
structure Fit where
  length : Nat
  named : Bool

/-- At least as close. -/
def Fit.reaches (f g : Fit) : Bool :=
  g.length < f.length || (g.length == f.length && (f.named || !g.named))

/-- How closely a rule fits a line, and its limit. -/
def Rule.fit? (l : LogLine) : Rule → Option (Fit × Limit)
  | .lines start value limit =>
    if start.isPrefixOf l.origin.toList && value.all l.has then
      some (⟨start.length, value.isSome⟩, limit)
    else none
  | .activity => none

/-- The limit of the closest rule, of equally close ones the last. -/
def limit? (f : LogFilter) (l : LogLine) : Option Limit :=
  ((f.rules.filterMap (·.fit? l)).foldl (fun best fit =>
    if best.all (fit.1.reaches ·.1) then some fit else best) none).map Prod.snd

def shows (f : LogFilter) (l : LogLine) : Bool := (f.limit? l).any (·.admits l.level)

end LogFilter
end RadioText
