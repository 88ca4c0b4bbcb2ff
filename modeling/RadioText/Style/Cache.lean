import RadioText.Style.Parser
import RadioText.Style.Evaluation

/-! The template in effect for a style that can change. Each replacement installs a template of its
own, even one equal to an earlier template; values taken before keep what they were. -/
namespace RadioText

/-- The template in effect, and how many replacements led to it. -/
structure Cache where
  version : Nat
  template : Template

/-- How much of a cache's history a subscriber has seen. -/
structure Subscription where
  seen : Nat

namespace Cache

def ofStyle (style : Text) : Cache := ⟨0, Template.ofStyle style⟩

/-- Replace the template unless the style is the one in effect; also whether it was replaced. -/
def update (c : Cache) (style : Text) : Cache × Bool :=
  if style = c.template.source then (c, false)
  else (⟨c.version + 1, Template.ofStyle style⟩, true)

/-- Two values of one cache hold the very same template. -/
def identical (a b : Cache) : Bool := a.version == b.version

def evaluate (c : Cache) (m : Metadata) : List Text := c.template.evaluate m

/-- A subscription with nothing pending. -/
def subscribe (c : Cache) : Subscription := ⟨c.version⟩

/-- Whether a replacement came after what the subscriber has seen. -/
def changedFor (c : Cache) (s : Subscription) : Bool := s.seen != c.version

end Cache
end RadioText
