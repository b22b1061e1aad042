import Offside.Fault

/-!
# Margins

A margin is the blank text in front of every line of one block: a unit, repeated once for every
block around it.  Entering a block gives a new margin and leaves the old one as it is.
-/

namespace Offside

/-- The indentation inside a number of blocks. -/
structure Margin where
  unit : Text
  depth : Nat
deriving DecidableEq

namespace Margin

/-- The unit that is used if no other is given. -/
def defaultUnit : Text := "  "

/-- The margin at a depth, which may not be negative. -/
def atDepth? (unit : Text) (depth : Int) : Except Fault Margin :=
  match depth with
  | .ofNat n => .ok ⟨unit, n⟩
  | .negSucc _ => .error (.outOfRange (.negativeDepth depth))

/-- The text of a margin. -/
def text (m : Margin) : Text := m.unit.times m.depth

/-- The text of the margin one block further in. -/
def next (m : Margin) : Text := m.unit.times (m.depth + 1)

/-- The margin one block further in. -/
def enter (m : Margin) : Margin := { m with depth := m.depth + 1 }

/-- The margin of the block around; the outermost one has none. -/
def leave? (m : Margin) : Except Fault Margin :=
  match m.depth with
  | 0 => .error (.outOfRange .outermostMargin)
  | n + 1 => .ok { m with depth := n }

/-- A line behind the margin. -/
def indent (m : Margin) (line : Text) : Text := m.text ++ line

theorem text_enter (m : Margin) : m.enter.text = m.next := rfl

theorem leave?_enter (m : Margin) : m.enter.leave? = .ok m := rfl

end Margin

end Offside
