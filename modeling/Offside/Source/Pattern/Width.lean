import Offside.Text.Basic

/-!
# Widths of patterns

What a part of a regular expression matches has a least and a greatest width, counted in code
points.  Only a part of one width may look behind, so that widths are added up over sequences,
compared over alternatives and multiplied by repetition.  They stop at a greatest width, which
no text reaches.
-/

namespace Offside

namespace Source

namespace Pattern

/-- How often something is repeated: at least and, if there is a bound, at most. -/
structure Repetition where
  least : Nat
  greatest : Option Nat

/-- The least and the greatest width of what a part of a pattern matches. -/
structure Width where
  least : Nat
  greatest : Nat

namespace Width

/-- The greatest width, which also stands for none. -/
def limit : Nat := 18446744073709551616

/-- The width of nothing. -/
def none : Width := ⟨0, 0⟩

/-- The width of one code point. -/
def one : Width := ⟨1, 1⟩

/-- The width of two parts in a row. -/
def append (a b : Width) : Width :=
  ⟨min (a.least + b.least) limit, min (a.greatest + b.greatest) limit⟩

/-- The width of one of two parts. -/
def or (a b : Width) : Width := ⟨min a.least b.least, max a.greatest b.greatest⟩

/-- The width of a part that may be missing. -/
def optional (w : Width) : Width := ⟨0, w.greatest⟩

/-- The width of a repeated part. -/
def repeated (w : Width) (r : Repetition) : Width :=
  let greatest := match r.greatest with
    | some n => w.greatest * n
    | Option.none => if w.greatest = 0 then 0 else limit
  ⟨min (w.least * r.least) limit, min greatest limit⟩

/-- The width is the same for all that matches, and short enough to look behind. -/
def fixed (w : Width) : Bool := w.least == w.greatest && decide (w.least < 0x80000000)

end Width

end Pattern

end Source

end Offside
