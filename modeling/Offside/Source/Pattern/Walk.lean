import Offside.Source.Place
import Offside.Source.Pattern.Width

/-!
# The walk over a pattern

Checking a regular expression is a walk that either fails or goes on.  It takes the pattern mark
by mark, where a mark is a code point or a backslash with the code point behind it, and keeps
the groups opened so far and the switches set for the whole pattern.
-/

namespace Offside

namespace Source

namespace Pattern

/-- A captured group: its name if it has one, and its width once it is closed. -/
structure Group where
  name : Option Text
  width : Option Width

/-- The state of the walk. -/
structure State where
  /-- What is left of the pattern. -/
  rest : Text
  /-- The groups opened so far. -/
  groups : List Group
  /-- Inside a part that looks behind, the number of groups that were opened before it. -/
  before : Option Nat
  /-- The switches set for the whole pattern. -/
  switches : Text
  /-- The greatest number by which a condition names a group. -/
  farthest : Nat

/-- The state before a pattern. -/
def State.start (pattern : Text) : State := ⟨pattern, [], none, [], 0⟩

/-- A step of the walk. -/
abbrev Check := StateT State Option

/-- A mark of a pattern. -/
inductive Mark where
  | plain (c : CodePoint)
  /-- A code point behind a backslash. -/
  | escaped (c : CodePoint)

/-- No backslash stands alone at the end of the text. -/
def isWhole : Text → Bool
  | [] => true
  | [c] => c != CodePoint.ofChar '\\'
  | c :: d :: rest => if c == '\\' then isWhole rest else isWhole (d :: rest)

/-- What is left of a text after the first plain mark of the given code point. -/
def afterMark? (closing : CodePoint) : Text → Option Text
  | [] => none
  | [c] => if c == closing then some [] else none
  | c :: d :: rest =>
    if c == closing then some (d :: rest)
    else if c == '\\' then afterMark? closing rest
    else afterMark? closing (d :: rest)

/-- The next code point. -/
def peek? : Check (Option CodePoint) := return (← get).rest.head?

/-- The next mark, which must exist, is taken. -/
def take : Check Mark := do
  let s ← get
  match s.rest with
  | [] => failure
  | c :: rest =>
    if c == '\\' then
      match rest with
      | [] => failure
      | d :: rest => set { s with rest }; return .escaped d
    else set { s with rest }; return .plain c

/-- Take the given text if the pattern goes on with it. -/
def accept (t : Text) : Check Bool := do
  let s ← get
  if t.isPrefixOf s.rest then
    set { s with rest := s.rest.drop t.length }
    return true
  else return false

/-- Take the given text or fail. -/
def expect (t : Text) : Check Unit := do
  if !(← accept t) then failure

/-- Take at most `n` code points of a class. -/
def takeUpTo (n : Nat) (p : CodePoint → Bool) : Check Text := do
  let s ← get
  let taken := (s.rest.take n).takeWhile p
  set { s with rest := s.rest.drop taken.length }
  return taken

/-- Take all code points of a class that come next. -/
def takeWhile (p : CodePoint → Bool) : Check Text := do takeUpTo (← get).rest.length p

/-- Take a name and the code point that ends it. -/
def takeName (closing : Char) : Check Text := do
  let name ← takeWhile (· != CodePoint.ofChar closing)
  expect [CodePoint.ofChar closing]
  return name

/-- Take all up to and with a closing mark. -/
def skipPast (closing : CodePoint) : Check Unit := do
  let s ← get
  match afterMark? closing s.rest with
  | some rest => set { s with rest }
  | none => failure

/-- Take all up to the end of the line. -/
def skipLine : Check Unit :=
  modify fun s => { s with rest := (afterMark? '\n' s.rest).getD [] }

/-- The way of matching is switched for the whole pattern. -/
def isSwitched (letter : Char) : Check Bool :=
  return (← get).switches.contains (CodePoint.ofChar letter)

/-! ## Groups -/

/-- The number of the group with a name. -/
def groupNamed (name : Text) : Check Nat := do
  match (← get).groups.findIdx? (·.name == some name) with
  | some i => return i + 1
  | none => failure

/-- Open a captured group; its number. -/
def openGroup (name : Option Text) : Check Nat := do
  let s ← get
  if name.isSome ∧ s.groups.any (·.name == name) then failure
  set { s with groups := s.groups ++ [Group.mk name none] }
  return s.groups.length + 1

/-- Close the group with a number. -/
def closeGroup (n : Nat) (w : Width) : Check Unit :=
  modify fun s => { s with groups := s.groups.modify (n - 1) ({ · with width := some w }) }

/-- The width of the group with a number, which must be closed. -/
def groupWidth (n : Nat) : Check Width := do
  match (← get).groups[n - 1]? with
  | some ⟨_, some w⟩ => return w
  | _ => failure

/-- Inside a part that looks behind, a group that is named must be closed, and opened before
that part. -/
def refuseInside (n : Nat) : Check Unit := do
  match (← get).before with
  | none => return
  | some k =>
    discard (groupWidth n)
    if k < n then failure

end Pattern

end Source

end Offside
