import Offside.Source.Pattern.Item

/-!
# The grammar of patterns

A pattern is one of some alternatives, each of them a sequence of repeated items.  A group may
be captured, with or without a name, or only group, look ahead, look behind, or choose by
whether another group was captured.  What looks behind must have a fixed width.

Letters behind an opening parenthesis and a question mark switch ways of matching, either inside
a group or, at the very start, for the whole pattern.  One of them matters here: a verbose
pattern may hold white space, and comments that go from a number sign to the end of the line.
-/

namespace Offside

namespace Source

namespace Pattern

/-! ## Switches -/

/-- The letters that switch a way of matching. -/
def isSwitch (c : CodePoint) : Bool := c.among "aimstux"

/-- What a parenthesis with letters switches: all that follows, or on and off what it holds. -/
inductive Switches where
  | whole (on : Text)
  | inside (on off : Text)

/-- The letters of both classes of characters, which exclude one another. -/
def clash (on : Text) : Bool :=
  on.contains (CodePoint.ofChar 'a') && on.contains (CodePoint.ofChar 'u')

/-- Letters that switch, with the mark behind them.  A class of characters is never switched
off, and a template never inside a group. -/
def switches : Check Switches := do
  let on ← takeWhile isSwitch
  if clash on then failure
  if !on.isEmpty && (← accept ")") then return .whole on
  let minus ← accept "-"
  let off ← if minus then takeWhile isSwitch else pure []
  if on.isEmpty && !minus || minus && off.isEmpty then failure
  if on.any (·.among "t") || off.any (·.among "aut") || on.any off.contains then failure
  expect ":"
  return .inside on off

/-- Whether a group is verbose, inside a sequence that is or is not. -/
def Switches.verbose (outer : Bool) : Switches → Bool
  | .whole _ => outer
  | .inside on off =>
    (outer || on.contains (CodePoint.ofChar 'x')) && !off.contains (CodePoint.ofChar 'x')

/-! ## Names of groups -/

/-- The name of a group, up to a closing mark. -/
def groupName (closing : Char) : Check Text := do
  let name ← takeName closing
  if name.isStrictName then return name else failure

/-- The group that a condition names or numbers.  A number may belong to a group further on. -/
def condition : Check Unit := do
  let name ← takeName ')'
  if name.isStrictName then refuseInside (← groupNamed name)
  else match name.toInt? with
    | some (.ofNat (n + 1)) =>
      modify fun s => { s with farthest := max s.farthest (n + 1) }
      refuseInside (n + 1)
    | _ => failure

/-! ## Alternatives, sequences and groups -/

/-- Where a sequence stands: in no group, or in a group that is verbose or is not. -/
inductive Level where
  | top
  | inner (verbose : Bool)

/-- White space and comments are skipped here. -/
def Level.verbose : Level → Check Bool
  | .top => isSwitched 'x'
  | .inner verbose => return verbose

/-- White space of verbose patterns. -/
def isBlank (c : CodePoint) : Bool := c == ' ' || (9 ≤ c.val && c.val ≤ 13)

mutual

/-- Alternatives up to the end or to a closing parenthesis; `first` tells that nothing precedes
them. -/
def alternatives : Nat → Level → Bool → Check Width
  | 0, _, _ => failure
  | fuel + 1, level, first => do
    let w ← sequence fuel level first none Width.none
    if ← accept "|" then return w.or (← alternatives fuel level false) else return w

/-- A sequence of items, after the last item and a part of the given width. -/
def sequence : Nat → Level → Bool → Option Item → Width → Check Width
  | 0, _, _, _, _ => failure
  | fuel + 1, level, first, last, before => do
    let whole := match last with
      | some item => before.append item.width
      | none => before
    let next ← peek?
    if next.all (·.among "|)") then return whole
    match ← take with
    | .escaped c => sequence fuel level false (some (← escape c)) whole
    | .plain c =>
      let verbose ← level.verbose
      if verbose && isBlank c then sequence fuel level first last before
      else if verbose && c == '#' then
        skipLine
        sequence fuel level first last before
      else if c == '*' || c == '+' || c == '?' || c == '\x7b' then
        match ← repetition? c with
        | some r => sequence fuel level false (some (← repeatItem last r)) before
        | none => sequence fuel level false (some (.point c.val)) whole
      else if c == '(' then
        match ← group fuel verbose first with
        | some item => sequence fuel level false (some item) whole
        -- A comment or a switch is no item.
        | none => sequence fuel level first last before
      else
        let item ←
          if c == '[' then bracketed
          else if c == '^' || c == '$' then pure .anchor
          else pure (.point c.val)
        sequence fuel level false (some item) whole

/-- A group, after its opening parenthesis; none if it is no item. -/
def group : Nat → Bool → Bool → Check (Option Item)
  | 0, _, _ => failure
  | fuel + 1, verbose, first => do
    if !(← accept "?") then return some (← captured fuel verbose none)
    else if ← accept ":" then return some (.other (← enclosed fuel verbose))
    else if ← accept ">" then return some (.other (← enclosed fuel verbose))
    else if ← accept "P<" then return some (← captured fuel verbose (some (← groupName '>')))
    else if ← accept "P=" then return some (← reference (← groupNamed (← groupName ')')))
    else if ← accept "#" then
      skipPast ')'
      return none
    else if ← accept "=" then return some (← ahead fuel verbose)
    else if ← accept "!" then return some (← ahead fuel verbose)
    else if ← accept "<=" then return some (← behind fuel verbose)
    else if ← accept "<!" then return some (← behind fuel verbose)
    else if ← accept "(" then return some (← choice fuel verbose)
    else match ← switches with
      | .inside on off =>
        let inner := (Switches.inside on off).verbose verbose
        return some (.other (← enclosed fuel inner))
      | .whole on =>
        if !first then failure
        modify fun s => { s with switches := s.switches ++ on }
        return none

/-- A captured group, after its name. -/
def captured : Nat → Bool → Option Text → Check Item
  | 0, _, _ => failure
  | fuel + 1, verbose, name => do
    let n ← openGroup name
    let w ← enclosed fuel verbose
    closeGroup n w
    return .other w

/-- Alternatives with the parenthesis that closes them. -/
def enclosed : Nat → Bool → Check Width
  | 0, _ => failure
  | fuel + 1, verbose => do
    let w ← alternatives fuel (.inner verbose) false
    expect ")"
    return w

/-- A part that looks ahead, and takes nothing. -/
def ahead : Nat → Bool → Check Item
  | 0, _ => failure
  | fuel + 1, verbose => do
    discard (enclosed fuel verbose)
    return .other Width.none

/-- A part that looks behind, and takes nothing. -/
def behind : Nat → Bool → Check Item
  | 0, _ => failure
  | fuel + 1, verbose => do
    let outer := (← get).before
    modify fun s => { s with before := some (outer.getD s.groups.length) }
    let w ← enclosed fuel verbose
    modify fun s => { s with before := outer }
    if w.fixed then return .other Width.none else failure

/-- A choice between two sequences, or between one and nothing, after the parenthesis that opens
its condition. -/
def choice : Nat → Bool → Check Item
  | 0, _ => failure
  | fuel + 1, verbose => do
    condition
    let yes ← sequence fuel (.inner verbose) false none Width.none
    let width ←
      if ← accept "|" then
        pure (yes.or (← sequence fuel (.inner verbose) false none Width.none))
      else pure yes.optional
    expect ")"
    return .other width

end

/-- The text is a pattern: the walk comes to its end, all groups that conditions number exist,
and the switches do not clash. -/
def isValid (t : Text) : Bool :=
  isWhole t && match (alternatives (6 * t.length + 6) .top true).run (State.start t) with
    | some (_, s) =>
      s.rest.isEmpty && decide (s.farthest ≤ s.groups.length) && !clash s.switches
    | none => false

end Pattern

end Source

end Offside
