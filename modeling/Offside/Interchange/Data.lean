import Offside.Number.Shortest
import Offside.Text.Quoted

/-!
# Tree data

An interchange tree is made of primitive values, lists and objects.  Objects differ in how they
keep their entries: a dictionary shows its entries when it is printed, the other shapes do not.
Entries keep their order, and a key occurs once.

The property of an object under a key is read by `Data.get`, and `Data.has` tells whether it is
there.  A dictionary is asked for its item.  Any other object is asked for its attribute by the one,
and by the other for the key in its instance dictionary, or for the attribute if it has no such
dictionary.

`Data.display` is the form in which a message shows a piece of tree data, and `Scalar.plain`
the form in which a primitive value is written into running text.
-/

namespace Offside

/-- A primitive value. -/
inductive Scalar where
  | null
  | bool (b : Bool)
  | int (n : Int)
  | float (x : Double)
  | text (t : Text)
deriving DecidableEq, Inhabited

/-- How an object keeps its entries. -/
inductive Shape where
  /-- A dictionary. -/
  | dict
  /-- An object with an instance dictionary.  What is under some keys is kept in slots beside it,
  as in an object of a class with slots whose base class has none. -/
  | instanceDict (slotted : List Text)
  /-- An object with slots and no instance dictionary. -/
  | slots
deriving DecidableEq, Inhabited

/-- The shape of an object that keeps all its entries in its instance dictionary. -/
@[match_pattern]
abbrev Shape.attributes : Shape := .instanceDict []

/-- A piece of an interchange tree. -/
inductive Data where
  | scalar (s : Scalar)
  | list (items : List Data)
  | object (shape : Shape) (entries : List (Text × Data))
deriving Inhabited

namespace Scalar

/-- Zero, the empty text, false and null do not hold. -/
def truthy : Scalar → Bool
  | null => false
  | bool b => b
  | int n => n != 0
  | float x => !x.isZero
  | text t => !t.isEmpty

/-- The form in which a message shows a primitive value. -/
def display : Scalar → Text
  | null => "None"
  | bool true => "True"
  | bool false => "False"
  | int n => Text.ofInt n
  | float x => x.toText
  | text t => Text.quoted t

/-- The form in which a primitive value is written into running text: text as it is, all else
as messages show it. -/
def plain : Scalar → Text
  | text t => t
  | s => s.display

/-- The number that a primitive value stands for; the truth values stand for one and zero. -/
def toInt? : Scalar → Option Int
  | bool b => some (if b then 1 else 0)
  | int n => some n
  | _ => none

/-- Equality of primitive values, with numbers compared by size. -/
def eqv (a b : Scalar) : Bool :=
  match a.toInt?, b.toInt? with
  | some m, some n => m == n
  | some m, none => match b with
    | float y => y.toInt? == some m
    | _ => false
  | none, some n => match a with
    | float x => x.toInt? == some n
    | _ => false
  | none, none => match a, b with
    -- The same number that is none counts as equal to itself.
    | float x, float y => x == y || x.eqv y
    | a, b => a == b

/-- One more than a number; `none` for what is no number. -/
def succ? : Scalar → Option Scalar
  | float x => some (.float (x.addInt 1))
  | s => s.toInt?.map fun n => .int (n + 1)

/-- One less than a number; `none` for what is no number. -/
def pred? : Scalar → Option Scalar
  | float x => some (.float (x.addInt (-1)))
  | s => s.toInt?.map fun n => .int (n - 1)

end Scalar

namespace Data

/-- The null value. -/
abbrev null : Data := .scalar .null

/-- An integer as tree data. -/
abbrev int (n : Int) : Data := .scalar (.int n)

/-- A text as tree data. -/
abbrev text (t : Text) : Data := .scalar (.text t)

/-- A truth value as tree data. -/
abbrev bool (b : Bool) : Data := .scalar (.bool b)

/-- A dictionary with the given entries. -/
abbrev dict (entries : List (Text × Data)) : Data := .object .dict entries

/-- The null value. -/
def isNull : Data → Bool
  | .scalar .null => true
  | _ => false

/-- Empty collections do not hold; an object other than a dictionary always does. -/
def truthy : Data → Bool
  | .scalar s => s.truthy
  | .list items => !items.isEmpty
  | .object .dict entries => !entries.isEmpty
  | .object _ _ => true

mutual

/-- The form in which a message shows a piece of tree data. -/
def display : Data → Text
  | .scalar s => s.display
  | .list items => "[" ++ Text.join ", " (displayItems items) ++ "]"
  | .object .dict entries => "\x7b" ++ Text.join ", " (displayEntries entries) ++ "\x7d"
  | .object (.instanceDict _) _ => "<attr node>"
  | .object .slots _ => "<slots node>"

/-- The items of a list as messages show them. -/
def displayItems : List Data → List Text
  | [] => []
  | d :: rest => display d :: displayItems rest

/-- The entries of a dictionary as messages show them. -/
def displayEntries : List (Text × Data) → List Text
  | [] => []
  | (key, d) :: rest => (Text.quoted key ++ ": " ++ display d) :: displayEntries rest

end

/-- The form in which a piece of tree data is written into running text. -/
def plain : Data → Text
  | .scalar s => s.plain
  | d => d.display

/-- The entry of an object under a key. -/
def entry? (d : Data) (key : Text) : Option Data :=
  match d with
  | .object _ entries => entries.lookup key
  | _ => none

/-- The entry under a key, or null if there is none. -/
def entry (d : Data) (key : Text) : Data := (d.entry? key).getD null

/-! ## Properties -/

/-- The attribute of an object with a name: it is in the instance dictionary or in a slot.  A
dictionary has its entries as items and not as attributes. -/
def attribute? (d : Data) (name : Text) : Option Data :=
  match d with
  | .object .dict _ => none
  | .object _ entries => entries.lookup name
  | _ => none

/-- The instance dictionary of an object, if it has one. -/
def instanceDict? : Data → Option (List (Text × Data))
  | .object (.instanceDict slotted) entries =>
    some (entries.filter fun (key, _) => !slotted.contains key)
  | _ => none

/-- Read a property; null stands for one that is missing. -/
def get (d : Data) (key : Text) : Data :=
  match d with
  | .object .dict entries => (entries.lookup key).getD null
  | d => (d.attribute? key).getD null

/-- A property is there. -/
def has (d : Data) (key : Text) : Bool :=
  match d with
  | .object .dict entries => (entries.lookup key).isSome
  | d => match d.instanceDict? with
    | some entries => (entries.lookup key).isSome
    | none => (d.attribute? key).isSome

/-! ## Shapes and sameness -/

mutual

/-- The same tree with every object in the given shape. -/
def reshape (shape : Shape) : Data → Data
  | .scalar s => .scalar s
  | .list items => .list (reshapeItems shape items)
  | .object _ entries => .object shape (reshapeEntries shape entries)

/-- The items of a list with every object in the given shape. -/
def reshapeItems (shape : Shape) : List Data → List Data
  | [] => []
  | d :: rest => reshape shape d :: reshapeItems shape rest

/-- The entries of an object with every object in the given shape. -/
def reshapeEntries (shape : Shape) : List (Text × Data) → List (Text × Data)
  | [] => []
  | (key, d) :: rest => (key, reshape shape d) :: reshapeEntries shape rest

end

mutual

/-- Equality of tree data, with numbers compared by size. -/
def eqv : Data → Data → Bool
  | .scalar a, .scalar b => a.eqv b
  | .list a, .list b => eqvItems a b
  | .object _ a, .object _ b => eqvEntries a b
  | _, _ => false

/-- Equality of lists, item by item. -/
def eqvItems : List Data → List Data → Bool
  | [], [] => true
  | a :: s, b :: t => eqv a b && eqvItems s t
  | _, _ => false

/-- Equality of entries, in order. -/
def eqvEntries : List (Text × Data) → List (Text × Data) → Bool
  | [], [] => true
  | (k, a) :: s, (l, b) :: t => k == l && eqv a b && eqvEntries s t
  | _, _ => false

end

end Data

end Offside
