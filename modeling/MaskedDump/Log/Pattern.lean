import MaskedDump.Log.Pattern.Class
import MaskedDump.Text.Alphanumeric

/-!
# Patterns for the values of fields

A filter may ask for the value of a field by a pattern. Events of this program have no such values,
so a pattern is never matched, but a filter with a malformed one is refused as a whole. A pattern is
a sequence of items: characters, classes in brackets, groups in parentheses and escapes. An item may
be repeated, and alternatives are separated by bars. Neither a comma nor a closing brace can stand
in one. A pattern is refused when it is nested too deeply.
-/

namespace MaskedDump.Log.Pattern

/-! ## Switches -/

/-- The letters of switches. -/
def switchLetters : List Char := ['i', 'm', 's', 'U', 'u', 'R', 'x']

/-- The switches at the head of a text, up to a colon or a closing parenthesis. A dash turns off
those behind it. No switch may be given twice, and a dash must be followed by one. -/
def switches? (cs : List Char) : Option (List Char × List Char) :=
  let ends (c : Char) : Bool := c == ':' || c == ')'
  let given := cs.takeWhile (!ends ·)
  if given.all (fun c => c == '-' || switchLetters.contains c) && given.eraseDups == given
      && given.getLast? != some '-' then
    some (given, cs.drop given.length)
  else none

/-- A mode with switches turned on or off. -/
def Mode.turn (m : Mode) (given : List Char) : Mode :=
  let on := given.takeWhile (· ≠ '-')
  let state (letter : Char) (before : Bool) : Bool :=
    if given.contains letter then on.contains letter else before
  { spaced := state 'x' m.spaced, unicode := state 'u' m.unicode }

/-! ## Groups and sequences -/

/-- Whether a character may stand in the name of a group. -/
def isGroupNameChar (c : Char) : Bool := ['_', '.', '[', ']'].contains c || Text.isWordChar c

/-- The name of a group, up to the angle bracket that closes it, and what follows. -/
def groupName? (cs : List Char) : Option (String × List Char) :=
  match cs.takeWhile isGroupNameChar, cs.dropWhile isGroupNameChar with
  | c :: name, '>' :: rest =>
    if c = '_' ∨ Text.isLetter c then some (String.ofList (c :: name), rest) else none
  | _, _ => none

/-- What a group begins with. -/
inductive Opening
  /-- The group is nothing but switches for what follows it. -/
  | switches (given : List Char)
  /-- Switches for the group itself, and a name for it. -/
  | group (given : List Char) (name : Option String)

/-- What a group begins with, from behind its parenthesis, and what follows that. -/
def opening? : List Char → Option (Opening × List Char)
  | '?' :: 'P' :: '<' :: rest | '?' :: '<' :: rest => do
    let (name, body) ← groupName? rest
    some (.group [] (some name), body)
  | '?' :: rest => do
    match ← switches? rest with
    | (given, ':' :: body) => some (.group given none, body)
    | ([], _) => none
    | (given, _ :: rest) => some (.switches given, rest)
    | (_, []) => none
  | body => some (.group [] none, body)

/-- The items of a group that have been read: the heights of its finished alternatives, and those of
the items of the last one, the last item first. Switches have no height and cannot be repeated. -/
structure Items where
  alternatives : List Nat := []
  row : List (Option Nat) := []

namespace Items

/-- Adds an item. -/
def add (items : Items) (height : Option Nat) : Items := { items with row := height :: items.row }

/-- The height of the last alternative. -/
def lastHeight (items : Items) : Nat := rowHeight (items.row.map (·.getD 0))

/-- Begins another alternative. -/
def divide (items : Items) : Items := { alternatives := items.lastHeight :: items.alternatives }

/-- The height of the items. -/
def height (items : Items) : Nat :=
  match items.alternatives with
  | [] => items.lastHeight
  | heights => heights.foldl max items.lastHeight + 1

end Items

/-- The items of a group, the names of the groups in it, and what follows: nothing, or the
parenthesis that closes the group around them. Items and names that have been read come first; the
fuel bounds the items read. -/
def items? : Nat → Mode → List String → Items → List Char →
    Option (Items × List String × List Char)
  | 0, _, _, _, _ => none
  | fuel + 1, m, names, done, cs =>
    match m.skip cs with
    | [] => some (done, names, [])
    | ')' :: rest => some (done, names, ')' :: rest)
    | '|' :: rest => items? fuel m names done.divide rest
    | '\x7b' :: _ => none
    | '.' :: rest => if m.unicode then items? fuel m names (done.add (some 0)) rest else none
    | '[' :: rest => do
      let (height, rest) ← bracketed? m (2 * rest.length + 2) rest
      items? fuel m names (done.add (some height)) rest
    | '(' :: rest => do
      match ← opening? (m.skip rest) with
      | (.switches given, rest) => items? fuel (m.turn given) names (done.add none) rest
      | (.group given name, body) =>
        if name.any names.contains then none
        match ← items? fuel (m.turn given) (name.toList ++ names) {} body with
        | (inner, names, ')' :: rest) =>
          items? fuel m names (done.add (some (inner.height + 1))) rest
        | _ => none
    | c :: rest =>
      if c = '*' ∨ c = '+' ∨ c = '?' then
        match done.row with
        | some height :: row =>
          let rest := match rest with
            | '?' :: rest => rest
            | rest => rest
          items? fuel m names { done with row := some (height + 1) :: row } rest
        | _ => none
      else do
        let (atom, rest) ← atom? m (c :: rest)
        if m.admits atom then items? fuel m names (done.add (some 0)) rest else none

/-- The greatest height of a pattern. -/
def greatestHeight : Nat := 250

/-- Whether a text is a sequence of items that is not nested too deeply. -/
def isSequence (cs : List Char) : Bool :=
  match items? (cs.length + 1) {} [] {} cs with
  | some (items, _, []) => items.height ≤ greatestHeight
  | _ => false

/-! ## Values -/

/-- Whether a text is empty or the exponent of a number. -/
def isExponent : List Char → Bool
  | [] => true
  | mark :: rest =>
    let digits := match rest with
      | '+' :: more | '-' :: more => more
      | more => more
    (mark == 'e' || mark == 'E') && !digits.isEmpty && digits.all Char.isDigit

/-- Whether a text is a number: digits with or without a point among them, and an exponent or none.
-/
def isNumber (text : List Char) : Bool :=
  let whole := text.takeWhile Char.isDigit
  match text.drop whole.length with
  | '.' :: rest =>
    let fraction := rest.takeWhile Char.isDigit
    !(whole.isEmpty && fraction.isEmpty) && isExponent (rest.drop fraction.length)
  | rest => !whole.isEmpty && isExponent rest

/-- Whether a text is a number with a sign in front, which is no pattern but asks for that number.
-/
def isSigned : List Char → Bool
  | '+' :: rest =>
    isNumber rest || ["inf", "infinity", "nan"].contains (String.ofList (rest.map Char.toLower))
  | _ => false

/-- Whether a text is well formed as the pattern of a value. -/
def isWellFormed (text : String) : Bool := isSigned text.toList || isSequence text.toList

end MaskedDump.Log.Pattern
