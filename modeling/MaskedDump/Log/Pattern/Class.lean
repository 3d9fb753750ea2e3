import MaskedDump.Text.Class

/-!
# Escapes and classes of patterns

The smaller things that a pattern is made of: what an escape stands for, and classes of characters
in brackets. Two switches bear on whether they are well formed: in spaced patterns blanks and
comments count for nothing, and a pattern of bytes may only hold what never takes apart the bytes of
a character. A class has a height, the number of brackets and joints around its innermost member.
-/

namespace MaskedDump.Log.Pattern

/-- The switches of a pattern that bear on its form. -/
structure Mode where
  /-- Whether blanks and comments are skipped. -/
  spaced : Bool := false
  /-- Whether the pattern is one of characters, and not of bytes. -/
  unicode : Bool := true
  deriving DecidableEq, Repr

/-! ## Blanks and comments -/

/-- What follows blanks and comments; the fuel bounds their number. -/
def afterBlanks : Nat → List Char → List Char
  | 0, cs => cs
  | fuel + 1, cs =>
    match cs.dropWhile Text.isWhite with
    | '#' :: rest => afterBlanks fuel (rest.dropWhile (· ≠ '\n'))
    | rest => rest

/-- Skips blanks and comments where they count for nothing. -/
def Mode.skip (m : Mode) (cs : List Char) : List Char :=
  if m.spaced then afterBlanks (cs.length + 1) cs else cs

/-- The character behind the first one. In spaced patterns it is looked for behind blanks and a
number sign, but not behind the comment that the sign begins. -/
def Mode.second? (m : Mode) (cs : List Char) : Option Char :=
  if m.spaced then
    match cs.tail.dropWhile Text.isWhite with
    | '#' :: rest => (rest.dropWhile Text.isWhite).head?
    | rest => rest.head?
  else cs.tail.head?

/-! ## Escapes -/

/-- What an escape or a plain character stands for. -/
inductive Atom
  /-- A character, and whether it is written as a byte, by two digits. -/
  | character (c : Char) (byte : Bool)
  /-- A class of ASCII characters when bytes are matched, or all others. -/
  | kind (negated : Bool)
  /-- A class by a property of characters. -/
  | property
  /-- A place in the text; the flag says whether it lies between words. -/
  | place (ofWords : Bool)
  deriving DecidableEq, Repr

/-- The letters that stand for a control character behind a backslash, with its number. -/
def controlLetters : List (Char × Char) :=
  [('a', '\x07'), ('t', '\t'), ('n', '\n'), ('v', '\x0b'), ('f', '\x0c'), ('r', '\r')]

/-- Whether a letter names a general category, in either case. -/
def isCategory (c : Char) : Bool := ['l', 'm', 'n', 'p', 's', 'z', 'c'].contains c.toLower

/-- The value of a hexadecimal digit. -/
def hexDigit? (c : Char) : Option Nat :=
  if c.isDigit then some (c.toNat - 48)
  else if 'a' ≤ c.toLower && c.toLower ≤ 'f' then some (c.toLower.toNat - 87)
  else none

/-- A number in so many hexadecimal digits, and what follows it. The second argument is the number
that the digits before them make. -/
def hexNumber? (m : Mode) : Nat → Nat → List Char → Option (Nat × List Char)
  | 0, n, cs => some (n, cs)
  | count + 1, n, cs =>
    match m.skip cs with
    | [] => none
    | c :: rest => do hexNumber? m count (n * 16 + (← hexDigit? c)) rest

/-- A character by its number in so many hexadecimal digits. -/
def numbered? (m : Mode) (count : Nat) (cs : List Char) : Option (Atom × List Char) := do
  let (n, rest) ← hexNumber? m count 0 cs
  if n.isValidChar then some (.character (Char.ofNat n) (count == 2), rest) else none

/-- What an escape stands for, from behind its backslash, and what follows it. Punctuation stands
for itself. -/
def escape? (m : Mode) : List Char → Option (Atom × List Char)
  | [] => none
  | 'x' :: rest => numbered? m 2 rest
  | 'u' :: rest => numbered? m 4 rest
  | 'U' :: rest => numbered? m 8 rest
  | 'A' :: rest | 'z' :: rest => some (.place false, rest)
  | 'b' :: rest | 'B' :: rest | '<' :: rest | '>' :: rest => some (.place true, rest)
  | 'd' :: rest | 's' :: rest | 'w' :: rest => some (.kind false, rest)
  | 'D' :: rest | 'S' :: rest | 'W' :: rest => some (.kind true, rest)
  | 'p' :: rest | 'P' :: rest =>
    match m.skip rest with
    | c :: rest => if isCategory c then some (.property, rest) else none
    | [] => none
  | c :: rest =>
    match controlLetters.lookup c with
    | some value => some (.character value false, rest)
    | none =>
      if c.isAlphanum || 0x7F < c.toNat then none else some (.character c false, rest)

/-- An escape or a plain character at the head of a text, and what follows it. -/
def atom? (m : Mode) : List Char → Option (Atom × List Char)
  | [] => none
  | '\\' :: rest => escape? m rest
  | c :: rest => some (.character c false, rest)

/-- Whether an atom may stand for itself. A byte that is no character may not, nor may a place
between words that are made of other characters than those of ASCII. -/
def Mode.admits (m : Mode) : Atom → Bool
  | .character c byte => m.unicode || !byte || c.toNat < 0x80
  | .kind negated => m.unicode || !negated
  | .property => m.unicode
  | .place ofWords => !(ofWords && m.unicode)

/-- Whether an atom may be a member of a class. -/
def Mode.admitsMember (m : Mode) : Atom → Bool
  | .character c _ => m.unicode || c.toNat < 0x80
  | .place _ => false
  | atom => m.admits atom

/-! ## Classes -/

/-- The height of what stands in a row, each with its own height. -/
def rowHeight : List Nat → Nat
  | [] => 0
  | [height] => height
  | heights => heights.foldl max 0 + 1

/-- The names of classes of ASCII characters. -/
def classNames : List String :=
  [ "alnum", "alpha", "ascii", "blank", "cntrl", "digit", "graph", "lower", "print", "punct",
    "space", "upper", "word", "xdigit" ]

/-- A class by its name, between colons and brackets, from behind the opening bracket: whether it is
negated, and what follows it. -/
def namedClass? (cs : List Char) : Option (Bool × List Char) :=
  let named (negated : Bool) (cs : List Char) : Option (Bool × List Char) :=
    match cs.dropWhile (· ≠ ':') with
    | ':' :: ']' :: rest =>
      if classNames.contains (String.ofList (cs.takeWhile (· ≠ ':'))) then some (negated, rest)
      else none
    | _ => none
  match cs with
  | ':' :: '^' :: rest => named true rest
  | ':' :: rest => named false rest
  | _ => none

/-- What a class in brackets begins with, from behind the opening bracket: whether it is negated,
the number of dashes or closing brackets that stand for themselves there, and what follows them. -/
def classOpening (m : Mode) (cs : List Char) : Bool × Nat × List Char :=
  let rec dashes : Nat → Nat → List Char → Nat × List Char
    | 0, count, cs => (count, cs)
    | fuel + 1, count, cs =>
      match cs with
      | '-' :: rest => dashes fuel (count + 1) (m.skip rest)
      | _ => (count, cs)
  let (negated, cs) := match m.skip cs with
    | '^' :: rest => (true, m.skip rest)
    | rest => (false, rest)
  match dashes cs.length 0 cs with
  | (0, ']' :: rest) => (negated, 1, m.skip rest)
  | (count, rest) => (negated, count, rest)

/-- The members of a class that have been read: the height of what stands before the last joint, if
there is one, and those of the members behind it. -/
structure Members where
  joined : Option Nat := none
  row : List Nat := []

namespace Members

/-- Adds a member. -/
def add (ms : Members) (height : Nat) : Members := { ms with row := height :: ms.row }

/-- The height of the members. -/
def height (ms : Members) : Nat :=
  match ms.joined with
  | some height => max height (rowHeight ms.row) + 1
  | none => rowHeight ms.row

/-- Adds a joint. -/
def join (ms : Members) : Members := { joined := some ms.height }

end Members

/-- A member of a class, which may be a range, and what follows it. -/
def member? (m : Mode) (cs : List Char) : Option (List Char) := do
  let (first, rest) ← atom? m cs
  if !m.admitsMember first then none
  match m.skip rest with
  | [] => none
  | c :: rest =>
    if c ≠ '-' ∨ m.second? (c :: rest) = some ']' ∨ m.second? (c :: rest) = some '-' then
      some (c :: rest)
    else do
      let (last, rest) ← atom? m (m.skip rest)
      match first, last with
      | .character low _, .character high _ =>
        if low ≤ high && m.admitsMember last then some rest else none
      | _, _ => none

mutual

/-- The height of a class in brackets, from behind the opening one, and what follows it. The fuel
bounds the members read. -/
def bracketed? (m : Mode) : Nat → List Char → Option (Nat × List Char)
  | 0, _ => none
  | fuel + 1, cs => do
    let (negated, count, rest) := classOpening m cs
    if negated && !m.unicode then none
    let (height, rest) ← members? m fuel { row := List.replicate count 0 } rest
    some (height + 1, rest)

/-- The height of a class in brackets of which some members have been read, without the brackets,
and what follows it. A bracket opens a class within the class, and a doubled sign joins two. -/
def members? (m : Mode) : Nat → Members → List Char → Option (Nat × List Char)
  | 0, _, _ => none
  | fuel + 1, done, cs =>
    match m.skip cs with
    | [] => none
    | ']' :: rest => some (done.height, rest)
    | '[' :: rest =>
      match namedClass? rest with
      | some (negated, rest) =>
        if negated && !m.unicode then none else members? m fuel (done.add 0) rest
      | none => do
        let (height, rest) ← bracketed? m fuel rest
        members? m fuel (done.add height) rest
    | '&' :: '&' :: rest | '-' :: '-' :: rest | '~' :: '~' :: rest =>
      members? m fuel done.join rest
    | cs => do members? m fuel (done.add 0) (← member? m cs)

end

end MaskedDump.Log.Pattern
