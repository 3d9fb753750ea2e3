import MaskedDump.FileSystem
import MaskedDump.Shell.Integer

/-!
# Conditions

What the words of a condition say, as in `[ -f a -a 1 -lt 2 ]`. A word is an operator or an operand
by where it stands: an operator with one operand needs a word behind it that is not itself compared
with another one. Three words with a comparison in the middle are always that comparison. A
condition that is malformed fails, and so does a comparison of numbers with something else.
-/

namespace MaskedDump.Shell.Condition

/-! ## Operators -/

/-- The kinds of operators. -/
inductive Kind
  | unary | binary | negation | conjunction | disjunction | opening | closing
  deriving DecidableEq

/-- The operators on one operand. -/
def unary : List String :=
  ["-b", "-c", "-d", "-e", "-f", "-g", "-G", "-h", "-k", "-L", "-n", "-O", "-p", "-r", "-s", "-S",
    "-t", "-u", "-w", "-x", "-z"]

/-- The comparisons. -/
def binary : List String :=
  ["=", "!=", "<", ">", "-eq", "-ne", "-lt", "-le", "-gt", "-ge", "-nt", "-ot", "-ef"]

/-- The kind of the operator that a word spells. -/
def kind? (word : Text) : Option Kind :=
  match String.ofList word with
  | "!" => some .negation
  | "-a" => some .conjunction
  | "-o" => some .disjunction
  | "(" => some .opening
  | ")" => some .closing
  | name =>
    if unary.contains name then some .unary
    else if binary.contains name then some .binary
    else none

/-- Whether words begin with an operand, although the first one is spelled like an operator on one:
nothing follows it, or a comparison does. -/
def standsAlone : List Text → Bool
  | [_, _] => false
  | _ :: second :: _ :: _ => kind? second = some .binary
  | _ => true

/-- The operator that words begin with, if they do. -/
def operator? (words : List Text) : Option Kind :=
  match words with
  | [] => none
  | word :: rest =>
    match kind? word with
    | some .unary => if standsAlone words then none else some .unary
    | some .opening => if rest.isEmpty then none else some .opening
    | kind => kind

/-! ## Files -/

/-- What an operator says about the path that it is given. -/
def ofPath (files : FileSystem) (operator : String) (path : Text) : Bool :=
  match files.find (Text.toBytes path) with
  | .error _ => false
  | .ok (_, entry) =>
    match operator, entry with
    | "-f", .file .. => true
    | "-d", .directory => true
    | "-c", .device _ => true
    | "-s", .file content _ => !content.isEmpty
    | "-s", .directory => true
    | "-x", .file _ executable => executable
    | "-x", .directory => true
    | operator, _ => ["-e", "-r", "-w", "-O", "-G"].contains operator

/-- Whether a path leads to a link itself. -/
def isLink (files : FileSystem) (path : Text) : Bool :=
  let bytes := Text.toBytes path
  match files.resolveWith List.dropLast bytes, (FileSystem.names bytes).getLast? with
  | .ok directory, some name => (files.links.lookup (directory ++ [name])).isSome
  | _, _ => false

/-- Whether two paths lead to the same. -/
def areSame (files : FileSystem) (a b : Text) : Bool :=
  match files.find (Text.toBytes a), files.find (Text.toBytes b) with
  | .ok (first, _), .ok (second, _) => first = second
  | _, _ => false

/-! ## Evaluation -/

/-- The number that an operand is. -/
def number (operand : Text) : Except Text Int :=
  match readInteger (some 10) operand with
  | some n => .ok n
  | none => .error (Text.ofString "Illegal number: " ++ operand)

/-- A comparison of numbers. -/
def compare (p : Int → Int → Bool) (a b : Text) : Except Text Bool := do
  let m ← number a
  let n ← number b
  return p m n

/-- A comparison. -/
def ofBoth (files : FileSystem) (a : Text) (operator : String) (b : Text) : Except Text Bool :=
  match operator with
  | "=" => .ok (a == b)
  | "!=" => .ok (a != b)
  | "<" => .ok (List.lex a b fun c d => Nat.blt c.toNat d.toNat)
  | ">" => .ok (List.lex b a fun c d => Nat.blt c.toNat d.toNat)
  | "-eq" => compare (· == ·) a b
  | "-ne" => compare (· != ·) a b
  | "-lt" => compare (fun m n => m < n) a b
  | "-le" => compare (fun m n => m ≤ n) a b
  | "-gt" => compare (fun m n => n < m) a b
  | "-ge" => compare (fun m n => n ≤ m) a b
  | "-ef" => .ok (areSame files a b)
  | _ => .ok false

/-- What an operator says about its operand. No outlet leads to a terminal. -/
def ofOne (files : FileSystem) (operator : String) (operand : Text) : Except Text Bool :=
  match operator with
  | "-n" => .ok (!operand.isEmpty)
  | "-z" => .ok operand.isEmpty
  | "-t" => (number operand).map fun _ => false
  | "-h" | "-L" => .ok (isLink files operand)
  | operator => .ok (ofPath files operator operand)

/-- A value, and the words from the last one on that it takes in. -/
abbrev Result := Except Text (Bool × List Text)

/-- What is said when an operator has no operand. -/
def operandMissing {α : Type} (operator : Text) : Except Text α :=
  .error (operator ++ Text.ofString ": argument expected")

mutual

/-- Evaluates words that stand for a value of their own. -/
def primary (files : FileSystem) : Nat → List Text → Result
  | 0, words => .ok (false, words)
  | _, [] => .ok (false, [])
  | fuel + 1, word :: rest =>
    match operator? (word :: rest) with
    | some .opening =>
      if operator? rest = some .closing then .ok (false, rest)
      else do
        let (value, words) ← disjunction files fuel rest
        if operator? words.tail = some .closing then .ok (value, words.tail)
        else .error (Text.ofString "closing paren expected")
    | some .unary =>
      match rest with
      | [] => operandMissing word
      | operand :: _ => do
        return (← ofOne files (String.ofList word) operand, rest)
    | _ =>
      match operator? rest, rest with
      | some .binary, operator :: second :: more => do
        return (← ofBoth files word (String.ofList operator) second, second :: more)
      | some .binary, operator :: _ => operandMissing operator
      | _, _ => .ok (!word.isEmpty, word :: rest)

/-- Evaluates words that may be negated. -/
def negation (files : FileSystem) : Nat → List Text → Result
  | 0, words => .ok (false, words)
  | fuel + 1, words =>
    if operator? words = some .negation then do
      let (value, words) ← match words.tail with
        | [] => .ok (false, words)
        | rest => negation files fuel rest
      return (!value, words)
    else primary files fuel words

/-- Evaluates words that must all hold. -/
def conjunction (files : FileSystem) : Nat → List Text → Result
  | 0, words => .ok (false, words)
  | fuel + 1, words => do
    let (first, words) ← negation files fuel words
    if operator? words.tail = some .conjunction then
      let (rest, words) ← conjunction files fuel (words.drop 2)
      return (first && rest, words)
    else return (first, words)

/-- Evaluates words of which some must hold. -/
def disjunction (files : FileSystem) : Nat → List Text → Result
  | 0, words => .ok (false, words)
  | fuel + 1, words => do
    let (first, words) ← conjunction files fuel words
    if operator? words.tail = some .disjunction then
      let (rest, words) ← disjunction files fuel (words.drop 2)
      return (first || rest, words)
    else return (first, words)

end

/-- Evaluates words to the last one. -/
def whole (files : FileSystem) (words : List Text) : Except Text Bool := do
  match ← disjunction files (8 * words.length + 8) words with
  | (value, []) | (value, [_]) => return value
  | (_, word :: _) =>
    .error ((if word.isEmpty then [] else word ++ [':', ' '])
      ++ Text.ofString "unexpected operator")

/-- The value of a condition, or why it fails. -/
def evaluate (files : FileSystem) : List Text → Except Text Bool
  | [] => .ok false
  | [a, b, c] =>
    if kind? b = some .binary then ofBoth files a (String.ofList b) c
    else if a = ['('] ∧ c = [')'] then whole files [b]
    else if a = ['!'] then (evaluate files [b, c]).map (!·)
    else whole files [a, b, c]
  | [a, b, c, d] =>
    if a = ['('] ∧ d = [')'] then whole files [b, c]
    else if a = ['!'] then (evaluate files [b, c, d]).map (!·)
    else whole files [a, b, c, d]
  | words => whole files words

end MaskedDump.Shell.Condition
