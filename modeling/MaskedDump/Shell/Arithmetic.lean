import MaskedDump.Shell.Integer

/-!
# Shell arithmetic

Integer expressions, as in `$((n + 1))`: constants, variables, the usual operators by precedence, a
choice, and assignments. What a condition leaves out is read but not evaluated. An expression that
is malformed, divides by zero, or uses a variable that holds no number fails.
-/

namespace MaskedDump.Shell.Arithmetic

/-! ## Operators -/

/-- The operators. Where one spelling begins another, the longer one comes first. -/
def operators : List String :=
  [ "<<=", ">>=", "&&", "||", "==", "!=", "<=", ">=", "<<", ">>", "+=", "-=", "*=", "/=", "%=",
    "&=", "^=", "|=", "=", "+", "-", "*", "/", "%", "&", "|", "^", "<", ">", "!", "~", "?", ":",
    "(", ")" ]

/-- The operators that join two operands, with how tightly they bind. -/
def joining : List (String × Nat) :=
  [ ("|", 3), ("^", 4), ("&", 5), ("==", 6), ("!=", 6), ("<", 7), (">", 7), ("<=", 7), (">=", 7),
    ("<<", 8), (">>", 8), ("+", 9), ("-", 9), ("*", 10), ("/", 10), ("%", 10) ]

/-- The operators that assign, with the operator that they apply first. -/
def assigning : List (String × Option String) :=
  [ ("<<=", some "<<"), (">>=", some ">>"), ("+=", some "+"), ("-=", some "-"), ("*=", some "*"),
    ("/=", some "/"), ("%=", some "%"), ("&=", some "&"), ("^=", some "^"), ("|=", some "|"),
    ("=", none) ]

/-- Why an expression fails. -/
inductive Failure
  | malformed (expected : String)
  | divisionByZero
  | noNumber (text : Text)

/-- What is said about a failure in an expression. -/
def Failure.message (expression : Text) : Failure → Text
  | malformed expected => about ("expecting " ++ expected)
  | divisionByZero => about "division by zero"
  | noNumber text => Text.ofString "Illegal number: " ++ text
where
  about (cause : String) : Text :=
    Text.ofString ("arithmetic expression: " ++ cause ++ ": \"") ++ expression ++ ['\x22']

/-- The value of a condition. -/
def truth (b : Bool) : Int := if b then 1 else 0

/-- An operator on words. -/
def onWords (f : Int64 → Int64 → Int64) (a b : Int) : Int :=
  (f (Int64.ofInt a) (Int64.ofInt b)).toInt

/-- The value of an operator. Division goes toward zero. -/
def operate (operator : String) (a b : Int) : Except Failure Int :=
  match operator with
  | "==" => .ok (truth (a == b))
  | "!=" => .ok (truth (a != b))
  | "<=" => .ok (truth (a ≤ b))
  | ">=" => .ok (truth (b ≤ a))
  | "<" => .ok (truth (a < b))
  | ">" => .ok (truth (b < a))
  | "|" => .ok (onWords (· ||| ·) a b)
  | "^" => .ok (onWords (· ^^^ ·) a b)
  | "&" => .ok (onWords (· &&& ·) a b)
  | "<<" => .ok (onWords (· <<< ·) a b)
  | ">>" => .ok (onWords (· >>> ·) a b)
  | "+" => .ok (onWords (· + ·) a b)
  | "-" => .ok (onWords (· - ·) a b)
  | "*" => .ok (onWords (· * ·) a b)
  | "/" => if b = 0 then .error .divisionByZero else .ok (wrapped (a.tdiv b))
  | _ => if b = 0 then .error .divisionByZero else .ok (a.tmod b)

/-! ## Tokens -/

/-- Takes blanks. -/
def skip (text : Text) : Text := text.dropWhile fun c => isBlank c || c == '\n'

/-- The operator at the head of a text, and what follows. -/
def operator? (text : Text) : Option (String × Text) :=
  operators.findSome? fun name =>
    if name.toList.isPrefixOf (skip text) then some (name, (skip text).drop name.length) else none

/-- What follows an operator, if it stands at the head of a text. -/
def after? (name : String) (text : Text) : Option Text :=
  match operator? text with
  | some (found, rest) => if found = name then some rest else none
  | none => none

/-- A variable and an operator that assigns to it, at the head of a text, and what follows. -/
def target? (text : Text) : Option (Text × Option String × Text) :=
  let name := (skip text).takeWhile isNameChar
  if !isName name then none
  else match operator? ((skip text).drop name.length) with
    | some (found, rest) => (assigning.lookup found).map fun operator => (name, operator, rest)
    | none => none

/-! ## Evaluation -/

/-- The variables that an expression has set, the last one first. -/
abbrev Changes := List (Text × Int)

/-- A value, what was set on the way, and what follows the expression. -/
abbrev Result := Except Failure (Int × Changes × Text)

/-- The value of a variable. -/
def valueOf (value : Text → Text) (done : Changes) (name : Text) : Except Failure Int :=
  match done.lookup name with
  | some n => .ok n
  | none =>
    match readInteger none (value name) with
    | some n => .ok n
    | none => .error (.noNumber (value name))

mutual

/-- Evaluates an operand at the head of a text. The flag says whether it counts. -/
def operand (value : Text → Text) : Nat → Bool → Changes → Text → Result
  | 0, _, _, _ => .error (.malformed "primary")
  | fuel + 1, live, done, text =>
    match operator? text with
    | some ("(", rest) => do
      let (n, done, rest) ← assignment value fuel live done rest
      match after? ")" rest with
      | some rest => .ok (n, done, rest)
      | none => .error (.malformed "')'")
    | some ("-", rest) => do
      let (n, done, rest) ← operand value fuel live done rest
      .ok (wrapped (-n), done, rest)
    | some ("+", rest) => operand value fuel live done rest
    | some ("!", rest) => do
      let (n, done, rest) ← operand value fuel live done rest
      .ok (truth (n == 0), done, rest)
    | some ("~", rest) => do
      let (n, done, rest) ← operand value fuel live done rest
      .ok (-n - 1, done, rest)
    | some _ => .error (.malformed "primary")
    | none =>
      let text := skip text
      let name := text.takeWhile isNameChar
      if isName name then do
        let n ← if live then valueOf value done name else .ok 0
        .ok (n, done, text.drop name.length)
      else
        let n := scanInteger none text
        if n.found then .ok (n.clamped, done, n.rest) else .error (.malformed "primary")

/-- Extends a value by the operators that bind at least as tightly as asked for. -/
def extend (value : Text → Text) : Nat → Nat → Int → Bool → Changes → Text → Result
  | 0, _, _, _, _, _ => .error (.malformed "EOF")
  | fuel + 1, least, left, live, done, text =>
    match operator? text with
    | none => .ok (left, done, text)
    | some (name, rest) =>
      match joining.lookup name with
      | none => .ok (left, done, text)
      | some binding =>
        if binding < least then .ok (left, done, text)
        else do
          let (first, done, rest) ← operand value fuel live done rest
          let (right, done, rest) ← extend value fuel (binding + 1) first live done rest
          let joined ← if live then operate name left right else .ok right
          extend value fuel least joined live done rest

/-- Evaluates operands that must all hold, at the head of a text. -/
def conjunction (value : Text → Text) : Nat → Bool → Changes → Text → Result
  | 0, _, _, _ => .error (.malformed "primary")
  | fuel + 1, live, done, text => do
    let (first, done, rest) ← operand value fuel live done text
    let (left, done, rest) ← extend value fuel 0 first live done rest
    match after? "&&" rest with
    | some rest => do
      let (right, done, rest) ← conjunction value fuel (live && left != 0) done rest
      .ok (truth (left != 0 && right != 0), done, rest)
    | none => .ok (left, done, rest)

/-- Evaluates operands of which one must hold, at the head of a text. -/
def disjunction (value : Text → Text) : Nat → Bool → Changes → Text → Result
  | 0, _, _, _ => .error (.malformed "primary")
  | fuel + 1, live, done, text => do
    let (left, done, rest) ← conjunction value fuel live done text
    match after? "||" rest with
    | some rest => do
      let (right, done, rest) ← disjunction value fuel (live && left == 0) done rest
      .ok (truth (left != 0 || right != 0), done, rest)
    | none => .ok (left, done, rest)

/-- Evaluates a choice, or an expression without one, at the head of a text. -/
def choice (value : Text → Text) : Nat → Bool → Changes → Text → Result
  | 0, _, _, _ => .error (.malformed "primary")
  | fuel + 1, live, done, text => do
    let (test, done, rest) ← disjunction value fuel live done text
    match after? "?" rest with
    | some rest => do
      let (yes, done, rest) ← assignment value fuel (live && test != 0) done rest
      match after? ":" rest with
      | some rest => do
        let (no, done, rest) ← choice value fuel (live && test == 0) done rest
        .ok (if test = 0 then no else yes, done, rest)
      | none => .error (.malformed "':'")
    | none => .ok (test, done, rest)

/-- Evaluates an assignment, or an expression without one, at the head of a text. -/
def assignment (value : Text → Text) : Nat → Bool → Changes → Text → Result
  | 0, _, _, _ => .error (.malformed "primary")
  | fuel + 1, live, done, text =>
    match target? text with
    | none => choice value fuel live done text
    | some (name, operator, rest) => do
      let (n, done, rest) ← assignment value fuel live done rest
      if !live then .ok (n, done, rest)
      else
        let n ← match operator with
          | none => .ok n
          | some operator => do operate operator (← valueOf value done name) n
        .ok (n, (name, n) :: done, rest)

end

/-- The value of an expression that takes up a whole text, and what it sets. -/
def evaluate (value : Text → Text) (text : Text) : Except Failure (Int × Changes) := do
  let (n, done, rest) ← assignment value (8 * text.length + 16) true [] text
  if (skip rest).isEmpty then .ok (n, done) else .error (.malformed "EOF")

end MaskedDump.Shell.Arithmetic
