import MaskedDump.Shell.Source

/-!
# Shell scripts: reading

Words and commands are read by recursive descent. Every reader takes fuel, which bounds how deep it
descends; `readLine` gives more fuel than any text of its length can use, so that only malformed
scripts are refused. What is refused, and in which words, follows from the token at which the
reading stops.
-/

namespace MaskedDump.Shell

open Reader

/-! ## Contexts -/

/-- Where parts are read. -/
inductive Context
  /-- In an unquoted word. -/
  | bare
  /-- In the word that names the end of a text; nothing is expanded there. -/
  | mark
  | doubleQuoted
  /-- Between double quotes in the braces of a parameter. -/
  | quotedInBraces
  /-- In the braces of a parameter, which may stand in double quotes or in a text. -/
  | braces (quoted : Bool) (inText : Bool)
  /-- In a text that follows a command. -/
  | held
  /-- In an arithmetic expression, in so many parentheses of its own. -/
  | arithmetic (depth : Nat)
  deriving DecidableEq

namespace Context

/-- Whether parts read here count as quoted. -/
def quotes : Context → Bool
  | bare | mark => false
  | braces quoted _ => quoted
  | _ => true

/-- Whether parts read here belong to a text that follows a command. -/
def isText : Context → Bool
  | held => true
  | braces _ inText => inText
  | _ => false

/-- Whether a character ends the parts read here. -/
def endsAt : Context → Char → Bool
  | bare, c | mark, c => endsWord c
  | doubleQuoted, c | quotedInBraces, c => c == '\x22'
  | braces .., c => c == '\x7d'
  | held, _ | arithmetic _, _ => false

/-- What is refused when the text ends here, if anything is. -/
def refusal? : Context → Option String
  | bare | mark | held => none
  | braces quoted inText =>
    some (if quoted && !inText then "Unterminated quoted string" else "Missing '\x7d'")
  | doubleQuoted | quotedInBraces => some "Unterminated quoted string"
  | arithmetic _ => some "Missing '))'"

/-- Whether a backslash before a character takes away its meaning here. -/
def escapes (context : Context) (c : Char) : Bool :=
  !context.quotes || c == '$' || c == '\x60' || c == '\\'
    || (c == '\x22' && context != held)
    || (c == '\x7d' && (context == quotedInBraces || context matches braces ..))

end Context

/-- Puts a text before other parts. -/
def joinText (quoted : Bool) (text : Text) : List Part → List Part
  | .text q more :: rest =>
    if q = quoted then .text quoted (text ++ more) :: rest
    else .text quoted text :: .text q more :: rest
  | rest => .text quoted text :: rest

/-- What stands between double quotes, with a sign that it was quoted. The list of all parameters
has none, as there may be no parameters. -/
def betweenQuotes : List Part → List Part
  | [.parameter true ['@'] .value] => [.parameter true ['@'] .value]
  | parts => joinText true [] parts

/-- The text up to the backquote that closes a command, and what follows. Backslashes that protect
backquotes, dollars and backslashes are taken out, between double quotes also those before double
quotes. -/
def backquoteBody (quoted : Bool) : Text → Text → Option (Text × Text)
  | _, [] => none
  | taken, '\x60' :: rest => some (taken.reverse, rest)
  | taken, '\\' :: c :: rest =>
    if c = '\x60' ∨ c = '\\' ∨ c = '$' ∨ (quoted ∧ c = '\x22') then
      backquoteBody quoted (c :: taken) rest
    else backquoteBody quoted (c :: '\\' :: taken) rest
  | taken, c :: rest => backquoteBody quoted (c :: taken) rest

/-! ## Parameters in braces -/

/-- Reads the name of a parameter behind an opening brace, and whether its length is asked for. The
name is missing where none is known. -/
def readName : Reader (Bool × Option Text) := do
  let named : Reader (Option Text) := do
    match ← text with
    | c :: _ =>
      if isNameStart c then return some (← takeRun isNameChar)
      else if c.isDigit then return some (← takeRun Char.isDigit)
      else if isSpecialParameter c then return some (← take 1)
      else
        if c ≠ '\x7d' then
          let _ ← take 1
        return none
    | [] => return none
  match ← text with
  | '#' :: c :: d :: _ =>
    if isNameChar c || (isSpecialParameter c && d == '\x7d') then
      let _ ← take 1
      return (true, ← named)
    else return (false, ← named)
  | _ => return (false, ← named)

/-- Reads what is made of a parameter: a form that takes a word, or nothing for its plain value. -/
def readUse : Reader (Option (Word → Use)) := do
  let emptyToo ← takeIf ':'
  match ← text with
  | '\x7d' :: _ => return none
  | '-' :: _ => do
    let _ ← take 1
    return some (.orElse emptyToo)
  | '+' :: _ => do
    let _ ← take 1
    return some (.ifGiven emptyToo)
  | '?' :: _ => do
    let _ ← take 1
    return some (.orFail emptyToo)
  | '=' :: _ => do
    let _ ← take 1
    return some (.orAssign emptyToo)
  | c :: _ => do
    takeUncounted
    if c = '%' && !emptyToo then
      let longest ← takeIf '%'
      return some (.cutBack longest)
    else if c = '#' && !emptyToo then
      let longest ← takeIf '#'
      return some (.cutFront longest)
    else return some fun _ => .unknown
  | [] => return some fun _ => .unknown

/-! ## Lists -/

/-- The kinds of lists of commands: a complete command on its line, a list that is not empty, and
one that may be. -/
inductive ListKind
  | line | body | optional
  deriving DecidableEq

/-- What is made of the next token: whether line feeds before it are skipped, and whether it may be
a keyword, an alias, or the name of the end of a text. -/
structure Look where
  newlines : Bool := false
  keywords : Bool := false
  aliases : Bool := false
  mark : Bool := false

/-- How the next token is looked at where a command begins. -/
def Look.atCommand : Look := { newlines := true, keywords := true, aliases := true }

/-- How it is looked at behind a command. -/
def Look.behindCommand : Look := { keywords := true, aliases := true }

/-- Whether reading on to `rest` leaves the text of an alias that ends in a blank. What follows it
may be an alias, too. -/
def Source.leavesAlias (s : Source) (rest : Text) : Bool :=
  s.expanding.any fun (name, left) =>
    left < s.rest.length && rest.length < left
      && ((s.aliases.lookup name).bind List.getLast?).any isBlank

/-- Replaces an alias by its text, unless it comes from that text itself. -/
def expandAlias? (word : Word) : Reader Bool := do
  let s ← get
  match plain? word with
  | none => return false
  | some name =>
    let expanding := s.expanding.filter fun (_, left) => left ≤ s.rest.length
    match s.aliases.lookup name with
    | none => return false
    | some value =>
      if (expanding.lookup name).isSome then return false
      set { s with rest := value ++ s.rest, expanding := (name, s.rest.length) :: expanding }
      return true

mutual

/-- Reads the parts up to where their context ends. -/
def readParts : Nat → Context → Reader (List Part)
  | 0, _ => refuse "too deep"
  | fuel + 1, context => do
    match ← text with
    | [] =>
      match context.refusal? with
      | some message => refuse message
      | none => return []
    | '\\' :: rest => do
      let taken ← take 2
      let escaped := taken.drop 1
      let part := if rest.head?.any context.escapes then escaped else '\\' :: escaped
      return joinText true part (← readParts fuel context)
    | c :: rest =>
      if context.endsAt c then return []
      else if c = '$' ∧ context ≠ .mark then do
        let _ ← take 1
        let part ← readDollar fuel context
        match part with
        | .text q text => return joinText q text (← readParts fuel context)
        | part => return part :: (← readParts fuel context)
      else if c = '\x60' ∧ context ≠ .mark then do
        match backquoteBody context.quotes [] rest with
        | none => do
          let _ ← take (rest.length + 1)
          refuse "EOF in backquote substitution"
        | some (body, after) => do
          let script ← apart 1 body (readScript fuel)
          let _ ← take (rest.length + 1 - after.length)
          return Part.output context.quotes script :: (← readParts fuel context)
      else if c = '\x27' ∧ !context.quotes then do
        let _ ← take 1
        let inside := rest.takeWhile (· ≠ '\x27')
        if inside.length = rest.length then
          let _ ← take inside.length
          refuse "Unterminated quoted string"
        let _ ← take (inside.length + 1)
        return joinText true inside (← readParts fuel context)
      else if c = '\x22' ∧ (!context.quotes ∨ context matches .braces ..) then do
        let _ ← take 1
        let inside ← readParts fuel
          (if context matches .braces .. then .quotedInBraces else .doubleQuoted)
        let _ ← take 1
        return betweenQuotes inside ++ (← readParts fuel context)
      else
        match context with
        | .arithmetic depth => readOperator fuel depth
        | context => do
          let plain (d : Char) : Bool :=
            !(context.endsAt d || d == '\\' || d == '$' || d == '\x60' || d == '\x27'
              || d == '\x22')
          let taken ← take (1 + (rest.takeWhile plain).length)
          return joinText context.quotes taken (← readParts fuel context)

/-- Reads on in an arithmetic expression, up to the two parentheses that close it. -/
def readOperator : Nat → Nat → Reader (List Part)
  | 0, _ => refuse "too deep"
  | fuel + 1, depth => do
    let taken ← take 1
    if taken = [')'] then
      match depth with
      | 0 => do
        if ← takeIf ')' then return []
        else return joinText true taken (← readParts fuel (.arithmetic 0))
      | depth + 1 => return joinText true taken (← readParts fuel (.arithmetic depth))
    else
      let depth := if taken = ['('] then depth + 1 else depth
      return joinText true taken (← readParts fuel (.arithmetic depth))

/-- Reads an expansion behind its dollar sign. -/
def readDollar : Nat → Context → Reader Part
  | 0, _ => refuse "too deep"
  | fuel + 1, context => do
    match ← text with
    | '(' :: _ => do
      let _ ← take 1
      if ← takeIf '(' then return .arithmetic context.quotes (← readParts fuel (.arithmetic 0))
      else do
        let outer := (← get).awaited
        modify ({ · with awaited := [] })
        let body ← readList fuel .optional true
        match ← readToken fuel {} with
        | .closing => pure ()
        | token => unexpected token (some .closing)
        let behind := (← get).rest
        modify ({ · with rest := [] })
        readHeld fuel
        modify ({ · with rest := behind, awaited := outer })
        return .output context.quotes body
    | '\x7b' :: _ => do
      let _ ← take 1
      readBraces fuel context
    | c :: _ => do
      if isNameStart c then return .parameter context.quotes (← takeRun isNameChar) .value
      else if isSpecialParameter c then return .parameter context.quotes (← take 1) .value
      else return .text context.quotes ['$']
    | [] => return .text context.quotes ['$']

/-- Reads a parameter in braces, behind the opening one. -/
def readBraces : Nat → Context → Reader Part
  | 0, _ => refuse "too deep"
  | fuel + 1, context => do
    let quoted := context.quotes
    let word (quoted : Bool) : Reader Word := do
      let word ← readParts fuel (.braces quoted context.isText)
      let _ ← take 1
      return word
    match ← readName with
    | (_, none) => do
      let _ ← word quoted
      return .parameter quoted [] .unknown
    | (true, some name) => do
      let rest ← word quoted
      return .parameter quoted name (if rest.isEmpty then .length else .unknown)
    | (false, some name) => do
      match ← readUse with
      | none => do
        let _ ← take 1
        return .parameter quoted name .value
      | some use => do
        let isPattern := match use [] with
          | .cutFront .. | .cutBack .. => true
          | _ => false
        return .parameter quoted name (use (← word (quoted && !isPattern)))

/-- Reads a token. -/
def readToken : Nat → Look → Reader Token
  | 0, _ => refuse "too deep"
  | fuel + 1, look => do
    let s ← get
    let token ← match s.pending with
      | some token => do
        set { s with pending := none }
        pure token
      | none => do
        match ← operator? with
        | some token => pure token
        | none => do
          let word ← readParts fuel (if look.mark then .mark else .bare)
          pure (.word word)
    match token with
    | .newline =>
      if look.newlines then
        readHeld fuel
        readToken fuel look
      else return .newline
    | .word word =>
      match if look.keywords then token.recognized else token with
      | .keyword text => return .keyword text
      | token =>
        if look.aliases || s.leavesAlias (← get).rest then
          if ← expandAlias? word then readToken fuel look else return token
        else return token
    | token => return token

/-- Reads the texts that have been announced. -/
def readHeld : Nat → Reader Unit
  | 0 => refuse "too deep"
  | fuel + 1 => do
    match (← get).awaited with
    | [] => return ()
    | awaited :: more => do
      modify ({ · with awaited := more })
      let line := (← get).line
      let held ← heldText awaited
      let word ← if awaited.expands then apart line held (readParts fuel .held)
        else pure [.text true held]
      modify fun s => { s with texts := s.texts.setIfInBounds awaited.number word }
      readHeld fuel

/-- Reads all commands of a text of its own. -/
def readScript : Nat → Reader Script
  | 0 => refuse "too deep"
  | fuel + 1 => readList fuel .optional true

/-- Reads commands up to where their list ends. The flag says whether the list begins here. -/
def readList : Nat → ListKind → Bool → Reader (List Command)
  | 0, _, _ => refuse "too deep"
  | fuel + 1, kind, begins => do
    match ← readToken fuel { Look.atCommand with newlines := kind ≠ .line } with
    | .newline => do
      readHeld fuel
      return []
    | .finish => do
      readHeld fuel
      putBack .finish
      return []
    | token => do
      putBack token
      if token.endsList ∧ kind ≠ .line ∧ (kind = .optional ∨ !begins) then return []
      let command ← readChain fuel
      match ← readToken fuel {} with
      | .finish => do
        readHeld fuel
        putBack .finish
        return [command]
      | .newline => do
        putBack .newline
        return command :: (← readList fuel kind false)
      | .semicolon => return command :: (← readList fuel kind false)
      | .ampersand => return .background command :: (← readList fuel kind false)
      | token => do
        if kind = .line then unexpected token none
        putBack token
        return [command]

/-- Reads commands joined by `&&` and `||`. -/
def readChain : Nat → Reader Command
  | 0 => refuse "too deep"
  | fuel + 1 => do
    let first ← readPipeline fuel
    readChainRest fuel first

/-- Reads what is joined to a command. -/
def readChainRest : Nat → Command → Reader Command
  | 0, _ => refuse "too deep"
  | fuel + 1, first => do
    match ← readToken fuel {} with
    | .both => do
      putBack (← readToken fuel Look.atCommand)
      readChainRest fuel (.chain true first (← readPipeline fuel))
    | .either => do
      putBack (← readToken fuel Look.atCommand)
      readChainRest fuel (.chain false first (← readPipeline fuel))
    | token => do
      putBack token
      return first

/-- Reads commands joined by pipes, which may be negated as a whole. -/
def readPipeline : Nat → Reader Command
  | 0 => refuse "too deep"
  | fuel + 1 => do
    match ← readToken fuel {} with
    | .keyword "!" => do
      putBack (← readToken fuel Look.behindCommand)
      return .negation (← readPiped fuel)
    | token => do
      putBack token
      readPiped fuel

/-- Reads a command, and those that its output is piped to. -/
def readPiped : Nat → Reader Command
  | 0 => refuse "too deep"
  | fuel + 1 => do
    let first ← readCommand fuel
    match ← readPipedRest fuel with
    | [] => return first
    | rest => return .piped (first :: rest)

/-- Reads the commands that output is piped to. -/
def readPipedRest : Nat → Reader (List Command)
  | 0 => refuse "too deep"
  | fuel + 1 => do
    match ← readToken fuel {} with
    | .bar => do
      putBack (← readToken fuel Look.atCommand)
      let command ← readCommand fuel
      return command :: (← readPipedRest fuel)
    | token => do
      putBack token
      return []

/-- Reads a token that is spelled like another one. -/
def expect : Nat → Token → Reader Unit
  | 0, _ => refuse "too deep"
  | fuel + 1, expected => do
    let token ← readToken fuel {}
    if token.label = expected.label then return () else unexpected token (some expected)

/-- Reads a command with the redirections behind it. -/
def readCommand : Nat → Reader Command
  | 0 => refuse "too deep"
  | fuel + 1 => do
    let line := (← get).line
    match ← readToken fuel {} with
    | .keyword "if" => do
      let command ← readConditional fuel
      expect fuel (.keyword "fi")
      redirect fuel line command
    | .keyword "while" => redirect fuel line (← readLoop fuel true)
    | .keyword "until" => redirect fuel line (← readLoop fuel false)
    | .keyword "for" => redirect fuel line (← readEach fuel line)
    | .keyword "case" => do
      match ← readToken fuel {} with
      | .word subject => do
        match ← readToken fuel Look.atCommand with
        | .keyword "in" => redirect fuel line (.choice line subject (← readArms fuel))
        | token => unexpected token (some (.keyword "in"))
      | token => unexpected token (some (.word []))
    | .opening => do
      let body ← readList fuel .body true
      expect fuel .closing
      redirect fuel line (.subshell line body)
    | .keyword "\x7b" => do
      let body ← readList fuel .body true
      expect fuel (.keyword "\x7d")
      redirect fuel line (match body with
        | [command] => command
        | body => .group body)
    | .word word => do
      putBack (.word word)
      readSimple fuel line true [] [] []
    | .redirect outlet operator => do
      putBack (.redirect outlet operator)
      readSimple fuel line true [] [] []
    | token => unexpected token none

/-- Reads the redirections behind a command. A subshell has one list of them: those behind braces
around it take the place of its own. -/
def redirect : Nat → Nat → Command → Reader Command
  | 0, _, _ => refuse "too deep"
  | fuel + 1, line, body => do
    let redirects ← readRedirects fuel
    if redirects.isEmpty then return body
    else match body with
      | .subshell line _ => return .redirected line body redirects
      | .redirected line (.subshell first list) _ =>
        return .redirected line (.subshell first list) redirects
      | body => return .redirected line body redirects

/-- Reads redirections. -/
def readRedirects : Nat → Reader (List Redirect)
  | 0 => refuse "too deep"
  | fuel + 1 => do
    match ← readToken fuel Look.behindCommand with
    | .redirect outlet operator => do
      let first ← readTarget fuel outlet operator
      return first :: (← readRedirects fuel)
    | token => do
      putBack token
      return []

/-- Reads where a redirection leads. -/
def readTarget : Nat → Nat → RedirectOperator → Reader Redirect
  | 0, _, _ => refuse "too deep"
  | fuel + 1, outlet, operator => do
    match ← readToken fuel { mark := operator matches .held _ } with
    | .word word =>
      match operator with
      | .fromFile => return .fromFile outlet word
      | .withFile => return .withFile outlet word
      | .toFile => return .toFile outlet false word
      | .force => return .toFile outlet true word
      | .ontoFile => return .ontoFile outlet word
      | .toOutlet => return .toOutlet outlet word
      | .held strips => do
        let s ← get
        let texts := word.filterMap fun
          | .text quoted text => some (quoted, text)
          | _ => none
        let awaited : Awaited :=
          { number := s.texts.size, mark := (texts.map Prod.snd).flatten, strips,
            expands := !texts.any Prod.fst }
        set { s with texts := s.texts.push [], awaited := s.awaited ++ [awaited] }
        return .held outlet awaited.number
    | token => unexpected token none

/-- Reads a conditional command, behind its keyword and up to the one that closes it. -/
def readConditional : Nat → Reader Command
  | 0 => refuse "too deep"
  | fuel + 1 => do
    let test ← readList fuel .body true
    expect fuel (.keyword "then")
    let yes ← readList fuel .body true
    match ← readToken fuel {} with
    | .keyword "elif" => return .conditional test yes [← readConditional fuel]
    | .keyword "else" => return .conditional test yes (← readList fuel .body true)
    | token => do
      putBack token
      return .conditional test yes []

/-- Reads a loop, behind its keyword. -/
def readLoop : Nat → Bool → Reader Command
  | 0, _ => refuse "too deep"
  | fuel + 1, whileTrue => do
    let test ← readList fuel .body true
    expect fuel (.keyword "do")
    let body ← readList fuel .body true
    expect fuel (.keyword "done")
    return .loop whileTrue test body

/-- Reads a loop over words, behind its keyword. -/
def readEach : Nat → Nat → Reader Command
  | 0, _ => refuse "too deep"
  | fuel + 1, line => do
    let name ← match ← readToken fuel {} with
      | .word word =>
        match plain? word with
        | some name => if isName name then pure name else refuse "Bad for loop variable"
        | none => refuse "Bad for loop variable"
      | _ => refuse "Bad for loop variable"
    let words ← match ← readToken fuel Look.atCommand with
      | .keyword "in" => readWords fuel
      | .semicolon => pure [[.parameter true ['@'] .value]]
      | token => do
        putBack token
        pure [[.parameter true ['@'] .value]]
    match ← readToken fuel Look.atCommand with
    | .keyword "do" => do
      let body ← readList fuel .body true
      expect fuel (.keyword "done")
      return .each line name words body
    | token => unexpected token (some (.keyword "do"))

/-- Reads words up to the end of the line or a semicolon. -/
def readWords : Nat → Reader (List Word)
  | 0 => refuse "too deep"
  | fuel + 1 => do
    match ← readToken fuel {} with
    | .word word => return word :: (← readWords fuel)
    | .newline => do
      readHeld fuel
      return []
    | .semicolon => return []
    | token => unexpected token none

/-- Reads the arms of a choice, up to `esac`. -/
def readArms : Nat → Reader (List Arm)
  | 0 => refuse "too deep"
  | fuel + 1 => do
    match ← readToken fuel { newlines := true, keywords := true } with
    | .keyword "esac" => return []
    | token => do
      let patterns ← match token with
        | .opening => do readPatterns fuel (← readToken fuel {})
        | token => readPatterns fuel token
      let body ← readList fuel .optional true
      match ← readToken fuel { newlines := true, keywords := true } with
      | .keyword "esac" => return [.mk patterns body]
      | .armEnd => return .mk patterns body :: (← readArms fuel)
      | token => unexpected token (some .armEnd)

/-- Reads the patterns of an arm, up to the closing parenthesis. The first one has been read. -/
def readPatterns : Nat → Token → Reader (List Word)
  | 0, _ => refuse "too deep"
  | fuel + 1, first => do
    let pattern : Word ← match first with
      | .word word => pure word
      | .keyword text => pure [.text false (Text.ofString text)]
      | _ => pure []
    match ← readToken fuel {} with
    | .bar => return pattern :: (← readPatterns fuel (← readToken fuel {}))
    | .closing => return [pattern]
    | token => unexpected token (some .closing)

/-- Reads a simple command, or the definition of a function: what has been read of it comes first.
The flag says whether values may still be set. -/
def readSimple : Nat → Nat → Bool → List (Text × Word) → List Word → List Redirect →
    Reader Command
  | 0, _, _, _, _, _ => refuse "too deep"
  | fuel + 1, line, begins, assignments, words, redirects => do
    match ← readToken fuel { aliases := begins } with
    | .word word =>
      match begins, assignment? word with
      | true, some assignment =>
        readSimple fuel line true (assignments ++ [assignment]) words redirects
      | _, _ => readSimple fuel line false assignments (words ++ [word]) redirects
    | .redirect outlet operator => do
      let more ← readTarget fuel outlet operator
      readSimple fuel line begins assignments words (redirects ++ [more])
    | .opening =>
      match assignments, words, redirects with
      | [], [word], [] => do
        expect fuel .closing
        match plain? word with
        | some name =>
          if isName name && !specialCommands.contains (String.ofList name) then
            putBack (← readToken fuel Look.atCommand)
            return .definition name (← readCommand fuel)
          else refuse "Bad function name"
        | none => refuse "Bad function name"
      | _, _, _ => do
        putBack .opening
        return .simple line assignments words redirects
    | token => do
      putBack token
      return .simple line assignments words redirects

end

/-- The parts of a text in which expansions stand, if it can be read. -/
def heldWord? (text : Text) : Option Word :=
  match readParts (8 * text.length + 64) .held { rest := text } with
  | .ok (word, _) => some word
  | .error _ => none

/-- Reads a complete command with its line. There is none at the end of the text. -/
def readLine (s : Source) : Except Refusal (Option Script × Source) :=
  let fuel := 8 * s.rest.length + 64
  let reader : Reader (Option Script) := do
    match ← readToken fuel Look.behindCommand with
    | .finish => do
      readHeld fuel
      return none
    | token => do
      putBack token
      return some (← readList fuel .line true)
  reader { s with pending := none, awaited := [] }

end MaskedDump.Shell
