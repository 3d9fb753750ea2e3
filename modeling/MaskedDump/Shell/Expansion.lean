import MaskedDump.Shell.PathPattern
import MaskedDump.Shell.State

/-!
# Expansion

What the parts of a word come to, apart from those that run commands. A text may begin with the
directory of a user, a parameter has a value or none, and the list of all parameters stays apart
where fields are made.
-/

namespace MaskedDump.Shell

/-! ## Texts -/

/-- How a word is expanded. -/
inductive Manner
  /-- To fields. -/
  | fields
  /-- To a text. -/
  | single
  /-- To the value of a variable. -/
  | value
  deriving DecidableEq

/-- The items of a text that is not quoted. In the word of a parameter it is split like a value. -/
def plainItems (soft : Bool) (text : Text) : List Item :=
  if soft then .opening false :: text.map .soft else text.map (.fixed · false)

/-- The directory of a user, by name or the operator's own. -/
def State.homeOf? (s : State) (user : Text) : Option Text :=
  if user.isEmpty then s.value? (Text.ofString "HOME")
  else if user = Text.ofString "root" then some (Text.ofString "/root")
  else none

/-- The items of a text that may begin with the directory of a user. The flag `closes` says whether
the word ends behind it. -/
def State.pathItems (s : State) (soft closes : Bool) (text : Text) : List Item :=
  match text with
  | '~' :: rest =>
    let user := rest.takeWhile (· ≠ '/')
    match if closes || user.length < rest.length then s.homeOf? user else none with
    | some home =>
      home.map (.fixed · true) ++ if user.length = rest.length then []
        else plainItems soft (rest.drop user.length)
    | none => plainItems soft text
  | text => plainItems soft text

/-- The items of a text that is not quoted, at its place in a word. In the value of a variable the
directory of a user may also stand behind a colon. -/
def State.textItems (s : State) (manner : Manner) (soft first last : Bool) (text : Text) :
    List Item :=
  if manner = .value then
    match text.splitOn ':' with
    | [] => []
    | segment :: more =>
      let count := more.length
      (if first then s.pathItems soft (last || 0 < count) segment else plainItems soft segment)
        ++ (more.zipIdx.map fun (segment, i) =>
          plainItems soft [':'] ++ s.pathItems soft (last || i + 1 < count) segment).flatten
  else if first then s.pathItems soft last text
  else plainItems soft text

/-! ## Parameters -/

/-- Whether a name stands for all parameters. -/
def isList (name : Text) : Bool := name == ['@'] || name == ['*']

namespace State

/-- Whether the parameters stay apart where they are all expanded. -/
def staysApart (manner : Manner) (quoted : Bool) (name : Text) : Bool :=
  isList name && manner == .fields && !(quoted && name == ['*'])

/-- What stands between parameters that do not stay apart. -/
def joiner (s : State) : Text :=
  match s.value? (Text.ofString "IFS") with
  | some separators => separators.take 1
  | none => [' ']

/-- The value of a parameter, or of all of them as one text. -/
def whole? (s : State) (name : Text) : Option Text :=
  if isList name then some (s.joiner.intercalate s.parameters) else s.parameter? name

/-- The items of parameters that stay apart. -/
def apartItems (quoted : Bool) (parameters : List Text) : List Item :=
  if quoted then
    if parameters.isEmpty then []
    else .opening true ::
      ((parameters.map (·.map (Item.fixed · true))).intersperse [.gap]).flatten
  else .opening false :: ((parameters.map (·.map Item.soft)).intersperse [.gap]).flatten

/-- The items of a parameter after a change of its value. Where parameters stay apart the change is
that of the first one, and a change at the end leaves nothing behind it. -/
def changedItems (s : State) (manner : Manner) (quoted : Bool) (name : Text) (atEnd : Bool)
    (change : Text → Text) : List Item :=
  if staysApart manner quoted name then
    match s.parameters with
    | [] => apartItems quoted []
    | first :: rest => apartItems quoted (change first :: if atEnd then [] else rest)
  else Item.ofText quoted (change ((s.whole? name).getD []))

/-- The items of a parameter. -/
def parameterItems (s : State) (manner : Manner) (quoted : Bool) (name : Text) : List Item :=
  s.changedItems manner quoted name false id

/-- The length of the value of a parameter. -/
def lengthOf (s : State) (name : Text) : Nat :=
  if isList name then ([' '].intercalate s.parameters).length else ((s.whole? name).getD []).length

/-- Whether a parameter has no value, or an empty one if that is the same. -/
def isMissing (s : State) (name : Text) (emptyToo : Bool) : Bool :=
  if isList name then emptyToo && s.lengthOf name == 0
  else match s.whole? name with
    | none => true
    | some value => emptyToo && value.isEmpty

/-! ## Fields -/

/-- The fields of an expanded word, with the paths that they stand for. -/
def fieldsOf (s : State) (items : List Item) : List Text :=
  let fields := split s.separators none items
  if s.options.contains 'f' then fields.map (·.map Cell.char)
  else fields.flatMap (PathPattern.expand s.files)

end State

end MaskedDump.Shell
