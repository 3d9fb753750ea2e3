import MaskedDump.Bytes

/-!
# Text without terminal sequences

A message may set parts of it off by control sequences, and what it quotes may hold more of them.
Where a message is shown as plain text, it goes through a reader of such sequences, which lets
through what a terminal would print, and blanks wherever they stand. A run of text that is let
through ends at a control that is no blank, and then the reader looks for the next run.
-/

namespace MaskedDump.Terminal

/-- Where the reader is in a sequence. -/
inductive State
  /-- Outside all sequences. -/
  | ground
  /-- Behind the escape character. -/
  | escape
  /-- Behind the escape character and a byte that asks for one more. -/
  | escapeMore
  /-- In a control sequence, which a letter or another final byte ends. -/
  | control
  /-- At the head of a device control string. -/
  | device
  /-- In the parameters of a device control string. -/
  | deviceParameters
  /-- Behind the parameters of a device control string. -/
  | deviceMore
  /-- In a string, which a string terminator ends. -/
  | string
  /-- In a command of the operating system, which a bell ends. -/
  | command
  deriving DecidableEq, Repr

namespace State

/-- Where the reader is behind a byte. An escape character begins a sequence anywhere, and a cancel
or a substitute breaks one off. -/
def next (state : State) (b : UInt8) : State :=
  if b = 0x1B then escape
  else if b = 0x18 ∨ b = 0x1A then ground
  else match state with
    | ground => ground
    | escape =>
      if b < 0x20 ∨ 0x7E < b then escape
      else if b < 0x30 then escapeMore
      else if b = 0x50 then device
      else if b = 0x58 ∨ b = 0x5E ∨ b = 0x5F then string
      else if b = 0x5B then control
      else if b = 0x5D then command
      else ground
    | escapeMore => if 0x30 ≤ b ∧ b < 0x7F then ground else escapeMore
    | control => if 0x40 ≤ b ∧ b < 0x7F then ground else control
    | device =>
      if b < 0x20 ∨ 0x7E < b then device
      else if b < 0x30 then deviceMore
      else if b < 0x40 then deviceParameters
      else string
    | deviceParameters =>
      if b < 0x20 ∨ 0x7E < b then deviceParameters
      else if b < 0x30 then deviceMore
      else if b < 0x3C then deviceParameters
      else string
    | deviceMore => if 0x30 ≤ b ∧ b < 0x7F then string else deviceMore
    | string => if b = 0x9C then ground else string
    | command => if b = 0x07 then ground else command

/-- Whether a byte begins a run of text. Outside sequences that is a printable byte, the first byte
of a longer character, or a blank other than the vertical tab. Escape and control sequences let such
a blank through; strings do not. -/
def shows (state : State) (b : UInt8) : Bool :=
  let blank := b == 0x09 || b == 0x0A || b == 0x0C || b == 0x0D
  match state with
  | ground => blank || (0x20 ≤ b && b < 0x7F) || (0xC2 ≤ b && b < 0xF5)
  | escape | escapeMore | control => blank
  | _ => false

/-- Whether a byte continues a run of text. -/
def continues (b : UInt8) : Bool := ground.shows b || 0x80 ≤ b

end State

/-- What is let through of a text, read on from a state, within a run or not. A blank inside a
sequence begins a run; a reader that is `mindful` takes the sequence up again behind that run unless
a longer character stood in it, any other reader has forgotten it. -/
def printed (mindful : Bool) : Bool → State → Bytes → Bytes
  | _, _, [] => []
  | true, state, b :: rest =>
    if State.continues b then
      b :: printed mindful true (if 0x80 ≤ b then .ground else state) rest
    else printed mindful false (state.next b) rest
  | false, state, b :: rest =>
    if state.shows b then b :: printed mindful true (if mindful then state.next b else .ground) rest
    else printed mindful false (state.next b) rest

/-- A text set off by a control sequence from what stands around it. -/
def setOff (s : String) : String := "\x1b[33m" ++ s ++ "\x1b[0m"

end MaskedDump.Terminal
