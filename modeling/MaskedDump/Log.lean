import MaskedDump.Text.Class

/-!
# The log

What a run tells its operator as it goes on. An entry has a level, the part of the program that
speaks, and a message.
-/

namespace MaskedDump.Log

/-- How urgent an entry is. -/
inductive Level
  | error | warn | info | debug | trace
  deriving DecidableEq, Repr

namespace Level

/-- The place of a level, the most urgent first. -/
def rank : Level → Nat
  | error => 1
  | warn => 2
  | info => 3
  | debug => 4
  | trace => 5

/-- The name of a level. -/
def name : Level → String
  | error => "ERROR"
  | warn => "WARN"
  | info => "INFO"
  | debug => "DEBUG"
  | trace => "TRACE"

end Level

/-- The part of the program that speaks. -/
inductive Speaker
  | configuration | command | schema | data | tail | tools
  deriving DecidableEq, Repr

/-- The path that a directive names a speaker by. -/
def Speaker.path : Speaker → String
  | configuration => "pg_dump_anon::config"
  | command => "pg_dump_anon::commands::dump"
  | schema => "pg_dump_anon::dump::schema"
  | data => "pg_dump_anon::dump::data"
  | tail => "pg_dump_anon::dump::tail"
  | tools => "pg_dump_anon::utils"

/-- An entry of the log. -/
structure Entry where
  level : Level
  speaker : Speaker
  message : String
  deriving DecidableEq, Repr

namespace Entry

/-- The entry with its level. -/
def brief (e : Entry) : String := e.level.name ++ " " ++ e.message

/-- A character of a shown message. Those that a terminal might obey are written as escapes; the
line feed is not one of them. -/
def shownChar (c : Char) : String :=
  let hex := String.ofList (Nat.toDigits 16 c.toNat)
  if ['\x07', '\x08', '\x0c', '\x1b', '\x7f'].contains c then
    "\\x" ++ (if c.toNat < 16 then "0" else "") ++ hex
  else if 0x80 ≤ c.toNat ∧ c.toNat < 0xA0 then "\\u\x7b" ++ hex ++ "\x7d"
  else String.ofList [c]

/-- The entry with its level and speaker as it is shown, line by line. -/
def lines (e : Entry) : List String :=
  let message := String.join (e.message.toList.map shownChar)
  (e.level.name ++ " " ++ e.speaker.path ++ ": " ++ message).splitOn "\n"

/-- The first line of a shown entry, without blanks at its end. -/
def headLine (e : Entry) : String := Text.trimEnd (e.lines.headD "")

/-- The lines that the message of a shown entry goes on for. -/
def moreLines (e : Entry) : List String := e.lines.tail

end Entry

end MaskedDump.Log
