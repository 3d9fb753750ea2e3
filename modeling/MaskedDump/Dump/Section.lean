import MaskedDump.Identifier

/-!
# Sections of the definitions

The export tool writes the definitions of a database in two sections, around the data. Both are
exported without security labels, which hold the masking rules, and without the excluded schemas.
-/

namespace MaskedDump

/-- An argument made of a flag and a value, which may be any bytes. -/
def flagArgument (flag : String) (value : Bytes) : Bytes := Bytes.ofString flag ++ 61 :: value

/-- A section of the definitions. -/
inductive Section
  /-- What is needed before data is loaded. -/
  | preData
  /-- Indexes, constraints and triggers, which are created after data is loaded. -/
  | postData
  deriving DecidableEq, Repr

namespace Section

/-- The name of a section. -/
def name : Section → String
  | preData => "pre-data"
  | postData => "post-data"

/-- The arguments that export a section. The options come last. -/
def args (sect : Section) (excluded : List Identifier) (options : List String) : List Bytes :=
  [Bytes.ofString ("--section=" ++ sect.name), Bytes.ofString "--no-security-labels"]
    ++ excluded.map (fun schema => flagArgument "--exclude-schema" schema.bytes)
    ++ options.map Bytes.ofString

end Section

end MaskedDump
