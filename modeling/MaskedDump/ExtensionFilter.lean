import MaskedDump.Bytes

/-!
# Removal of extension statements

An anonymized dump must not mention the extensions that did the masking, and the export tool cannot
leave them out. For each extension four openings are known, as the export tool words them; a line
that begins with one of them is removed.
-/

namespace MaskedDump

/-- The openings whose lines are removed, in the order in which they are looked for. -/
structure ExtensionFilter where
  openings : List Bytes
  deriving DecidableEq, Repr

namespace ExtensionFilter

/-- The openings that announce one extension: its own comment line and statement, and those of the
comment on it. -/
def openingsOf (extension : String) : List Bytes :=
  [ Bytes.ofString ("-- Name: " ++ extension ++ "; Type: EXTENSION;"),
    Bytes.ofString ("CREATE EXTENSION IF NOT EXISTS " ++ extension ++ " "),
    Bytes.ofString ("-- Name: EXTENSION " ++ extension ++ "; Type: COMMENT;"),
    Bytes.ofString ("COMMENT ON EXTENSION " ++ extension ++ " ") ]

/-- The filter for some extensions. -/
def ofExtensions (extensions : List String) : ExtensionFilter :=
  ⟨extensions.flatMap openingsOf⟩

/-- The extensions that no anonymized dump may install: the masking engine and the two installed
beside it. -/
def maskingExtensions : List String := ["anon", "pgcrypto", "tsm_system_rows"]

/-- The filter of every dump. -/
def masking : ExtensionFilter := ofExtensions maskingExtensions

/-- A text after a pass, and whether the pass removed anything. -/
structure Filtered where
  text : Bytes
  changed : Bool
  deriving DecidableEq, Repr

/-- Removes, line by line, what begins with `opening` at a line start, up to and with the line end
that follows the opening. -/
def strike (opening : Bytes) (text : Bytes) : Filtered :=
  match text with
  | [] => ⟨[], false⟩
  | b :: rest =>
    match _ : Bytes.after? opening (b :: rest) with
    | some tail => ⟨(strike opening (Bytes.afterLine tail)).text, true⟩
    | none =>
      let kept := strike opening (Bytes.afterLine (b :: rest))
      ⟨Bytes.firstLine (b :: rest) ++ kept.text, kept.changed⟩
termination_by text.length
decreasing_by
  · rename_i h
    have hlen := congrArg List.length (Bytes.after?_eq_some_iff.1 h)
    rw [List.length_append] at hlen
    match tail with
    | [] => simp [Bytes.afterLine]
    | t :: ts =>
      have := Bytes.length_afterLine_lt (List.cons_ne_nil t ts)
      omega
  · exact Bytes.length_afterLine_lt (List.cons_ne_nil b rest)

/-- One pass for each opening. -/
def apply (filter : ExtensionFilter) (ddl : Bytes) : Filtered :=
  filter.openings.foldl
    (fun sofar opening =>
      let next := strike opening sofar.text
      ⟨next.text, sofar.changed || next.changed⟩)
    ⟨ddl, false⟩

end ExtensionFilter

end MaskedDump
