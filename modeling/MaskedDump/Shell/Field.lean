import MaskedDump.Shell.Pattern

/-!
# Fields

An expanded word is a row of items, which is split into fields at separators that came from unquoted
expansions. Blanks among the separators are taken together, and with one other separator; any other
separator ends a field of its own. Where a number of fields is asked for, the last one takes all
that is left, without its end if that is nothing but blanks and one separator.
-/

namespace MaskedDump.Shell

/-- An item of an expanded word. -/
inductive Item
  /-- A character at which fields are not split. -/
  | fixed (c : Char) (quoted : Bool)
  /-- A character at which fields may be split. -/
  | soft (c : Char)
  /-- A sign that something quoted stood here. -/
  | mark
  /-- The place between two parameters. -/
  | gap
  /-- The beginning of an expansion that may be split, at gaps only or at all separators. -/
  | opening (gapsOnly : Bool)
  deriving DecidableEq

namespace Item

/-- The items of an expansion that is quoted or that may be split. -/
def ofText (quoted : Bool) (text : Text) : List Item :=
  if quoted then text.map (fixed · true) else opening false :: text.map soft

/-- The character of an item as a cell. -/
def cell? : Item → Option Cell
  | fixed c quoted => some ⟨c, quoted⟩
  | soft c => some ⟨c, false⟩
  | _ => none

/-- The characters of an expansion. -/
def cells (items : List Item) : List Cell := items.filterMap cell?

/-- The text of an expansion. -/
def text (items : List Item) : Text := (cells items).map Cell.char

end Item

/-- The separators of a shell that has not been told others. -/
def defaultSeparators : Text := [' ', '\t', '\n']

/-- The state of a splitting. -/
structure Splitting where
  /-- The fields that are finished, the last one first. -/
  done : List (List Item) := []
  /-- The items of the field at hand, the last one first. -/
  field : List Item := []
  /-- Whether blanks that follow belong to the separator before. -/
  blank : Bool := false
  gapsOnly : Bool := false
  /-- Whether the expansion before was split at gaps only. -/
  afterGaps : Bool := false
  /-- The number of fields that may still be begun, if that is bounded. -/
  left : Option Nat := none
  /-- What is kept of the last field if nothing but its end follows. -/
  kept : Option (List Item) := none

namespace Splitting

/-- Takes an item that may separate, as a blank or otherwise. -/
def takeSoft (s : Splitting) (separates isBlank : Bool) (item : Item) : Splitting :=
  if s.left = some 0 then
    if isBlank then { s with kept := s.kept <|> some s.field, field := item :: s.field }
    else
      { s with
        kept := if separates && s.blank then s.kept else none
        blank := false, field := item :: s.field }
  else if s.blank then
    if isBlank then s
    else if separates then { s with blank := false }
    else { s with blank := false, field := [item] }
  else if separates then
    let blank := isBlank && !s.gapsOnly && !s.afterGaps
    if s.field.isEmpty && blank then s
    else match s.left with
      | some 1 =>
        { s with left := some 0, kept := some s.field, blank, field := item :: s.field }
      | left => { s with done := s.field :: s.done, field := [], blank, left := left.map (· - 1) }
  else { s with field := item :: s.field }

/-- Takes an item. -/
def take (separators : Text) (s : Splitting) : Item → Splitting
  | .fixed c quoted => { s with field := .fixed c quoted :: s.field }
  | .mark => { s with field := .mark :: s.field }
  | .opening gapsOnly => { s with blank := false, gapsOnly, afterGaps := s.gapsOnly }
  | .gap => s.takeSoft true true .gap
  | .soft c =>
    let separates := separators.contains c && !s.gapsOnly
    s.takeSoft separates (separates && defaultSeparators.contains c) (.soft c)

/-- The fields in order. A last field of nothing is dropped, unless it stands for a parameter. -/
def finish (s : Splitting) : List (List Cell) :=
  let field := if s.gapsOnly then s.field else s.kept.getD s.field
  let done := if s.gapsOnly || !field.isEmpty then field :: s.done else s.done
  (done.map fun field => Item.cells field.reverse).reverse

end Splitting

/-- Splits an expanded word into fields, of which there may be a number at most. -/
def split (separators : Text) (limit : Option Nat) (items : List Item) : List (List Cell) :=
  (items.foldl (Splitting.take separators) { left := limit }).finish

end MaskedDump.Shell
