import MaskedDump.Options.Arguments
import MaskedDump.Proofs.Text.Utf8
import Mathlib.Data.List.TakeWhile

/-!
# Reading arguments of one form

A command line may be written so that every flag with a value holds it behind an equals sign, and
every other flag stands alone. What such a line gives can be told without a reader: of each flag the
values in order. The reader finds exactly that, although it keeps the last value back until the next
argument follows.

Results:
* `Reader.readLong_assign`, `Reader.readLong_dashed`: a flag is told from its value at the first
  equals sign, whatever the value;
* `store_assigned`, `turnOn_switched`, `store_named`: what one argument adds is stored;
* `Reader.Holds.read`: the reader has read one argument more;
* `parse_tokens`: the reader finds what the line gives.
-/

namespace MaskedDump

namespace Flag

/-- Whether a flag collects values. -/
def repeatable : Flag → Bool
  | schema | excludeSchema | table | excludeTable | excludeTableData => true
  | _ => false

/-- The flag with a value, as one argument. -/
def assign (f : Flag) (value : String) : String := f.dashed ++ "=" ++ value

end Flag

namespace Arguments

/-! ## What is given -/

/-- One argument of a command line: a flag with its value, a flag that takes none, or the database.
-/
inductive Given
  | assigned (f : Flag) (value : String)
  | switched (f : Flag)
  | named (database : String)
  deriving DecidableEq, Repr

namespace Given

/-- The argument as it is written. -/
def text : Given → String
  | assigned f value => f.assign value
  | switched f => f.dashed
  | named database => database

/-- The bytes of the argument. -/
def token (g : Given) : Bytes := Bytes.ofString g.text

/-- Where the argument goes. -/
def slot : Given → Slot
  | assigned f _ | switched f => .flag f
  | named _ => .positional

/-- Whether the argument can stand in a line that is run. -/
def Admissible : Given → Prop
  | assigned f value => f.takesValue = true ∧ (f = .file → value ≠ "")
  | switched f => f = .noPassword ∨ f = .password ∨ f = .verbose
  | named database => database ≠ "" ∧ database.toList.head? ≠ some '-'

/-- The value for a flag. -/
def value? (f : Flag) : Given → Option String
  | assigned g value => if g = f then some value else none
  | _ => none

/-- The database. -/
def database? : Given → Option String
  | named database => some database
  | _ => none

end Given

/-- Whether a slot collects values. -/
def Slot.repeatable : Slot → Bool
  | .flag f => f.repeatable
  | .positional => false

/-- Whether a line can be run: its arguments can, and those that cannot be repeated are given at
most once. -/
structure Proper (line : List Given) : Prop where
  admissible : ∀ g ∈ line, g.Admissible
  once : ∀ slot : Slot, slot.repeatable = false → line.countP (·.slot = slot) ≤ 1

/-- The values for a flag, in order. -/
def values (f : Flag) (line : List Given) : List String := line.filterMap (Given.value? f)

/-- The databases without a flag. -/
def databases (line : List Given) : List String := line.filterMap Given.database?

/-- What a line gives. -/
def gathered (line : List Given) : Arguments where
  dbname := (values .dbname line).head?
  serverHost := (values .serverHost line).head?
  serverPort := (values .serverPort line).head?
  username := (values .username line).head?
  noPassword := .switched .noPassword ∈ line
  password := .switched .password ∈ line
  encoding := (values .encoding line).head?
  schemas := values .schema line
  excludeSchemas := values .excludeSchema line
  tables := values .table line
  excludeTables := values .excludeTable line
  excludeTableData := values .excludeTableData line
  file := (values .file line).head?.map Bytes.ofString
  verbose := .switched .verbose ∈ line
  positional := (databases line).head?

/-! ## One argument more -/

theorem Proper.of_append {line rest : List Given} (h : Proper (line ++ rest)) : Proper line := by
  refine ⟨fun g hg => h.admissible g (List.mem_append_left _ hg), fun slot hslot => ?_⟩
  have honce := h.once slot hslot
  rw [List.countP_append] at honce
  omega

/-- Whether a slot can take what is given behind a line. -/
def Vacant (line : List Given) (slot : Slot) : Prop :=
  slot.repeatable = false → ∀ g ∈ line, g.slot ≠ slot

theorem Proper.vacant {line : List Given} {g : Given} (h : Proper (line ++ [g])) :
    Vacant line g.slot := by
  intro hslot other hother hsame
  have honce := h.once g.slot hslot
  have hlast : [g].countP (·.slot = g.slot) = 1 := by simp
  have hline : 0 < line.countP (·.slot = g.slot) :=
    List.countP_pos_iff.mpr ⟨other, hother, decide_eq_true hsame⟩
  rw [List.countP_append, hlast] at honce
  omega

theorem Vacant.of_concat {line : List Given} {g : Given} {slot : Slot}
    (h : Vacant (line ++ [g]) slot) : Vacant line slot :=
  fun hslot other hother => h hslot other (List.mem_append_left _ hother)

theorem values_append (f : Flag) (line rest : List Given) :
    values f (line ++ rest) = values f line ++ values f rest := List.filterMap_append

theorem databases_append (line rest : List Given) :
    databases (line ++ rest) = databases line ++ databases rest := List.filterMap_append

theorem values_concat (f : Flag) (line : List Given) (g : Given) :
    values f (line ++ [g]) = values f line ++ (g.value? f).toList := by
  have hlast : values f [g] = (g.value? f).toList := by
    cases h : g.value? f <;> simp [values, h]
  rw [values_append, hlast]

theorem databases_concat (line : List Given) (g : Given) :
    databases (line ++ [g]) = databases line ++ g.database?.toList := by
  have hlast : databases [g] = g.database?.toList := by
    cases h : g.database? <;> simp [databases, h]
  rw [databases_append, hlast]

theorem Vacant.values_eq {line : List Given} {f : Flag} (h : Vacant line (.flag f))
    (hf : f.repeatable = false) : values f line = [] := by
  refine List.filterMap_eq_nil_iff.mpr fun g hg => ?_
  have hslot := h hf g hg
  cases g with
  | assigned other value =>
    have hother : other ≠ f := fun heq => hslot (congrArg Slot.flag heq)
    exact if_neg hother
  | switched | named => rfl

theorem Vacant.switched_not_mem {line : List Given} {f : Flag} (h : Vacant line (.flag f))
    (hf : f.repeatable = false) : Given.switched f ∉ line :=
  fun hmem => h hf _ hmem rfl

theorem Vacant.databases_eq {line : List Given} (h : Vacant line .positional) :
    databases line = [] := by
  refine List.filterMap_eq_nil_iff.mpr fun g hg => ?_
  have hslot := h rfl g hg
  cases g with
  | named => exact absurd rfl hslot
  | assigned | switched => rfl

/-- A slot is free as long as nothing was given for it. -/
theorem Vacant.filled_eq {line : List Given} {slot : Slot} (h : Vacant line slot) :
    (gathered line).filled slot = false := by
  cases slot with
  | positional => simp [filled, gathered, h.databases_eq]
  | flag f =>
    cases f
    case noPassword | password | verbose =>
      exact decide_eq_false (h.switched_not_mem rfl)
    case dbname | serverHost | serverPort | username | encoding | file =>
      simp [filled, gathered, h.values_eq rfl]
    case schema | excludeSchema | table | excludeTable | excludeTableData | help | version =>
      rfl

section Gathering

variable {line : List Given}

/-- The value of a flag goes behind those that the flag has. -/
theorem gathered_assigned {f : Flag} (value : String) (hvacant : Vacant line (.flag f))
    (htakes : f.takesValue = true) (hf : f ≠ .file) :
    gathered (line ++ [.assigned f value]) = (gathered line).put value (.flag f) := by
  simp only [gathered, values_concat, databases_concat, Given.value?, Given.database?,
    List.mem_append, List.mem_singleton, reduceCtorEq, or_false, Option.toList_none,
    List.append_nil]
  cases f
  case noPassword | password | verbose | help | version => cases htakes
  case file => exact absurd rfl hf
  case dbname | serverHost | serverPort | username | encoding =>
    simp [put, hvacant.values_eq rfl]
  case schema | excludeSchema | table | excludeTable | excludeTableData => simp [put]

theorem gathered_file (value : String) (hvacant : Vacant line (.flag .file)) :
    gathered (line ++ [.assigned .file value]) =
      { gathered line with file := some (Bytes.ofString value) } := by
  simp [gathered, values_concat, databases_concat, Given.value?, Given.database?,
    hvacant.values_eq rfl]

theorem gathered_named (database : String) (hvacant : Vacant line .positional) :
    gathered (line ++ [.named database]) = (gathered line).put database .positional := by
  simp [gathered, put, values_concat, databases_concat, Given.value?, Given.database?,
    hvacant.databases_eq]

/-! ## Storing it -/

theorem ofString_isEmpty {value : String} (h : value ≠ "") :
    (Bytes.ofString value).isEmpty = false := by
  rw [List.isEmpty_eq_false_iff]
  exact fun hnil => h (Utf8.ofString_inj (hnil.trans rfl))

theorem store_assigned {f : Flag} {value : String} (hvacant : Vacant line (.flag f))
    (hadmissible : (Given.assigned f value).Admissible) :
    (gathered line).store (.flag f) (some (Bytes.ofString value)) =
      .ok (gathered (line ++ [.assigned f value])) := by
  obtain ⟨htakes, hfile⟩ := hadmissible
  simp only [store, hvacant.filled_eq, Bool.false_eq_true, if_false]
  by_cases hf : f = .file
  · subst hf
    simp only [if_true, ofString_isEmpty (hfile rfl), Bool.false_eq_true, if_false,
      gathered_file value hvacant]
  · have hslot : Slot.flag f ≠ .flag .file := fun h => hf (Slot.flag.inj h)
    simp only [hslot, if_false, Utf8.decode?_ofString, gathered_assigned value hvacant htakes hf]

theorem turnOn_switched {f : Flag} (hvacant : Vacant line (.flag f))
    (hadmissible : (Given.switched f).Admissible) :
    (gathered line).turnOn f = .ok (gathered (line ++ [.switched f])) := by
  simp only [turnOn, hvacant.filled_eq, Bool.false_eq_true, if_false]
  rcases hadmissible with rfl | rfl | rfl <;>
  simp [gathered, values_concat, databases_concat, Given.value?, Given.database?]

theorem store_named {database : String} (hvacant : Vacant line .positional) :
    (gathered line).store .positional (some (Bytes.ofString database)) =
      .ok (gathered (line ++ [.named database])) := by
  have hslot : Slot.positional ≠ .flag .file := nofun
  simp only [store, hvacant.filled_eq, Bool.false_eq_true, if_false, hslot,
    Utf8.decode?_ofString, gathered_named database hvacant]

end Gathering

/-! ## Long flags -/

/-- No long name holds an equals sign. -/
theorem long_without_equals (f : Flag) :
    ∀ b ∈ Bytes.ofString f.spelling.long, decide (b ≠ 61) = true := by
  have hall : (Bytes.ofString f.spelling.long).all (· ≠ 61) = true := by
    cases f <;> decide
  exact List.all_eq_true.mp hall

theorem ofLong?_long (f : Flag) : Flag.ofLong? f.spelling.long = some f := by
  cases f <;> decide

theorem long_ne_nil (f : Flag) : Bytes.ofString f.spelling.long ≠ [] := by
  cases f <;> decide

theorem ofString_dashed (f : Flag) :
    Bytes.ofString f.dashed = 45 :: 45 :: Bytes.ofString f.spelling.long := by
  rw [Flag.dashed, Bytes.ofString_append]
  rfl

namespace Reader

/-- What is behind the first equals sign is the value, whatever it is. -/
theorem readLong_assign (r : Reader) {f : Flag} (htakes : f.takesValue = true) (value : Bytes) :
    r.readLong (Bytes.ofString f.spelling.long ++ 61 :: value) = r.meet f (some value) := by
  have hname : (Bytes.ofString f.spelling.long ++ 61 :: value).takeWhile (· ≠ 61) =
      Bytes.ofString f.spelling.long := by
    rw [List.takeWhile_append_of_pos (long_without_equals f)]
    simp
  have hvalue : (Bytes.ofString f.spelling.long ++ 61 :: value).dropWhile (· ≠ 61) =
      61 :: value := by
    rw [List.dropWhile_append_of_pos (long_without_equals f)]
    simp
  simp only [readLong, hname, hvalue, Utf8.decode?_ofString, Option.bind_some, ofLong?_long,
    List.tail?_cons, htakes, if_true]

theorem readLong_dashed (r : Reader) (f : Flag) :
    r.readLong (Bytes.ofString f.spelling.long) = r.meet f none := by
  have hname : (Bytes.ofString f.spelling.long).takeWhile (· ≠ 61) =
      Bytes.ofString f.spelling.long :=
    List.takeWhile_eq_self_iff.mpr (long_without_equals f)
  have hvalue : (Bytes.ofString f.spelling.long).dropWhile (· ≠ 61) = [] :=
    List.dropWhile_eq_nil_iff.mpr (long_without_equals f)
  simp only [readLong, hname, hvalue, Utf8.decode?_ofString, Option.bind_some, ofLong?_long,
    List.tail?_nil]

theorem read_long {r : Reader} (h : r.onlyValues = false) {body : Bytes} (hbody : body ≠ []) :
    r.read (45 :: 45 :: body) = r.readLong body := by
  obtain ⟨b, rest, rfl⟩ := List.exists_cons_of_ne_nil hbody
  simp only [read, h]

theorem read_assigned {r : Reader} (h : r.onlyValues = false) {f : Flag}
    (htakes : f.takesValue = true) (value : String) :
    r.read (Given.assigned f value).token = r.meet f (some (Bytes.ofString value)) := by
  have htoken : (Given.assigned f value).token =
      45 :: 45 :: (Bytes.ofString f.spelling.long ++ 61 :: Bytes.ofString value) := by
    rw [Given.token, Given.text, Flag.assign, Bytes.ofString_append, Bytes.ofString_append,
      ofString_dashed, List.append_assoc]
    rfl
  rw [htoken, read_long h (by simp), readLong_assign r htakes]

theorem read_switched {r : Reader} (h : r.onlyValues = false) (f : Flag) :
    r.read (Given.switched f).token = r.meet f none := by
  rw [Given.token, Given.text, ofString_dashed, read_long h (long_ne_nil f), readLong_dashed]

/-! ## The database -/

theorem read_word {r : Reader} (h : r.onlyValues = false) {token : Bytes}
    (hdash : token.head? ≠ some 45) : r.read token = r.readValue token := by
  cases token with
  | nil => simp only [read, h]
  | cons b rest =>
    have hb : b ≠ 45 := fun heq => hdash (congrArg some heq)
    unfold read
    split <;> simp_all

/-- A dash is the first byte of a dash alone. -/
theorem head?_ofString_ne {s : String} (h : s.toList.head? ≠ some '-') :
    (Bytes.ofString s).head? ≠ some 45 := by
  intro hdash
  obtain ⟨rest, hrest⟩ := List.head?_eq_some_iff.mp hdash
  have hunits : Utf8.units (Bytes.ofString s) = some '-' :: Utf8.run none rest := by
    rw [hrest]
    rfl
  rw [Utf8.units_ofString] at hunits
  obtain ⟨c, cs, hs, hc, -⟩ := List.map_eq_cons_iff.mp hunits
  exact h (by rw [hs, List.head?_cons, hc])

/-! ## The run -/

/-- What a reader has found when it has read a line: it has stored what the line gives, but for a
database that it met last. -/
structure Holds (r : Reader) (line : List Given) : Prop where
  onlyValues : r.onlyValues = false
  settled : r.settle = .ok { r with stored := gathered line, pending := none }
  positionalMet : r.positionalMet = true → ¬ Vacant line .positional
  complete : ∀ f, r.pending ≠ some (.flag f, none)

theorem Holds.initial : Holds {} [] where
  onlyValues := rfl
  settled := rfl
  positionalMet := nofun
  complete := nofun

/-- A flag finds all that came before it stored. -/
theorem Holds.of_stored {r : Reader} {line : List Given} {g : Given} (h : Holds r line) :
    Holds { r with stored := gathered (line ++ [g]), pending := none } (line ++ [g]) where
  onlyValues := h.onlyValues
  settled := rfl
  positionalMet hmet hvacant := h.positionalMet hmet hvacant.of_concat
  complete := nofun

/-- One argument more is read. -/
theorem Holds.read {r : Reader} {line : List Given} {g : Given} (h : Holds r line)
    (hproper : Proper (line ++ [g])) : ∃ r', r.read g.token = .ok r' ∧ Holds r' (line ++ [g]) := by
  have hvacant := hproper.vacant
  have hadmissible := hproper.admissible g (by simp)
  cases g with
  | assigned f value =>
    refine ⟨_, ?_, h.of_stored⟩
    rw [read_assigned h.onlyValues hadmissible.1, meet, h.settled]
    simp only [bind, Except.bind, hadmissible.1, if_true, store_assigned hvacant hadmissible]
    rfl
  | switched f =>
    refine ⟨_, ?_, h.of_stored⟩
    have htakes : f.takesValue = false := by
      rcases hadmissible with rfl | rfl | rfl <;> rfl
    rw [read_switched h.onlyValues, meet, h.settled]
    simp only [bind, Except.bind, htakes, Bool.false_eq_true, if_false,
      turnOn_switched hvacant hadmissible]
    rfl
  | named database =>
    -- the database is kept back, and settling stores it
    have hunmet : r.positionalMet = false :=
      Bool.eq_false_iff.mpr fun hmet => h.positionalMet hmet hvacant
    have hread : r.read (Given.named database).token =
        .ok { r with
          stored := gathered line
          pending := some (.positional, some (Bytes.ofString database))
          positionalMet := true } := by
      rw [Given.token, Given.text, read_word h.onlyValues (head?_ofString_ne hadmissible.2),
        readValue]
      split
      · rename_i f hwaiting
        exact absurd hwaiting (h.complete f)
      · rw [readValue.positional, hunmet, h.settled]
        rfl
    refine ⟨_, hread, ?_⟩
    constructor
    · exact h.onlyValues
    · simp only [settle, bind, Except.bind, store_named hvacant]
      rfl
    · exact fun _ hvacant => hvacant rfl (.named database) (by simp) rfl
    · exact nofun

/-- A whole line is read, one argument after the other. -/
theorem Holds.foldlM_read {r : Reader} {line : List Given} (h : Holds r line) (rest : List Given)
    (hproper : Proper (line ++ rest)) :
    ∃ r', (rest.map Given.token).foldlM Reader.read r = .ok r' ∧ Holds r' (line ++ rest) := by
  -- on what is left, with a line that grows by one argument
  induction rest generalizing r line with
  | nil => exact ⟨r, rfl, by rwa [List.append_nil]⟩
  | cons g rest ih =>
    have hsplit : line ++ g :: rest = line ++ [g] ++ rest := by simp
    rw [hsplit] at hproper ⊢
    obtain ⟨next, hread, hnext⟩ := h.read hproper.of_append
    obtain ⟨r', hrest, hr'⟩ := ih hnext hproper
    refine ⟨r', ?_, hr'⟩
    rw [List.map_cons, List.foldlM_cons, hread]
    exact hrest

end Reader

/-- The reader finds what a line gives. -/
theorem parse_tokens {line : List Given} (h : Proper line) :
    parse (line.map Given.token) = .ok (gathered line) := by
  obtain ⟨r, hread, hr⟩ := Reader.Holds.initial.foldlM_read line (by simpa using h)
  rw [parse, hread]
  simp only [bind, Except.bind, hr.settled]
  rfl

end Arguments

end MaskedDump
