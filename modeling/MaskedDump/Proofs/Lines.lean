import MaskedDump.Bytes

/-!
# Lines of a text

A text is closed if a line may begin right behind it: it is empty, or it ends in a line feed. Text
that is put behind a closed text keeps its lines, so what begins a line of the whole begins a line
of one of the parts.

Results:
* `BeginsLine.of_append`: what begins a line of a text with a closed first part begins a line of one
  of the parts;
* `BeginsLine.mono`: what begins a line of a truncated text begins a line of the text;
* `pieces_append`: the pieces on both sides of a line feed;
* `beginsLine_iff_piece`: what begins a line is what one of the pieces between line feeds begins
  with;
* `firstLine_cases`: the first line has its line feed, or it is the whole text;
* `lines_append`, `lines_flatten_append`: the lines of a text that is put together from whole lines;
* `filterMap_pieces`: pieces and lines hold the same, but for the line feeds;
* `beginsLine_iff_line`: what begins a line of a text is what one of its lines begins with.
-/

namespace MaskedDump.Bytes

variable {opening a b bs lead rest : Bytes}

/-- A beginning without the byte `x` ends before the first `x`. -/
theorem prefix_of_not_mem {x : UInt8} (hx : x ∉ opening) (h : opening <+: a ++ x :: b) :
    opening <+: a := by
  have hab : a ++ [x] <+: a ++ x :: b := ⟨b, by simp⟩
  rcases List.prefix_or_prefix_of_prefix h hab with hle | hle
  · rcases List.prefix_concat_iff.mp hle with rfl | hle
    · exact absurd List.mem_concat_self hx
    · exact hle
  · exact absurd (hle.subset List.mem_concat_self) hx

/-- Whether neither of two texts is a beginning of the other. -/
def Unlike (a b : Bytes) : Prop := ¬ a <+: b ∧ ¬ b <+: a

instance (a b : Bytes) : Decidable (Unlike a b) :=
  inferInstanceAs (Decidable (¬ a <+: b ∧ ¬ b <+: a))

/-- Two beginnings of one text are beginnings of one another. -/
theorem Unlike.not_begins (h : Unlike opening a) (ha : a <+: bs) : ¬ opening <+: bs := by
  intro hopening
  rcases List.prefix_or_prefix_of_prefix hopening ha with hle | hle
  · exact h.1 hle
  · exact h.2 hle

/-- What is not in the second one of two lists put together is in the first one. -/
theorem eq_append_of_not_mem_right {α : Type} {a b lead rest : List α} {x : α} (hx : x ∉ b)
    (h : a ++ b = lead ++ x :: rest) : ∃ mid, a = lead ++ x :: mid ∧ rest = mid ++ b := by
  rcases List.append_eq_append_iff.mp h with ⟨mid, rfl, hb⟩ | ⟨mid, rfl, hrest⟩
  · exact absurd (hb ▸ List.mem_append_right _ List.mem_cons_self) hx
  · cases mid with
    | nil =>
      obtain rfl : x :: rest = b := hrest
      exact absurd List.mem_cons_self hx
    | cons y mid =>
      obtain ⟨rfl, rfl⟩ := List.cons.inj hrest
      exact ⟨mid, rfl, rfl⟩

/-- What is not in the first one of two lists put together is in the second one. -/
theorem eq_append_of_not_mem_left {α : Type} {a b lead rest : List α} {x : α} (hx : x ∉ a)
    (h : a ++ b = lead ++ x :: rest) : ∃ mid, b = mid ++ x :: rest ∧ lead = a ++ mid := by
  rcases List.append_eq_append_iff.mp h with ⟨mid, rfl, hb⟩ | ⟨mid, rfl, hrest⟩
  · exact ⟨mid, hb, rfl⟩
  · cases mid with
    | nil => exact ⟨[], hrest.symm, by simp⟩
    | cons y mid =>
      obtain ⟨rfl, rfl⟩ := List.cons.inj hrest
      exact absurd (List.mem_append_right _ List.mem_cons_self) hx

/-! ## Closed texts -/

/-- Whether a line may begin right behind a text. -/
def Closed (bs : Bytes) : Prop := bs = [] ∨ bs.getLast? = some lineFeed

instance : DecidablePred Closed := fun bs =>
  inferInstanceAs (Decidable (bs = [] ∨ bs.getLast? = some lineFeed))

theorem closed_nil : Closed [] := .inl rfl

theorem closed_concat : Closed (bs ++ [lineFeed]) := .inr List.getLast?_concat

theorem Closed.append (ha : Closed a) (hb : Closed b) : Closed (a ++ b) := by
  rcases hb with rfl | hb
  · rwa [List.append_nil]
  · exact .inr (by rw [List.getLast?_append, hb, Option.some_or])

/-- The second part of a closed text is closed. -/
theorem Closed.of_append (h : Closed (a ++ b)) : Closed b := by
  rcases h with h | h
  · exact .inl (List.append_eq_nil_iff.mp h).2
  · rw [List.getLast?_append] at h
    cases hb : b.getLast? with
    | none => exact .inl (List.getLast?_eq_none_iff.mp hb)
    | some x =>
      rw [hb, Option.some_or] at h
      exact .inr (hb.trans h)

theorem Closed.eq_nil_or_concat (h : Closed bs) : bs = [] ∨ ∃ lead, bs = lead ++ [lineFeed] :=
  h.imp_right List.getLast?_eq_some_iff.mp

theorem Closed.eq_nil (h : Closed bs) (hbs : lineFeed ∉ bs) : bs = [] :=
  h.resolve_right fun hlast => hbs (List.mem_of_getLast? hlast)

theorem closed_cons {x : UInt8} : Closed (x :: bs) ↔ Closed bs ∧ (bs = [] → x = lineFeed) := by
  cases bs with
  | nil => simp [Closed]
  | cons y ys => simp [Closed]

theorem closed_append_iff (hb : b ≠ []) (a : Bytes) : Closed (a ++ b) ↔ Closed b := by
  obtain ⟨lead, x, rfl⟩ := List.eq_nil_or_concat b |>.resolve_left hb
  simp [Closed]

/-! ## Beginnings of lines -/

/-- Whether a line of the text begins with `opening`. -/
def BeginsLine (opening bs : Bytes) : Prop :=
  ∃ lead rest, bs = lead ++ rest ∧ Closed lead ∧ opening <+: rest

/-- Whether an opening can begin a line: it is not empty and stands on one line. -/
def OnOneLine (opening : Bytes) : Prop := opening ≠ [] ∧ lineFeed ∉ opening

instance : DecidablePred OnOneLine := fun opening =>
  inferInstanceAs (Decidable (opening ≠ [] ∧ lineFeed ∉ opening))

theorem BeginsLine.mono (h : BeginsLine opening a) (hab : a <+: b) : BeginsLine opening b := by
  obtain ⟨lead, rest, rfl, hlead, hopening⟩ := h
  obtain ⟨more, rfl⟩ := hab
  exact ⟨lead, rest ++ more, List.append_assoc _ _ _, hlead,
    hopening.trans (List.prefix_append _ _)⟩

theorem BeginsLine.append_left (ha : Closed a) (h : BeginsLine opening b) :
    BeginsLine opening (a ++ b) := by
  obtain ⟨lead, rest, rfl, hlead, hopening⟩ := h
  exact ⟨a ++ lead, rest, (List.append_assoc _ _ _).symm, ha.append hlead, hopening⟩

theorem BeginsLine.of_append (hopening : lineFeed ∉ opening) (ha : Closed a)
    (h : BeginsLine opening (a ++ b)) : BeginsLine opening a ∨ BeginsLine opening b := by
  obtain ⟨lead, rest, heq, hlead, hbegins⟩ := h
  rcases List.append_eq_append_iff.mp heq with ⟨mid, rfl, rfl⟩ | ⟨mid, rfl, rfl⟩
  · exact .inr ⟨mid, rest, rfl, hlead.of_append, hbegins⟩
  · rcases List.prefix_or_prefix_of_prefix hbegins (List.prefix_append mid b) with hle | hle
    · exact .inl ⟨lead, mid, rfl, hlead, hle⟩
    · have hmid : mid = [] := ha.of_append.eq_nil fun hmem => hopening (hle.subset hmem)
      subst hmid
      exact .inr ⟨[], b, rfl, closed_nil, hbegins⟩

theorem beginsLine_of_not_mem (h : lineFeed ∉ bs) : BeginsLine opening bs ↔ opening <+: bs := by
  constructor
  · rintro ⟨lead, rest, rfl, hlead, hopening⟩
    rw [hlead.eq_nil fun hmem => h (List.mem_append_left _ hmem)]
    exact hopening
  · exact fun hopening => ⟨[], bs, rfl, closed_nil, hopening⟩

/-- The line feed at the end of a text begins no line of its own. -/
theorem BeginsLine.of_concat (hopening : lineFeed ∉ opening)
    (h : BeginsLine opening (bs ++ [lineFeed])) : BeginsLine opening bs := by
  obtain ⟨lead, rest, heq, hlead, hbegins⟩ := h
  rcases List.eq_nil_or_concat rest with rfl | ⟨rest, x, rfl⟩
  · rw [List.prefix_nil.mp hbegins]
    exact ⟨[], bs, rfl, closed_nil, List.nil_prefix⟩
  · rw [List.concat_eq_append, ← List.append_assoc] at heq
    obtain ⟨rfl, hx⟩ := List.append_inj' heq rfl
    obtain rfl := List.singleton_inj.mp hx
    rw [List.concat_eq_append] at hbegins
    exact ⟨lead, rest, rfl, hlead, prefix_of_not_mem hopening hbegins⟩

theorem not_beginsLine_nil (h : opening ≠ []) : ¬ BeginsLine opening [] := by
  rw [beginsLine_of_not_mem List.not_mem_nil, List.prefix_nil]
  exact h

theorem beginsLine_line_append (hopening : lineFeed ∉ opening) (ha : lineFeed ∉ a) :
    BeginsLine opening (a ++ lineFeed :: b) ↔ opening <+: a ∨ BeginsLine opening b := by
  rw [List.append_cons]
  constructor
  · intro h
    refine (h.of_append hopening closed_concat).imp_left fun h => ?_
    exact (beginsLine_of_not_mem ha).mp (h.of_concat hopening)
  · rintro (h | h)
    · rw [List.append_assoc]
      exact ⟨[], _, rfl, closed_nil, h.trans (List.prefix_append _ _)⟩
    · exact h.append_left closed_concat

/-- The lines of a text whose middle part alone has line feeds: the first one, and those that begin
in the middle part. -/
theorem BeginsLine.of_middle {mid : Bytes} (ha : lineFeed ∉ a) (hb : lineFeed ∉ b)
    (h : BeginsLine opening (a ++ mid ++ b)) :
    opening <+: a ++ mid ++ b ∨
      ∃ lead rest, mid = lead ++ lineFeed :: rest ∧ opening <+: rest ++ b := by
  obtain ⟨lead, rest, heq, hlead, hopening⟩ := h
  rcases hlead.eq_nil_or_concat with rfl | ⟨lead, rfl⟩
  · exact .inl (heq ▸ hopening)
  · rw [List.append_assoc lead, List.singleton_append] at heq
    obtain ⟨more, hmore, rfl⟩ := eq_append_of_not_mem_right hb heq
    obtain ⟨lead, rfl, -⟩ := eq_append_of_not_mem_left ha hmore
    exact .inr ⟨lead, more, rfl, hopening⟩

/-! ## Pieces -/

theorem pieces_of_not_mem (h : lineFeed ∉ bs) : pieces bs = [bs] := by
  induction bs with
  | nil => rfl
  | cons x rest ih =>
    obtain ⟨hx, hrest⟩ := List.ne_and_not_mem_of_not_mem_cons h
    rw [pieces, if_neg hx.symm, ih hrest]

theorem pieces_ne_nil (bs : Bytes) : pieces bs ≠ [] := by
  cases bs with
  | nil => exact List.cons_ne_nil _ _
  | cons x rest =>
    rw [pieces]
    split
    · exact List.cons_ne_nil _ _
    · cases pieces rest <;> exact List.cons_ne_nil _ _

/-- A line feed ends a piece wherever it stands. -/
theorem pieces_append (a b : Bytes) : pieces (a ++ lineFeed :: b) = pieces a ++ pieces b := by
  induction a with
  | nil => rfl
  | cons x rest ih =>
    rw [List.cons_append, pieces, pieces, ih]
    split
    · rw [List.cons_append]
    · obtain ⟨piece, more, hpieces⟩ := List.exists_cons_of_ne_nil (pieces_ne_nil rest)
      rw [hpieces, List.cons_append, List.cons_append]

theorem pieces_line_append (h : lineFeed ∉ a) :
    pieces (a ++ lineFeed :: b) = a :: pieces b := by
  rw [pieces_append, pieces_of_not_mem h, List.singleton_append]

theorem lineFeed_not_mem_of_mem_pieces {piece : Bytes} (h : piece ∈ pieces bs) :
    lineFeed ∉ piece := by
  induction bs generalizing piece with
  | nil =>
    obtain rfl := List.mem_singleton.mp h
    exact List.not_mem_nil
  | cons x rest ih =>
    rw [pieces] at h
    split at h
    · rcases List.mem_cons.mp h with rfl | hmore
      · exact List.not_mem_nil
      · exact ih hmore
    · rename_i hx
      obtain ⟨first, more, hpieces⟩ := List.exists_cons_of_ne_nil (pieces_ne_nil rest)
      rw [hpieces] at h ih
      rcases List.mem_cons.mp h with rfl | hmore
      · exact List.not_mem_cons_of_ne_of_not_mem (Ne.symm hx) (ih List.mem_cons_self)
      · exact ih (List.mem_cons_of_mem _ hmore)

theorem beginsLine_iff_piece (hopening : lineFeed ∉ opening) (bs : Bytes) :
    BeginsLine opening bs ↔ ∃ line ∈ pieces bs, opening <+: line := by
  by_cases hbs : lineFeed ∈ bs
  · -- the text is its first line and the pieces of the rest, which is shorter
    obtain ⟨a, b, hab, ha⟩ := List.eq_append_cons_of_mem hbs
    have hlength : b.length < bs.length := by
      rw [hab, List.length_append, List.length_cons]
      omega
    rw [hab, beginsLine_line_append hopening ha, pieces_line_append ha,
      beginsLine_iff_piece hopening b]
    simp
  · rw [beginsLine_of_not_mem hbs, pieces_of_not_mem hbs]
    simp
termination_by bs.length

/-! ## The first line -/

theorem firstLine_cases (bs : Bytes) :
    (∃ line, lineFeed ∉ line ∧ bs = line ++ lineFeed :: afterLine bs ∧
      firstLine bs = line ++ [lineFeed]) ∨
    lineFeed ∉ bs ∧ firstLine bs = bs ∧ afterLine bs = [] := by
  induction bs with
  | nil => exact .inr ⟨List.not_mem_nil, rfl, rfl⟩
  | cons x rest ih =>
    by_cases hx : x = lineFeed
    · refine .inl ⟨[], List.not_mem_nil, ?_, ?_⟩
      · rw [afterLine, if_pos hx, hx, List.nil_append]
      · rw [firstLine, if_pos hx, hx, List.nil_append]
    · rw [firstLine, afterLine, if_neg hx, if_neg hx]
      rcases ih with ⟨line, hline, hrest, hfirst⟩ | ⟨hrest, hfirst, hafter⟩
      · refine .inl ⟨x :: line, List.not_mem_cons_of_ne_of_not_mem (Ne.symm hx) hline, ?_, ?_⟩
        · rw [List.cons_append, ← hrest]
        · rw [hfirst, List.cons_append]
      · refine .inr ⟨List.not_mem_cons_of_ne_of_not_mem (Ne.symm hx) hrest, ?_, hafter⟩
        rw [hfirst]

theorem firstLine_append_of_not_mem (h : lineFeed ∉ a) (b : Bytes) :
    firstLine (a ++ b) = a ++ firstLine b := by
  induction a with
  | nil => rfl
  | cons x rest ih =>
    obtain ⟨hx, hrest⟩ := List.ne_and_not_mem_of_not_mem_cons h
    rw [List.cons_append, firstLine, if_neg hx.symm, ih hrest, List.cons_append]

theorem afterLine_append_of_not_mem (h : lineFeed ∉ a) (b : Bytes) :
    afterLine (a ++ b) = afterLine b := by
  induction a with
  | nil => rfl
  | cons x rest ih =>
    obtain ⟨hx, hrest⟩ := List.ne_and_not_mem_of_not_mem_cons h
    rw [List.cons_append, afterLine, if_neg hx.symm, ih hrest]

/-- A text has one first line. -/
theorem append_lineFeed_inj (ha : lineFeed ∉ a) (hlead : lineFeed ∉ lead)
    (h : a ++ lineFeed :: b = lead ++ lineFeed :: rest) : a = lead ∧ b = rest := by
  have hfirst := congrArg firstLine h
  rw [firstLine_append_of_not_mem ha, firstLine_append_of_not_mem hlead, firstLine, firstLine,
    if_pos rfl] at hfirst
  obtain rfl := List.append_cancel_right hfirst
  exact ⟨rfl, (List.cons.inj (List.append_cancel_left h)).2⟩

/-- A text with a line feed keeps its first line in front of another text. -/
theorem afterLine_append (h : lineFeed ∈ a) (b : Bytes) :
    afterLine (a ++ b) = afterLine a ++ b := by
  induction a with
  | nil => exact absurd h List.not_mem_nil
  | cons x rest ih =>
    rw [List.cons_append, afterLine, afterLine]
    split
    · rfl
    · rename_i hx
      exact ih ((List.mem_cons.mp h).resolve_left (Ne.symm hx))

theorem closed_afterLine (h : Closed bs) : Closed (afterLine bs) := by
  rw [← firstLine_append_afterLine bs] at h
  exact h.of_append

/-- What begins a line behind a line end begins a line of the whole. -/
theorem BeginsLine.of_afterLine (hopening : OnOneLine opening)
    (lead : Bytes) (h : BeginsLine opening (afterLine bs)) :
    BeginsLine opening (lead ++ bs) := by
  rcases firstLine_cases bs with ⟨line, -, hbs, -⟩ | ⟨-, -, hafter⟩
  · rw [hbs, List.append_cons, ← List.append_assoc, ← List.append_assoc]
    exact h.append_left closed_concat
  · rw [hafter] at h
    exact absurd h (not_beginsLine_nil hopening.1)

/-! ## Whole lines -/

/-- The lines of a text, each with its line feed. The last one need not have one. -/
def lines : Bytes → List Bytes
  | [] => []
  | b :: rest =>
    if b = lineFeed then [b] :: lines rest
    else match lines rest with
      | [] => [[b]]
      | line :: more => (b :: line) :: more

/-- Whether a text is one line with its line feed. -/
def IsLine (line : Bytes) : Prop := ∃ body, lineFeed ∉ body ∧ line = body ++ [lineFeed]

theorem flatten_lines (bs : Bytes) : (lines bs).flatten = bs := by
  induction bs with
  | nil => rfl
  | cons x rest ih =>
    rw [lines]
    split
    · rw [List.flatten_cons, ih, List.singleton_append]
    · cases hrest : lines rest with
      | nil =>
        rw [hrest] at ih
        rw [← ih]
        rfl
      | cons line more =>
        rw [hrest] at ih
        rw [← ih]
        rfl

theorem lines_of_not_mem (ha : a ≠ []) (h : lineFeed ∉ a) : lines a = [a] := by
  induction a with
  | nil => exact absurd rfl ha
  | cons x rest ih =>
    obtain ⟨hx, hrest⟩ := List.ne_and_not_mem_of_not_mem_cons h
    rw [lines, if_neg hx.symm]
    cases rest with
    | nil => rfl
    | cons y rest => rw [ih (List.cons_ne_nil y rest) hrest]

theorem lines_line_append (h : lineFeed ∉ a) :
    lines (a ++ lineFeed :: b) = (a ++ [lineFeed]) :: lines b := by
  induction a with
  | nil => rw [List.nil_append, lines, if_pos rfl, List.nil_append]
  | cons x rest ih =>
    obtain ⟨hx, hrest⟩ := List.ne_and_not_mem_of_not_mem_cons h
    rw [List.cons_append, lines, if_neg hx.symm, ih hrest, List.cons_append]

theorem lines_isLine_append {line : Bytes} (h : IsLine line) (b : Bytes) :
    lines (line ++ b) = line :: lines b := by
  obtain ⟨body, hbody, rfl⟩ := h
  rw [List.append_assoc, List.singleton_append, lines_line_append hbody]

/-- Whole lines that are put together are the lines of the text that they make. -/
theorem lines_flatten_append {whole : List Bytes} (h : ∀ line ∈ whole, IsLine line) (b : Bytes) :
    lines (whole.flatten ++ b) = whole ++ lines b := by
  induction whole with
  | nil => rfl
  | cons line more ih =>
    obtain ⟨hline, hmore⟩ := List.forall_mem_cons.mp h
    rw [List.flatten_cons, List.append_assoc, lines_isLine_append hline, ih hmore,
      List.cons_append]

/-- The first line, and the lines behind it. -/
theorem lines_eq_cons (h : bs ≠ []) : lines bs = firstLine bs :: lines (afterLine bs) := by
  rcases firstLine_cases bs with ⟨line, hline, hbs, hfirst⟩ | ⟨hbs, hfirst, hafter⟩
  · rw [hfirst, ← lines_line_append hline, ← hbs]
  · rw [hfirst, hafter, lines_of_not_mem h hbs]
    rfl

/-- Every line but the last one has its line feed. -/
theorem isLine_of_lines_eq {init more : List Bytes} {line : Bytes}
    (h : lines bs = init ++ line :: more) : ∀ l ∈ init, IsLine l := by
  induction init generalizing bs with
  | nil => exact nofun
  | cons l init ih =>
    have hbs : bs ≠ [] := by
      rintro rfl
      nomatch h
    rw [lines_eq_cons hbs, List.cons_append] at h
    obtain ⟨rfl, hrest⟩ := List.cons.inj h
    refine List.forall_mem_cons.mpr ⟨?_, ih hrest⟩
    rcases firstLine_cases bs with ⟨body, hbody, -, hfirst⟩ | ⟨-, -, hafter⟩
    · exact ⟨body, hbody, hfirst⟩
    · rw [hafter] at hrest
      exact absurd hrest.symm (by simp [lines])

theorem closed_flatten {whole : List Bytes} (h : ∀ line ∈ whole, IsLine line) :
    Closed whole.flatten := by
  induction whole with
  | nil => exact closed_nil
  | cons line more ih =>
    obtain ⟨⟨body, -, rfl⟩, hmore⟩ := List.forall_mem_cons.mp h
    exact closed_concat.append (ih hmore)

/-- All lines of a closed text have their line feed. -/
theorem Closed.isLine (h : Closed bs) : ∀ line ∈ lines bs, IsLine line := by
  induction bs with
  | nil => exact nofun
  | cons x rest ih =>
    obtain ⟨hrest, hlast⟩ := closed_cons.mp h
    rw [lines]
    split
    · rename_i hx
      exact List.forall_mem_cons.mpr ⟨⟨[], List.not_mem_nil, by rw [hx, List.nil_append]⟩, ih hrest⟩
    · rename_i hx
      cases hlines : lines rest with
      | nil =>
        have hnil : rest = [] := by rw [← flatten_lines rest, hlines, List.flatten_nil]
        exact absurd (hlast hnil) hx
      | cons line more =>
        obtain ⟨⟨body, hbody, rfl⟩, hmore⟩ := List.forall_mem_cons.mp (hlines ▸ ih hrest)
        have hline : lineFeed ∉ x :: body := List.not_mem_cons_of_ne_of_not_mem (Ne.symm hx) hbody
        exact List.forall_mem_cons.mpr ⟨⟨x :: body, hline, rfl⟩, hmore⟩

theorem lines_append (ha : Closed a) (b : Bytes) : lines (a ++ b) = lines a ++ lines b := by
  have h := lines_flatten_append ha.isLine b
  rwa [flatten_lines] at h

/-- The first line of a text whose rest was changed is still a line of its own. -/
theorem lines_firstLine_append (h : bs ≠ []) (hrest : afterLine bs = [] → rest = []) :
    lines (firstLine bs ++ rest) = firstLine bs :: lines rest := by
  rcases firstLine_cases bs with ⟨line, hline, -, hfirst⟩ | ⟨hbs, hfirst, hafter⟩
  · rw [hfirst]
    exact lines_isLine_append ⟨line, hline, rfl⟩ rest
  · rw [hfirst, hrest hafter, List.append_nil, lines_of_not_mem h hbs]
    rfl

/-- What is collected from the pieces between line feeds is collected from the lines, each without
its line feed, if an empty piece yields nothing. -/
theorem filterMap_pieces {α : Type} {f : Bytes → Option α} (hf : f [] = none) (bs : Bytes) :
    (pieces bs).filterMap f =
      (lines bs).filterMap fun line => f (line.takeWhile (· ≠ lineFeed)) := by
  have hbody : ∀ {body : Bytes}, lineFeed ∉ body → ∀ rest,
      (body ++ rest).takeWhile (· ≠ lineFeed) = body ++ rest.takeWhile (· ≠ lineFeed) := by
    intro body hbody rest
    refine List.takeWhile_append_of_pos fun b hb => decide_eq_true ?_
    rintro rfl
    exact hbody hb
  rcases firstLine_cases bs with ⟨line, hline, hbs, -⟩ | ⟨hbs, -, -⟩
  · -- the lines behind the first one are fewer
    have hlength : (afterLine bs).length < bs.length := by
      refine length_afterLine_lt ?_
      rw [hbs]
      simp
    have hfirst : (line ++ [lineFeed]).takeWhile (· ≠ lineFeed) = line := by
      rw [hbody hline, List.takeWhile_cons_of_neg (by simp), List.append_nil]
    rw [hbs, pieces_line_append hline, lines_line_append hline, List.filterMap_cons,
      List.filterMap_cons, hfirst, filterMap_pieces hf (afterLine bs)]
  · rw [pieces_of_not_mem hbs]
    by_cases hnil : bs = []
    · rw [hnil, List.filterMap_cons_none hf]
      rfl
    · have hwhole := hbody hbs []
      rw [List.append_nil, List.takeWhile_nil, List.append_nil] at hwhole
      rw [lines_of_not_mem hnil hbs, List.filterMap_cons, List.filterMap_cons, hwhole]
      rfl
termination_by bs.length

/-- What begins a line of a text is what one of its lines begins with. -/
theorem beginsLine_iff_line (hopening : OnOneLine opening) (bs : Bytes) :
    BeginsLine opening bs ↔ ∃ line ∈ lines bs, opening <+: line := by
  constructor
  · rintro ⟨lead, rest, rfl, hlead, hbegins⟩
    have hrest : rest ≠ [] := by
      rintro rfl
      exact hopening.1 (List.prefix_nil.mp hbegins)
    rw [lines_append hlead, lines_eq_cons hrest]
    refine ⟨firstLine rest, List.mem_append_cons_self, ?_⟩
    rcases firstLine_cases rest with ⟨line, -, hsplit, hfirst⟩ | ⟨-, hfirst, -⟩
    · rw [hsplit] at hbegins
      rw [hfirst]
      exact (prefix_of_not_mem hopening.2 hbegins).trans (List.prefix_append _ _)
    · rwa [hfirst]
  · rintro ⟨line, hline, hbegins⟩
    obtain ⟨init, more, hlines⟩ := List.append_of_mem hline
    refine ⟨init.flatten, line ++ more.flatten, ?_, closed_flatten (isLine_of_lines_eq hlines),
      hbegins.trans (List.prefix_append _ _)⟩
    rw [← flatten_lines bs, hlines, List.flatten_append, List.flatten_cons]

/-! ## Encoded texts -/

theorem ofString_eq_flatMap (s : String) : ofString s = s.toList.flatMap String.utf8EncodeChar := by
  rw [ofString, String.toUTF8, ← String.utf8Encode_toList, List.utf8Encode,
    List.toList_data_toByteArray]

/-- An ASCII byte is the encoding of a character on its own. -/
theorem toNat_eq_of_mem_utf8EncodeChar {b : UInt8} {c : Char} (hb : b.toNat < 128)
    (h : b ∈ String.utf8EncodeChar c) : c.val.toNat = b.toNat := by
  have hofNat : ∀ n, b = UInt8.ofNat n → n % 256 = b.toNat := by
    rintro n rfl
    exact UInt8.toNat_ofNat'.symm
  unfold String.utf8EncodeChar at h
  dsimp only at h
  split at h
  · have := hofNat _ (List.mem_singleton.mp h)
    omega
  split at h
  · simp only [List.mem_cons, List.not_mem_nil, or_false] at h
    rcases h with h | h <;>
    · have := hofNat _ h
      omega
  split at h
  · simp only [List.mem_cons, List.not_mem_nil, or_false] at h
    rcases h with h | h | h <;>
    · have := hofNat _ h
      omega
  · simp only [List.mem_cons, List.not_mem_nil, or_false] at h
    rcases h with h | h | h | h <;>
    · have := hofNat _ h
      omega

theorem lineFeed_not_mem_ofString {s : String} (h : '\n' ∉ s.toList) : lineFeed ∉ ofString s := by
  rw [ofString_eq_flatMap]
  intro hmem
  obtain ⟨c, hc, hbyte⟩ := List.mem_flatMap.mp hmem
  have hval : c.val.toNat = lineFeed.toNat := toNat_eq_of_mem_utf8EncodeChar (by decide) hbyte
  have hchar : c = '\n' := Char.ext (UInt32.toNat_inj.mp hval)
  exact h (hchar ▸ hc)

end MaskedDump.Bytes
