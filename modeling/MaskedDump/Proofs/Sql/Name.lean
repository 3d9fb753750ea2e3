import MaskedDump.Sql.Name
import MaskedDump.Proofs.Lines

/-!
# Printed names

The names that can be printed, and how. A component is printed as it is spelled if all its bytes may
stand bare, or between double quotes. What is printed is read back, wherever nothing follows that
goes on with it, and nothing else is read.

A space in a name stands between quotes. So a name is told from what stands before it if that ends
with a space, whatever it is, though a name may itself have the look of a longer text.

Results:
* `component?_text`, `name?_text`: what is printed is read back;
* `text_of_component?`, `text_of_name?`: what is read can be printed;
* `Name.text_inj_behind_space`: a name behind a space is known from the text that it ends.
-/

namespace MaskedDump.Sql

open Bytes

/-- What is printed between double quotes: a double quote is written twice. -/
def escapeQuotes : Bytes → Bytes
  | [] => []
  | b :: rest => if b = doubleQuote then b :: b :: escapeQuotes rest else b :: escapeQuotes rest

/-- A component of a name. -/
inductive Component
  | quoted (content : Bytes) (nonempty : content ≠ [])
  | bare (spelling : Bytes) (nonempty : spelling ≠ []) (all_bare : ∀ b ∈ spelling, isBare b)

/-- A component as it is printed. -/
def Component.text : Component → Bytes
  | quoted content _ => doubleQuote :: (escapeQuotes content ++ [doubleQuote])
  | bare spelling _ _ => spelling

/-- A name: a component, or one that is qualified by another. -/
inductive Name
  | plain (component : Component)
  | qualified (qualifier component : Component)

/-- A name as it is printed. -/
def Name.text : Name → Bytes
  | plain component => component.text
  | qualified qualifier component => qualifier.text ++ dot :: component.text

/-! ## What follows -/

/-- Whether a component that stands in front of a text ends there: the text is empty, or its first
byte is neither a double quote nor bare. -/
def EndsComponent (after : Bytes) : Prop :=
  ∀ b rest, after = b :: rest → b ≠ doubleQuote ∧ isBare b = false

/-- Whether a name that stands in front of a text ends there: a component does, and no dot follows
that leads to another one. -/
def EndsName (after : Bytes) : Prop :=
  EndsComponent after ∧ ∀ rest, after ≠ dot :: rest

theorem endsComponent_cons {b : UInt8} (hquote : b ≠ doubleQuote) (hbare : isBare b = false)
    (rest : Bytes) : EndsComponent (b :: rest) := by
  rintro _ _ ⟨⟩
  exact ⟨hquote, hbare⟩

theorem endsName_nil : EndsName [] := ⟨nofun, nofun⟩

theorem endsName_cons {b : UInt8} (hquote : b ≠ doubleQuote) (hbare : isBare b = false)
    (hdot : b ≠ dot) (rest : Bytes) : EndsName (b :: rest) :=
  ⟨endsComponent_cons hquote hbare rest, fun _ h => hdot (List.cons.inj h).1⟩

theorem EndsComponent.takeWhile {after : Bytes} (h : EndsComponent after) :
    after.takeWhile isBare = [] := by
  cases after with
  | nil => rfl
  | cons b rest => rw [List.takeWhile_cons_of_neg (by simp [(h b rest rfl).2])]

theorem EndsComponent.dropWhile {after : Bytes} (h : EndsComponent after) :
    after.dropWhile isBare = after := by
  cases after with
  | nil => rfl
  | cons b rest => rw [List.dropWhile_cons_of_neg (by simp [(h b rest rfl).2])]

/-! ## Reading what is printed -/

theorem quotedTail?_cons {b : UInt8} (hb : b ≠ doubleQuote) {text : Bytes} (htext : text ≠ []) :
    quotedTail? (b :: text) =
      (quotedTail? text).map fun (inside, after) => (b :: inside, after) := by
  cases text with
  | nil => exact absurd rfl htext
  | cons c rest => rw [quotedTail?, if_neg hb]

/-- The quotes inside are read in pairs, so that the closing one is the first one on its own. -/
theorem quotedTail?_escapeQuotes {after : Bytes} (hafter : ∀ rest, after ≠ doubleQuote :: rest)
    (content : Bytes) :
    quotedTail? (escapeQuotes content ++ doubleQuote :: after) =
      some (escapeQuotes content ++ [doubleQuote], after) := by
  induction content with
  | nil =>
    cases after with
    | nil => rfl
    | cons b rest =>
      have hb : b ≠ doubleQuote := fun h => hafter rest (h ▸ rfl)
      rw [escapeQuotes, List.nil_append, quotedTail?, if_pos rfl, if_neg hb, List.nil_append]
  | cons x content ih =>
    rw [escapeQuotes]
    split
    · rename_i hx
      rw [List.cons_append, List.cons_append, quotedTail?, if_pos hx, if_pos hx, ih]
      rfl
    · rename_i hx
      have hmore : escapeQuotes content ++ doubleQuote :: after ≠ [] := by simp
      rw [List.cons_append, quotedTail?_cons hx hmore, ih]
      rfl

theorem length_escapeQuotes_pos {content : Bytes} (h : content ≠ []) :
    0 < (escapeQuotes content).length := by
  cases content with
  | nil => exact absurd rfl h
  | cons b rest =>
    rw [escapeQuotes]
    split <;> exact Nat.zero_lt_succ _

/-- A printed component is read back in front of a text where it ends. -/
theorem component?_text (component : Component) {after : Bytes} (hafter : EndsComponent after) :
    component? (component.text ++ after) = some (component.text, after) := by
  cases component with
  | quoted content nonempty =>
    have hlength : ¬ (escapeQuotes content ++ [doubleQuote]).length ≤ 1 := by
      have hpos := length_escapeQuotes_pos nonempty
      rw [List.length_append, List.length_singleton]
      omega
    have htail := quotedTail?_escapeQuotes (fun rest h => (hafter _ rest h).1 rfl) content
    rw [Component.text, List.cons_append, List.append_assoc, List.singleton_append, component?,
      if_pos rfl, htail]
    exact if_neg hlength
  | bare spelling nonempty all_bare =>
    cases spelling with
    | nil => exact absurd rfl nonempty
    | cons x spelling =>
      have hx : isBare x = true := all_bare x List.mem_cons_self
      have hne : x ≠ doubleQuote := by
        rintro rfl
        exact absurd hx (by decide)
      have htake : (x :: spelling ++ after).takeWhile isBare = x :: spelling := by
        rw [List.takeWhile_append_of_pos all_bare, hafter.takeWhile, List.append_nil]
      have hdrop : (x :: spelling ++ after).dropWhile isBare = after := by
        rw [List.dropWhile_append_of_pos all_bare, hafter.dropWhile]
      rw [List.cons_append] at htake hdrop
      rw [Component.text, List.cons_append, component?, if_neg hne, if_pos hx, htake, hdrop]

/-- A printed name is read back in front of a text where it ends. -/
theorem name?_text (name : Name) {after : Bytes} (hafter : EndsName after) :
    name? (name.text ++ after) = some (name.text, after) := by
  obtain ⟨hcomponent, hdot⟩ := hafter
  cases name with
  | plain component =>
    rw [Name.text, name?, component?_text component hcomponent]
    cases after with
    | nil => rfl
    | cons b rest =>
      have hb : b ≠ dot := fun hb => hdot rest (by rw [hb])
      exact if_neg hb
  | qualified qualifier component =>
    have hqualifier := component?_text qualifier
      (endsComponent_cons (b := dot) (by decide) (by decide) (component.text ++ after))
    rw [Name.text, List.append_assoc, List.cons_append, name?, hqualifier]
    dsimp only
    rw [if_pos rfl, component?_text component hcomponent]
    rfl

/-! ## Printing what is read -/

/-- The rest of a quoted component is printed from some content. -/
theorem escapeQuotes_of_quotedTail? {text inside after : Bytes}
    (h : quotedTail? text = some (inside, after)) :
    ∃ content, inside = escapeQuotes content ++ [doubleQuote] := by
  fun_induction quotedTail? text generalizing inside after with
  | case1 => cases h
  | case2 =>
    obtain ⟨rfl, -⟩ := Prod.mk.inj (Option.some.inj h)
    exact ⟨[], rfl⟩
  | case3 => cases h
  | case4 rest ih =>
    obtain ⟨⟨more, _⟩, hmore, heq⟩ := Option.map_eq_some_iff.mp h
    obtain ⟨rfl, -⟩ := Prod.mk.inj heq
    obtain ⟨content, rfl⟩ := ih hmore
    exact ⟨doubleQuote :: content, by rw [escapeQuotes, if_pos rfl]; rfl⟩
  | case5 =>
    obtain ⟨rfl, -⟩ := Prod.mk.inj (Option.some.inj h)
    exact ⟨[], rfl⟩
  | case6 b c rest hb ih =>
    obtain ⟨⟨more, _⟩, hmore, heq⟩ := Option.map_eq_some_iff.mp h
    obtain ⟨rfl, -⟩ := Prod.mk.inj heq
    obtain ⟨content, rfl⟩ := ih hmore
    exact ⟨b :: content, by rw [escapeQuotes, if_neg hb]; rfl⟩

theorem text_of_component? {text lexeme after : Bytes}
    (h : component? text = some (lexeme, after)) :
    ∃ component : Component, lexeme = component.text := by
  unfold component? at h
  split at h
  · cases h
  rename_i b rest
  split at h
  · rename_i hb
    split at h
    · rename_i inside _ hquoted
      split at h
      · cases h
      · rename_i hlength
        obtain ⟨rfl, -⟩ := Prod.mk.inj (Option.some.inj h)
        obtain ⟨content, rfl⟩ := escapeQuotes_of_quotedTail? hquoted
        have hcontent : content ≠ [] := by
          rintro rfl
          exact hlength (Nat.le_refl _)
        exact ⟨.quoted content hcontent, by rw [hb, Component.text]⟩
    · cases h
  · split at h
    · rename_i hbare
      obtain ⟨rfl, -⟩ := Prod.mk.inj (Option.some.inj h)
      have hspelling : (b :: rest).takeWhile isBare ≠ [] := by
        rw [List.takeWhile_cons_of_pos hbare]
        exact List.cons_ne_nil _ _
      exact ⟨.bare _ hspelling fun x hx => List.all_eq_true.mp List.all_takeWhile x hx, rfl⟩
    · cases h

theorem text_of_name? {text lexeme after : Bytes} (h : name? text = some (lexeme, after)) :
    ∃ name : Name, lexeme = name.text := by
  unfold name? at h
  split at h
  · nomatch h
  rename_i first behind hfirst
  obtain ⟨component, rfl⟩ := text_of_component? hfirst
  split at h
  · obtain ⟨rfl, -⟩ := Prod.mk.inj (Option.some.inj h)
    exact ⟨.plain component, rfl⟩
  · split at h
    · rename_i hdot
      obtain ⟨⟨second, _⟩, hsecond, heq⟩ := Option.map_eq_some_iff.mp h
      obtain ⟨rfl, -⟩ := Prod.mk.inj heq
      obtain ⟨component', rfl⟩ := text_of_component? hsecond
      exact ⟨.qualified component component', by rw [Name.text, hdot]⟩
    · obtain ⟨rfl, -⟩ := Prod.mk.inj (Option.some.inj h)
      exact ⟨.plain component, rfl⟩

/-! ## Names behind spaces -/

/-- In the inside of a quoted component, quotes stand in pairs before every other byte. -/
theorem even_count_of_escapeQuotes {content lead rest : Bytes} {b : UInt8} (hb : b ≠ doubleQuote)
    (h : escapeQuotes content = lead ++ b :: rest) : lead.count doubleQuote % 2 = 0 := by
  induction content generalizing lead with
  | nil => cases lead <;> cases h
  | cons x content ih =>
    rw [escapeQuotes] at h
    by_cases hx : x = doubleQuote
    · rw [if_pos hx, hx] at h
      -- a quote is written twice, so both are before the other byte
      match lead with
      | [] => exact absurd (List.cons.inj h).1.symm hb
      | [_] => exact absurd (List.cons.inj (List.cons.inj h).2).1.symm hb
      | _ :: _ :: lead =>
        obtain ⟨rfl, hsecond⟩ := List.cons.inj h
        obtain ⟨rfl, hmore⟩ := List.cons.inj hsecond
        have hpairs := ih hmore
        rw [List.count_cons_self, List.count_cons_self]
        omega
    · rw [if_neg hx] at h
      cases lead with
      | nil => rfl
      | cons y lead =>
        obtain ⟨rfl, hmore⟩ := List.cons.inj h
        rw [List.count_cons_of_ne hx]
        exact ih hmore

theorem even_count_escapeQuotes (content : Bytes) :
    (escapeQuotes content).count doubleQuote % 2 = 0 := by
  induction content with
  | nil => rfl
  | cons x content ih =>
    rw [escapeQuotes]
    split
    · rename_i hx
      rw [hx, List.count_cons_self, List.count_cons_self]
      omega
    · rename_i hx
      rw [List.count_cons_of_ne hx]
      exact ih

theorem Component.even_count_text (component : Component) :
    component.text.count doubleQuote % 2 = 0 := by
  cases component with
  | quoted content _ =>
    have hinside := even_count_escapeQuotes content
    rw [text, List.count_cons_self, List.count_append, List.count_singleton_self]
    omega
  | bare spelling _ all_bare =>
    have hquote : doubleQuote ∉ spelling := fun hmem => absurd (all_bare _ hmem) (by decide)
    rw [text, List.count_eq_zero_of_not_mem hquote]

theorem Name.even_count_text (name : Name) : name.text.count doubleQuote % 2 = 0 := by
  cases name with
  | plain component => exact component.even_count_text
  | qualified qualifier component =>
    have hqualifier := qualifier.even_count_text
    have hcomponent := component.even_count_text
    have hdot : dot ≠ doubleQuote := by decide
    rw [text, List.count_append, List.count_cons_of_ne hdot]
    omega

/-- A space in a component is between its quotes. -/
theorem Component.odd_count_of_space {component : Component} {lead rest : Bytes}
    (h : component.text = lead ++ space :: rest) : lead.count doubleQuote % 2 = 1 := by
  have hspace : space ≠ doubleQuote := by decide
  cases component with
  | quoted content _ =>
    rw [text] at h
    cases lead with
    | nil => exact absurd (List.cons.inj h).1.symm hspace
    | cons y lead =>
      obtain ⟨rfl, hmore⟩ := List.cons.inj h
      have hclosing : space ∉ [doubleQuote] := by decide
      obtain ⟨_, hcontent, -⟩ := eq_append_of_not_mem_right hclosing hmore
      have hinside := even_count_of_escapeQuotes hspace hcontent
      rw [List.count_cons_self]
      omega
  | bare spelling _ all_bare =>
    rw [text] at h
    have hbare := all_bare space (h ▸ List.mem_append_cons_self)
    exact absurd hbare (by decide)

/-- What is in a name and is no dot is in one of its components, and the quotes in front of this
component are paired. -/
theorem Name.exists_component {name : Name} {x : UInt8} (hx : dot ≠ x) {lead rest : Bytes}
    (h : name.text = lead ++ x :: rest) :
    ∃ (component : Component) (before inside behind after : Bytes),
      component.text = inside ++ x :: behind ∧ lead = before ++ inside ∧ rest = behind ++ after ∧
      before.count doubleQuote % 2 = 0 := by
  cases name with
  | plain component =>
    exact ⟨component, [], lead, rest, [], h, rfl, (List.append_nil _).symm, rfl⟩
  | qualified qualifier component =>
    rcases List.append_eq_append_iff.mp h with ⟨mid, rfl, hmid⟩ | ⟨mid, hqualifier, hmid⟩
    · cases mid with
      | nil => exact absurd (List.cons.inj hmid).1 hx
      | cons y mid =>
        obtain ⟨rfl, hcomponent⟩ := List.cons.inj hmid
        refine ⟨component, qualifier.text ++ [dot], mid, rest, [], hcomponent, by simp,
          (List.append_nil _).symm, ?_⟩
        have hqualifier := qualifier.even_count_text
        have hdot : [dot].count doubleQuote = 0 := by decide
        rw [List.count_append, hdot]
        exact hqualifier
    · cases mid with
      | nil => exact absurd (List.cons.inj hmid).1.symm hx
      | cons y mid =>
        obtain ⟨rfl, rfl⟩ := List.cons.inj hmid
        exact ⟨qualifier, [], lead, mid, dot :: component.text, hqualifier, rfl, rfl, rfl⟩

/-- A space in a name is between quotes. -/
theorem Name.odd_count_of_space {name : Name} {lead rest : Bytes}
    (h : name.text = lead ++ space :: rest) : lead.count doubleQuote % 2 = 1 := by
  have hdot : dot ≠ space := by decide
  obtain ⟨_, _, _, _, _, hcomponent, rfl, -, hbefore⟩ := Name.exists_component hdot h
  have hinside := Component.odd_count_of_space hcomponent
  rw [List.count_append]
  omega

/-- A name is not the end of another one behind a space: the quotes of both are paired. -/
theorem Name.text_ne_append_space (name other : Name) (lead : Bytes) :
    name.text ≠ lead ++ space :: other.text := by
  intro h
  have hwhole := name.even_count_text
  have hother := other.even_count_text
  have hlead := Name.odd_count_of_space h
  have hspace : space ≠ doubleQuote := by decide
  rw [h, List.count_append, List.count_cons_of_ne hspace] at hwhole
  omega

theorem Name.text_inj_behind_space {name other : Name} {lead lead' : Bytes}
    (h : lead ++ space :: name.text = lead' ++ space :: other.text) : name.text = other.text := by
  rcases List.append_eq_append_iff.mp h with ⟨mid, -, hmid⟩ | ⟨mid, -, hmid⟩
  · cases mid with
    | nil => exact (List.cons.inj hmid).2
    | cons x mid => exact absurd (List.cons.inj hmid).2 (name.text_ne_append_space other mid)
  · cases mid with
    | nil => exact (List.cons.inj hmid).2.symm
    | cons x mid => exact absurd (List.cons.inj hmid).2 (other.text_ne_append_space name mid)

end MaskedDump.Sql
