import MaskedDump.FileSystem

/-!
# Files that are written

Creating a file and writing to it change what stands at one place. A path that was opened leads to
that place afterwards as well, because no directory on the way to it is the file.

Results:
* `AgreesExcept.put`, `AgreesExcept.writeAt`: what is changed at a place changes nothing elsewhere;
* `create_cases`: a path that was opened leads to an empty file or to a device;
* `find_of_resolve`: a path that leads to a file does so after changes to that file.
-/

namespace MaskedDump

theorem ok_of_bind {ε α β : Type} {x : Except ε α} {next : α → Except ε β} {b : β}
    (h : x >>= next = .ok b) : ∃ a, x = .ok a ∧ next a = .ok b := by
  cases x with
  | error _ => nomatch h
  | ok a => exact ⟨a, rfl, h⟩

namespace FileSystem

variable {fs fs' : FileSystem} {place : Place} {path : Bytes}

/-! ## Changes at one place -/

/-- Whether two file systems hold the same everywhere but at a place. -/
structure AgreesExcept (place : Place) (fs fs' : FileSystem) : Prop where
  links : fs'.links = fs.links
  workPlace : fs'.workPlace = fs.workPlace
  get? : ∀ other, other ≠ place → fs'.get? other = fs.get? other

theorem AgreesExcept.refl (place : Place) (fs : FileSystem) : AgreesExcept place fs fs :=
  ⟨rfl, rfl, fun _ _ => rfl⟩

theorem AgreesExcept.put (h : AgreesExcept place fs fs') (entry : Entry) :
    AgreesExcept place fs (fs'.put place entry) where
  links := h.links
  workPlace := h.workPlace
  get? other hother := by rw [get?_put, if_neg hother, h.get? other hother]

theorem AgreesExcept.writeAt (h : AgreesExcept place fs fs') (offset : Nat) (bs : Bytes) :
    AgreesExcept place fs (fs'.writeAt place offset bs) := by
  unfold FileSystem.writeAt
  split
  · exact h.put _
  · exact h

/-! ## Paths -/

/-- A step of a path that could be made can be made behind changes at a place that is no
directory. -/
theorem AgreesExcept.stepTo (h : AgreesExcept place fs fs')
    (hplace : fs.get? place ≠ some .directory) {start next : Place} {name : Bytes}
    (hstep : fs.stepTo start name = .ok next) : fs'.stepTo start name = .ok next := by
  have hstart : fs.get? start = some .directory := by
    unfold FileSystem.stepTo at hstep
    split at hstep
    · nomatch hstep
    · rename_i hstart
      exact hstart
    · nomatch hstep
  have hne : start ≠ place := fun heq => hplace (heq ▸ hstart)
  unfold FileSystem.stepTo follow at hstep ⊢
  rwa [h.get? start hne, h.links]

/-- So all of them can, by induction over the names. -/
theorem AgreesExcept.foldlM_stepTo (h : AgreesExcept place fs fs')
    (hplace : fs.get? place ≠ some .directory) {names : List Bytes} {start target : Place}
    (hsteps : names.foldlM fs.stepTo start = .ok target) :
    names.foldlM fs'.stepTo start = .ok target := by
  induction names generalizing start with
  | nil => exact hsteps
  | cons name rest ih =>
    rw [List.foldlM_cons] at hsteps ⊢
    obtain ⟨next, hnext, hrest⟩ := ok_of_bind hsteps
    rw [h.stepTo hplace hnext]
    exact ih hrest

theorem AgreesExcept.resolve (h : AgreesExcept place fs fs')
    (hplace : fs.get? place ≠ some .directory) {target : Place}
    (hresolve : fs.resolve path = .ok target) : fs'.resolve path = .ok target := by
  unfold FileSystem.resolve resolveWith at hresolve ⊢
  rw [h.workPlace]
  split at hresolve
  · nomatch hresolve
  rename_i hempty
  split at hresolve
  · nomatch hresolve
  rename_i hlong
  rw [if_neg hempty, if_neg hlong]
  exact h.foldlM_stepTo hplace hresolve

/-- Whoever looks at the path of a file finds the file behind all changes to it. -/
theorem find_of_resolve (h : AgreesExcept place fs fs') (hplace : fs.get? place ≠ some .directory)
    (hresolve : fs.resolve path = .ok place) (hpath : path.getLast? ≠ some separator)
    {content : Bytes} {executable : Bool}
    (hfile : fs'.get? place = some (.file content executable)) :
    fs'.find path = .ok (place, .file content executable) := by
  rw [find, h.resolve hplace hresolve]
  simp only [bind, Except.bind, hfile, hpath, if_false]
  rfl

/-! ## Opening -/

/-- A path leads where its last name leads from the directory in front of it. -/
theorem resolve_of_stepTo {directory target : Place} {name : Bytes}
    (hdirectory : fs.resolveWith List.dropLast path = .ok directory)
    (hname : (names path).getLast? = some name) (hstep : fs.stepTo directory name = .ok target) :
    fs.resolve path = .ok target := by
  obtain ⟨lead, hnames⟩ := List.getLast?_eq_some_iff.mp hname
  unfold resolve resolveWith at *
  split at hdirectory
  · nomatch hdirectory
  rename_i hempty
  split at hdirectory
  · nomatch hdirectory
  rename_i hlong
  rw [hnames, List.dropLast_concat] at hdirectory
  rw [if_neg hempty, if_neg hlong, id, hnames, List.foldlM_append, hdirectory]
  show fs.stepTo directory name >>= _ = _
  rw [hstep]
  rfl

/-- A path that was opened leads to an empty file or to a device. -/
theorem create_cases {outlet : Opened} (h : fs.create path = .ok (outlet, fs')) :
    (∃ place executable, outlet = .file place ∧ fs' = fs.put place (.file [] executable) ∧
        fs.get? place ≠ some .directory ∧ fs.resolve path = .ok place ∧
        path.getLast? ≠ some separator) ∨
      ∃ kind, outlet = .device kind ∧ fs' = fs := by
  unfold create openWith at h
  extract_lets resolved at h
  replace h : resolved () = .ok (outlet, fs') := by
    split at h
    · nomatch h
    · exact h
  obtain ⟨directory, hdirectory, h⟩ := ok_of_bind h
  extract_lets named inside at h
  replace h : inside () = .ok (outlet, fs') := by
    split at h
    · nomatch h
    · exact h
    · nomatch h
  replace h : ∃ name, (names path).getLast? = some name ∧ path.getLast? ≠ some separator ∧
      named name = .ok (outlet, fs') := by
    unfold inside at h
    split at h
    · nomatch h
    · rename_i name hname
      split at h
      · nomatch h
      · rename_i hplain
        exact ⟨name, hname, fun hlast => hplain (.inr (.inr hlast)), h⟩
  obtain ⟨name, hname, hlast, h⟩ := h
  obtain ⟨place, hplace, h⟩ := ok_of_bind h
  have hresolve := resolve_of_stepTo hdirectory hname hplace
  -- What stands at the place decides: a directory and the terminal cannot be opened.
  split at h
  · nomatch h
  · nomatch h
  · cases h
    exact .inr ⟨_, rfl, rfl⟩
  · rename_i content executable hfile
    cases h
    exact .inl ⟨place, executable, rfl, rfl, by rw [hfile]; nofun, hresolve, hlast⟩
  · rename_i hnone
    split at h
    · nomatch h
    · cases h
      exact .inl ⟨place, false, rfl, rfl, by rw [hnone]; nofun, hresolve, hlast⟩

end FileSystem

end MaskedDump
