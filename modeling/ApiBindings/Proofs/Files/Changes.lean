import ApiBindings.Files.Tree
import Mathlib.Data.List.Basic

/-!
What the two kinds of changes do to a tree. Creating directories adds those that
are missing along a path and touches nothing that is there; writing a file
touches the place of that file.
-/

namespace ApiBindings.FileTree

def LeadsBy (t : FileTree) (first : List String) (names : List String)
    (place : List String) : Prop :=
  ∃ some_names, some_names <+: names ∧
    some_names.foldlM t.step? first = some place

def Passes (t : FileTree) (path : String) (place : List String) : Prop :=
  t.LeadsBy (t.start path) ((Path.names path).map String.ofList) place

/-- Nothing is there before; afterwards there is a directory. -/
structure Created (before after : FileTree) (place : List String) : Prop where
  missing : before.node? place = none
  made : after.node? place = some .directory

/-- The file at the end of a path gets a text. All else that happens is that
directories above it are created which were missing. -/
structure WritesOnly (before after : FileTree) (path text : String) : Prop where
  home : after.home = before.home
  written : ∃ place, after.locate? path = some place ∧
    before.node? place ≠ some .directory ∧
    after.node? place = some (.file text) ∧
    ∀ other, other ≠ place → after.node? other ≠ before.node? other →
      Created before after other ∧ after.Passes (Path.parent path) other

variable {t after : FileTree} {place next : List String} {name : String}

theorem ne_nil_of_not_directory (other : t.node? place ≠ some .directory) :
    place ≠ [] := by
  rintro rfl
  exact other rfl

theorem start_of_home (same : after.home = t.home) (path : String) :
    after.start path = t.start path := by
  rw [start, start, same]

theorem step?_of_kept
    (kept : t.node? place = some .directory →
      after.node? place = some .directory)
    (step : t.step? place name = some next) :
    after.step? place name = some next := by
  unfold step? at step ⊢
  split at step
  next => cases step
  next there =>
    rw [if_neg (not_not.mpr (kept (not_not.mp there)))]
    exact step

theorem home_createAlong (t : FileTree) (place names : List String) :
    (t.createAlong place names).2.home = t.home := by
  fun_induction createAlong t place names with
  | case1 => rfl
  | case2 => rfl
  | case3 _ _ _ _ _ _ _ induction => exact induction
  | case4 => rfl
  | case5 _ _ _ _ _ _ _ induction => exact induction

/-- No node goes away or changes. -/
theorem node?_createAlong {node : FileNode} {other : List String}
    (there : t.node? other = some node) (place names : List String) :
    (t.createAlong place names).2.node? other = some node := by
  fun_induction createAlong t place names with
  | case1 => exact there
  | case2 => exact there
  | case3 _ _ _ _ _ _ _ induction => exact induction there
  | case4 => exact there
  | case5 t place name names next step missing induction =>
      have apart : next ≠ other := by
        rintro rfl
        rw [there] at missing
        cases missing
      have below : next ≠ [] := by
        refine ne_nil_of_not_directory (t := t) ?_
        rw [missing]
        nofun
      refine induction ?_
      rw [node?_put below, if_neg apart, there]

theorem LeadsBy.cons {first names : List String}
    (step : t.step? first name = some next) (leads : t.LeadsBy next names place) :
    t.LeadsBy first (name :: names) place := by
  obtain ⟨passed, beginning, led⟩ := leads
  refine ⟨name :: passed, List.cons_prefix_cons.mpr ⟨rfl, beginning⟩, ?_⟩
  rw [List.foldlM_cons, step]
  exact led

/-- All that changes along the names is that missing directories are created. -/
theorem created_createAlong {other : List String} (t : FileTree)
    (place names : List String)
    (changed : (t.createAlong place names).2.node? other ≠ t.node? other) :
    Created t (t.createAlong place names).2 other ∧
      (t.createAlong place names).2.LeadsBy place names other := by
  fun_induction createAlong t place names with
  | case1 => exact absurd rfl changed
  | case2 => exact absurd rfl changed
  | case3 t place name names next step there induction =>
      obtain ⟨created, leads⟩ := induction changed
      have kept := step?_of_kept
        (fun there => node?_createAlong there next names) step
      exact ⟨created, leads.cons kept⟩
  | case4 => exact absurd rfl changed
  | case5 t place name names next step missing induction =>
      have put (p : List String) : (t.put next .directory).node? p =
          if next = p then some .directory else t.node? p := by
        refine node?_put (ne_nil_of_not_directory (t := t) ?_)
        rw [missing]
        nofun
      have kept := step?_of_kept (fun there =>
        node?_createAlong (show (t.put next .directory).node? place =
          some .directory by rw [put, there, ite_self]) next names) step
      by_cases same : next = other
      · subst same
        have made : (t.put next .directory).node? next = some .directory := by
          rw [put, if_pos rfl]
        refine ⟨⟨missing, node?_createAlong made next names⟩, [name],
          List.cons_prefix_cons.mpr ⟨rfl, List.nil_prefix⟩, ?_⟩
        rw [List.foldlM_cons, kept]
        rfl
      · have before : (t.put next .directory).node? other = t.node? other := by
          rw [put, if_neg same]
        rw [← before] at changed
        obtain ⟨⟨absent, made⟩, leads⟩ := induction changed
        exact ⟨⟨before ▸ absent, made⟩, leads.cons kept⟩

theorem created_createDirectories {path : String} {other : List String}
    (changed : (t.createDirectories path).2.node? other ≠ t.node? other) :
    Created t (t.createDirectories path).2 other ∧
      (t.createDirectories path).2.Passes path other := by
  unfold createDirectories names? at changed ⊢
  split at changed
  next => exact absurd rfl changed
  next names named =>
    split at named
    next => cases named
    next =>
      cases named
      obtain ⟨created, leads⟩ := created_createAlong t _ _ changed
      refine ⟨created, ?_⟩
      rw [Passes, start_of_home (home_createAlong t _ _)]
      exact leads

theorem home_createDirectories (t : FileTree) (path : String) :
    (t.createDirectories path).2.home = t.home := by
  unfold createDirectories
  split
  · rfl
  · exact home_createAlong t _ _

/-! Writing a file where no directory is leaves all ways as they are. -/
section Writing

variable {text : String}

theorem step?_put (other : t.node? place ≠ some .directory) :
    (t.put place (.file text)).step? = t.step? := by
  funext first name
  have same : (t.put place (.file text)).node? first = some .directory ↔
      t.node? first = some .directory := by
    rw [node?_put (ne_nil_of_not_directory other)]
    by_cases here : place = first
    · subst here
      simp [other]
    · rw [if_neg here]
  unfold step?
  simp only [ne_eq, same]

theorem passes_put (other : t.node? place ≠ some .directory) {path : String} :
    (t.put place (.file text)).Passes path next ↔ t.Passes path next := by
  unfold Passes LeadsBy
  rw [step?_put other]
  rfl

theorem locate?_put (other : t.node? place ≠ some .directory) (path : String) :
    (t.put place (.file text)).locate? path = t.locate? path := by
  unfold locate?
  rw [step?_put other]
  rfl

theorem write_of_free {path : String} (located : t.locate? path = some place)
    (free : t.node? place ≠ some .directory) :
    t.write path text = (true, t.put place (.file text)) := by
  simp [write, write?, located, free]

theorem eq_put_of_write {path : String} (done : (t.write path text).1 = true) :
    ∃ place, t.locate? path = some place ∧ t.node? place ≠ some .directory ∧
      (t.write path text).2 = t.put place (.file text) := by
  unfold write write? at done ⊢
  cases located : t.locate? path with
  | none => simp [located] at done
  | some place =>
      by_cases there : t.node? place = some .directory
      · simp [located, there] at done
      · exact ⟨place, rfl, there, by simp [there]⟩

end Writing

/-- A file is written into a tree to which only missing directories above the
file have been added. -/
theorem writesOnly_of_write {before : FileTree} {path text : String}
    (home : t.home = before.home)
    (added : ∀ other, t.node? other ≠ before.node? other →
      Created before t other ∧ t.Passes (Path.parent path) other)
    (done : (t.write path text).1 = true) :
    WritesOnly before (t.write path text).2 path text := by
  obtain ⟨place, located, free, written⟩ := eq_put_of_write done
  have below := ne_nil_of_not_directory free
  rw [written]
  refine ⟨home, place, ?_, ?_, ?_, ?_⟩
  · rw [locate?_put free, located]
  · intro there
    by_cases same : t.node? place = before.node? place
    · exact free (same.trans there)
    · rw [(added place same).1.missing] at there
      cases there
  · rw [node?_put below, if_pos rfl]
  · intro other apart changed
    rw [node?_put below, if_neg (Ne.symm apart)] at changed
    obtain ⟨⟨missing, made⟩, passes⟩ := added other changed
    refine ⟨⟨missing, ?_⟩, (passes_put free).mpr passes⟩
    rw [node?_put below, if_neg (Ne.symm apart), made]

end ApiBindings.FileTree
