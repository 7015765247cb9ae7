/-
# Clean paths

An absolute path is cleaned to a slash and names with slashes between them, where no name is a
point or two points.  So a clean absolute path is the same thing as a list of names
(`Path.place`), to which the questions about paths come down: cleaning it again changes nothing,
and it is below another one if its list of names begins with the other.
-/
import Mathlib.Data.List.Basic
import Playtest.Files.Path

namespace Playtest

namespace Path

/-! ## 1. Names -/

/-- A part between slashes that names something. -/
structure IsName (text : List Char) : Prop where
  nonempty : text ≠ []
  noSlash : '/' ∉ text
  notCurrent : text ≠ ['.']
  notParent : text ≠ ['.', '.']

theorem component?_of_isName {text : List Char} (h : IsName text) :
    component? text = some (.name text) := by
  rw [component?, if_neg (not_or.2 ⟨h.nonempty, h.notCurrent⟩), if_neg h.notParent]

/-- A step that a part stands for goes up, or to a name. -/
theorem of_component?_eq_some {part : List Char} {step : Component} (hs : '/' ∉ part)
    (h : component? part = some step) :
    step = .parent ∨ ∃ text, step = .name text ∧ IsName text := by
  unfold component? at h
  split at h
  · cases h
  · next hc =>
    obtain ⟨nonempty, notCurrent⟩ := not_or.1 hc
    split at h
    · exact .inl (Option.some.inj h).symm
    · next notParent =>
      exact .inr ⟨part, (Option.some.inj h).symm, nonempty, hs, notCurrent, notParent⟩

/-! ## 2. Absolute clean paths -/

/-- The absolute path with these names. -/
def place (names : List (List Char)) : String :=
  String.ofList (ofComponents (.root :: names.map .name))

theorem toList_place (names : List (List Char)) :
    (place names).toList = '/' :: Text.joinWith ['/'] names := by
  have texts : (names.map Component.name).map Component.text = names := by
    rw [List.map_map]
    exact List.map_id names
  rw [place, String.toList_ofList, ofComponents, texts]

theorem isAbsolute_place (names : List (List Char)) : isAbsolute (place names) = true := by
  rw [isAbsolute, toList_place]
  rfl

variable {names : List (List Char)}

/-- The steps of such a path are its names. -/
theorem components_place (h : ∀ name ∈ names, IsName name) :
    components (place names).toList = .root :: names.map .name := by
  have steps : (Text.splitAt '/' (Text.joinWith ['/'] names)).filterMap component? =
      names.map .name := by
    rcases names with _ | ⟨name, names⟩
    · rfl
    · rw [Text.splitAt_joinWith (List.cons_ne_nil _ _) fun part hp => (h part hp).noSlash]
      exact List.filterMap_eq_map_iff_forall_eq_some.2 fun part hp =>
        component?_of_isName (h part hp)
  simp only [components, toList_place, List.head?_cons, if_true, Text.splitAt_sep,
    List.filterMap_cons, List.singleton_append]
  rw [steps]
  rfl

/-- Steps to names are all kept. -/
theorem foldl_cleanStep_names (names : List (List Char)) (steps : List Component) :
    (names.map Component.name).foldl cleanStep steps =
      (names.map Component.name).reverse ++ steps := by
  induction names generalizing steps with
  | nil => rfl
  | cons name names ih =>
    rw [List.map_cons, List.foldl_cons, ih, List.reverse_cons, List.append_assoc]
    rfl

theorem cleanComponents_names (names : List (List Char)) :
    cleanComponents (.root :: names.map .name) = .root :: names.map .name := by
  rw [cleanComponents, List.foldl_cons, foldl_cleanStep_names]
  simp [cleanStep]

theorem clean_place (h : ∀ name ∈ names, IsName name) : clean (place names) = place names := by
  rw [clean, components_place h, cleanComponents_names]
  rfl

/-! ## 3. Cleaning -/

/-- Steps taken from the root, given last first: the names on the way there. -/
def Stacked (steps : List Component) : Prop :=
  ∃ names : List (List Char), (∀ name ∈ names, IsName name) ∧
    steps = names.map .name ++ [.root]

/-- One more step ends at a place again: two points do not lead out of the root. -/
theorem Stacked.cleanStep {steps : List Component} {next : Component} (h : Stacked steps)
    (hn : next = .parent ∨ ∃ text, next = .name text ∧ IsName text) :
    Stacked (cleanStep steps next) := by
  obtain ⟨names, proper, rfl⟩ := h
  rcases hn with rfl | ⟨text, rfl, name⟩
  · rcases names with _ | ⟨last, names⟩
    · exact ⟨[], proper, rfl⟩
    · exact ⟨names, fun n hm => proper n (List.mem_cons_of_mem _ hm), rfl⟩
  · refine ⟨text :: names, fun n hm => ?_, rfl⟩
    rcases List.mem_cons.1 hm with rfl | hm
    · exact name
    · exact proper n hm

theorem Stacked.foldl {steps : List Component} (h : Stacked steps) (more : List Component)
    (hm : ∀ next ∈ more, next = .parent ∨ ∃ text, next = .name text ∧ IsName text) :
    Stacked (more.foldl Path.cleanStep steps) := by
  induction more generalizing steps with
  | nil => exact h
  | cons next more ih =>
    exact ih (h.cleanStep (hm next List.mem_cons_self))
      fun n hn => hm n (List.mem_cons_of_mem _ hn)

/-- **An absolute path is cleaned to a list of names.** -/
theorem clean_of_isAbsolute {path : String} (h : isAbsolute path = true) :
    ∃ names : List (List Char), (∀ name ∈ names, IsName name) ∧ clean path = place names := by
  have slash : path.toList.head? = some '/' := by simpa [isAbsolute] using h
  have steps : components path.toList =
      .root :: (Text.splitAt '/' path.toList).filterMap component? := by
    simp only [components]
    rw [if_pos slash]
    rfl
  have root : Stacked (Path.cleanStep [] .root) := ⟨[], by simp, rfl⟩
  have more : ∀ next ∈ (Text.splitAt '/' path.toList).filterMap component?,
      next = .parent ∨ ∃ text, next = .name text ∧ IsName text := by
    intro next hn
    obtain ⟨part, hp, hc⟩ := List.mem_filterMap.1 hn
    exact of_component?_eq_some (Text.not_mem_of_mem_splitAt hp) hc
  obtain ⟨names, proper, stack⟩ := root.foldl _ more
  refine ⟨names.reverse, fun n hn => proper n (List.mem_reverse.1 hn), ?_⟩
  rw [clean, steps, cleanComponents, List.foldl_cons, stack]
  simp [place]

/-- A path that is absolute and clean. -/
structure IsClean (path : String) : Prop where
  absolute : isAbsolute path = true
  clean : clean path = path

instance (path : String) : Decidable (IsClean path) :=
  decidable_of_iff (isAbsolute path = true ∧ Path.clean path = path)
    ⟨fun ⟨h₁, h₂⟩ => ⟨h₁, h₂⟩, fun ⟨h₁, h₂⟩ => ⟨h₁, h₂⟩⟩

theorem isClean_place (h : ∀ name ∈ names, IsName name) : IsClean (place names) :=
  ⟨isAbsolute_place names, clean_place h⟩

/-- **The clean absolute paths are the lists of names.** -/
theorem IsClean.exists_place {path : String} (h : IsClean path) :
    ∃ names : List (List Char), (∀ name ∈ names, IsName name) ∧ path = place names := by
  obtain ⟨names, proper, he⟩ := clean_of_isAbsolute h.absolute
  exact ⟨names, proper, h.clean.symm.trans he⟩

/-- Clean paths with the same steps are the same. -/
theorem IsClean.eq_of_components {p q : String} (hp : IsClean p) (hq : IsClean q)
    (same : components p.toList = components q.toList) : p = q := by
  rw [← hp.clean, ← hq.clean, Path.clean, Path.clean, same]

/-- A clean absolute path is seen as it is from everywhere. -/
theorem IsClean.absolute_eq {path : String} (h : IsClean path) (cwd : String) :
    Path.absolute cwd path = path := by
  rw [Path.absolute, join, if_pos (.inl h.absolute), h.clean]

/-! ## 4. Places below others -/

theorem below?_go_eq_some_iff {root path steps : List Component} :
    below?.go root path = some steps ↔ path = root ++ steps := by
  induction root generalizing path with
  | nil => simp [below?.go, eq_comm]
  | cons a root ih =>
    rcases path with _ | ⟨b, path⟩
    · simp [below?.go]
    · by_cases h : a = b
      · simp [below?.go, h, ih]
      · have hb : ¬b = a := fun e => h e.symm
        simp [below?.go, h, hb]

/-- **One place is below another** if its names go on where the others end. -/
theorem below?_place {root path : List (List Char)} {steps : List Component}
    (hr : ∀ name ∈ root, IsName name) (hp : ∀ name ∈ path, IsName name) :
    below? (place root) (place path) = some steps ↔
      ∃ names, path = root ++ names ∧ steps = names.map .name := by
  rw [below?, components_place hr, components_place hp, below?_go_eq_some_iff, List.cons_append,
    List.cons_inj_right]
  constructor
  · intro h
    obtain ⟨front, names, rfl, hf, hs⟩ := List.map_eq_append_iff.1 h
    have same : front = root := List.map_injective_iff.2 (fun _ _ e => Component.name.inj e) hf
    exact ⟨names, by rw [same], hs.symm⟩
  · rintro ⟨names, rfl, rfl⟩
    rw [List.map_append]

end Path
end Playtest
