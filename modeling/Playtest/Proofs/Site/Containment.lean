/-
# What the served directory contains

A location that is a path is served if it lies below the directory that is served.  Both are
paths, and what they mean is the end of their walk (`Path.destination`): the location, seen from
the directory that it was given for, and the served directory, seen from the root.

The location is outside exactly where the one list of names does not begin with the other one;
otherwise the names that are left are what the URL is made from.  Nothing else of the two paths
counts (`toUrl_path`), neither how they are written nor the working directory
(`containment_is_lexical`).
-/
import Playtest.Proofs.Files.Walking
import Playtest.Proofs.Site.Serving

namespace Playtest
namespace Location

open Playtest.Path (IsName destination isAbsolute place walk)

/-! ## 1. Paths -/

/-- The text is a URL, and not the path of a file. -/
def IsUrl [Url.Idna] (text : String) : Prop :=
  match Url.parse text with
  | .ok address => 1 < address.scheme.length
  | .error _ => False

instance [Url.Idna] (text : String) : Decidable (IsUrl text) :=
  match h : Url.parse text with
  | .ok address => decidable_of_iff (1 < address.scheme.length) (by rw [IsUrl, h])
  | .error _ => .isFalse (by rw [IsUrl, h]; exact id)

/-- A text that is no URL is a path, seen from its directory. -/
theorem parse_path [Url.Idna] {text directory : String} (h : ¬IsUrl text) :
    parse text directory = .path (Path.clean (Path.join directory text)) := by
  unfold IsUrl at h
  unfold parse
  cases hp : Url.parse text with
  | ok address =>
    rw [hp] at h
    exact if_neg h
  | error fault => rfl

/-- An absolute path is seen from everywhere as the place where its walk ends. -/
theorem absolute_eq_place {path : String} (h : isAbsolute path = true) (cwd : String) :
    absolute cwd path = .ok (place (walk [] path.toList)) := by
  have given : path ≠ "" := by
    rintro rfl
    cases h
  rw [absolute, if_neg given, Path.absolute, Path.join, if_pos (.inl h), Path.clean_eq_place h]

/-- A place is seen from everywhere as it is. -/
theorem absolute_place {names : List (List Char)} (h : ∀ name ∈ names, IsName name)
    (cwd : String) : absolute cwd (place names) = .ok (place names) := by
  have given : place names ≠ "" := by
    intro he
    have slash := Path.toList_place names
    rw [he] at slash
    cases slash
  rw [absolute, if_neg given, (Path.isClean_place h).absolute_eq]

/-! ## 2. Serving -/

/-- What there is for a place where a directory is served, both given by names: the URL for the
names behind the directory, or that the place is outside. -/
def servedAt [Url.Idna] (server : Url) (root file : List (List Char)) : Except LocationError Url :=
  if root <+: file then
    (server.join (String.ofList (Text.joinWith ['/'] (file.drop root.length)))).mapError .invalidUrl
  else .error (.outsideRoot (place file) (place root))

variable {server : Url} {root file names : List (List Char)}

theorem servedAt_of_outside [Url.Idna] (h : ¬root <+: file) :
    servedAt server root file = .error (.outsideRoot (place file) (place root)) :=
  if_neg h

theorem servedAt_append [Url.Idna] (server : Url) (root names : List (List Char)) :
    servedAt server root (root ++ names) =
      (server.join (String.ofList (Text.joinWith ['/'] names))).mapError .invalidUrl := by
  rw [servedAt, if_pos (List.prefix_append root names), List.drop_left]

/-- Only what is outside is said to be outside. -/
theorem servedAt_outside_iff [Url.Idna] :
    (∃ path top, servedAt server root file = .error (.outsideRoot path top)) ↔
      ¬root <+: file := by
  constructor
  · rintro ⟨path, top, outside⟩ ⟨names, rfl⟩
    rw [servedAt_append] at outside
    cases joined : server.join (String.ofList (Text.joinWith ['/'] names)) <;>
      rw [joined] at outside <;> cases outside
  · intro h
    exact ⟨_, _, servedAt_of_outside h⟩

/-- **What is served depends on where the walks end, and on nothing else.** -/
theorem toUrl_path [Url.Idna] {text directory served : String} (h : ¬IsUrl text)
    (hd : isAbsolute directory = true) (hs : isAbsolute served = true) (server : Url)
    (cwd : String) :
    toUrl server cwd served (parse text directory) =
      servedAt server (walk [] served.toList) (destination directory text) := by
  have file : ∀ name ∈ destination directory text, IsName name :=
    fun name => Path.isName_of_mem_destination
  have top : ∀ name ∈ walk [] served.toList, IsName name :=
    Path.isName_of_mem_walk served.toList fun name hn => nomatch hn
  rw [parse_path h, Path.clean_join hd]
  simp only [toUrl, absolute_place file, absolute_eq_place hs, bind, Except.bind]
  split
  · next none =>
    refine (servedAt_of_outside ?_).symm
    rintro ⟨names, hn⟩
    rw [(Path.below?_place top file).2 ⟨names, hn.symm, rfl⟩] at none
    cases none
  · next steps some =>
    obtain ⟨names, hn, rfl⟩ := (Path.below?_place top file).1 some
    rw [hn, servedAt_append, reference_names]
    cases server.join (String.ofList (Text.joinWith ['/'] names)) <;> rfl

/-! ## 3. Containment -/

/-- **Containment is lexical.**  A location is a path that is given for a directory, and another
directory is served.

* The location is outside exactly if the names on the way to the served directory are not the
  first names on the way to it.
* Otherwise the names that are left make the reference for its URL, and each of them is a name:
  no point, no two points, and not empty.
* Everything else that leads to the same two places has the same answer. -/
theorem containment_is_lexical [Url.Idna] {text directory served : String} (h : ¬IsUrl text)
    (hd : isAbsolute directory = true) (hs : isAbsolute served = true) (server : Url)
    (cwd : String) :
    let file := destination directory text
    let root := destination "/" served
    let answer := toUrl server cwd served (parse text directory)
    ((∃ path top, answer = .error (.outsideRoot path top)) ↔ ¬root <+: file) ∧
    (¬root <+: file → answer = .error (.outsideRoot (place file) (place root))) ∧
    (∀ names, file = root ++ names →
      (∀ name ∈ names, IsName name) ∧
      answer =
        (server.join (String.ofList (Text.joinWith ['/'] names))).mapError .invalidUrl) ∧
    ∀ text' directory' served' cwd', ¬IsUrl text' → isAbsolute directory' = true →
      isAbsolute served' = true → destination directory' text' = file →
      destination "/" served' = root →
      toUrl server cwd' served' (parse text' directory') = answer := by
  have start {path : String} (hp : isAbsolute path = true) :
      destination "/" path = walk [] path.toList := by
    rw [destination, if_pos hp]
  intro file root answer
  have served_eq : answer = servedAt server root file := by
    rw [show root = walk [] served.toList from start hs]
    exact toUrl_path h hd hs server cwd
  refine ⟨?_, ?_, ?_, ?_⟩
  · rw [served_eq]
    exact servedAt_outside_iff
  · intro outside
    rw [served_eq]
    exact servedAt_of_outside outside
  · intro names hn
    refine ⟨fun name hm => ?_, ?_⟩
    · have member : name ∈ file := by
        rw [hn]
        exact List.mem_append_right root hm
      exact Path.isName_of_mem_destination member
    · rw [served_eq, hn]
      exact servedAt_append server root names
  · intro text' directory' served' cwd' h' hd' hs' sameFile sameRoot
    rw [toUrl_path h' hd' hs', sameFile, ← start hs', sameRoot]
    exact served_eq.symm

/-- Two points lead out of the tests and into the served directory, whose own path has detours. -/
theorem containment_of_detours :
    ¬IsUrl "../../work2/.././work//games/zork.ulx" ∧ isAbsolute "/work/tests/" = true ∧
      isAbsolute "/../work2/../work/" = true ∧
      toUrl (serverUrl 8090) "/elsewhere" "/../work2/../work/"
          (parse "../../work2/.././work//games/zork.ulx" "/work/tests/") =
        ((serverUrl 8090).join "games/zork.ulx").mapError .invalidUrl := by
  have named : ¬IsUrl "../../work2/.././work//games/zork.ulx" := by decide +kernel
  have tests : isAbsolute "/work/tests/" = true := by decide
  have work : isAbsolute "/../work2/../work/" = true := by decide
  have contained := containment_is_lexical named tests work (serverUrl 8090) "/elsewhere"
  exact ⟨named, tests, work,
    (contained.2.2.1 ["games".toList, "zork.ulx".toList] (by decide +kernel)).2⟩

/-- A directory does not contain what stands beside it under a longer name. -/
example :
    toUrl (serverUrl 8090) "/" "/work" (parse "../work2/zork.ulx" "/work") =
      .error (.outsideRoot "/work2/zork.ulx" "/work") := by
  decide +kernel

end Location
end Playtest
