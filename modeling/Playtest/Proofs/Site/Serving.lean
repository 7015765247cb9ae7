/-
# The addresses of served files

The address of a file below the served directory is read as a reference: the names on the way to
it, with slashes between them, seen from the server.  An address names the file if it is on the
server, has no query and no fragment, and its path decodes to these names (`Names`).

The address of a file names the file exactly where every character of the reference stands for
itself (`Url.IsPlain`), and no two such files have the same address (`toUrl_names_file`).

A name may hold other characters.  A question mark begins a query, a tab is left out, and a
colon in the first name may end a scheme; then the address is not that of the file
(`toUrl_leads_astray`).
-/
import Playtest.Proofs.Site.Server
import Playtest.Proofs.Url.Plain

namespace Playtest
namespace Location

open Playtest.Path (IsClean IsName)

/-! ## 1. Places below a directory -/

theorem reference_names (names : List (List Char)) :
    reference (names.map .name) = String.ofList (Text.joinWith ['/'] names) := by
  rw [reference, List.filterMap_map]
  exact congrArg (fun parts => String.ofList (Text.joinWith ['/'] parts)) List.filterMap_some

/-- A clean path strictly below a clean directory, and the steps from there. -/
structure IsBelow (root path : String) (steps : List Path.Component) : Prop where
  cleanRoot : IsClean root
  cleanPath : IsClean path
  below : Path.below? root path = some steps
  strict : steps ≠ []

instance (root path : String) (steps : List Path.Component) :
    Decidable (IsBelow root path steps) :=
  decidable_of_iff
    (IsClean root ∧ IsClean path ∧ Path.below? root path = some steps ∧ steps ≠ [])
    ⟨fun ⟨h₁, h₂, h₃, h₄⟩ => ⟨h₁, h₂, h₃, h₄⟩, fun ⟨h₁, h₂, h₃, h₄⟩ => ⟨h₁, h₂, h₃, h₄⟩⟩

variable {root path : String} {steps : List Path.Component}

/-- The steps to a place below a directory are names. -/
theorem IsBelow.exists_names (h : IsBelow root path steps) :
    ∃ names : List (List Char), (∀ name ∈ names, IsName name) ∧ names ≠ [] ∧
      steps = names.map .name := by
  obtain ⟨front, properFront, rfl⟩ := h.cleanRoot.exists_place
  obtain ⟨all, proper, rfl⟩ := h.cleanPath.exists_place
  obtain ⟨names, rfl, rfl⟩ := (Path.below?_place properFront proper).1 h.below
  refine ⟨names, fun n hn => proper n (List.mem_append_right _ hn), ?_, rfl⟩
  rintro rfl
  exact h.strict rfl

/-- Places to which the same names lead are the same. -/
theorem IsBelow.eq_of_reference {path' : String} {steps' : List Path.Component}
    (h : IsBelow root path steps) (h' : IsBelow root path' steps')
    (same : reference steps' = reference steps) : path' = path := by
  obtain ⟨names, proper, hne, hs⟩ := h.exists_names
  obtain ⟨names', proper', hne', hs'⟩ := h'.exists_names
  have joined : Text.joinWith ['/'] names' = Text.joinWith ['/'] names := by
    rw [hs, hs', reference_names, reference_names] at same
    exact String.ofList_injective same
  have equal : names' = names := by
    rw [← Text.splitAt_joinWith hne' fun n hn => (proper' n hn).noSlash, joined,
      Text.splitAt_joinWith hne fun n hn => (proper n hn).noSlash]
  refine h'.cleanPath.eq_of_components h.cleanPath ?_
  rw [Path.below?_go_eq_some_iff.1 h'.below, Path.below?_go_eq_some_iff.1 h.below, hs, hs', equal]

/-! ## 2. Addresses -/

/-- The URL is on the server, it has no query and no fragment, and its path decodes to the names
on the way to a place. -/
structure Names (server : Url) (steps : List Path.Component) (url : Url) : Prop where
  scheme : url.scheme = server.scheme
  authority : url.authority? = server.authority?
  query : url.query? = none
  fragment : url.fragment? = none
  decoded : Url.decode? url.pathText = some ("/" ++ reference steps)

theorem kind_serverUrl (port : Nat) : (serverUrl port).kind = .machine :=
  (by decide : Url.SchemeKind.ofScheme "http" = .machine)

/-- The address of a file is where the reference leads, seen from the server. -/
theorem toUrl_eq_ok_iff [Url.Idna] (h : IsBelow root path steps) {server url : Url} {cwd : String} :
    toUrl server cwd root (.path path) = .ok url ↔ server.join (reference steps) = .ok url := by
  have place {p : String} (hp : IsClean p) : absolute cwd p = .ok p := by
    have nonempty : p ≠ "" := by
      rintro rfl
      cases hp.absolute
    rw [absolute, if_neg nonempty, hp.absolute_eq]
  simp only [toUrl, place h.cleanPath, place h.cleanRoot, bind, Except.bind, h.below]
  cases server.join (reference steps) with
  | ok address =>
    constructor
    · rintro ⟨⟩
      rfl
    · rintro ⟨⟩
      rfl
  | error e =>
    constructor
    · rintro ⟨⟩
    · rintro ⟨⟩

/-- The reference to a place, and a slash before it, as texts. -/
theorem slash_reference (steps : List Path.Component) :
    "/" ++ reference steps = String.ofList ('/' :: (reference steps).toList) := by
  rw [String.ofList_cons, String.ofList_toList]
  rfl

/-- A plain reference leads to an address that names the file. -/
theorem exists_names_of_isPlain [Url.Idna] (h : IsBelow root path steps)
    (plain : Url.IsPlain (reference steps).toList) (port : Nat) :
    ∃ url, (serverUrl port).join (reference steps) = .ok url ∧
      Names (serverUrl port) steps url := by
  obtain ⟨names, proper, hne, rfl⟩ := h.exists_names
  rw [reference_names, String.toList_ofList] at plain
  have joined := Url.join_of_isPlain hne proper plain (kind_serverUrl port) rfl
  rw [← reference_names] at joined
  refine ⟨_, joined, rfl, rfl, rfl, rfl, ?_⟩
  calc
    Url.decode? ('/' :: Url.encode Url.isPathEncoded (Text.joinWith ['/'] names)) =
        Url.decode? ('/' :: Text.joinWith ['/'] names) := by
      rw [← Url.encode_kept (by decide), Url.decode?, Url.decodeBytes_encode_path, Url.decode?]
    _ = some (String.ofList ('/' :: Text.joinWith ['/'] names)) := Url.decode?_of_plain plain.noPair
    _ = some ("/" ++ reference (names.map .name)) := by
      rw [slash_reference, reference_names, String.toList_ofList]

/-- **The address of a file names the file exactly where the reference to it is plain**, and no
two such files have the same address.  The server has the address that its text is read as. -/
theorem toUrl_names_file [Url.Idna] (h : IsBelow root path steps) (port : Nat) (cwd : String) :
    (port ≤ 65535 →
      Url.parse ("http://127.0.0.1:" ++ toString port ++ "/") = .ok (serverUrl port)) ∧
    ((∃ url, toUrl (serverUrl port) cwd root (.path path) = .ok url ∧
        Names (serverUrl port) steps url) ↔
      Url.IsPlain (reference steps).toList) ∧
    ∀ path' steps', IsBelow root path' steps' → Url.IsPlain (reference steps).toList →
      Url.IsPlain (reference steps').toList →
      toUrl (serverUrl port) cwd root (.path path') =
        toUrl (serverUrl port) cwd root (.path path) → path' = path := by
  refine ⟨parse_serverText, ⟨?_, fun plain => ?_⟩,
    fun path' steps' h' plain plain' same => ?_⟩
  · rintro ⟨url, address, names⟩
    have joined := (toUrl_eq_ok_iff h).1 address
    rw [← String.ofList_toList (s := reference steps)] at joined
    have decoded := names.decoded
    rw [slash_reference] at decoded
    exact Url.isPlain_of_join (kind_serverUrl port) rfl joined names.scheme decoded
  · obtain ⟨url, joined, names⟩ := exists_names_of_isPlain h plain port
    exact ⟨url, (toUrl_eq_ok_iff h).2 joined, names⟩
  · obtain ⟨url, joined, names⟩ := exists_names_of_isPlain h plain port
    obtain ⟨url', joined', names'⟩ := exists_names_of_isPlain h' plain' port
    rw [(toUrl_eq_ok_iff h).2 joined, (toUrl_eq_ok_iff h').2 joined'] at same
    cases same
    have decoded := names'.decoded
    rw [names.decoded] at decoded
    exact h.eq_of_reference h' ((String.append_right_inj _).1 (Option.some.inj decoded)).symm

/-- The address of a story file, and that of the server. -/
theorem toUrl_names_story :
    Url.parse ("http://127.0.0.1:" ++ toString 8090 ++ "/") = .ok (serverUrl 8090) ∧
    IsBelow "/work" "/work/stories/my game.ulx"
        [.name "stories".toList, .name "my game.ulx".toList] ∧
      ∃ url, toUrl (serverUrl 8090) "/" "/work" (.path "/work/stories/my game.ulx") = .ok url ∧
        Url.decode? url.pathText = some "/stories/my game.ulx" := by
  have below : IsBelow "/work" "/work/stories/my game.ulx"
      [.name "stories".toList, .name "my game.ulx".toList] := by
    decide +kernel
  have plain : Url.IsPlain
      (reference [.name "stories".toList, .name "my game.ulx".toList]).toList := by
    decide +kernel
  obtain ⟨server, named, -⟩ := toUrl_names_file below 8090 "/"
  obtain ⟨url, address, names⟩ := named.2 plain
  exact ⟨server (by decide), below, url, address, names.decoded⟩

/-! ## 3. Names that are read otherwise -/

/-- **An address may lead astray.**  A question mark in a name begins a query, a first name that
looks like a scheme leads to another host, and a tab is left out, so that two files have the same
address. -/
theorem toUrl_leads_astray :
    (IsClean "/work" ∧ IsClean "/work/a?b" ∧
      Path.below? "/work" "/work/a?b" = some [.name "a?b".toList] ∧
      toUrl (serverUrl 8090) "/" "/work" (.path "/work/a?b") =
        .ok { serverUrl 8090 with place := .path "/a".toList, query? := some ['b'] }) ∧
    (IsClean "/work/https:/elsewhere/page" ∧
      toUrl (serverUrl 8090) "/" "/work" (.path "/work/https:/elsewhere/page") =
        .ok { scheme := "https", authority? := some { host := .domain "elsewhere".toList },
              place := .path "/page".toList }) ∧
    (IsClean "/work/a\tb" ∧ IsClean "/work/ab" ∧
      toUrl (serverUrl 8090) "/" "/work" (.path "/work/a\tb") =
        toUrl (serverUrl 8090) "/" "/work" (.path "/work/ab")) := by
  decide +kernel

end Location
end Playtest
