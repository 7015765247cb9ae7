/-
# Scripts of commands

The driver hands a command to the page by evaluating a script, and the payload of the command
stands inside of it.  Whatever the payload is, it stays inside (`script_holds_one_object`): the
script is one fixed text, a JSON object, and another fixed text; the object ends where it seems to
end; and read again it is the command.  So two inputs have the same script only if they are the
same.
-/
import Playtest.Bridge.Command
import Playtest.Proofs.Bridge.Keys
import Playtest.Proofs.Json.Compact

namespace Playtest

/-! ## 1. The objects of commands -/

namespace Command

/-- The key that goes with an input. -/
def keyOf? (input : Input) : Option Keystroke :=
  match input.kind with
  | .line => some Keystroke.returnKey
  | .char => some (Keystroke.ofPayload input.payload)
  | .filerefPrompt => none

/-- The members of the object for an input. -/
def members (input : Input) : List (String × Json.Value) :=
  [("type", .string input.kind.name), ("value", .string input.payload)] ++
    (keyOf? input).toList.map fun key => ("key", keyJson key)

theorem json_ofInput (input : Input) : (ofInput input).json = .object (members input) := by
  obtain ⟨kind, payload⟩ := input
  cases kind <;> rfl

theorem which_keyOf {input : Input} {key : Keystroke} (h : keyOf? input = some key) :
    key.which ≤ 0x10FFFF := by
  obtain ⟨kind, payload⟩ := input
  cases kind
  · cases h
    decide
  · cases h
    exact Keystroke.which_ofPayload payload
  · cases h

/-- A keystroke can be read again. -/
theorem fits_keyJson {key : Keystroke} (h : key.which ≤ Json.maxWord) (room : Nat) :
    (keyJson key).Fits (room + 1) := by
  refine .object fun p hp => ?_
  simp only [List.mem_cons, List.not_mem_nil, or_false] at hp
  rcases hp with rfl | rfl
  · exact .string _
  · exact .integer ⟨by omega, by exact_mod_cast h⟩

/-- A command can be read again. -/
theorem fits_ofInput (input : Input) : (ofInput input).json.Fits Json.maxDepth := by
  rw [json_ofInput]
  refine .object fun p hp => ?_
  simp only [members, List.mem_append, List.mem_cons, List.not_mem_nil, or_false, List.mem_map,
    Option.mem_toList] at hp
  rcases hp with (rfl | rfl) | ⟨key, hk, rfl⟩
  · exact .string _
  · exact .string _
  · exact fits_keyJson (Nat.le_trans (which_keyOf hk) (by decide)) _

/-! ## 2. Scripts -/

theorem scriptHead_eq :
    scriptHead = "typeof window.regtest_event === 'function' && (window.regtest_event(" := by
  decide +kernel

/-- Two scripts are the same only if their objects are. -/
theorem compact_of_script_eq {a b : Command} (h : a.script = b.script) :
    a.json.compact = b.json.compact := by
  have lists := congrArg String.toList h
  simp only [script, String.toList_append] at lists
  exact String.toList_inj.1 (List.append_cancel_left (List.append_cancel_right lists))

/-- An object that ends in its own sign ends nowhere before. -/
theorem not_isObject_of_front {front text : List Char} {members members' : List Json.Member}
    (whole : Json.IsObject text members) (last : text.getLast? = some '\x7d')
    (prefixed : front <+: text) (proper : front ≠ text) : ¬Json.IsObject front members' := by
  intro h
  obtain ⟨rest, rfl⟩ := prefixed
  have blank := h.isBlank_of_append whole
  have more : rest ≠ [] := by
    rintro rfl
    exact proper (List.append_nil front).symm
  have sign : '\x7d' ∈ rest := by
    rw [List.getLast?_append_of_ne_nil _ more] at last
    exact List.mem_of_getLast? last
  have := blank _ sign
  simp at this

/-- **What an input says stays inside of its script.**  The script is one fixed text, an object,
and another fixed text.

* The object has no character below the space, and it is complete: nothing that the script has in
  its place and that ends before it is an object.
* Read again it has the name of the kind and the payload as it was, and for a line or a character
  the key: for a line the return key, and for a character the key that the payload names.
* No other input has the same script. -/
theorem script_holds_one_object :
    (∀ input : Input, ∃ text : String,
      (ofInput input).script =
        "typeof window.regtest_event === 'function' && (window.regtest_event(" ++ text ++
          "), true)" ∧
      (∀ c ∈ text.toList, 0x20 ≤ c.toNat) ∧
      (∃ members, Json.IsObject text.toList members) ∧
      (∀ front, front <+: text.toList → front ≠ text.toList →
        ∀ members, ¬Json.IsObject front members) ∧
      Json.parse text = .ok (.object
        ([("type", .string input.kind.name), ("value", .string input.payload)] ++
          match input.kind with
          | .line =>
            [("key", .object [("event", .string "keypress"), ("which", .number (.integer 13))])]
          | .char =>
            let key := Keystroke.ofPayload input.payload
            [("key", .object
              [("event", .string key.event.name), ("which", .number (.integer key.which))])]
          | .filerefPrompt => []))) ∧
    ∀ a b : Input, (ofInput a).script = (ofInput b).script → a = b := by
  have read (input : Input) :
      Json.parse (ofInput input).json.compact = .ok (.object (members input)) := by
    rw [Json.parse_compact (fits_ofInput input), json_ofInput]
  constructor
  · intro input
    have text : (ofInput input).json.compact.toList = (Json.Value.object (members input)).text := by
      rw [Json.Value.compact, String.toList_ofList, json_ofInput]
    have object : Json.IsObject (ofInput input).json.compact.toList
        ((members input).map .compact) := by
      rw [text]
      exact Json.isObject_compact (json_ofInput input ▸ fits_ofInput input)
    have last : (ofInput input).json.compact.toList.getLast? = some '\x7d' := by
      rw [text, Json.Value.text]
      exact List.getLast?_concat (l := '\x7b' :: _)
    refine ⟨(ofInput input).json.compact, ?_, ?_, ⟨_, object⟩, ?_, ?_⟩
    · rw [script, scriptHead_eq]
      rfl
    · rw [Json.Value.compact, String.toList_ofList]
      exact (fits_ofInput input).visible
    · intro front prefixed proper members
      exact not_isObject_of_front object last prefixed proper
    · rw [read input]
      obtain ⟨kind, payload⟩ := input
      cases kind <;> rfl
  · intro a b h
    have objects := read b
    rw [← compact_of_script_eq h, read a] at objects
    have same : members a = members b := by
      injection objects with object
      injection object
    simp only [members, List.cons_append, List.nil_append, List.cons.injEq, Prod.mk.injEq,
      Json.Value.string.injEq, true_and] at same
    obtain ⟨kind, payload, -⟩ := same
    obtain ⟨ka, pa⟩ := a
    obtain ⟨kb, pb⟩ := b
    rw [show ka = kb from InputKind.name_injective kind, show pa = pb from payload]

/-- A line that seems to end the script does not end it. -/
example : (ofInput ⟨.line, "\"\x7d), alert(\""⟩).script =
    "typeof window.regtest_event === 'function' && (window.regtest_event(" ++
      "\x7b\"type\":\"line\",\"value\":\"\\\"\x7d), alert(\\\"\"," ++
      "\"key\":\x7b\"event\":\"keypress\",\"which\":13\x7d\x7d" ++ "), true)" := by
  decide +kernel

end Command
end Playtest
