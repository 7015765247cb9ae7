/-
# What is written is read

Events and keystrokes are written as compact objects, and the page may write them in other ways:
with the members in another order, with blanks, with other escapes, and with members that the
driver does not know.  All of these are read as what was written, and what cannot have been
written for any event or keystroke is refused (`what_is_written_is_read`).
-/
import Playtest.Proofs.Bridge.Events
import Playtest.Proofs.Bridge.Keystrokes
import Playtest.Proofs.Bridge.Scripts

namespace Playtest

open Json (Member)

/-! ## 1. Compact objects -/

/-- The compact text of an object is an object with its members. -/
theorem isObject_compactText {room : Nat} {members : List (String × Json.Value)}
    (h : (Json.Value.object members).Fits room) :
    Json.IsObject (Json.Value.object members).compact.toList (members.map .compact) := by
  rw [Json.Value.compact, String.toList_ofList]
  exact Json.isObject_compact h

namespace BridgeEvent

/-- The members of the object for an event. -/
def members (event : BridgeEvent) : List (String × Json.Value) :=
  [("type", .string event.form.tag), (event.form.field, .string event.content)]

theorem json_eq (event : BridgeEvent) : event.json = .object event.members := by
  cases event <;> rfl

theorem isWrittenBy_compact (event : BridgeEvent) :
    event.IsWrittenBy (event.members.map .compact) :=
  ⟨.compact ("type", .string event.form.tag),
    .compact (event.form.field, .string event.content), [], .refl _,
    Member.names_compact _ _, Member.holds_compact _ _, Member.names_compact _ _,
    Member.holds_compact _ _, nofun⟩

/-- An event comes back from its compact text. -/
theorem decode_compact (event : BridgeEvent) : decode event.json.compact = .ok event := by
  rw [json_eq]
  have fits : (Json.Value.object event.members).Fits 1 := by
    refine .object fun p hp => ?_
    simp only [members, List.mem_cons, List.not_mem_nil, or_false] at hp
    rcases hp with rfl | rfl <;> exact .string _
  exact decode_of_isWrittenBy (isObject_compactText fits) (isWrittenBy_compact event)

end BridgeEvent

namespace Keystroke

/-- A keystroke comes back from its compact text. -/
theorem decode_compact {key : Keystroke} (h : (key.which : Int) ≤ maxCode) :
    Wire.decode read (Command.keyJson key).compact = .ok key := by
  have fits : (Command.keyJson key).Fits 1 := by
    refine Command.fits_keyJson ?_ 0
    have sizes : maxCode ≤ (Json.maxWord : Int) := by decide
    omega
  refine decode_of_isWrittenBy (isObject_compactText fits) h ?_
  exact ⟨.compact ("event", .string key.event.name),
    .compact ("which", .number (.integer key.which)), [], .refl _, Member.names_compact _ _,
    Member.holds_compact _ _, Member.names_compact _ _, rfl, nofun⟩

end Keystroke

/-! ## 2. All objects -/

namespace Wire

/-- **What is written is read.**

* Every event and every keystroke comes back from its compact text.
* Whatever object has the members of an event or of a keystroke, and besides them only strings
  under other names, is read as it.  The order of the members, the blanks between them and the way
  in which names and texts are spelled play no part.
* An object that lacks a field or repeats it, or whose field names nothing that is known, is
  refused, and so is a code that is too small or too large, whatever else the object has.
* What arrives through the binding for data is read in the same way. -/
theorem what_is_written_is_read :
    (∀ event : BridgeEvent, BridgeEvent.decode event.json.compact = .ok event) ∧
    (∀ key : Keystroke, key.which < Nat.pow 2 32 →
      decode Keystroke.read (Command.keyJson key).compact = .ok key) ∧
    (∀ text ms, Json.IsObject text.toList ms →
      (∀ event : BridgeEvent, event.IsWrittenBy ms → BridgeEvent.decode text = .ok event) ∧
      (BridgeEvent.IsFlawed ms → ∃ fault, BridgeEvent.decode text = .error fault) ∧
      (∀ key : Keystroke, key.which < Nat.pow 2 32 → key.IsWrittenBy ms →
        decode Keystroke.read text = .ok key) ∧
      (Keystroke.IsFlawed ms → ∃ fault, decode Keystroke.read text = .error fault)) ∧
    ∀ text, Message.ofBinding dataBinding text =
      (BridgeEvent.decode text).map fun event => some (.data event) := by
  have code {key : Keystroke} (h : key.which < Nat.pow 2 32) :
      (key.which : Int) ≤ Keystroke.maxCode := by
    have greatest : Keystroke.maxCode = (Nat.pow 2 32 : Int) - 1 := rfl
    omega
  refine ⟨BridgeEvent.decode_compact, fun key h => Keystroke.decode_compact (code h), ?_, ?_⟩
  · intro text ms object
    exact ⟨fun event written => BridgeEvent.decode_of_isWrittenBy object written,
      BridgeEvent.decode_of_isFlawed object,
      fun key h written => Keystroke.decode_of_isWrittenBy object (code h) written,
      Keystroke.decode_of_isFlawed object⟩
  · intro text
    rfl

/-- An event with its members in another order, with blanks, with an escape in a name, and with a
member that only the other form would have; and a keystroke whose code is too large. -/
theorem reads_respelled_and_refuses_overflow :
    BridgeEvent.decode
      " \x7b\n\"text\" : \"line\",\t\"k\\u0069nd\": \"line\" , \"type\" :\"input_requested\"\x7d " =
      .ok (.inputRequested .line) ∧
    ∃ fault, decode Keystroke.read "\x7b\"which\":4294967296,\"event\":\"keydown\"\x7d" =
      .error fault := by
  have plain {s : List Char} (h : Json.escaped s = s) : Json.Spells s s := by
    have spells := Json.spells_escaped s
    rwa [h] at spells
  constructor
  · have text : Json.Spells "text".toList "text".toList := plain (by decide)
    have line : Json.Spells "line".toList "line".toList := plain (by decide)
    have type : Json.Spells "type".toList "type".toList := plain (by decide)
    have requested : Json.Spells "input_requested".toList "input_requested".toList :=
      plain (by decide)
    have kind : Json.Spells "k\\u0069nd".toList "kind".toList :=
      .plain (by decide) (by decide) (by decide)
        (.code (n := 0x69) (by decide) (by simp [Json.IsSurrogate]) (plain (by decide)))
    let other : Member :=
      { before := ['\n'], key := "text".toList, behind := [' ']
        item := { before := [' '], value := Json.quote "line".toList } }
    let content : Member :=
      { before := ['\t'], key := "k\\u0069nd".toList
        item := { before := [' '], value := Json.quote "line".toList, behind := [' '] } }
    let tag : Member :=
      { before := [' '], key := "type".toList, behind := [' ']
        item := { value := Json.quote "input_requested".toList } }
    have object : Json.IsObject (String.toList
      " \x7b\n\"text\" : \"line\",\t\"k\\u0069nd\": \"line\" , \"type\" :\"input_requested\"\x7d ")
        [other, content, tag] := by
      refine ⟨fun m hm => ?_, [' '], [], [' '], by decide, by decide, by decide, by decide +kernel⟩
      simp only [List.mem_cons, List.not_mem_nil, or_false] at hm
      rcases hm with rfl | rfl | rfl
      · exact ⟨⟨by decide, by decide, by decide, by decide⟩, text.isBody, .string line.isBody⟩
      · exact ⟨⟨by decide, by decide, by decide, by decide⟩, kind.isBody, .string line.isBody⟩
      · exact ⟨⟨by decide, by decide, by decide, by decide⟩, type.isBody, .string requested.isBody⟩
    refine (what_is_written_is_read.2.2.1 _ _ object).1 _ ⟨tag, content, [other],
      List.reverse_perm [tag, content, other], type, ⟨_, requested, rfl⟩, kind, ⟨_, line, rfl⟩, ?_⟩
    intro m hm
    rw [List.mem_singleton.1 hm]
    exact ⟨"text", "line", text, by decide, _, line, rfl⟩
  · have which : Json.Spells "which".toList "which".toList := plain (by decide)
    have event : Json.Spells "event".toList "event".toList := plain (by decide)
    have keydown : Json.Spells "keydown".toList "keydown".toList := plain (by decide)
    have digits : (toString (4294967296 : Int)).toList = "4294967296".toList := by decide
    have number := Json.isNumber_integer 4294967296
    rw [digits] at number
    let code : Member := { key := "which".toList, item := { value := "4294967296".toList } }
    let down : Member :=
      { key := "event".toList, item := { value := Json.quote "keydown".toList } }
    have object : Json.IsObject
        "\x7b\"which\":4294967296,\"event\":\"keydown\"\x7d".toList [code, down] := by
      refine ⟨fun m hm => ?_, [], [], [], by decide, by decide, by decide, by decide +kernel⟩
      simp only [List.mem_cons, List.not_mem_nil, or_false] at hm
      rcases hm with rfl | rfl
      · exact ⟨⟨by decide, by decide, by decide, by decide⟩, which.isBody,
          .number number⟩
      · exact ⟨⟨by decide, by decide, by decide, by decide⟩, event.isBody, .string keydown.isBody⟩
    exact (what_is_written_is_read.2.2.1 _ _ object).2.2.2
      (.outside List.mem_cons_self which digits.symm (by decide))

end Wire
end Playtest
