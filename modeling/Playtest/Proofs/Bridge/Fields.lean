/-
# Names in fields

The event of a key, the kind of an input and the form of an event are each one of a few names.  A
name is a string, or an object with the name as its only key and nothing as its value; the form
has to be a string.  Whatever spells a known name is read as it, a string that spells no known
name is refused, and what is read is read to its end.
-/
import Playtest.Bridge.Message
import Playtest.Proofs.Json.InPlace

namespace Playtest
namespace Wire

open Json (Lexeme lexemes)

section

variable {names : List String} {n : String} {xs left : List Lexeme}

theorem of_variant (h : variant names xs = .ok (n, left)) :
    n ∈ names ∧ ∃ s t, xs = ⟨.string (.ok n), s, t⟩ :: left := by
  rcases xs with _ | ⟨⟨token, s, t⟩, rest⟩
  · cases h
  · cases token with
    | string text =>
      simp only [variant, bind_eq_ok] at h
      obtain ⟨name, rfl, h⟩ := h
      split at h
      · next known =>
        cases h
        exact ⟨List.contains_iff_mem.1 known, s, t, rfl⟩
      · cases h
    | _ => cases h

/-- What goes with a name has it. -/
theorem of_named {α : Type} {values : List α} {nameOf : α → String} {v : α}
    (h : named values nameOf n = .ok v) : nameOf v = n := by
  unfold named at h
  split at h
  · next found =>
    cases h
    simpa using List.find?_some found
  · cases h

theorem of_colon (h : colon xs = .ok left) : ∃ s t, xs = ⟨.colon, s, t⟩ :: left := by
  rcases xs with _ | ⟨⟨token, s, t⟩, rest⟩
  · cases h
  · cases token with
    | colon =>
      cases h
      exact ⟨s, t, rfl⟩
    | _ => cases h

theorem of_unit (h : unit xs = .ok left) : ∃ s t, xs = ⟨.literal .null, s, t⟩ :: left := by
  rcases xs with _ | ⟨⟨token, s, t⟩, rest⟩
  · cases h
  · cases token with
    | literal v =>
      cases v with
      | null =>
        cases h
        exact ⟨s, t, rfl⟩
      | _ => cases h
    | _ => cases h

/-- What is read as a name could also have been passed over. -/
theorem skipValue_of_name (h : name names xs = .ok (n, left)) : Json.skipValue xs = .ok left := by
  rcases xs with _ | ⟨⟨token, s, t⟩, rest⟩
  · cases h
  · cases token with
    | string text =>
      have read : variant names (⟨.string text, s, t⟩ :: rest) = .ok (n, left) := h
      obtain ⟨-, s', t', cut⟩ := of_variant read
      cases cut
      rfl
    | openObject =>
      simp only [name, bind_eq_ok] at h
      obtain ⟨⟨m, afterName⟩, read, afterColon, separates, afterUnit, nothing, h⟩ := h
      obtain ⟨-, s₁, t₁, rfl⟩ := of_variant read
      obtain ⟨s₂, t₂, rfl⟩ := of_colon separates
      obtain ⟨s₃, t₃, rfl⟩ := of_unit nothing
      rcases afterUnit with _ | ⟨⟨token, s₄, t₄⟩, behind⟩
      · cases h
      · cases token with
        | closeObject =>
          cases h
          rfl
        | _ => cases h
    | _ => cases h

end

section

variable {names : List String} {body : List Char} {text : String}

/-- A string that spells a name is read as it if the name is known, -/
theorem variant_of_spells (h : Json.Spells body text.toList) (known : text ∈ names)
    (rest : List Char) :
    variant names (lexemes (Json.quote body ++ rest)) = .ok (text, lexemes rest) := by
  rw [Json.lexemes_string h.isBody, Json.textAt_of_spells h, String.ofList_toList]
  simp only [variant, bind, Except.bind]
  exact if_pos (List.contains_iff_mem.2 known)

/-- and refused if it is not. -/
theorem variant_of_unknown (h : Json.Spells body text.toList) (unknown : text ∉ names)
    (rest : List Char) {p : String × List Lexeme} :
    variant names (lexemes (Json.quote body ++ rest)) ≠ .ok p := by
  intro read
  obtain ⟨n, left⟩ := p
  obtain ⟨known, s, t, cut⟩ := of_variant read
  rw [Json.lexemes_string h.isBody, Json.textAt_of_spells h, String.ofList_toList] at cut
  cases cut
  exact unknown known

/-- Where a name is wanted and a string stands, the string is read as a name. -/
theorem name_eq_variant (h : Json.IsBody body) (rest : List Char) :
    name names (lexemes (Json.quote body ++ rest)) =
      variant names (lexemes (Json.quote body ++ rest)) := by
  rw [Json.lexemes_string h]
  rfl

end

end Wire
end Playtest
