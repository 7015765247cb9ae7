/-
# The address of the server

The server is announced by the text of its address, and pages are asked for by the address
itself.  The two are the same: the text is read as the address, for every port there is
(`parse_serverText`).
-/
import Mathlib.Data.List.TakeWhile
import Playtest.Site.Location
import Playtest.Text.Number

namespace Playtest

namespace Url

/-! ## 1. Ports -/

section

variable {port : Nat}

theorem isDigit_of_mem {c : Char} (h : c ∈ Nat.toDigits 10 port) : c.isDigit = true :=
  Nat.isDigit_of_mem_toDigits (by decide) (by decide) h

theorem value_of_digits :
    (Nat.toDigits 10 port).foldl (fun n c => n * 10 + (c.toNat - 48)) 0 = port :=
  Text.digitsValue_toDigits port

/-- The port of the server is read from its digits, and left out if it is that of the scheme. -/
theorem readPort_digits (h : port ≤ 65535) :
    readPort "http" (Nat.toDigits 10 port) = .ok (if port = 80 then none else some port) := by
  have whole : (Nat.toDigits 10 port).takeWhile (fun c => decide (c ≠ '\\')) =
      Nat.toDigits 10 port := by
    refine List.takeWhile_eq_self_iff.2 fun c hc => ?_
    rw [decide_eq_true_eq]
    rintro rfl
    cases isDigit_of_mem hc
  have digits : (Nat.toDigits 10 port).all Char.isDigit = true :=
    List.all_eq_true.2 fun c => isDigit_of_mem
  have own : specialSchemes.contains ("http", some port) = decide (port = 80) := by
    simp [specialSchemes]
  rw [readPort]
  simp only [whole, digits, value_of_digits, Nat.toDigits_ne_nil, Nat.not_lt.2 h, own, if_false,
    Bool.not_true, Bool.false_eq_true, decide_eq_true_eq]
  split
  · rfl
  · rfl

/-! ## 2. The authority -/

/-- The authority of the server, with its port in digits. -/
def serverAuthority (port : Nat) : List Char := "127.0.0.1:".toList ++ Nat.toDigits 10 port

theorem visible_serverAuthority : ∀ c ∈ serverAuthority port, 0x20 < c.toNat := by
  intro c hc
  rcases List.mem_append.1 hc with hc | hc
  · have front : ("127.0.0.1:".toList.all fun c => decide (0x20 < c.toNat)) = true := by decide
    exact of_decide_eq_true (List.all_eq_true.1 front c hc)
  · have digit : '0'.toNat ≤ c.toNat := (Char.isDigit_iff_toNat.1 (isDigit_of_mem hc)).1
    exact Nat.lt_of_lt_of_le (by decide) digit

theorem not_mem_serverAuthority {c : Char} (front : c ∉ "127.0.0.1:".toList)
    (digit : c.isDigit = false) : c ∉ serverAuthority port := by
  intro hc
  rcases List.mem_append.1 hc with hc | hc
  · exact front hc
  · rw [isDigit_of_mem hc] at digit
    cases digit

theorem cutAuthority_server :
    cutAuthority .machine (serverAuthority port ++ ['/']) = (serverAuthority port, ['/']) := by
  have inner : ∀ c ∈ serverAuthority port, (!(isSlash .machine c || isTailMark c)) = true := by
    intro c hc
    have slash : c ≠ '/' := fun e => not_mem_serverAuthority (by decide) (by decide) (e ▸ hc)
    have backslash : c ≠ '\\' := fun e => not_mem_serverAuthority (by decide) (by decide) (e ▸ hc)
    have question : c ≠ '?' := fun e => not_mem_serverAuthority (by decide) (by decide) (e ▸ hc)
    have sharp : c ≠ '#' := fun e => not_mem_serverAuthority (by decide) (by decide) (e ▸ hc)
    simp [isSlash, isTailMark, slash, backslash, question, sharp]
  rw [cutAuthority, List.takeWhile_append_of_pos inner, List.dropWhile_append_of_pos inner]
  exact Prod.ext (List.append_nil _) rfl

theorem cutCredentials?_server : cutCredentials? (serverAuthority port) = none := by
  rw [cutCredentials?, Text.cutAt?_of_not_mem]
  · rfl
  · rw [List.mem_reverse]
    exact not_mem_serverAuthority (by decide) (by decide)

theorem cutPort_server :
    cutPort false (serverAuthority port) = ("127.0.0.1".toList, some (Nat.toDigits 10 port)) :=
  rfl

/-- The host of the server is an address however names outside ASCII are read. -/
theorem parse_host [Idna] : Host.parse "127.0.0.1".toList = .ok (.ipv4 0x7F000001) := by
  have text : decode? "127.0.0.1".toList = some "127.0.0.1" := by decide +kernel
  have plain : isPlainName "127.0.0.1".toList = true := by decide +kernel
  have name : domainToAscii? "127.0.0.1".toList = some "127.0.0.1".toList := by
    rw [domainToAscii?, if_pos plain]
    decide +kernel
  have number : endsInNumber "127.0.0.1".toList = true := by decide +kernel
  have address : ipv4? "127.0.0.1".toList = some 0x7F000001 := by decide +kernel
  have nonempty : "127.0.0.1".toList ≠ [] := by decide +kernel
  rw [Host.parse, text, Option.bind_some, name]
  · simp only [nonempty, number, address, if_false, if_true]
  · intro rest bracket
    have first : "127.0.0.1".toList.head? = some '[' := congrArg List.head? bracket
    exact absurd first (by decide)

theorem readAuthority_server [Idna] (h : port ≤ 65535) :
    readAuthority "http" (serverAuthority port ++ ['/']) =
      .ok (⟨[], [], .ipv4 0x7F000001, if port = 80 then none else some port⟩, ['/']) := by
  have kind : SchemeKind.ofScheme "http" = .machine := by decide
  have credentials : readCredentials [] = ([], []) := rfl
  have rest : (Nat.toDigits 10 port).dropWhile (fun c => decide (c ≠ '\\')) = [] := by
    refine List.dropWhile_eq_nil_iff.2 fun c hc => ?_
    rw [decide_eq_true_eq]
    rintro rfl
    cases isDigit_of_mem hc
  unfold readAuthority
  simp only [kind, cutAuthority_server, cutCredentials?_server, cutPort_server, parse_host,
    Option.getD_none, Option.getD_some, credentials, readPort_digits h, rest]
  rfl

end

end Url

namespace Location

theorem serverText_eq (port : Nat) :
    serverText port =
      String.ofList ("http://".toList ++ (Url.serverAuthority port ++ ['/'])) := by
  have digits : toString port = String.ofList (Nat.toDigits 10 port) :=
    Nat.toString_eq_ofList_toDigits
  have joined (t : List Char) : "http://127.0.0.1:" ++ String.ofList t ++ "/" =
      String.ofList ("http://".toList ++ ("127.0.0.1:".toList ++ t ++ ['/'])) := by
    have front : "http://127.0.0.1:" = "http://" ++ "127.0.0.1:" := rfl
    have slash : "/" = String.ofList ['/'] := rfl
    simp only [String.ofList_append, String.ofList_toList]
    rw [front, slash, String.append_assoc, String.append_assoc, String.append_assoc]
  have parts : serverText port = "http://127.0.0.1:" ++ toString port ++ "/" := rfl
  rw [parts, digits]
  exact joined (Nat.toDigits 10 port)

/-- **The text of the server's address is read as its address.** -/
theorem parse_serverText [Url.Idna] {port : Nat} (h : port ≤ 65535) :
    Url.parse (serverText port) = .ok (serverUrl port) := by
  have visible : ∀ c ∈ "http://".toList ++ (Url.serverAuthority port ++ ['/']), 0x20 < c.toNat := by
    intro c hc
    rcases List.mem_append.1 hc with hc | hc
    · have front : ("http://".toList.all fun c => decide (0x20 < c.toNat)) = true := by decide
      exact of_decide_eq_true (List.all_eq_true.1 front c hc)
    · rcases List.mem_append.1 hc with hc | hc
      · exact Url.visible_serverAuthority c hc
      · rw [List.mem_singleton.1 hc]
        decide
  have scheme : Url.cutScheme? ("http://".toList ++ (Url.serverAuthority port ++ ['/'])) =
      some ("http", "//".toList ++ (Url.serverAuthority port ++ ['/'])) := by
    rfl
  have slashes : ("//".toList ++ (Url.serverAuthority port ++ ['/'])).dropWhile
      (fun c => c == '/' || c == '\\') = Url.serverAuthority port ++ ['/'] := by
    rfl
  have kind : Url.SchemeKind.ofScheme "http" = .machine := by decide
  have cleaned : Url.cleaned (serverText port) =
      "http://".toList ++ (Url.serverAuthority port ++ ['/']) := by
    rw [serverText_eq]
    refine Url.cleaned_eq_self (fun c hc => visible c (List.mem_of_head? hc))
      (fun c hc => visible c (List.mem_of_getLast? hc)) fun c hc => ⟨?_, ?_, ?_⟩
    · rintro rfl
      exact absurd (visible _ hc) (by decide)
    · rintro rfl
      exact absurd (visible _ hc) (by decide)
    · rintro rfl
      exact absurd (visible _ hc) (by decide)
  rw [Url.parse, Url.read]
  simp only [cleaned, scheme, Url.readWithScheme, kind, slashes,
    Option.filter_none]
  rw [Url.readAfterSlashes, Url.readAuthority_server h]
  rfl

end Location
end Playtest
