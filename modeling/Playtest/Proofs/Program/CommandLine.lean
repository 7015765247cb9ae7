/-
# What a command line can say

The values of a command line are put together from those of its options, one at a time.  So what
each of them keeps holds of every command line (`parse_keeps`), and in particular the port is one
that there is (`port_lt`).
-/
import Playtest.Program.Arguments
import Playtest.Proofs.Steps

namespace Playtest
namespace Arguments

/-! ## 1. What options keep -/

/-- What the values of a command line have in common, however many of its options are read. -/
structure Kept (P : Arguments → Prop) : Prop where
  turnOn : ∀ {args : Arguments} (o : Opt), P args → P (args.turnOn o)
  set : ∀ {args args' : Arguments} {slot : Slot} {text : String},
    args.set slot text = .ok args' → P args → P args'

namespace Reading

variable {P : Arguments → Prop} {r r' : Reading}

theorem args_note {slot : Slot} (h : r.note slot = .ok r') : r'.args = r.args := by
  unfold note at h
  split at h
  · split at h
    · cases h
    · cases h
      rfl
  · cases h
    split <;> rfl

theorem give_keeps (kept : Kept P) {slot : Slot} {text : String}
    (h : r.give slot text = .ok r') (holds : P r.args) : P r'.args := by
  obtain ⟨noted, note, h⟩ := bind_eq_ok.1 h
  obtain ⟨args, set, h⟩ := bind_eq_ok.1 h
  cases h
  exact kept.set set (args_note note ▸ holds)

theorem settle_keeps (kept : Kept P) (h : r.settle = .ok r') (holds : P r.args) : P r'.args := by
  unfold settle at h
  split at h
  · cases h
    exact holds
  · cases h
  · exact give_keeps kept h holds

theorem turnOn_keeps (kept : Kept P) {isLong : Bool} {o : Opt}
    (h : r.turnOn isLong o = .ok r') (holds : P r.args) : P r'.args := by
  obtain ⟨settled, settle, h⟩ := bind_eq_ok.1 h
  split at h
  · cases h
  · cases h
  · obtain ⟨noted, note, h⟩ := bind_eq_ok.1 h
    cases h
    refine kept.turnOn o ?_
    rw [args_note note]
    exact settle_keeps kept settle holds

theorem take_keeps (kept : Kept P) {o : Opt} {attached? : Option String}
    (h : r.take o attached? = .ok r') (holds : P r.args) : P r'.args := by
  obtain ⟨settled, settle, h⟩ := bind_eq_ok.1 h
  have holds := settle_keeps kept settle holds
  split at h
  · exact give_keeps kept h holds
  · cases h
    exact holds

theorem readName_keeps (kept : Kept P) {word : List Char} (h : r.readName word = .ok r')
    (holds : P r.args) : P r'.args := by
  unfold readName at h
  dsimp only at h
  split at h
  · cases h
  · split at h
    · exact take_keeps kept h holds
    · split at h
      · exact turnOn_keeps kept h holds
      · cases h

theorem readLetters_keeps (kept : Kept P) {word : List Char} (h : r.readLetters word = .ok r')
    (holds : P r.args) : P r'.args := by
  fun_induction readLetters r word with
  | case1 r =>
    cases h
    exact holds
  | case2 => cases h
  | case3 => exact take_keeps kept h holds
  | case4 => exact take_keeps kept h holds
  | case5 => exact take_keeps kept h holds
  | case6 r c rest o known flag ih =>
    obtain ⟨turned, turn, h⟩ := bind_eq_ok.1 h
    exact ih turned h (turnOn_keeps kept turn holds)

theorem readPlain_keeps (kept : Kept P) {word : String} (h : r.readPlain word = .ok r')
    (holds : P r.args) : P r'.args := by
  obtain ⟨settled, settle, h⟩ := bind_eq_ok.1 h
  have holds := settle_keeps kept settle holds
  cases h
  exact holds

theorem readWords_keeps (kept : Kept P) {mayOption : Bool} {words : List String}
    (h : r.readWords mayOption words = .ok r') (holds : P r.args) : P r'.args := by
  fun_induction readWords r mayOption words with
  | case1 => exact settle_keeps kept h holds
  | case2 r mayOption word rest noOptions ih =>
    obtain ⟨plain, read, h⟩ := bind_eq_ok.1 h
    exact ih plain h (readPlain_keeps kept read holds)
  | case3 r mayOption word rest options isEnd ih => exact ih h holds
  | case4 r mayOption word rest options name isEnd shape ih =>
    obtain ⟨named, read, h⟩ := bind_eq_ok.1 h
    exact ih named h (readName_keeps kept read holds)
  | case5 r mayOption word rest options c letters notEnd notName shape ih =>
    obtain ⟨lettered, read, h⟩ := bind_eq_ok.1 h
    exact ih lettered h (readLetters_keeps kept read holds)
  | case6 r mayOption word rest options o pending notEnd notName notLetters ih => exact ih h holds
  | case7 r mayOption word rest options notEnd notName notLetters settled ih =>
    obtain ⟨plain, read, h⟩ := bind_eq_ok.1 h
    exact ih plain h (readPlain_keeps kept read holds)

end Reading

/-- **What every option keeps holds of every command line.** -/
theorem parse_keeps {P : Arguments → Prop} (kept : Kept P) (start : P {}) {words : List String}
    {args : Arguments} (h : parse words = .ok args) : P args := by
  obtain ⟨r, read, h⟩ := bind_eq_ok.1 h
  have holds := Reading.readWords_keeps kept read start
  unfold Reading.finish at h
  split at h
  · cases h
  · split at h
    · cases h
      exact holds
    · cases h

/-! ## 2. Ports -/

/-- The port, if there is one, is a number of 16 bits. -/
def HasPort (args : Arguments) : Prop := ∀ port, args.port? = some port → port < 65536

theorem readPort_lt {o : Opt} {text : String} {port : Nat} (h : readPort o text = .ok port) :
    port < 65536 := by
  unfold readPort at h
  split at h
  · cases h
  · split at h
    · next n range =>
      cases h
      omega
    · cases h

/-- Only one option gives a port. -/
theorem port?_set {args args' : Arguments} {slot : Slot} {text : String}
    (h : args.set slot text = .ok args') :
    args'.port? = args.port? ∨ ∃ port, args'.port? = some port ∧ port < 65536 := by
  rcases slot with o | - | -
  · cases o
    case port =>
      obtain ⟨port, read, h⟩ := bind_eq_ok.1 h
      cases h
      exact .inr ⟨port, rfl, readPort_lt read⟩
    case timeout | root | capture | capturePath | chrome | config =>
      obtain ⟨value, -, h⟩ := bind_eq_ok.1 h
      cases h
      exact .inl rfl
    all_goals
      cases h
      exact .inl rfl
  · obtain ⟨path, -, h⟩ := bind_eq_ok.1 h
    cases h
    exact .inl rfl
  · cases h
    exact .inl rfl

theorem kept_hasPort : Kept HasPort where
  turnOn o holds := by cases o <;> exact holds
  set h holds port given := by
    rcases port?_set h with same | ⟨own, new, small⟩
    · exact holds port (same ▸ given)
    · rw [new] at given
      exact Option.some.inj given ▸ small

/-- **The port of a command line is one that there is.** -/
theorem port_lt {words : List String} {args : Arguments} (h : parse words = .ok args) :
    HasPort args :=
  parse_keeps kept_hasPort (fun _ given => nomatch given) h

end Arguments
end Playtest
