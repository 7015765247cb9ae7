/-
# A page that follows a script

A stand-in for a page with a game in it.  Its script is a list of pages, one for each time the
page is loaded, and the last one is used again when the script runs out.  A page is a list of
turns: the first is played when it is loaded and the next ones as commands come in.  A turn
that the script does not have is empty.

Files are written to a disk of its own.
-/
import Playtest.Run.World

namespace Playtest

/-- One act of a turn. -/
inductive Act where
  | emit (emission : Emission)
  /-- The call fails, and the turn ends here. -/
  | fail (error : BrowserError)

/-- The acts with which a page answers one call. -/
abbrev Turn := List Act

/-- A scripted page and its disk. -/
structure ScriptedPage where
  pages : List (List Turn)
  /-- How often the page was loaded. -/
  loads : Nat := 0
  /-- The turn that comes next. -/
  turn : Nat := 0
  disk : Disk
  /-- Why the page cannot be rendered, if it cannot. -/
  renderError? : Option BrowserError := none

namespace ScriptedPage

/-- The answer that the acts of a turn give. -/
def answer : Turn → Answer
  | [] => {}
  | .emit e :: rest =>
    let a := answer rest
    { a with emissions := e :: a.emissions }
  | .fail error :: _ => { result := .error error }

/-- The turns of the page that is loaded. -/
def turns (page : ScriptedPage) : List Turn :=
  (page.pages[min (page.loads - 1) (page.pages.length - 1)]?).getD []

/-- Plays the next turn. -/
def play (page : ScriptedPage) : Answer × ScriptedPage :=
  (answer ((page.turns[page.turn]?).getD []), { page with turn := page.turn + 1 })

/-- The world of a scripted page. -/
def world : World ScriptedPage where
  openPage _ page := ({ page with loads := page.loads + 1, turn := 0 } : ScriptedPage).play
  send _ page := page.play
  render format page :=
    match page.renderError? with
    | some e => (.error e, page)
    | none => (.ok ("rendered " ++ format.extension), page)
  save path bytes page :=
    match page.disk.write path bytes with
    | .ok disk => (.ok (), { page with disk := disk })
    | .error e => (.error e, page)

/-- The setup in which a scripted page is played. -/
def setup : Setup ScriptedPage := { world := world }

end ScriptedPage
end Playtest
