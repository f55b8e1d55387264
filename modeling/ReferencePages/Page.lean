import ReferencePages.Text.Blank
import ReferencePages.Text.Lines
/-!
Generated pages: a banner, blocks of text and a footer, and the normal form in which every page is
written.
-/

namespace ReferencePages

/-- The parts of one page. -/
structure Page where
  title : Text
  generator : Text
  origin : Text
  sourceDescription : Text
  intro : Text
  blocks : List Text
  modeNote : Option Text
  deriving DecidableEq, Repr

namespace Page

/-- The command that regenerates pages. -/
def command : Text := "refgen"

/-- The title and the notice that the page is generated. -/
def banner (p : Page) : Text :=
  Text.unlines
    ["# " ++ p.title, [], "> Auto-generated from " ++ p.origin ++ ". Do not edit manually.", ">",
     "> Regenerate with: `" ++ command ++ " " ++ p.generator ++ "`"]

/-- The rule and the line that say where the page comes from. -/
def footer (p : Page) : Text :=
  "---\n\n*Generated by `" ++ command ++ " " ++ p.generator ++ "` from " ++ p.sourceDescription ++ "*"

/-- Whether a line opens or closes a fence. -/
def isFence (line : Text) : Bool := Text.startsWith "```" line

/-- The lines without blanks at their ends, and without a blank line after a blank line outside of
fences. -/
def tidy : (inFence afterBlank : Bool) → List Text → List Text
  | _, _, [] => []
  | inFence, afterBlank, line :: ls =>
    let s := Text.trimEnd line
    if isFence s then s :: tidy (!inFence) false ls
    else if !inFence && s.isEmpty then
      if afterBlank then tidy inFence true ls else [] :: tidy inFence true ls
    else s :: tidy inFence false ls

/-- The lines without the empty ones at the end. -/
def dropEmptyEnd : List Text → List Text
  | [] => []
  | line :: ls =>
    match dropEmptyEnd ls with
    | [] => if line.isEmpty then [] else [line]
    | kept => line :: kept

/-- The normal form of a page: line feeds alone end lines, no line ends in blanks, no two blank lines
follow each other outside of fences, and the last line is not empty and is ended. -/
def normalize (markdown : Text) : Text :=
  let ls := Text.splitOnChar '\n' (Text.unifyNewlines markdown)
  Text.unlines (dropEmptyEnd (tidy false false ls)) ++ "\n"

/-- The text of the page in normal form. -/
def render (p : Page) : Text :=
  let intro := if p.intro.isEmpty then [] else [Text.trim p.intro]
  let note := (p.modeNote.filter (!·.isEmpty)).toList
  normalize (Text.joinWith "\n\n"
    (p.banner :: intro ++ p.blocks.map (Text.trimWhile (· == '\n')) ++ note ++ [p.footer]))

end Page
end ReferencePages
