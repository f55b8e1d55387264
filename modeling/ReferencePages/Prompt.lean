import ReferencePages.Session
import ReferencePages.Excerpt
import ReferencePages.Json.Display
import ReferencePages.Text.Scan
/-!
Questions to the model, made from templates. A template is text with places for values; the piece of
source that goes into a question is bounded in bytes.
-/

namespace ReferencePages

/-- A part of a template: text, the place of a value, or the question whether a value is there. -/
inductive TemplatePart
  | text (s : Text)
  | value (name : Text)
  | isDefined (name : Text)
  deriving DecidableEq, Repr

/-- A template is the list of its parts. -/
abbrev Template := List TemplatePart

namespace Template

/-- What stands between double braces. -/
def placeholder? (s : Text) : Option TemplatePart := do
  let (name, rest) ← Text.name? (Text.trimStart s)
  match Text.words rest with
  | [] => some (.value name)
  | [is, defined] => if is = "is" && defined = "defined" then some (.isDefined name) else none
  | _ => none

/-- The parts of a text. What stands between double braces and is no place for a value stays text. -/
def ofText : (fuel : Nat) → Text → Template
  | 0, s => [.text s]
  | fuel + 1, s =>
    match Text.splitAtFirst? "\x7b\x7b" s with
    | none => [.text s]
    | some (before, rest) =>
      match Text.splitAtFirst? "\x7d\x7d" rest with
      | none => [.text s]
      | some (inner, rest) =>
        match placeholder? inner with
        | some part => .text before :: part :: ofText fuel rest
        | none => .text (before ++ "\x7b\x7b" ++ inner ++ "\x7d\x7d") :: ofText fuel rest

/-- The text with the values in their places, or the first name without a value. -/
def fill (context : Dictionary Json) : Template → Except TemplateFault Text
  | [] => .ok []
  | .text s :: parts => (fill context parts).map (s ++ ·)
  | .value name :: parts =>
    match context.get? name with
    | some value => (fill context parts).map (value.toText ++ ·)
    | none => .error (.undefined name)
  | .isDefined name :: parts =>
    let answer : Text := if (context.get? name).isSome then "True" else "False"
    (fill context parts).map (answer ++ ·)

end Template

namespace Prompt

/-- The template for a decision record. -/
def decisionTemplate : Template :=
  [.text ("Summarize this architectural decision record in exactly 2 sentences. Focus on what was " ++
    "decided and why. Title: "),
   .value "title", .text ". Content: ", .value "content"]

/-- The template for an enumeration of errors. -/
def errorTemplate : Template :=
  [.text "You are documenting error handling for ", .value "project_name",
   .text (", a Rust-based workflow orchestration platform that processes tasks through state " ++
    "machine-driven workflows with polyglot worker support (Rust, Python, TypeScript).\n\n" ++
    "Below is the Rust error enum definition for `"),
   .value "enum_name",
   .text ("`. Generate a concise troubleshooting guide in markdown format.\n\n" ++
    "For the most important error variants (group trivial ones), provide:\n" ++
    "1. **Likely cause** — what typically triggers this error\n" ++
    "2. **Diagnosis** — what logs, metrics, or state to check\n" ++
    "3. **Resolution** — concrete steps to fix\n\n" ++
    "Use a markdown table with columns: Variant, Cause, Resolution. Add a brief overview paragraph " ++
    "before the table. Keep output under "),
   .value "word_limit",
   .text " words. Do not include the section title - just the content.\n\nError definition:\n",
   .value "content"]

/-- The template for a section of the configuration. -/
def configTemplate : Template :=
  [.text "You are documenting the configuration system for ", .value "project_name",
   .text (", a Rust-based workflow orchestration platform.\n\n" ++
    "Below is the Rust source code for the "),
   .value "section",
   .text (" configuration section. Generate a concise operational tuning guide in markdown " ++
    "format.\n\nFor the most important parameters (skip trivial ones), explain:\n" ++
    "1. What it controls\n2. When to increase or decrease it\n" ++
    "3. Recommended values for small (dev/test), medium (staging), and large (production) " ++
    "deployments\n\n" ++
    "Use markdown tables where appropriate. Start with a brief overview paragraph, then cover the " ++
    "key parameters. Keep the total output under "),
   .value "word_limit",
   .text " words. Do not include the section title - just the content.\n\nSource code:\n",
   .value "content"]

/-- The templates that come with the program. -/
def templates : Dictionary Template :=
  [("adr_summary.j2", decisionTemplate), ("error_guide.j2", errorTemplate),
   ("config_guide.j2", configTemplate)]

/-- Where templates are taken from, and the name of the documented project. -/
structure Builder where
  directory : Option Path
  projectName : Text
  deriving DecidableEq, Repr

/-- Names that a context may not give a value, since the builder gives them one itself. -/
def reservedNames : List Text := ["self", "template_name"]

/-- The template with a name. A name may not lead out of the directory of templates. -/
def template (b : Builder) (name : Text) : Program Template := do
  let parts := Path.partsOf name
  match b.directory with
  | none => Program.ofExcept .template (match templates.get? (Text.joinWith "/" parts) with
    | some t => .ok t
    | none => .error (.notFound name))
  | some directory =>
    let file : Path := { directory with parts := directory.parts ++ parts }
    if parts.contains ("..".toList) || !(← Program.asks fun t d => t.isFile d file) then
      throw (.template (.notFound name))
    else
      let text ← Program.readText file
      let text := if Text.endsWith "\n" text then text.dropLast else text
      return Template.ofText (text.length + 1) text

/-- The question that a template makes of a context, without blanks at its ends. -/
def render (b : Builder) (name : Text) (context : Dictionary Json) : Program Text := do
  match reservedNames.find? fun key => (context.get? key).isSome with
  | some key => throw (.template (.repeatedArgument key))
  | none =>
    let t ← template b name
    if (context.get? "project_name").isSome then
      throw (.template (.repeatedArgument "project_name"))
    else
      let all : Dictionary Json := ("project_name", .string b.projectName) :: context
      return Text.trim (← Program.ofExcept .template (Template.fill all t))

/-- The most bytes of a record in a question. -/
def decisionBytes : Int := 2000

/-- The most bytes of an enumeration in a question. -/
def errorBytes : Int := 3000

/-- The most bytes of a section in a question. -/
def configBytes : Int := 4000

/-- The question about a decision record. -/
def decision (b : Builder) (title excerpt : Text) : Program Text :=
  render b "adr_summary.j2"
    [("title", .string title), ("content", .string (Excerpt.bound excerpt decisionBytes))]

/-- The question about an enumeration of errors. -/
def errorGuide (b : Builder) (enumName definition : Text) : Program Text :=
  render b "error_guide.j2"
    [("enum_name", .string enumName), ("content", .string (Excerpt.bound definition errorBytes)),
     ("word_limit", .int 600)]

/-- The question about a section of the configuration. -/
def configGuide (b : Builder) (sectionTitle source : Text) : Program Text :=
  render b "config_guide.j2"
    [("section", .string sectionTitle), ("content", .string (Excerpt.bound source configBytes)),
     ("word_limit", .int 800)]

end Prompt
end ReferencePages
