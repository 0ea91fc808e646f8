import TinyImp.Diagnostic
import TinyImp.Report.Excerpt

/-!
# Reports

A report draws a diagnostic for a reader: a headline, the name of the source
with the place, the line in question, a mark below the character it is about,
and the message at the end of an arrow.  Ink is used only if the reader can
see colours; bold type is always used.
-/

namespace TinyImp

namespace Report

/-- What the parts of a report are drawn with. -/
inductive Ink where
  | headline
  | frame
  | gutter
  | quotation
  | label (stage : Stage)

def Ink.code : Ink → String
  | .headline => "31"
  | .frame => "38;5;246"
  | .gutter => "38;5;240"
  | .quotation => "38;5;249"
  | .label .lexical => "35"
  | .label .grammar => "31"
  | .label .scope => "33"
  | .label .typing => "36"

/-- The text between a code that is switched on and off again. -/
def between (code text : String) : String :=
  "\x1b[" ++ code ++ "m" ++ text ++ "\x1b[0m"

def bold (text : String) : String :=
  between "1" text

def repeated (count : Nat) (text : String) : String :=
  String.join (List.replicate count text)

/-- One mark and then others of another kind, `count` marks in all. -/
def ledBy (count : Nat) (leader other : String) : String :=
  match count with
  | 0 => ""
  | others + 1 => leader ++ repeated others other

/-- What is drawn: a diagnostic about an excerpt of a source. -/
structure Drawing where
  diagnostic : Diagnostic
  file : String
  excerpt : Excerpt
  sourceIsEmpty : Bool
  colored : Bool

namespace Drawing

def paint (drawing : Drawing) (ink : Ink) (text : String) : String :=
  if drawing.colored then between ink.code text else text

def label (drawing : Drawing) (text : String) : String :=
  drawing.paint (.label drawing.diagnostic.stage) text

def frame (drawing : Drawing) (text : String) : String :=
  drawing.paint .frame text

def digits (drawing : Drawing) : Nat :=
  (toString drawing.excerpt.number).length

/-- Spaces as wide as the line number with a space on each side. -/
def indent (drawing : Drawing) : String :=
  repeated (drawing.digits + 2) " "

def headline (drawing : Drawing) : String :=
  let stage := drawing.diagnostic.stage.name
  drawing.paint .headline s!"[{stage} error] Error:" ++
    s!" {bold stage} at {bold drawing.diagnostic.position.text}\n"

/-- The line with the name of the source and the place. -/
def place (drawing : Drawing) : String :=
  let excerpt := drawing.excerpt
  drawing.indent ++ drawing.frame "╭" ++ drawing.frame "─" ++
    drawing.frame "[" ++
    s!" {drawing.file}:{excerpt.number}:{excerpt.column + 1} " ++
    drawing.frame "]" ++ "\n"

def spacer (drawing : Drawing) : String :=
  drawing.indent ++ drawing.frame "│" ++ "\n"

def quotedCell (drawing : Drawing) (index : Nat) (cell : Cell) : String :=
  let ink :=
    if index = drawing.excerpt.column then
      Ink.label drawing.diagnostic.stage
    else
      Ink.quotation
  let count := if cell.shown = ' ' then cell.width else 1
  repeated count (drawing.paint ink (String.singleton cell.shown))

def quotation (drawing : Drawing) : String :=
  let cells := drawing.excerpt.cells.zipIdx.map fun item =>
    drawing.quotedCell item.2 item.1
  " " ++ drawing.frame s!"{drawing.excerpt.number} │" ++ " " ++
    String.join cells ++ "\n"

def margin (drawing : Drawing) : String :=
  let gutter := repeated (drawing.digits + 1) " " ++ "│"
  " " ++ drawing.paint .gutter gutter ++ " "

/-- What is drawn below each character up to the end of the arrow, given what
is drawn for a number of cells before, at and behind the place. -/
def belowCells (drawing : Drawing) (before marked behind : Nat → String) :
    String :=
  let column := drawing.excerpt.column
  let reach := if drawing.sourceIsEmpty then column + 2 else column + 3
  String.join <| (drawing.excerpt.widths reach).zipIdx.map fun item =>
    let (width, index) := item
    if index < column then before width
    else if index = column then marked width
    else behind width

def mark (drawing : Drawing) : String :=
  let blank := fun count => repeated count " "
  let sign := if drawing.sourceIsEmpty then "│" else "┬"
  drawing.margin ++
    drawing.belowCells blank
      (fun count => ledBy count (drawing.label sign) (drawing.label "─"))
      blank ++
    "\n"

def arrow (drawing : Drawing) : String :=
  drawing.margin ++
    drawing.belowCells (fun count => repeated count " ")
      (fun count => ledBy count (drawing.label "╰") (drawing.label "─"))
      (fun count => repeated count (drawing.label "─")) ++
    s!" {drawing.diagnostic.message}\n"

def closing (drawing : Drawing) : String :=
  drawing.frame (repeated (drawing.digits + 2) "─" ++ "╯") ++ "\n"

def text (drawing : Drawing) : String :=
  drawing.headline ++ drawing.place ++ drawing.spacer ++
    drawing.quotation ++ drawing.mark ++ drawing.arrow ++ drawing.closing

end Drawing

def render (file source : String) (colored : Bool)
    (diagnostics : List Diagnostic) : String :=
  let characters := source.toList
  let lines := linesBetween characters
  let length := characters.length
  let rows := rows characters
  String.join <| diagnostics.map fun diagnostic =>
    let span := diagnostic.position.spanIn lines length
    let drawing : Drawing :=
      { diagnostic, file, colored
        excerpt := locate span.start 1 rows
        sourceIsEmpty := characters.isEmpty }
    drawing.text

end Report

end TinyImp
