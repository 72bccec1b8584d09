import TypedOperations.Layout.Docstring

/-!
# Layout programs

A layout program is a tree of writing steps; a block holds the steps of its body. Running one gives an event after every
step and at both ends of every block, with the text added since the event before. A blank docstring stops the outermost
step it stands in: the blocks it is in are left without a closing, and the next outermost step goes on.
-/

namespace TypedOperations.Layout

/-- How a block is opened. -/
inductive Opening where
  | indented
  | block (header : String)
  | declaration (name : String) (bases : List String) (description : Option String)
  | method (name : String) (params : List String) (returns : Option String) (decorators : List String)
  | getter (name type : String) (description : Option String)
  | setter (name type : String)

/-- A step that writes without opening a block. -/
inductive Action where
  | add (text : Option String)
  | line (text : Option String)
  | separate
  | wrapped (opening : String) (items : List String) (closing : String)
  | docstring (text : Option String)
  | comment (text : Option String)
  | sourceLines (text : String)
deriving Inhabited

/-- A step of a layout program. -/
inductive Step where
  | act (action : Action)
  | block (opening : Opening) (body : List Step)
deriving Inhabited

/-- The kinds of steps, as they are named in events. -/
inductive Kind where
  | add
  | line
  | separate
  | wrapped
  | docstring
  | comment
  | sourceLines
  | indented
  | block
  | declaration
  | method
  | getter
  | setter
deriving DecidableEq, Repr

/-- The kind of an action. -/
def Action.kind : Action → Kind
  | .add _ => .add
  | .line _ => .line
  | .separate => .separate
  | .wrapped .. => .wrapped
  | .docstring _ => .docstring
  | .comment _ => .comment
  | .sourceLines _ => .sourceLines

/-- The kind of a block. -/
def Opening.kind : Opening → Kind
  | .indented => .indented
  | .block _ => .block
  | .declaration .. => .declaration
  | .method .. => .method
  | .getter .. => .getter
  | .setter .. => .setter

/-- The kind of a step. -/
def Step.kind : Step → Kind
  | .act action => action.kind
  | .block opening _ => opening.kind

/-- What an event reports of its step. -/
inductive Moment where
  | done
  | entered
  | left
  | failed
deriving DecidableEq, Repr

/-- A report: which step, what happened to it, the text added since the report before, and the level. -/
structure Event where
  kind : Kind
  moment : Moment
  added : String
  level : Nat

/-- A run so far: the writer, the events newest first, and the size of the text at the last event. -/
structure Run where
  writer : Writer := {}
  events : List Event := []
  seen : Nat := 0

namespace Run

/-- The run with a report of what was added. -/
def report (r : Run) (kind : Kind) (moment : Moment) : Run :=
  let added := String.join (r.writer.pieces.take (r.writer.size - r.seen)).reverse
  { r with events := ⟨kind, moment, added, r.writer.level⟩ :: r.events, seen := r.writer.size }

/-- The run with another writer. -/
def withWriter (r : Run) (w : Writer) : Run :=
  { r with writer := w }

end Run

/-- The docstring of a description written, or the writer as it is where the description is blank. -/
def writeDescription (w : Writer) (description : Option String) : Except Writer Writer :=
  match Docstring.ofDescription description with
  | .ok doc => .ok (w.docstring? doc)
  | .error _ => .error w

/-- An action on the writer; it fails with the writer as it is then. -/
def Action.apply (w : Writer) : Action → Except Writer Writer
  | .add text => .ok (w.add (text.getD ""))
  | .line text => .ok (w.line (text.getD ""))
  | .separate => .ok w.separate
  | .wrapped opening items closing => .ok (w.wrapped opening items closing)
  | .docstring text => writeDescription w text
  | .comment text => .ok (w.comment? text)
  | .sourceLines text => .ok (w.sourceLines text)

/-- A block opened on the writer, with the size at which its body starts; nothing where no `pass` is ever due. -/
def Opening.apply (w : Writer) : Opening → Except Writer (Writer × Option Nat)
  | .indented => .ok (w.indent, none)
  | .block header =>
    let opened := w.openBlock header
    .ok (opened, some opened.size)
  | .declaration name bases description =>
    let opened := w.openClass name bases
    (writeDescription opened description).map (·, some opened.size)
  | .method name params returns decorators =>
    let opened := w.openMethod name params returns decorators
    .ok (opened, some opened.size)
  | .getter name type description =>
    let opened := w.openGetter name type
    (writeDescription opened description).map (·, some opened.size)
  | .setter name type =>
    let opened := w.openSetter name type
    .ok (opened, some opened.size)

/-- A block closed on the writer. -/
def closing (w : Writer) : Option Nat → Writer
  | some start => w.closeBlock start
  | none => w.dedent

mutual

/-- A step run; on failure the run as it was then, with the levels of the blocks around it still open. -/
def Step.run (r : Run) : Step → Except Run Run
  | .act action =>
    match action.apply r.writer with
    | .ok w => .ok ((r.withWriter w).report action.kind .done)
    | .error w => .error (r.withWriter w)
  | .block opening body =>
    match opening.apply r.writer with
    | .error w => .error (r.withWriter w)
    | .ok (w, start) =>
      match runBody ((r.withWriter w).report opening.kind .entered) body with
      | .error r => .error r
      | .ok r => .ok ((r.withWriter (closing r.writer start)).report opening.kind .left)

/-- Steps run one after another, up to the first that fails. -/
def runBody (r : Run) : List Step → Except Run Run
  | [] => .ok r
  | step :: rest =>
    match step.run r with
    | .error r => .error r
    | .ok r => runBody r rest

end

/-- An outermost step run: a failure is reported at the level where the step began. -/
def Step.runOutermost (r : Run) (step : Step) : Run :=
  match step.run r with
  | .ok r => r
  | .error failed =>
    (failed.withWriter { failed.writer with level := r.writer.level }).report step.kind .failed

/-- A whole layout program run on an empty writer. -/
def run (steps : List Step) : Run :=
  steps.foldl Step.runOutermost {}

end TypedOperations.Layout
