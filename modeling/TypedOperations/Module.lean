import TypedOperations.Declaration.Build
import TypedOperations.Declaration.Render
import TypedOperations.Header.Template
import TypedOperations.Source.Statement

/-!
# Modules

The text of the module of a context: its header, then all its declarations. A module that the target language could not
read back is refused.
-/

namespace TypedOperations

/-- The custom scalars that a module names. -/
def Context.customScalars (c : Context) : List String :=
  if c.options.passScalars then
    (c.typesUsed.filter fun t => t.kind == .scalar && !Options.scalarNames.has t.name).map (c.options.customScalar ·.name)
  else []

/-- What header templates can refer to. -/
def Context.headerValues (c : Context) : Entries TemplateValue :=
  [("runtime_module", .text c.options.supportModule), ("custom_scalars", .items c.customScalars)]

/-- The header of a module, without the blanks at its end. -/
def Context.header (c : Context) (template : Template) : String :=
  String.ofList (Text.trimEnd (template.render c.headerValues).toList)

/-- The text of a module from its header and its declarations. -/
def Context.write (c : Context) (header : String) (ds : List Declaration) : String :=
  (((({} : Writer).line header).separate).allDeclarations c.options.wrapper ds).output

/-- The text of a module, which must be readable and hold no null character. -/
def Context.checked (c : Context) (header : String) (ds : List Declaration) : Except Fault String :=
  let text := c.write header ds
  if text.toList.contains '\x00' then .error .nullCharacter
  else if Source.isReadable text then .ok text
  else .error .invalidModule

/-- The text of the module of a context. -/
def Context.generate (c : Context) (template : Template) : Except Fault String := do
  let ds ← c.declarations
  c.checked (c.header template) ds

end TypedOperations
