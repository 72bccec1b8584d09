import TypedOperations.Selection.Spreads
import TypedOperations.Text.Digest

/-!
# The identity of an operation

An operation is identified by the digest of what is sent for it: its own source followed by the sources of the fragments
it reaches, joined by line feeds.
-/

namespace TypedOperations

/-- The sources of the fragments named. -/
def Context.fragmentSources (c : Context) : List String → Except Fault (List String)
  | [] => .ok []
  | name :: rest => do
    let f ← c.fragment name
    return f.source :: (← c.fragmentSources rest)

/-- The text that identifies an operation, given the fragments it reaches. -/
def Context.sourceWithFragments (c : Context) (o : Operation) (fragments : List String) : Except Fault String := do
  return String.intercalate "\n" (o.source :: (← c.fragmentSources fragments))

/-- The text that identifies an operation, and its digest. -/
def Context.operationId (c : Context) (o : Operation) (fragments : List String) : Except Fault (String × String) := do
  let source ← c.sourceWithFragments o fragments
  return (source, Digest.ofText source)

end TypedOperations
