import TypedRoutes.Route.Declaration
/-!
# Manifests

A manifest declares several routes, which share a base path and an option. An entry of a manifest may have a
base path of its own, and tells its verb by a tag, by the declared result type of its handler, or by
both, which then have to agree.

`Manifest.build` compiles the entries in order. It gives all routes, or the error of the first entry that
has no route.
-/
namespace TypedRoutes

structure Entry where
  handler : String
  template : String
  base : Option String
  parameters : List Parameter
  tag : Option Verb
  returns : Option ReturnType
  deriving DecidableEq, Repr

structure Manifest where
  base : Option String
  foldsCase : Bool
  entries : List Entry
  deriving DecidableEq, Repr

namespace Manifest

/-- The result type that an entry declares. A tag alone stands for one. -/
def declaredResult (e : Entry) : Option ReturnType :=
  e.returns <|> e.tag.map (ReturnType.withVerb e.handler)

def declaration (m : Manifest) (e : Entry) : Declaration where
  handler := e.handler
  template := e.template
  base := e.base <|> m.base
  parameters := e.parameters
  returns := declaredResult e
  foldsCase := m.foldsCase

/-- The defect of an entry whose tag and result type do not agree. -/
def tagDefect? (e : Entry) (r : Route) : Option RouteDefect :=
  match e.returns, e.tag with
  | some t, some tag => if tag = r.verb then none else some (.ambiguousVerb t.name [r.verb, tag])
  | _, _ => none

def buildEntry (m : Manifest) (e : Entry) : ExceptT RouteError Logged Route := do
  let r ← (m.declaration e).build
  match tagDefect? e r with
  | some defect => throw ⟨e.handler, defect⟩
  | none => return r

/-- Compiles entries in order, up to the first that has no route. -/
def buildEntries (m : Manifest) : List Entry → ExceptT RouteError Logged (List Route)
  | [] => return []
  | e :: es => do
    let r ← m.buildEntry e
    let rs ← m.buildEntries es
    return r :: rs

/-- Compiles all entries, and raises the event of it if all have a route. -/
def build (m : Manifest) : ExceptT RouteError Logged (List Route) := do
  let routes ← m.buildEntries m.entries
  Logged.raise (.compiledManifest routes.length)
  return routes

end Manifest

end TypedRoutes
