import TypedRoutes.Manifest.Basic
import TypedRoutes.Json.Shape
/-!
# Reading manifests

A manifest is written in JSON. Its own fields may all be left out; an entry needs a handler and a
template, a parameter a name and a type, and a result type a name.
-/
namespace TypedRoutes
open Json

/-- Why a text gives no routes. -/
inductive ManifestError where
  | unreadable (fault : Json.Fault)
  | invalid (error : RouteError)
  deriving DecidableEq

namespace ManifestError

def message : ManifestError → String
  | unreadable fault => s!"invalid route manifest: {fault.message}"
  | invalid error => error.message

/-- The description of what is behind an error, if anything is. -/
def source? : ManifestError → Option String
  | unreadable fault => some fault.message
  | invalid ⟨_, .invalidTemplate _ cause⟩ => some cause.message
  | invalid _ => none

end ManifestError

namespace Manifest

/-- What is within an enclosure, at one depth less. -/
def within {α : Type} (depth : Nat) (inside : Nat → α) : Option α :=
  match depth with
  | 0 => none
  | depth + 1 => some (inside depth)

def readVerb : Reader Verb :=
  Reader.textAs fun s =>
    match Verb.ofName? s.toList with
    | some v => .ok v
    | none => .error (s!"unknown verb '{s}', expected one of " ++ Verb.listing Verb.all)

def readType : Reader ParamType := do
  return ParamType.read (← Reader.text).toList

def readParameter (depth : Nat) : Reader Parameter :=
  Reader.record "Parameter"
    (within depth fun depth =>
      [.of "name" true Reader.text fun p name => { p with name := name },
       .of "type" true readType fun p type => { p with type := type },
       .of "source" false
         (Reader.variant (within depth fun _ => ()) [("path", .path), ("content", .content)])
         fun p source => { p with source := source }])
    ⟨"", .custom "", .path⟩

/-- What has been read of a result type. -/
structure ResultDraft where
  name : String
  markers : List Verb
  inner : Option ReturnType

/-- The result type with the parts that have been read. -/
def ResultDraft.type (d : ResultDraft) : ReturnType :=
  match d.inner with
  | some inner => .future d.name d.markers inner
  | none => .result d.name d.markers

def readResult : Nat → Reader ReturnType
  | 0 => ResultDraft.type <$> Reader.record "ReturnType" none ⟨"", [], none⟩
  | depth + 1 =>
    ResultDraft.type <$>
      Reader.record "ReturnType"
        (some
          [.of "name" true Reader.text fun d name => { d with name := name },
           .of "markers" false (Reader.list (within depth fun _ => readVerb))
             fun d markers => { d with markers := markers },
           .of "future_of" false (Reader.optional (readResult depth))
             fun d inner => { d with inner := inner }])
        ⟨"", [], none⟩

def readEntry (depth : Nat) : Reader Entry :=
  Reader.record "RouteDeclaration"
    (within depth fun depth =>
      [.of "handler" true Reader.text fun e handler => { e with handler := handler },
       .of "template" true Reader.text fun e template => { e with template := template },
       .of "prefix" false (Reader.optional Reader.text) fun e base => { e with base := base },
       .of "parameters" false (Reader.list (within depth readParameter))
         fun e parameters => { e with parameters := parameters },
       .of "verb" false (Reader.optional readVerb) fun e tag => { e with tag := tag },
       .of "returns" false (Reader.optional (readResult depth))
         fun e returns => { e with returns := returns }])
    ⟨"", "", none, [], none, none⟩

def readOptions (depth : Nat) : Reader Bool :=
  Reader.record "CompileOptions"
    (within depth fun _ => [.of "case_insensitive" false Reader.boolean fun _ b => b])
    false

def readManifest (depth : Nat) : Reader Manifest :=
  Reader.record "RouteManifest"
    (within depth fun depth =>
      [.of "prefix" false (Reader.optional Reader.text) fun m base => { m with base := base },
       .of "options" false (readOptions depth)
         fun m foldsCase => { m with foldsCase := foldsCase },
       .of "routes" false (Reader.list (within depth readEntry))
         fun m entries => { m with entries := entries }])
    ⟨none, false, []⟩

/-- The manifest that a text holds. -/
def ofText (s : String) : Except Json.Fault Manifest :=
  Reader.document (readManifest depthLimit) s

/-- The routes of the manifest that a text holds. -/
def load (s : String) : ExceptT ManifestError Logged (List Route) :=
  match ofText s with
  | .ok m => ExceptT.adapt .invalid m.build
  | .error fault => throw (.unreadable fault)

end Manifest

end TypedRoutes
