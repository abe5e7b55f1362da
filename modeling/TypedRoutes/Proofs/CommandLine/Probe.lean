import TypedRoutes.CommandLine.Run
import TypedRoutes.Proofs.Manifest.Compilation
import TypedRoutes.Proofs.Route.Extraction
/-!
# What a probe answers

A probe looks for the first route of a manifest that serves a verb and matches a URI. `run_probe` says what is printed
for every manifest: the log alone if it has no routes to give, a line that says so if none of them answers, and
otherwise the line of the first that does, and its values behind it. Matching and extraction agree on every route, so a
route that answers is never found not to match after all; all that can go wrong is that a text is no value.
-/
namespace TypedRoutes.CommandLine

/-! ## Lines of the log and of a route -/

/-- The log of a run. -/
def logLines (verbose : Bool) (events : List Event) : List String :=
  shown (if verbose then .debug else .info) events

theorem take_routeLine (r : Route) : (routeLine r).toList.take 3 = r.verb.name.toList.take 3 := by
  cases hv : r.verb <;> simp [routeLine, hv, toString, Verb.name]

theorem take_line (e : Event) : e.line.toList.take 3 = e.level.label.toList.take 3 := by
  cases hl : e.level <;> simp [Event.line, hl, Level.label]

/-- A verb and a level can be told apart by their first three letters, which `DELETE` and `DEBUG` need. -/
theorem take_name_ne_take_label (v : Verb) (l : Level) : v.name.toList.take 3 ≠ l.label.toList.take 3 := by
  cases v <;> cases l <;> decide

/-- The line of a route is never found in a log. -/
theorem routeLine_not_mem_logLines (r : Route) (verbose : Bool) (events : List Event) :
    routeLine r ∉ logLines verbose events := by
  intro hm
  obtain ⟨e, -, he⟩ := List.mem_map.1 hm
  have htake := take_routeLine r
  rw [← he, take_line] at htake
  exact take_name_ne_take_label _ _ htake.symm

theorem routeLine_ne_noRoute (r : Route) (uri : String) : routeLine r ≠ "No route matches " ++ uri := by
  intro h
  have htake := take_routeLine r
  rw [h] at htake
  cases hv : r.verb <;> rw [hv] at htake <;> simp [Verb.name] at htake

/-! ## The route that answers -/

/-- A route answers for a verb, or for any, if it serves it and matches the URI. -/
def Serves (uri : String) (verb : Option Verb) (r : Route) : Prop :=
  (∀ v ∈ verb, v = r.verb) ∧ r.isMatch uri = true

section FirstRoute
variable {routes : List Route} {uri : String} {verb : Option Verb}

theorem serves_iff {r : Route} :
    Serves uri verb r ↔ verb.all (· == r.verb) = true ∧ r.isMatch uri = true := by
  unfold Serves
  cases verb <;> simp

theorem firstRoute?_eq_some_iff {r : Route} : firstRoute? routes uri verb = some r ↔ ∃ before after,
    routes = before ++ r :: after ∧ (∀ other ∈ before, ¬ Serves uri verb other) ∧ Serves uri verb r := by
  rw [firstRoute?, List.find?_filter, List.find?_eq_some_iff_append]
  simp only [serves_iff, decide_eq_true_eq, Bool.not_eq_true', decide_eq_false_iff_not]
  constructor
  · rintro ⟨hs, before, after, hsplit, hb⟩
    exact ⟨before, after, hsplit, hb, hs⟩
  · rintro ⟨before, after, hsplit, hb, hs⟩
    exact ⟨hs, before, after, hsplit, hb⟩

theorem firstRoute?_eq_none_iff : firstRoute? routes uri verb = none ↔ ∀ r ∈ routes, ¬ Serves uri verb r := by
  rw [firstRoute?, List.find?_filter, List.find?_eq_none]
  simp only [serves_iff, decide_eq_true_eq]

end FirstRoute

/-! ## The lines behind the line of a route -/

/-- What is printed of the values of a route: a line for each parameter, in order, or one line that names a parameter
whose text is no value of its type. -/
inductive Bindings (r : Route) (uri : String) : List String → Prop
  | bound {vs : List Value} (hv : (r.extract uri).run.value = .ok vs)
      (hc : List.Forall₂ (fun p v => v.conformsTo p.type = true) r.pathParameters vs) :
      Bindings r uri (List.zipWith valueLine r.pathParameters vs)
  | failed {p : Parameter} {raw : String} {reason : ReadFault} (hp : p ∈ r.pathParameters)
      (he : (r.extract uri).run.value = .error (.conversion p.name p.type raw reason)) :
      Bindings r uri ["  binding failed: " ++ (BindError.conversion p.name p.type raw reason).message]

/-- A route that matches has values, or fails for one of them. -/
theorem bindings_of_isMatch {r : Route} {uri : String} (h : r.WellFormed) (hm : r.isMatch uri = true) :
    Bindings r uri (bindingLines r (r.extract uri).run.value) := by
  obtain ⟨captures, hc⟩ := h.exists_captures hm
  rcases h.extract_cases hc with ⟨vs, hv, hb⟩ | ⟨before, p, after, raw, reason, hsplit, -, -, -, he⟩
  · have hlines : bindingLines r (r.extract uri).run.value = List.zipWith valueLine r.pathParameters vs := by
      rw [hv, bindingLines, List.zip, List.map_zipWith]
    rw [hlines]
    exact .bound (by rw [hv]) (hb.imp fun p v hpv => hpv.conformsTo)
  · have hp : p ∈ r.pathParameters := by
      rw [hsplit]
      simp
    have hvalue : (r.extract uri).run.value = .error (.conversion p.name p.type (String.ofList raw) reason) := by
      rw [he]
    have hlines := Bindings.failed hp hvalue
    rw [hvalue]
    exact hlines

/-! ## Runs -/

section Load
variable {read : String → Except FileFault String} {name text : String}

theorem load_of_unreadable {fault : Json.Fault} (hr : read name = .ok text) (ht : Manifest.ofText text = .error fault) :
    (load read name).run = ⟨.error (.manifest (.unreadable fault)), []⟩ := by
  simp only [load, hr, Manifest.load, ht]
  rfl

theorem load_of_manifest {m : Manifest} (hr : read name = .ok text) (ht : Manifest.ofText text = .ok m) :
    (load read name).run =
      ⟨m.build.run.value.mapError fun error => .manifest (.invalid error), m.build.run.events⟩ := by
  simp only [load, hr, Manifest.load, ht, Logged.run_adapt]
  cases m.build.run.value <;> rfl

end Load

section Run
variable {read : String → Except FileFault String} {args : List String} {verbose : Bool} {name uri : String}
  {verb : Option Verb} {events : List Event}
variable (h : Request.ofArguments args = .ok (.run verbose (.probe name uri verb)))
include h

theorem run_of_failure {f : Failure} (hl : (load read name).run = ⟨.error f, events⟩) :
    run read args = failed (logLines verbose events) f := by
  simp only [run, h, runCommand, hl]
  rfl

theorem run_of_routes {routes : List Route} (hl : (load read name).run = ⟨.ok routes, events⟩) :
    run read args =
      match firstRoute? routes uri verb with
      | none => failed (logLines verbose events ++ ["No route matches " ++ uri]) (.noRoute uri)
      | some r => success (logLines verbose events ++ routeLine r ::
          (logLines verbose (r.extract uri).run.events ++ bindingLines r (r.extract uri).run.value)) := by
  simp only [run, h, runCommand, hl]
  rfl

end Run

/-- A probe of a manifest that cannot be read or compiled fails, and prints its log only. Otherwise it succeeds exactly
if a route answers. Behind the log it prints the first one that does and what is bound, or that there is none; neither
that nor the log looks like the line of a route. -/
theorem run_probe {read : String → Except FileFault String} {args : List String} {verbose : Bool}
    {name uri text : String} {verb : Option Verb}
    (h : Request.ofArguments args = .ok (.run verbose (.probe name uri verb))) (hr : read name = .ok text) :
    (∀ fault, Manifest.ofText text = .error fault → (run read args).exitCode ≠ 0 ∧ (run read args).output = "") ∧
    (∀ m error, Manifest.ofText text = .ok m → m.build.run.value = .error error →
      (run read args).exitCode ≠ 0 ∧ (run read args).output = unlines (logLines verbose m.build.run.events)) ∧
    (∀ m routes, Manifest.ofText text = .ok m → m.build.run.value = .ok routes →
      ((run read args).exitCode = 0 ↔ ∃ r ∈ routes, Serves uri verb r) ∧
      (∀ before r after, routes = before ++ r :: after → (∀ other ∈ before, ¬ Serves uri verb other) →
        Serves uri verb r → ∃ details, Bindings r uri details ∧
          (run read args).output = unlines (logLines verbose m.build.run.events ++ routeLine r ::
            (logLines verbose (r.extract uri).run.events ++ details))) ∧
      ((∀ r ∈ routes, ¬ Serves uri verb r) → (run read args).output =
        unlines (logLines verbose m.build.run.events ++ ["No route matches " ++ uri]))) ∧
    ∀ r events, routeLine r ∉ logLines verbose events ++ ["No route matches " ++ uri] := by
  refine ⟨fun fault ht => ?_, fun m error ht hb => ?_, fun m routes ht hb => ?_, fun r events => ?_⟩
  · rw [run_of_failure h (load_of_unreadable hr ht)]
    exact ⟨Nat.one_ne_zero, rfl⟩
  · have hl := load_of_manifest hr ht
    rw [hb] at hl
    rw [run_of_failure h hl]
    exact ⟨Nat.one_ne_zero, rfl⟩
  · have hl := load_of_manifest hr ht
    rw [hb] at hl
    rw [run_of_routes h hl]
    cases hf : firstRoute? routes uri verb with
    | none =>
      have hnone := firstRoute?_eq_none_iff.1 hf
      refine ⟨⟨fun hexit => absurd hexit Nat.one_ne_zero, ?_⟩, ?_, fun _ => rfl⟩
      · rintro ⟨r, hm, hs⟩
        exact absurd hs (hnone r hm)
      · rintro before r after rfl - hs
        exact absurd hs (hnone r (by simp))
    | some r =>
      obtain ⟨before, after, hsplit, hbefore, hs⟩ := firstRoute?_eq_some_iff.1 hf
      have hm : r ∈ routes := by
        rw [hsplit]
        simp
      refine ⟨⟨fun _ => ⟨r, hm, hs⟩, fun _ => rfl⟩, ?_, fun hnone => absurd hs (hnone r hm)⟩
      intro before' r' after' hsplit' hbefore' hs'
      have hsame := firstRoute?_eq_some_iff.2 ⟨before', after', hsplit', hbefore', hs'⟩
      rw [hf] at hsame
      cases hsame
      exact ⟨_, bindings_of_isMatch (Manifest.wellFormed_of_build hb r hm) hs.2, rfl⟩
  · simp [routeLine_not_mem_logLines, routeLine_ne_noRoute]

/-- Two routes with one template, of different verbs, as a text. -/
def usersText : String :=
  "\x7b\"routes\":[" ++
    "\x7b\"handler\":\"show\",\"template\":\"/\x7bid\x7d\",\"verb\":\"GET\"," ++
      "\"parameters\":[\x7b\"name\":\"id\",\"type\":\"int\"\x7d]\x7d," ++
    "\x7b\"handler\":\"drop\",\"template\":\"/\x7bid\x7d\",\"verb\":\"DELETE\"," ++
      "\"parameters\":[\x7b\"name\":\"id\",\"type\":\"int\"\x7d]\x7d]\x7d"

/-- The one file that can be read. -/
def usersFile (_ : String) : Except FileFault String :=
  .ok usersText

/-- The entry of a route in `usersText`. -/
def userEntry (handler : String) (verb : Verb) : Entry :=
  ⟨handler, "/{id}", none, [⟨"id", .scalar (.integer .int), .path⟩], some verb, none⟩

/-- The manifest of `usersText`. -/
def users : Manifest :=
  ⟨none, false, [userEntry "show" .get, userEntry "drop" .delete]⟩

/-- A route of `users`. -/
def userRoute (handler : String) (verb : Verb) : Route where
  handler := handler
  verb := verb
  template := .ofTokens false "/{id}".toList [.literal ['/'], .placeholder "id"]
  pathParameters := [⟨"id", .scalar (.integer .int), .path⟩]
  bodyParameter := none

/-- Both routes match, and the second one serves the verb. -/
theorem run_probe_users :
    ∃ details, Bindings (userRoute "drop" .delete) "/one" details ∧
      (run usersFile ["probe", "users.json", "/one", "-X", "delete"]).exitCode = 0 ∧
      (run usersFile ["probe", "users.json", "/one", "-X", "delete"]).output =
        unlines (logLines false users.build.run.events ++ "DELETE /{id} -> drop" ::
          (logLines false ((userRoute "drop" .delete).extract "/one").run.events ++ details)) := by
  have h : Request.ofArguments ["probe", "users.json", "/one", "-X", "delete"] =
      .ok (.run false (.probe "users.json" "/one" (some .delete))) := by rfl
  have hr : usersFile "users.json" = .ok usersText := rfl
  have ht : Manifest.ofText usersText = .ok users := by decide +kernel
  have hb : users.build.run.value = .ok [userRoute "show" .get, userRoute "drop" .delete] := by decide
  have hs : Serves "/one" (some .delete) (userRoute "drop" .delete) := ⟨by simp [userRoute], by decide⟩
  have hbefore : ∀ other ∈ [userRoute "show" .get], ¬ Serves "/one" (some .delete) other := by
    simp [Serves, userRoute]
  obtain ⟨hexit, hfirst, -⟩ := (run_probe h hr).2.2.1 users _ ht hb
  obtain ⟨details, hd, hout⟩ := hfirst _ _ _ rfl hbefore hs
  exact ⟨details, hd, hexit.2 ⟨_, by simp, hs⟩, hout⟩

end TypedRoutes.CommandLine
