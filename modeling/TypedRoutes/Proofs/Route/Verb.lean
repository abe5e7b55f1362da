import Mathlib.Data.List.Perm.Basic
import TypedRoutes.Proofs.Result
import TypedRoutes.Route.Declaration
/-!
# The verb of a result type

The markers of the type under all futures decide, whatever their order and number: `ReturnType.verb_eq_ok_iff` says when
they name one verb, and `ReturnType.verb_eq_error_iff` what is wrong if they do not. Nothing else about the type counts,
neither how many futures it is under nor what these are named and marked (`ReturnType.verb_congr`).
-/
namespace TypedRoutes.ReturnType

/-- The type under all futures is marked with this verb, once or more, and with no other. -/
def Declares (t : ReturnType) (v : Verb) : Prop :=
  ∀ w, w ∈ t.innermost.markers ↔ w = v

@[simp] theorem mem_verbs {t : ReturnType} {v : Verb} : v ∈ t.verbs ↔ v ∈ t.innermost.markers := by
  have hall : v ∈ Verb.all := by cases v <;> decide
  simp [verbs, hall]

theorem verbs_nodup (t : ReturnType) : t.verbs.Nodup :=
  List.Nodup.sublist List.filter_sublist (by decide)

theorem verbs_eq_singleton_iff {t : ReturnType} {v : Verb} : t.verbs = [v] ↔ t.Declares v := by
  constructor
  · intro h w
    rw [← mem_verbs, h, List.mem_singleton]
  · intro h
    refine List.perm_singleton.1 ((List.perm_ext_iff_of_nodup t.verbs_nodup (by simp)).2 fun w => ?_)
    rw [mem_verbs, h w, List.mem_singleton]

theorem verb_eq_ok_iff {t : ReturnType} {v : Verb} : t.verb = .ok v ↔ t.Declares v := by
  rw [← verbs_eq_singleton_iff, verb]
  split
  · rename_i w hw
    simp [hw]
  · rename_i hn
    simp [hn]
  · rename_i hone _
    constructor
    · rintro ⟨⟩
    · intro h
      exact absurd h (hone v)

/-- What is wrong with the markers of a result type: there are none, or two that differ, as the first two of the listed
verbs do if there are several. -/
theorem verb_eq_error_iff {t : ReturnType} {defect : RouteDefect} :
    t.verb = .error defect ↔
      (t.innermost.markers = [] ∧ defect = .unresolvableVerb t.innermost.name) ∨
      ((∃ v ∈ t.innermost.markers, ∃ w ∈ t.innermost.markers, v ≠ w) ∧
        defect = .ambiguousVerb t.innermost.name t.verbs) := by
  have hempty : t.verbs = [] ↔ t.innermost.markers = [] := by
    simp only [List.eq_nil_iff_forall_not_mem, mem_verbs]
  have hseveral : (∃ v ∈ t.innermost.markers, ∃ w ∈ t.innermost.markers, v ≠ w) ↔
      ∃ v ∈ t.verbs, ∃ w ∈ t.verbs, v ≠ w := by
    simp only [mem_verbs]
  rw [← hempty, hseveral, verb]
  have hn := t.verbs_nodup
  split
  · rename_i v hv
    simp [hv]
  · rename_i hnil
    simp [hnil, eq_comm]
  · rename_i hone hnil
    match hvs : t.verbs with
    | [] => exact absurd hvs hnil
    | [v] => exact absurd hvs (hone v)
    | v :: w :: more =>
      have hne : v ≠ w := by
        rintro rfl
        rw [hvs] at hn
        simp at hn
      constructor
      · rintro ⟨⟩
        exact .inr ⟨⟨v, by simp, w, by simp, hne⟩, rfl⟩
      · rintro (⟨⟨⟩, -⟩ | ⟨-, rfl⟩)
        rfl

/-! ## Types under futures -/

/-- A type under futures, each with a name and markers of its own, the outermost first. -/
def underFutures (futures : List (String × List Verb)) (t : ReturnType) : ReturnType :=
  futures.foldr (fun (name, markers) inner => .future name markers inner) t

theorem innermost_underFutures (futures : List (String × List Verb)) (name : String) (markers : List Verb) :
    (underFutures futures (.result name markers)).innermost = .result name markers := by
  induction futures with
  | nil => rfl
  | cons future futures ih => exact ih

/-- Every type is a result under futures, if only under none. -/
theorem exists_underFutures (t : ReturnType) :
    ∃ futures name markers, t = underFutures futures (.result name markers) := by
  induction t with
  | result name markers => exact ⟨[], name, markers, rfl⟩
  | future outer wrapped inner ih =>
    obtain ⟨futures, name, markers, rfl⟩ := ih
    exact ⟨(outer, wrapped) :: futures, name, markers, rfl⟩

/-- The verbs of a type are the list of its markers in which each stands once, in the order of all verbs. -/
theorem eq_verbs_iff {t : ReturnType} {listed : List Verb} :
    listed = t.verbs ↔ listed.Sublist Verb.all ∧ ∀ v, v ∈ listed ↔ v ∈ t.innermost.markers := by
  have hall : Verb.all.Nodup := by decide
  have hverbs : t.verbs.Sublist Verb.all := List.filter_sublist
  constructor
  · rintro rfl
    exact ⟨hverbs, fun v => mem_verbs⟩
  · rintro ⟨hs, hm⟩
    refine (hall.perm_iff_eq_of_sublist hs hverbs).1 ?_
    rw [List.perm_ext_iff_of_nodup (hall.sublist hs) t.verbs_nodup]
    intro v
    rw [hm, mem_verbs]

/-- Under all futures the name and the set of markers decide. -/
theorem verb_congr {t u : ReturnType} (hname : t.innermost.name = u.innermost.name)
    (hmarkers : ∀ v, v ∈ t.innermost.markers ↔ v ∈ u.innermost.markers) : t.verb = u.verb := by
  have hverbs : t.verbs = u.verbs := by
    rw [eq_verbs_iff]
    exact ⟨List.filter_sublist, fun v => mem_verbs.trans (hmarkers v)⟩
  rw [verb, verb, hverbs, hname]

/-- The verb of a result type for a handler, which is told in the error. -/
def verbFor (handler : String) (t : ReturnType) : Except RouteError Verb :=
  t.verb.mapError (⟨handler, ·⟩)

theorem verbFor_eq_ok_iff {handler : String} {t : ReturnType} {v : Verb} :
    t.verbFor handler = .ok v ↔ t.Declares v := by
  rw [← verb_eq_ok_iff]
  constructor
  · exact except_mapError_ok
  · intro h
    rw [verbFor, h]
    rfl

theorem verbFor_eq_error_iff {handler : String} {t : ReturnType} {e : RouteError} :
    t.verbFor handler = .error e ↔
      (t.innermost.markers = [] ∧ e = ⟨handler, .unresolvableVerb t.innermost.name⟩) ∨
      ((∃ v ∈ t.innermost.markers, ∃ w ∈ t.innermost.markers, v ≠ w) ∧
        e = ⟨handler, .ambiguousVerb t.innermost.name t.verbs⟩) := by
  rw [verbFor, except_mapError_error]
  simp only [verb_eq_error_iff]
  constructor
  · rintro ⟨defect, ⟨hm, rfl⟩ | ⟨hm, rfl⟩, rfl⟩
    · exact .inl ⟨hm, rfl⟩
    · exact .inr ⟨hm, rfl⟩
  · rintro (⟨hm, rfl⟩ | ⟨hm, rfl⟩)
    · exact ⟨_, .inl ⟨hm, rfl⟩, rfl⟩
    · exact ⟨_, .inr ⟨hm, rfl⟩, rfl⟩

/-- Of a result under futures the set of its own markers decides. One verb is that of the handler. None is an error, and
so are several, which are listed once each and in the order of all verbs. The futures change nothing of this, and nor
does the order or the number of the markers. -/
theorem verbFor_markers (handler : String) (t : ReturnType) :
    ∃ futures name markers, t = underFutures futures (.result name markers) ∧
      (∀ v, t.verbFor handler = .ok v ↔ ∀ w, w ∈ markers ↔ w = v) ∧
      (∀ e, t.verbFor handler = .error e ↔
        (markers = [] ∧ e = ⟨handler, .unresolvableVerb name⟩) ∨
        ((∃ v ∈ markers, ∃ w ∈ markers, v ≠ w) ∧
          ∃ listed : List Verb, listed.Sublist Verb.all ∧ (∀ v, v ∈ listed ↔ v ∈ markers) ∧
            e = ⟨handler, .ambiguousVerb name listed⟩)) ∧
      ∀ others more, (∀ v, v ∈ more ↔ v ∈ markers) →
        (underFutures others (.result name more)).verbFor handler = t.verbFor handler := by
  obtain ⟨futures, name, markers, rfl⟩ := exists_underFutures t
  have hinner := innermost_underFutures futures name markers
  refine ⟨futures, name, markers, rfl, fun v => ?_, fun e => ?_, fun others more hm => ?_⟩
  · rw [verbFor_eq_ok_iff, Declares, hinner]
    rfl
  · rw [verbFor_eq_error_iff, hinner]
    refine or_congr_right (and_congr_right fun _ => ?_)
    constructor
    · rintro rfl
      obtain ⟨hs, hv⟩ := eq_verbs_iff.1 (Eq.refl (underFutures futures (.result name markers)).verbs)
      rw [hinner] at hv
      exact ⟨_, hs, hv, rfl⟩
    · rintro ⟨listed, hs, hv, rfl⟩
      rw [eq_verbs_iff.2 ⟨hs, by rwa [hinner]⟩]
      rfl
  · have hinner' := innermost_underFutures others name more
    have hverb : (underFutures others (.result name more)).verb =
        (underFutures futures (.result name markers)).verb := by
      refine verb_congr ?_ ?_
      · rw [hinner, hinner']
        rfl
      · rw [hinner, hinner']
        exact hm
    rw [verbFor, hverb, verbFor]

/-- What a future is marked with counts neither for nor against the verbs of its result. -/
example : (underFutures [("Task", [.get]), ("Future", [.post, .put])]
      (.result "Both" [.delete, .get, .delete])).verbFor "users.delete" =
    .error ⟨"users.delete", .ambiguousVerb "Both" [.get, .delete]⟩ := by
  decide

end TypedRoutes.ReturnType
