import TypedRoutes.Proofs.Template.Mounting
/-!
# Joining paths

A template is mounted by what is left of it and of its base path without the slashes at their ends. What is left is
bare, and bare texts are `joined` by a slash where neither is empty, which leaves a bare text again. So a mounted
template has one slash in front and none behind it, to mount it once more changes nothing, and it does not matter which
of several bases are joined first (`mount_canonical`).
-/
namespace TypedRoutes
open Text

/-- A text with no slash at either end. -/
structure Bare (text : List Char) : Prop where
  head : text.head? ≠ some '/'
  last : text.getLast? ≠ some '/'

/-- Two texts with a slash between them, where neither is empty. -/
def joined (front behind : List Char) : List Char :=
  if front = [] then behind else if behind = [] then front else front ++ '/' :: behind

/-- A text with slashes put at its ends. -/
def amidSlashes (before behind : Nat) (text : List Char) : List Char :=
  List.replicate before '/' ++ text ++ List.replicate behind '/'

/-! ## Bare texts -/

theorem bare_trimSlashes (text : List Char) : Bare (trimSlashes text) where
  head h := Bool.noConfusion (head?_trim h : isSlash '/' = false)
  last := getLast?_trimSlashes text

theorem Bare.trimSlashes_eq {text : List Char} (h : Bare text) : trimSlashes text = text := by
  refine trim_eq_self (fun c hc => ?_) fun c hc => ?_
  · rw [isSlash, beq_eq_false_iff_ne]
    rintro rfl
    exact h.head hc
  · rw [isSlash, beq_eq_false_iff_ne]
    rintro rfl
    exact h.last hc

theorem trimSlashes_amidSlashes (before behind : Nat) (text : List Char) :
    trimSlashes (amidSlashes before behind text) = trimSlashes text := by
  refine trim_append (fun c hc => ?_) (fun c hc => ?_) text
  · rw [isSlash_iff, List.eq_of_mem_replicate hc]
  · rw [isSlash_iff, List.eq_of_mem_replicate hc]

/-- The slash in front of a bare text is all that there is to trim. -/
theorem Bare.trimSlashes_slash {text : List Char} (h : Bare text) : trimSlashes ('/' :: text) = text := by
  have hfront : '/' :: text = amidSlashes 1 0 text := by
    rw [amidSlashes, List.replicate_zero, List.append_nil]
    rfl
  rw [hfront, trimSlashes_amidSlashes, h.trimSlashes_eq]

/-! ## Joined texts -/

@[simp] theorem joined_nil_left (text : List Char) : joined [] text = text := rfl

@[simp] theorem joined_nil_right (text : List Char) : joined text [] = text := by
  unfold joined
  split
  · rename_i he
    exact he.symm
  · rfl

theorem joined_of_ne_nil {front behind : List Char} (hf : front ≠ []) (hb : behind ≠ []) :
    joined front behind = front ++ '/' :: behind := by
  rw [joined, if_neg hf, if_neg hb]

/-- The ends of joined texts are ends of theirs. -/
theorem Bare.joined {front behind : List Char} (hf : Bare front) (hb : Bare behind) : Bare (joined front behind) := by
  by_cases hfront : front = []
  · rw [hfront, joined_nil_left]
    exact hb
  by_cases hbehind : behind = []
  · rw [hbehind, joined_nil_right]
    exact hf
  rw [joined_of_ne_nil hfront hbehind]
  constructor
  · rw [List.head?_append_of_ne_nil _ hfront]
    exact hf.head
  · rw [List.getLast?_append_of_ne_nil _ (List.cons_ne_nil _ _), ← List.singleton_append,
      List.getLast?_append_of_ne_nil _ hbehind]
    exact hb.last

theorem joined_assoc (first second third : List Char) :
    joined (joined first second) third = joined first (joined second third) := by
  by_cases h1 : first = []
  · rw [h1, joined_nil_left, joined_nil_left]
  by_cases h2 : second = []
  · rw [h2, joined_nil_right, joined_nil_left]
  by_cases h3 : third = []
  · rw [h3, joined_nil_right, joined_nil_right]
  have h12 : first ++ '/' :: second ≠ [] := by simp
  have h23 : second ++ '/' :: third ≠ [] := by simp
  rw [joined_of_ne_nil h1 h2, joined_of_ne_nil h2 h3, joined_of_ne_nil h12 h3, joined_of_ne_nil h1 h23]
  simp

/-! ## Mounted templates -/

/-- What is left of a base path without the slashes at its ends; nothing, if there is no base. -/
def bareBase (base : Option (List Char)) : List Char :=
  (base.map trimSlashes).getD []

theorem bare_bareBase (base : Option (List Char)) : Bare (bareBase base) := by
  cases base with
  | none => exact ⟨nofun, nofun⟩
  | some base => exact bare_trimSlashes base

theorem bareBase_amidSlashes (before behind : Nat) (base : Option (List Char)) :
    bareBase (base.map (amidSlashes before behind)) = bareBase base := by
  cases base with
  | none => rfl
  | some base => exact trimSlashes_amidSlashes before behind base

/-- A mounted template is a slash and what is left of the base and the template. -/
theorem mount_eq_joined (base : Option (List Char)) (template : List Char) :
    mount base template = '/' :: joined (bareBase base) (trimSlashes template) := by
  cases base with
  | none => rfl
  | some base =>
    by_cases hb : trimSlashes base = []
    · have hmount : mount (some base) template = '/' :: trimSlashes template := by
        rw [mount, Option.map_some, hb]
      rw [hmount, bareBase, Option.map_some, Option.getD_some, hb, joined_nil_left]
    · rw [mount_some hb, belowBase, bareBase, Option.map_some, Option.getD_some, joined, if_neg hb]
      split
      · rw [List.append_nil]
      · rfl

theorem trimSlashes_mount (base : Option (List Char)) (template : List Char) :
    trimSlashes (mount base template) = joined (bareBase base) (trimSlashes template) := by
  rw [mount_eq_joined]
  exact ((bare_bareBase base).joined (bare_trimSlashes template)).trimSlashes_slash

/-- A template that is mounted under one base and then under another is mounted under both, joined. -/
theorem mount_mount (base : Option (List Char)) (inner template : List Char) :
    mount base (mount (some inner) template) = mount (some (mount base inner)) template := by
  have hinner : bareBase (some inner) = trimSlashes inner := rfl
  have houter : bareBase (some (mount base inner)) = trimSlashes (mount base inner) := rfl
  rw [mount_eq_joined base, mount_eq_joined (some (mount base inner)), trimSlashes_mount, houter, trimSlashes_mount,
    hinner, joined_assoc]

/-- A mounted template has one slash in front, and no other at its ends. It is mounted as it is, whatever slashes its
template and its base had at their ends, and bases can be joined in any grouping. -/
theorem mount_canonical (base : Option (List Char)) (template : List Char) :
    (∃ rest, mount base template = '/' :: rest ∧ rest.head? ≠ some '/') ∧
    ((mount base template).getLast? = some '/' → mount base template = ['/']) ∧
    mount none (mount base template) = mount base template ∧
    (∀ i j k l, mount (base.map (amidSlashes i j)) (amidSlashes k l template) = mount base template) ∧
    ∀ inner, mount base (mount (some inner) template) = mount (some (mount base inner)) template := by
  have hbare := (bare_bareBase base).joined (bare_trimSlashes template)
  refine ⟨⟨_, mount_eq_joined base template, hbare.head⟩, (mount_ends base template).2, ?_, fun i j k l => ?_,
    fun inner => mount_mount base inner template⟩
  · rw [mount_none, trimSlashes_mount, ← mount_eq_joined]
  · rw [mount_eq_joined, bareBase_amidSlashes, trimSlashes_amidSlashes, ← mount_eq_joined]

/-- Slashes within a base or a template stay. -/
example : mount (some "//api//v1/".toList) "users/{id}/".toList = "/api//v1/users/{id}".toList := by decide

end TypedRoutes
