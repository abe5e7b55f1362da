import Mathlib.Data.List.TakeWhile
import TypedRoutes.Text.Trim
/-!
# Ends of texts

What is trimmed has no more of the trimmed characters at its ends (`trim_trim`), and such characters around a text
change nothing of what is trimmed (`trim_append`). A leading word and a closing character are taken off exactly the
texts that have them (`afterWord?_eq_some_iff`, `beforeLast?_eq_some_iff`).
-/
namespace TypedRoutes.Text
variable {p : Char → Bool} {c : Char} {cs : List Char}

/-! ## Trimming -/

theorem trimEnd_prefix_self (p : Char → Bool) (cs : List Char) : trimEnd p cs <+: cs := by
  rw [trimEnd, ← List.reverse_suffix, List.reverse_reverse]
  exact List.dropWhile_suffix p

theorem trimEnd_subset (p : Char → Bool) (cs : List Char) : trimEnd p cs ⊆ cs :=
  (trimEnd_prefix_self p cs).subset

theorem trimEnd_eq_self (h : ∀ c ∈ cs.getLast?, p c = false) : trimEnd p cs = cs := by
  rw [← List.head?_reverse] at h
  rw [trimEnd, List.reverse_eq_iff]
  cases hr : cs.reverse with
  | nil => rfl
  | cons c rest => rw [List.dropWhile_cons, h c (by rw [hr]; rfl), if_neg (by simp)]

theorem getLast?_trimEnd (h : (trimEnd p cs).getLast? = some c) : p c = false := by
  have hnot := List.head?_dropWhile_not p cs.reverse
  rw [trimEnd, List.getLast?_reverse] at h
  rw [h] at hnot
  simpa using hnot

theorem trim_eq_self (hhead : ∀ c ∈ cs.head?, p c = false) (hlast : ∀ c ∈ cs.getLast?, p c = false) :
    trim p cs = cs := by
  have hstart : cs.dropWhile p = cs := by
    cases cs with
    | nil => rfl
    | cons c cs => rw [List.dropWhile_cons, hhead c rfl, if_neg (by simp)]
  rw [trim, hstart, trimEnd_eq_self hlast]

theorem head?_trim (h : (trim p cs).head? = some c) : p c = false := by
  have hnot := List.head?_dropWhile_not p cs
  obtain ⟨rest, hrest⟩ := trimEnd_prefix_self p (cs.dropWhile p)
  have hhead : (cs.dropWhile p).head? = some c := by
    rw [← hrest, List.head?_append]
    change ((trim p cs).head?.or _) = _
    rw [h]
    rfl
  rw [hhead] at hnot
  simpa using hnot

/-- To trim twice is to trim once. -/
theorem trim_trim (p : Char → Bool) (cs : List Char) : trim p (trim p cs) = trim p cs :=
  trim_eq_self (fun _ hc => head?_trim hc) fun _ hc => getLast?_trimEnd hc

theorem trimEnd_append {behind : List Char} (h : ∀ c ∈ behind, p c = true) (cs : List Char) :
    trimEnd p (cs ++ behind) = trimEnd p cs := by
  rw [trimEnd, List.reverse_append, List.dropWhile_append_of_pos fun c hc => h c (List.mem_reverse.1 hc), trimEnd]

/-- What is trimmed off does not change what is left. -/
theorem trim_append {before behind : List Char} (hb : ∀ c ∈ before, p c = true) (ha : ∀ c ∈ behind, p c = true)
    (cs : List Char) : trim p (before ++ cs ++ behind) = trim p cs := by
  have hbehind : behind.dropWhile p = [] := List.dropWhile_eq_nil_iff.2 ha
  rw [trim, List.append_assoc, List.dropWhile_append_of_pos hb, List.dropWhile_append, trim]
  split
  · rename_i he
    rw [hbehind, List.isEmpty_iff.1 he]
  · rw [trimEnd_append ha]

/-- A text is what is left of it between characters that are trimmed. -/
theorem eq_around_trim (p : Char → Bool) (cs : List Char) : ∃ behind, cs = cs.takeWhile p ++ trim p cs ++ behind ∧
    (∀ c ∈ cs.takeWhile p, p c = true) ∧ ∀ c ∈ behind, p c = true := by
  refine ⟨((cs.dropWhile p).reverse.takeWhile p).reverse, ?_, fun _ hc => List.mem_takeWhile_imp hc,
    fun _ hc => List.mem_takeWhile_imp (List.mem_reverse.1 hc)⟩
  rw [trim, trimEnd, List.append_assoc, ← List.reverse_append, List.takeWhile_append_dropWhile, List.reverse_reverse,
    List.takeWhile_append_dropWhile]

/-! ## Words at the ends -/

theorem afterWord?_eq_some_iff {word rest : List Char} : afterWord? word cs = some rest ↔ cs = word ++ rest := by
  induction word generalizing cs with
  | nil => rw [afterWord?, Option.some.injEq, List.nil_append]
  | cons w word ih =>
    cases cs with
    | nil => simp [afterWord?]
    | cons c cs =>
      rw [afterWord?, List.cons_append, List.cons.injEq, ← ih]
      split
      · rename_i hc
        simp [hc]
      · rename_i hc
        simp [Ne.symm hc]

theorem beforeLast?_eq_some_iff {front : List Char} : beforeLast? c cs = some front ↔ cs = front ++ [c] := by
  fun_induction beforeLast? c cs generalizing front with
  | case1 => simp
  | case2 => cases front <;> simp
  | case3 d hd => cases front <;> simp [hd]
  | case4 d e ds ih =>
    cases front with
    | nil => simp
    | cons f front => simpa [ih] using and_comm

end TypedRoutes.Text
