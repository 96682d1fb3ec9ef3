import Templating.Text.Classes
import Templating.Text.Lines

set_option autoImplicit false

/-! # Lines and parts that are put together

What `Text/Lines` takes apart comes back: the lines of a text that was written line by line,
what follows a fixed beginning, and the parts around a separator. Lines are kept from breaking
by one property, `NoControl`: a text without control characters holds neither a line feed nor
a carriage return. The lines of some text are any lines without line feed (`exists_lines_iff`).
-/

namespace Templating.Text

/-! ## Texts without control characters -/

/-- The text holds no control character. -/
def NoControl (text : List Char) : Prop := ∀ c ∈ text, isControl c = false

instance : DecidablePred NoControl := fun text =>
  List.decidableBAll (fun c => isControl c = false) text

@[simp] theorem noControl_nil : NoControl [] := fun _ h => absurd h List.not_mem_nil

@[simp] theorem noControl_cons {c : Char} {text : List Char} :
    NoControl (c :: text) ↔ isControl c = false ∧ NoControl text := by
  simp [NoControl]

@[simp] theorem noControl_append {a b : List Char} :
    NoControl (a ++ b) ↔ NoControl a ∧ NoControl b := by
  simp only [NoControl, List.mem_append, or_imp, forall_and]

/-! ## Lines -/

/-- A character that cannot begin a line end belongs to the first line. -/
theorem lines_cons {c : Char} (hc : isControl c = false) (rest : List Char) :
    lines (c :: rest) = match lines rest with
      | [] => [[c]]
      | line :: more => (c :: line) :: more := by
  refine lines.eq_4 c rest ?_ ?_
  · rintro rfl
    exact absurd hc (by decide)
  · rintro _ rfl
    exact absurd hc (by decide)

/-- The first line of a text is what was written before its line feed. -/
theorem lines_append_newline {line : List Char} (h : NoControl line) (rest : List Char) :
    lines (line ++ '\n' :: rest) = line :: lines rest := by
  induction line with
  | nil => simp [lines]
  | cons c line ih =>
      obtain ⟨hc, hline⟩ := noControl_cons.mp h
      rw [List.cons_append, lines_cons hc, ih hline]

/-- **Lines are read back** from a text in which each of them ends with a line feed. -/
theorem lines_flatMap_newline {ls : List (List Char)} (h : ∀ line ∈ ls, NoControl line) :
    lines (ls.flatMap (· ++ ['\n'])) = ls := by
  induction ls with
  | nil => simp [lines]
  | cons line ls ih =>
      have hflat : (line :: ls).flatMap (· ++ ['\n']) =
          line ++ '\n' :: ls.flatMap (· ++ ['\n']) := by simp
      rw [hflat, lines_append_newline (h line List.mem_cons_self),
        ih fun l hl => h l (List.mem_cons_of_mem line hl)]

/-- A line holds no line feed. -/
theorem newline_not_mem_of_mem_lines {text line : List Char} (h : line ∈ lines text) :
    '\n' ∉ line := by
  fun_induction lines text generalizing line with
  | case1 => exact absurd h List.not_mem_nil
  | case2 rest ih =>
      rcases List.mem_cons.mp h with rfl | h
      · exact List.not_mem_nil
      · exact ih h
  | case3 rest ih =>
      rcases List.mem_cons.mp h with rfl | h
      · exact List.not_mem_nil
      · exact ih h
  | case4 c rest hc _ hrest ih =>
      obtain rfl := List.mem_singleton.mp h
      exact fun hmem => hc (List.mem_singleton.mp hmem).symm
  | case5 c rest hc _ first more hrest ih =>
      rw [hrest] at ih
      rcases List.mem_cons.mp h with rfl | h
      · have hfirst := ih List.mem_cons_self
        exact fun hmem => (List.mem_cons.mp hmem).elim (fun h => hc h.symm) hfirst
      · exact ih (List.mem_cons_of_mem first h)

/-- A line that ends with a carriage return and a line feed may itself end with a carriage
return. -/
theorem lines_append_crlf {line : List Char} (h : '\n' ∉ line) (rest : List Char) :
    lines (line ++ '\r' :: '\n' :: rest) = line :: lines rest := by
  induction line with
  | nil => simp [lines]
  | cons c line ih =>
      rw [List.mem_cons, not_or] at h
      have hstep : lines (c :: (line ++ '\r' :: '\n' :: rest)) =
          match lines (line ++ '\r' :: '\n' :: rest) with
          | [] => [[c]]
          | line :: more => (c :: line) :: more := by
        refine lines.eq_4 c _ (fun hc => h.1 hc.symm) ?_
        -- what follows the character begins with no line feed
        rintro more - hmore
        cases line with
        | nil => cases hmore
        | cons d line => exact h.2 (by rw [← (List.cons.inj hmore).1]; exact List.mem_cons_self)
      rw [List.cons_append, hstep, ih h.2]

/-- **Lines are any texts without line feed.** -/
theorem exists_lines_iff {ls : List (List Char)} :
    (∃ text, lines text = ls) ↔ ∀ line ∈ ls, '\n' ∉ line := by
  constructor
  · rintro ⟨text, rfl⟩ line hline
    exact newline_not_mem_of_mem_lines hline
  · intro h
    refine ⟨ls.flatMap (· ++ ['\r', '\n']), ?_⟩
    induction ls with
    | nil => simp [lines]
    | cons line ls ih =>
        obtain ⟨hline, hls⟩ := List.forall_mem_cons.mp h
        rw [List.flatMap_cons, List.append_assoc, List.cons_append, List.singleton_append,
          lines_append_crlf hline, ih hls]

/-! ## Parts of a line -/

@[simp] theorem after?_append (lead text : List Char) : after? lead (lead ++ text) = some text := by
  induction lead with
  | nil => simp [after?]
  | cons l lead ih => simp [after?, ih]

/-- A text that begins differently does not begin with `lead`. -/
theorem after?_cons_ne {l c : Char} (h : l ≠ c) (lead text : List Char) :
    after? (l :: lead) (c :: text) = none := by
  simp [after?, h]

/-- A separator whose first character is not in the part before it is found right there. -/
theorem cut?_append {s : Char} {before : List Char} (h : s ∉ before) (separator rest : List Char) :
    cut? (s :: separator) (before ++ s :: separator ++ rest) = some (before, rest) := by
  induction before with
  | nil =>
      have hfound : after? (s :: separator) (s :: (separator ++ rest)) = some rest :=
        after?_append (s :: separator) rest
      simp [cut?, hfound]
  | cons c before ih =>
      have hne : s ≠ c := fun hsc => h (hsc ▸ List.mem_cons_self)
      have htail := ih fun hmem => h (List.mem_cons_of_mem c hmem)
      rw [List.append_assoc] at htail
      simp only [List.cons_append] at htail
      simp only [List.cons_append, List.append_assoc, cut?, after?_cons_ne hne, htail,
        Option.map_some]

end Templating.Text
