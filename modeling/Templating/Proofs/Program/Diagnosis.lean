import Mathlib.Order.Bounds.Defs
import Templating.Proofs.Program.Grammar
import Templating.Proofs.Program.RoundTrip

set_option autoImplicit false

/-! # What an error points at

A text that is no program is reported with the number of a line. That line is the first one that
cannot be saved: the lines before it are the beginning of a program, and with it they are no
longer, whatever follows (`pinpoints_of_read`). The errors of a text that has ended too early are
an exception, and exactly they: the whole text is then the beginning of a program.

This is so because the reader is never stuck. From every stage some lines lead to the end of a
program (`Stage.completable`), so a beginning of a program is a list of lines that the reader
takes (`extendable_iff`), and an error stands at the first line that it does not take
(`Stage.run_eq_error`).
-/

namespace Templating

open Text

/-- Some text with this name is a program and has these lines first. -/
def Extendable (name : String) (ls : List (List Char)) : Prop :=
  ∃ body more p, lines body.toList = ls ++ more ∧ (Source.mk name body).read = .ok p

/-- Whether a part of the program is missing, as opposed to a line being wrong. -/
def Malformed.isMissing : Malformed → Bool
  | empty | noSlots | noBound | noOpening | noEnd => true
  | _ => false

/-- The text has ended before the program. That slots are missing may also show at a line; it
shows at the end of the text if only the header is there. -/
def Source.EndsEarly (source : Source) (e : SyntaxError) : Prop :=
  e.cause.isMissing = true ∧ (e.cause = .noSlots → source.content.length = 1)

/-! ## Errors at a line and at the end -/

section NotMissing

variable {declared : Nat} {text : List Char} {cause : Malformed}

theorem not_isMissing_of_readSlotName (h : readSlotName text = .error cause) :
    cause.isMissing = false := by
  unfold readSlotName at h
  split at h <;> cases h
  rfl

theorem not_isMissing_of_readSlotRef (h : readSlotRef declared text = .error cause) :
    cause.isMissing = false := by
  unfold readSlotRef at h
  split at h
  · next hname =>
      cases h
      exact not_isMissing_of_readSlotName hname
  · split at h <;> cases h
    rfl

theorem not_isMissing_of_readSlot (h : readSlot declared text = .error cause) :
    cause.isMissing = false := by
  unfold readSlot at h
  split at h
  · cases h
    rfl
  split at h
  · next hname =>
      cases h
      exact not_isMissing_of_readSlotName hname
  split at h
  · cases h
    rfl
  split at h
  · cases h
    rfl
  · split at h <;> cases h
    rfl

theorem not_isMissing_of_readOpening (h : readOpening declared text = .error cause) :
    cause.isMissing = false := by
  unfold readOpening at h
  split at h
  · split at h <;> cases h
    rfl
  · split at h
    · exact not_isMissing_of_readSlotRef (map_eq_error_iff.mp h)
    · cases h
      rfl

theorem not_isMissing_of_readOperand (h : readOperand declared text = .error cause) :
    cause.isMissing = false := by
  unfold readOperand at h
  split at h
  · split at h
    · cases h
      rfl
    · split at h <;> cases h
      rfl
  · split at h <;> cases h <;> rfl
  · split at h <;> cases h
    rfl
  · exact not_isMissing_of_readSlotRef (map_eq_error_iff.mp h)

end NotMissing

namespace Stage

variable {name : String} {line : List Char} {cause : Malformed} {stage : Stage}

/-- At a line nothing is missing but slots. -/
theorem eq_noSlots_of_isMissing (h : step name stage line = .error cause)
    (hmissing : cause.isMissing = true) : stage = slots [] ∧ cause = .noSlots := by
  cases stage with
  | header =>
      simp only [step] at h
      split at h
      · split at h <;> cases h
        cases hmissing
      · cases h
        cases hmissing
  | slots keys =>
      simp only [step] at h
      split at h
      · rw [not_isMissing_of_readSlot (map_eq_error_iff.mp h)] at hmissing
        cases hmissing
      · split at h
        · next hkeys => exact ⟨congrArg slots hkeys, (Except.error.inj h).symm⟩
        · split at h <;> cases h
          cases hmissing
  | opening keys bound =>
      rw [not_isMissing_of_readOpening (map_eq_error_iff.mp h)] at hmissing
      cases hmissing
  | body p =>
      simp only [step] at h
      split at h
      · cases h
      · split at h
        · rw [not_isMissing_of_readOperand (map_eq_error_iff.mp h)] at hmissing
          cases hmissing
        · cases h
          cases hmissing
  | closed p =>
      cases h
      cases hmissing

/-- At the end of the text something is missing. -/
theorem isMissing_of_finish {last : Nat} {e : SyntaxError} (h : stage.finish last = .error e) :
    e.cause.isMissing = true ∧ (e.cause = .noSlots → stage = slots []) ∧
      (e.line = 1 ∨ e.line = last) := by
  unfold finish at h
  split at h <;> cases h
  · exact ⟨rfl, nofun, Or.inl rfl⟩
  · exact ⟨rfl, fun _ => rfl, Or.inl rfl⟩
  · exact ⟨rfl, nofun, Or.inr rfl⟩
  · exact ⟨rfl, nofun, Or.inr rfl⟩
  · exact ⟨rfl, nofun, Or.inr rfl⟩

/-- No line leads back to the header, and only the header to where no slot is declared. -/
theorem advances_of_step {next : Stage} (h : step name stage line = .ok next) :
    next ≠ header ∧ (next = slots [] → stage = header) := by
  cases stage with
  | header =>
      obtain ⟨-, rfl⟩ := step_header_iff.mp h
      exact ⟨nofun, fun _ => rfl⟩
  | slots keys =>
      rcases step_slots_iff.mp h with ⟨key, -, rfl⟩ | ⟨-, bound, -, rfl⟩
      · exact ⟨nofun, fun hnil => absurd (slots.inj hnil) (by simp)⟩
      · exact ⟨nofun, nofun⟩
  | opening keys bound =>
      obtain ⟨first, -, rfl⟩ := step_opening_iff.mp h
      exact ⟨nofun, nofun⟩
  | body p =>
      rcases step_body_iff.mp h with ⟨-, rfl⟩ | ⟨i, -, rfl⟩
      · exact ⟨nofun, nofun⟩
      · exact ⟨nofun, nofun⟩
  | closed p => cases h

theorem eq_or_of_leads_slots_nil {ls : List (List Char)} (h : Leads name stage ls (slots [])) :
    stage = header ∧ ls.length = 1 ∨ stage = slots [] ∧ ls = [] := by
  induction ls generalizing stage with
  | nil => exact Or.inr ⟨leads_nil.mp h, rfl⟩
  | cons line ls ih =>
      obtain ⟨next, hstep, hrest⟩ := leads_cons.mp h
      obtain ⟨hheader, hslots⟩ := advances_of_step hstep
      rcases ih hrest with ⟨hnext, -⟩ | ⟨hnext, rfl⟩
      · exact absurd hnext hheader
      · exact Or.inl ⟨hslots hnext, rfl⟩

/-- Where no slot is declared, one line is read. -/
theorem length_of_leads_slots_nil {ls : List (List Char)}
    (h : Leads name header ls (slots [])) : ls.length = 1 := by
  rcases eq_or_of_leads_slots_nil h with ⟨-, hlength⟩ | ⟨hstage, -⟩
  · exact hlength
  · cases hstage

/-! ## Runs in two parts -/

theorem run_append {n : Nat} {reached : Stage} {ls : List (List Char)}
    (h : run name n stage ls = .ok reached) (more : List (List Char)) :
    run name n stage (ls ++ more) = run name (n + ls.length) reached more := by
  induction ls generalizing n stage with
  | nil =>
      obtain rfl := Except.ok.inj h
      rfl
  | cons line ls ih =>
      rw [List.length_cons, Nat.add_comm ls.length, ← Nat.add_assoc]
      simp only [run] at h
      simp only [List.cons_append, run]
      split at h
      · next hblank =>
          rw [if_pos hblank]
          exact ih h
      · next hblank =>
          rw [if_neg hblank]
          split at h
          · exact ih h
          · cases h

/-- **An error stands at the first line that is not taken.** -/
theorem run_eq_error {n : Nat} {ls : List (List Char)} {e : SyntaxError}
    (h : run name n stage ls = .error e) :
    ∃ before line after reached, ls = before ++ line :: after ∧ e.line = n + before.length ∧
      run name n stage before = .ok reached ∧ line.all isBlank = false ∧
      step name reached line = .error e.cause := by
  induction ls generalizing n stage with
  | nil => cases h
  | cons first ls ih =>
      simp only [run] at h
      split at h
      · next hblank =>
          obtain ⟨before, line, after, reached, rfl, hline, hrun, hstep⟩ := ih h
          refine ⟨first :: before, line, after, reached, rfl, ?_, ?_, hstep⟩
          · rw [hline, List.length_cons]
            omega
          · simp only [run, if_pos hblank]
            exact hrun
      · next hblank =>
          split at h
          · next following hnext =>
              obtain ⟨before, line, after, reached, rfl, hline, hrun, hstep⟩ := ih h
              refine ⟨first :: before, line, after, reached, rfl, ?_, ?_, hstep⟩
              · rw [hline, List.length_cons]
                omega
              · simp only [run, if_neg hblank, hnext]
                exact hrun
          · next cause hcause =>
              obtain rfl := Except.error.inj h
              exact ⟨[], first, ls, stage, rfl, rfl, rfl, by simpa using hblank, hcause⟩

/-- A line that is not taken ends the reading, whatever follows. -/
theorem run_of_step_error {n : Nat} {reached : Stage} {before : List (List Char)}
    (hrun : run name n stage before = .ok reached) (hblank : line.all isBlank = false)
    (hstep : step name reached line = .error cause) (after : List (List Char)) :
    run name n stage (before ++ line :: after) = .error ⟨n + before.length, cause⟩ := by
  rw [run_append hrun]
  simp only [run, hblank, Bool.false_eq_true, if_false, hstep]

/-- What is taken with more lines is taken without them. -/
theorem exists_run_of_append {n : Nat} {final : Stage} {ls more : List (List Char)}
    (h : run name n stage (ls ++ more) = .ok final) :
    ∃ reached, run name n stage ls = .ok reached := by
  cases hrun : run name n stage ls with
  | ok reached => exact ⟨reached, rfl⟩
  | error e =>
      obtain ⟨before, line, after, reached, rfl, -, hbefore, hblank, hstep⟩ := run_eq_error hrun
      rw [List.append_assoc, List.cons_append, run_of_step_error hbefore hblank hstep] at h
      cases h

/-! ## The reader is never stuck -/

/-- From this stage some lines lead to the end of a program. -/
def Completable (name : String) (stage : Stage) : Prop :=
  ∃ more p, (∀ line ∈ more, '\n' ∉ line) ∧ ∀ n, run name n stage more = .ok (closed p)

theorem Completable.of_step {next : Stage} (h : Completable name next)
    (hstep : step name stage line = .ok next) (hline : '\n' ∉ line)
    (hblank : line.all isBlank = false) : Completable name stage := by
  obtain ⟨more, p, hmore, hrun⟩ := h
  refine ⟨line :: more, p, List.forall_mem_cons.mpr ⟨hline, hmore⟩, fun n => ?_⟩
  rw [run_cons hblank hstep]
  exact hrun (n + 1)

/-- **From every stage some lines lead to the end of a program.** -/
theorem completable (hname : '\n' ∉ name.toList) (stage : Stage) : Completable name stage := by
  -- backwards, from the last stage to the first
  have hclosed (p : Program) : Completable name (closed p) :=
    ⟨[], p, fun _ h => absurd h List.not_mem_nil, fun _ => rfl⟩
  have hbody (p : Program) : Completable name (body p) :=
    (hclosed p).of_step (step_endLine name p) (by decide) rfl
  have hopening (keys : List String) (bound : LengthBound) :
      Completable name (opening keys bound) := by
    have hstep : step name (opening keys bound) (Opening.line (.capacity 0))
        = .ok (body ⟨name, keys, bound, .capacity 0, []⟩) := rfl
    exact (hbody _).of_step hstep (by decide) (by decide)
  have hslots {keys : List String} (hkeys : keys ≠ []) : Completable name (slots keys) :=
    (hopening keys ⟨none, none⟩).of_step (step_boundLine name hkeys ⟨none, none⟩) (by decide) rfl
  have hfirst : Completable name (slots []) := by
    have hstep := step_slotLine name "" []
    rw [if_pos (by decide)] at hstep
    exact (hslots (List.cons_ne_nil "" [])).of_step hstep (by decide) (by decide)
  cases stage with
  | header =>
      have hline : '\n' ∉ headerLine name.toList := by
        simpa [headerLine] using hname
      exact hfirst.of_step (step_headerLine name) hline rfl
  | slots keys =>
      by_cases hkeys : keys = []
      · rw [hkeys]
        exact hfirst
      · exact hslots hkeys
  | opening keys bound => exact hopening keys bound
  | body p => exact hbody p
  | closed p => exact hclosed p

end Stage

/-! ## Beginnings of programs -/

/-- A program is read exactly if its lines lead to the end. -/
theorem Source.read_eq_ok_iff_run {source : Source} {p : Program} :
    source.read = .ok p ↔
      Stage.run source.name 1 .header (lines source.body.toList) = .ok (.closed p) := by
  rw [source.read_eq_ok_iff, ← Stage.leads_header_iff, Source.content, Stage.run_eq_ok_iff]

/-- **The beginnings of programs are the lines that the reader takes.** -/
theorem extendable_iff {name : String} (hname : '\n' ∉ name.toList) {ls : List (List Char)}
    (hls : ∀ line ∈ ls, '\n' ∉ line) :
    Extendable name ls ↔ ∃ stage, Stage.run name 1 .header ls = .ok stage := by
  constructor
  · rintro ⟨body, more, p, hlines, hread⟩
    have hrun := Source.read_eq_ok_iff_run.mp hread
    rw [hlines] at hrun
    exact Stage.exists_run_of_append hrun
  · rintro ⟨stage, hrun⟩
    obtain ⟨more, p, hmore, hend⟩ := Stage.completable hname stage
    obtain ⟨text, htext⟩ := exists_lines_iff.mpr (List.forall_mem_append.mpr ⟨hls, hmore⟩)
    have hbody : lines (String.ofList text).toList = ls ++ more := by
      rw [String.toList_ofList, htext]
    refine ⟨String.ofList text, more, p, hbody, Source.read_eq_ok_iff_run.mpr ?_⟩
    rw [hbody, Stage.run_append hrun]
    exact hend _

/-- Lines that the reader does not take begin no program. -/
theorem not_extendable_of_run {name : String} {ls : List (List Char)} {e : SyntaxError}
    (h : Stage.run name 1 .header ls = .error e) : ¬ Extendable name ls := by
  rintro ⟨body, more, p, hlines, hread⟩
  have hrun := Source.read_eq_ok_iff_run.mp hread
  rw [hlines] at hrun
  obtain ⟨reached, hreached⟩ := Stage.exists_run_of_append hrun
  rw [h] at hreached
  cases hreached

/-- What an error says about the text in which it was found. -/
structure Pinpoints (source : Source) (e : SyntaxError) : Prop where
  message : e.message = "line " ++ toString e.line ++ ": " ++ e.cause.message
  one_le : 1 ≤ e.line
  le_length : e.line ≤ max 1 (lines source.body.toList).length
  -- the text has ended too early exactly if it is the beginning of a program
  early : source.EndsEarly e ↔ Extendable source.name (lines source.body.toList)
  -- otherwise the line is the first with which the lines are no longer such a beginning
  first : ¬ source.EndsEarly e →
    IsLeast {n | ¬ Extendable source.name ((lines source.body.toList).take n)} e.line
  -- nothing behind the line changes the error
  same : ¬ source.EndsEarly e → ∀ body : String,
    (lines body.toList).take e.line = (lines source.body.toList).take e.line →
      (Source.mk source.name body).read = .error e

/-- An error at a line. -/
theorem pinpoints_of_run {source : Source} {e : SyntaxError} (hname : '\n' ∉ source.name.toList)
    (h : Stage.run source.name 1 .header (lines source.body.toList) = .error e) :
    Pinpoints source e := by
  obtain ⟨before, line, after, reached, hlines, hline, hrun, hblank, hstep⟩ :=
    Stage.run_eq_error h
  have htake : (lines source.body.toList).take e.line = before ++ [line] := by
    rw [hlines, hline, Nat.add_comm, List.take_length_add_append]
    rfl
  have hearly : ¬ source.EndsEarly e := by
    rintro ⟨hmissing, hcontent⟩
    obtain ⟨rfl, hcause⟩ := Stage.eq_noSlots_of_isMissing hstep hmissing
    have hlength := hcontent hcause
    have hbefore := Stage.length_of_leads_slots_nil (Stage.run_eq_ok_iff.mp hrun)
    rw [Source.content, hlines, List.filter_append, List.filter_cons_of_pos (by simp [hblank]),
      List.length_append, List.length_cons, hbefore] at hlength
    omega
  refine ⟨rfl, by omega, ?_, iff_of_false hearly (not_extendable_of_run h), fun _ => ⟨?_, ?_⟩,
    fun _ body hbody => ?_⟩
  · rw [hlines, hline, List.length_append, List.length_cons]
    omega
  · show ¬ Extendable _ (List.take e.line _)
    rw [htake]
    exact not_extendable_of_run (Stage.run_of_step_error hrun hblank hstep [])
  · intro n hn
    by_contra hlt
    refine hn ((extendable_iff hname ?_).mpr ?_)
    · exact fun line hmem => newline_not_mem_of_mem_lines (List.mem_of_mem_take hmem)
    · rw [hlines, List.take_append_of_le_length (by omega)]
      rw [← List.take_append_drop n before] at hrun
      exact Stage.exists_run_of_append hrun
  · rw [htake] at hbody
    have hbody : lines body.toList = before ++ line :: (lines body.toList).drop e.line := by
      conv_lhs => rw [← List.take_append_drop e.line (lines body.toList), hbody]
      simp
    have herror := Stage.run_of_step_error hrun hblank hstep ((lines body.toList).drop e.line)
    rw [← hbody, ← hline] at herror
    simp only [Source.read, herror]

/-- An error at the end of the text. -/
theorem pinpoints_of_finish {source : Source} {stage : Stage} {e : SyntaxError}
    (hname : '\n' ∉ source.name.toList)
    (hrun : Stage.run source.name 1 .header (lines source.body.toList) = .ok stage)
    (h : stage.finish (max 1 (lines source.body.toList).length) = .error e) :
    Pinpoints source e := by
  obtain ⟨hmissing, hslots, hline⟩ := Stage.isMissing_of_finish h
  have hextendable : Extendable source.name (lines source.body.toList) :=
    (extendable_iff hname fun _ => newline_not_mem_of_mem_lines).mpr ⟨stage, hrun⟩
  have hearly : source.EndsEarly e := by
    refine ⟨hmissing, fun hcause => ?_⟩
    rw [hslots hcause] at hrun
    exact Stage.length_of_leads_slots_nil (Stage.run_eq_ok_iff.mp hrun)
  exact ⟨rfl, by omega, by omega, iff_of_true hearly hextendable, fun h => absurd hearly h,
    fun h => absurd hearly h⟩

/-- **An error points at the first line that cannot be saved**, unless the text is the beginning
of a program and has only ended too early. -/
theorem pinpoints_of_read {source : Source} {e : SyntaxError} (hname : '\n' ∉ source.name.toList)
    (h : source.read = .error e) : Pinpoints source e := by
  simp only [Source.read] at h
  split at h
  · next hrun =>
      obtain rfl := Except.error.inj h
      exact pinpoints_of_run hname hrun
  · next stage hrun => exact pinpoints_of_finish hname hrun h

/-- Among blank lines a bound with one side, and a program that stops at its header. -/
def oneSided : Source := ⟨"u", "\nunit u\n\nslot D0 <- \"k\"\nbound 1\nend\n"⟩

@[inherit_doc oneSided]
def bareHeader : Source := ⟨"u", "\n\nunit u\n"⟩

/-- The bound is what cannot be saved; the header can be followed by the rest of a program. -/
theorem pinpoints_of_read_oneSided :
    '\n' ∉ oneSided.name.toList ∧ oneSided.read = .error ⟨5, .boundSyntax⟩ ∧
      Pinpoints oneSided ⟨5, .boundSyntax⟩ ∧
      IsLeast {n | ¬ Extendable "u" ((lines oneSided.body.toList).take n)} 5 ∧
      bareHeader.read = .error ⟨1, .noSlots⟩ ∧ Extendable "u" (lines bareHeader.body.toList) := by
  have hbound : oneSided.read = .error ⟨5, .boundSyntax⟩ := by decide +kernel
  have hheader : bareHeader.read = .error ⟨1, .noSlots⟩ := by decide +kernel
  have hpinpoints := pinpoints_of_read (by decide) hbound
  have hearly : bareHeader.EndsEarly ⟨1, .noSlots⟩ := ⟨rfl, fun _ => by decide +kernel⟩
  exact ⟨by decide, hbound, hpinpoints, hpinpoints.first fun h => absurd h.1 (by decide), hheader,
    (pinpoints_of_read (by decide) hheader).early.mp hearly⟩

end Templating
