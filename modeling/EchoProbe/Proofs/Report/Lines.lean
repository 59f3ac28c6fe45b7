import EchoProbe.Proofs.Text.OneLine
import EchoProbe.Proofs.Report.Shown

/-!
# How many lines a report has

A report is rendered as so many lines, and the text has exactly as many if nothing that stands
in one of them breaks it (`lineCount_render_iff`). What the renderer words itself does not;
what is left is the address, the reason of a failure, and what is said of the welcome and of
the exchanges.
-/

namespace EchoProbe

open Text

/-- **How many lines a text has**, each of which ends with a line feed. -/
def lineCount (text : String) : Nat := text.toList.count '\n'

/-- A line that is one. -/
def LineIsOne (line : Line) : Prop := ∀ span ∈ line, OneLine span.text.toList

theorem oneLine_flatMap_iff (line : Line) :
    OneLine (line.flatMap (Span.toChars false)) ↔ LineIsOne line :=
  lineLacks_iff.symm

theorem count_linesChars_cons (line : Line) (lines : List Line) :
    (linesChars false (line :: lines)).count '\n'
      = (line.flatMap (Span.toChars false)).count '\n' + 1
        + (linesChars false lines).count '\n' := by
  rw [linesChars, List.flatMap_cons, List.count_append, List.count_append,
    List.count_singleton_self]
  rfl

theorem length_le_count_linesChars (lines : List Line) :
    lines.length ≤ (linesChars false lines).count '\n' := by
  induction lines with
  | nil => exact Nat.zero_le _
  | cons line lines ih =>
    rw [count_linesChars_cons, List.length_cons]
    omega

/-- **A text has as many lines as it is made of** exactly if each of them is one. -/
theorem lineCount_renderLines_iff (lines : List Line) :
    lineCount (renderLines false lines) = lines.length ↔ ∀ line ∈ lines, LineIsOne line := by
  rw [lineCount, renderLines, String.toList_ofList]
  induction lines with
  | nil => exact iff_of_true rfl (List.forall_mem_nil _)
  | cons line lines ih =>
    have hle := length_le_count_linesChars lines
    have hline : (line.flatMap (Span.toChars false)).count '\n' = 0 ↔ LineIsOne line := by
      rw [List.count_eq_zero, ← oneLine_flatMap_iff]
      exact Iff.rfl
    rw [List.forall_mem_cons, ← ih, ← hline, count_linesChars_cons, List.length_cons]
    omega

/-! ## Reports -/

namespace Report

variable (r : Report)

/-- **Nothing in what a report shows breaks the line.** -/
structure ShowsOneLine : Prop where
  target : OneLine r.target.toList
  outcome : OneLine r.outcome.toText.toList
  /-- Without an upgrade nothing is said of the welcome and of the exchanges. -/
  welcome : r.upgrade = true → OneLine r.welcome.detail.toList
  exchanges : r.upgrade = true → ∀ e ∈ r.exchanges, OneLine e.check.detail.toList

instance : Decidable r.ShowsOneLine :=
  decidable_of_iff
    (OneLine r.target.toList ∧ OneLine r.outcome.toText.toList ∧
      (r.upgrade = true → OneLine r.welcome.detail.toList) ∧
      (r.upgrade = true → ∀ e ∈ r.exchanges, OneLine e.check.detail.toList))
    ⟨fun ⟨htarget, houtcome, hwelcome, hexchanges⟩ => ⟨htarget, houtcome, hwelcome, hexchanges⟩,
      fun ⟨htarget, houtcome, hwelcome, hexchanges⟩ => ⟨htarget, houtcome, hwelcome, hexchanges⟩⟩

theorem length_exchangeLines (index : Nat) (exchanges : List Exchange) :
    (exchangeLines index exchanges).length = exchanges.length := by
  induction exchanges generalizing index with
  | nil => rfl
  | cons e es ih => rw [exchangeLines, List.length_cons, ih, List.length_cons]

theorem length_lines :
    r.lines.length = if r.upgrade then r.exchanges.length + 6 else 3 := by
  unfold lines
  cases r.upgrade with
  | false => rfl
  | true =>
    simp only [if_true, detailLines, List.length_cons, List.length_append, length_exchangeLines,
      List.length_nil]

variable {r}

/-- A report shows no line feed exactly if it quotes none. -/
theorem showsOneLine_iff : r.ShowsOneLine ↔ ∀ text ∈ r.quotations, OneLine text.toList := by
  have hnewline : IsControl '\n' := by decide
  have houtcome : OneLine r.outcome.toText.toList ↔
      ∀ text ∈ r.outcome.reasons, OneLine text.toList := r.outcome.not_mem_toText_iff hnewline
  have hdetail : ∀ check : Check, OneLine check.detail.toList ↔
      ∀ text ∈ check.reasons, OneLine text.toList := fun check => check.not_mem_detail_iff hnewline
  have hfields : r.ShowsOneLine ↔ OneLine r.target.toList ∧ OneLine r.outcome.toText.toList ∧
      (r.upgrade = true → OneLine r.welcome.detail.toList ∧
        ∀ e ∈ r.exchanges, OneLine e.check.detail.toList) :=
    ⟨fun h => ⟨h.target, h.outcome, fun hup => ⟨h.welcome hup, h.exchanges hup⟩⟩,
      fun ⟨htarget, houtcome, h⟩ => ⟨htarget, houtcome, fun hup => (h hup).1, fun hup => (h hup).2⟩⟩
  simp only [hfields, houtcome, hdetail, quotations, List.cons_append, List.forall_mem_cons,
    List.forall_mem_append]
  cases r.upgrade with
  | false => simp
  | true => simp only [if_true, forall_const, List.forall_mem_append, List.forall_mem_flatMap]

theorem lineIsOne_lines_iff : (∀ line ∈ r.lines, LineIsOne line) ↔ r.ShowsOneLine :=
  (r.lineLacks_lines_iff (by decide)).trans showsOneLine_iff.symm

/-- **A report has its lines and no others** exactly if nothing in it breaks one. -/
theorem lineCount_render_iff :
    lineCount (r.render false) = (if r.upgrade then r.exchanges.length + 6 else 3)
      ↔ r.ShowsOneLine := by
  rw [← length_lines, render, lineCount_renderLines_iff, lineIsOne_lines_iff]

end Report

end EchoProbe
