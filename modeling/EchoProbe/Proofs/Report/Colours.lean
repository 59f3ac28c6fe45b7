import EchoProbe.Proofs.Report.Shown
import EchoProbe.Proofs.Text.Colours

/-!
# Colours in a report

A report is painted at its marks and at its result. Every line of it is settled where paint
begins and ends (`Report.lineSettled_lines`), also if a text that it quotes breaks off within a
colour sequence, for a bracket or a line feed follows. So the coloured report and the plain one
are the same without colours, whatever they quote (`Report.stripColours_render`), and if they
quote no escape character, that is the plain one (`colours_are_decoration`).
-/

namespace EchoProbe

open Text

theorem lineSettled_markedLine (mark : Mark) (text : String) :
    LineSettled (markedLine mark text) := by
  refine ⟨[plain "  [", mark.span], "] " ++ text, rfl, ?_⟩
  have hfront : escape ∉ (plain "  [").text.toList := by decide
  have hword : escape ∉ mark.span.text.toList := by cases mark <;> decide
  rw [List.forall_mem_cons, List.forall_mem_singleton]
  exact ⟨settled_of_not_mem hfront, settled_of_not_mem hword⟩

namespace Report

theorem lineSettled_exchangeLines (index : Nat) (exchanges : List Exchange) :
    ∀ line ∈ exchangeLines index exchanges, LineSettled line := by
  induction exchanges generalizing index with
  | nil => exact List.forall_mem_nil _
  | cons e es ih => exact List.forall_mem_cons.mpr ⟨lineSettled_markedLine _ _, ih (index + 1)⟩

variable (r : Report)

/-- The reason of a failure stands between brackets. -/
theorem settled_outcomeSpan : Settled r.outcomeSpan.text.toList := by
  unfold outcomeSpan
  cases r.outcome with
  | failed reason =>
    have htext : (painted .bad (Outcome.failed reason).toText).text.toList
        = ("FAILED (" ++ reason).toList ++ [')'] := String.toList_append
    rw [htext]
    exact settled_concat _ (by decide) (by decide) (by decide)
  | _ => exact settled_of_not_mem (by decide)

/-- **Every line is settled where paint begins and ends.** -/
theorem lineSettled_lines : ∀ line ∈ r.lines, LineSettled line := by
  have hdetail : ∀ line ∈ r.detailLines, LineSettled line := by
    rw [detailLines, List.cons_append, List.forall_mem_cons, List.forall_mem_append,
      List.forall_mem_cons, List.forall_mem_singleton]
    exact ⟨lineSettled_markedLine _ _, lineSettled_exchangeLines 0 r.exchanges,
      lineSettled_markedLine _ _, lineSettled_markedLine _ _⟩
  have hresult : LineSettled
      [plain "Result: ", r.outcomeSpan, plain (" in " ++ r.elapsed.toShortText)] := by
    refine ⟨[plain "Result: ", r.outcomeSpan], _, rfl, ?_⟩
    rw [List.forall_mem_cons, List.forall_mem_singleton]
    exact ⟨settled_of_not_mem (by decide), r.settled_outcomeSpan⟩
  rw [lines, List.cons_append, List.forall_mem_cons, List.cons_append, List.forall_mem_cons,
    List.forall_mem_append, List.forall_mem_singleton]
  refine ⟨lineSettled_plain _, lineSettled_markedLine _ _, ?_, hresult⟩
  split
  · exact hdetail
  · exact List.forall_mem_nil _

/-- **Without its colours a report is the plain one without colours**, also if a text that it
quotes has some. -/
theorem stripColours_render : stripColours (r.render true) = stripColours (r.render false) :=
  stripColours_renderLines r.lineSettled_lines

/-- The plain report has an escape character only from a text that it quotes. -/
theorem escape_not_mem_render_iff :
    escape ∉ (r.render false).toList ↔ ∀ text ∈ r.quotations, escape ∉ text.toList := by
  rw [render, not_mem_renderLines_iff (by decide), r.lineLacks_lines_iff (by decide)]

/-- The coloured one always has one: the upgrade has a mark. -/
theorem escape_mem_render : escape ∈ (r.render true).toList := by
  have hmark : escape ∈ r.upgradeMark.span.toChars true := by
    cases r.upgradeMark <;> decide
  have hline : markedLine r.upgradeMark "WebSocket upgrade" ∈ r.lines := by simp [lines]
  rw [render, renderLines, String.toList_ofList]
  refine List.mem_flatMap.mpr ⟨_, hline, List.mem_append_left _ ?_⟩
  exact List.mem_flatMap.mpr ⟨_, List.mem_cons_of_mem _ List.mem_cons_self, hmark⟩

end Report

namespace Session.Report

variable (r : Session.Report)

theorem lineSettled_lines : ∀ line ∈ r.lines, LineSettled line := by
  rw [lines, List.forall_mem_cons]
  refine ⟨lineSettled_plain _, ?_⟩
  cases r.ending with
  | completed report => exact report.lineSettled_lines
  | cancelled => exact List.forall_mem_singleton.mpr (lineSettled_plain _)

theorem stripColours_render : stripColours (r.render true) = stripColours (r.render false) :=
  stripColours_renderLines r.lineSettled_lines

theorem escape_not_mem_render_iff :
    escape ∉ (r.render false).toList ↔ ∀ text ∈ r.quotations, escape ∉ text.toList := by
  rw [render, not_mem_renderLines_iff (by decide), r.lineLacks_lines_iff (by decide)]

end Session.Report

/-- **Colours are decoration**: if no text that it quotes holds an escape character, the coloured
report of a probe or of a session is without its colours the plain one, which holds none either.
Values that came back altered need no such condition, since they are shown as JSON. -/
theorem colours_are_decoration :
    (∀ r : Report, (∀ text ∈ r.quotations, escape ∉ text.toList) →
      stripColours (r.render true) = r.render false ∧ escape ∉ (r.render false).toList) ∧
    ∀ r : Session.Report, (∀ text ∈ r.quotations, escape ∉ text.toList) →
      stripColours (r.render true) = r.render false ∧ escape ∉ (r.render false).toList := by
  constructor
  · intro r hquotations
    have hplain := r.escape_not_mem_render_iff.mpr hquotations
    exact ⟨r.stripColours_render.trans (stripColours_eq_self hplain), hplain⟩
  · intro r hquotations
    have hplain := r.escape_not_mem_render_iff.mpr hquotations
    exact ⟨r.stripColours_render.trans (stripColours_eq_self hplain), hplain⟩

/-- A report with marks of every kind; the value that came back for the first frame holds a
colour sequence. -/
def mixedReport : Report where
  target := "ws://[::1]:8080/ws"
  outcome := .failed "echo mismatch on message 1"
  upgrade := true
  welcome := .verified
  exchanges := [⟨.text "hi", .mismatch (.string "\x1b[31mhi")⟩,
    ⟨.json .null, .unverified "no echo within 5s"⟩]
  elapsed := .ofMillis 120

/-- The report of a session that ends with it. -/
def mixedSession : Session.Report := ⟨"ws://127.0.0.1:3001", .completed mixedReport⟩

/-- The sequence in the value is shown as JSON and stays where the colours go. -/
theorem colours_are_decoration_mixed :
    ((∀ text ∈ mixedReport.quotations, escape ∉ text.toList) ∧
      escape ∈ (mixedReport.render true).toList ∧
      stripColours (mixedReport.render true) = mixedReport.render false ∧
      escape ∉ (mixedReport.render false).toList) ∧
    (∀ text ∈ mixedSession.quotations, escape ∉ text.toList) ∧
      stripColours (mixedSession.render true) = mixedSession.render false ∧
      escape ∉ (mixedSession.render false).toList := by
  have hreport : ∀ text ∈ mixedReport.quotations, escape ∉ text.toList := by decide
  have hsession : ∀ text ∈ mixedSession.quotations, escape ∉ text.toList := by decide
  exact ⟨⟨hreport, mixedReport.escape_mem_render, colours_are_decoration.1 _ hreport⟩,
    hsession, colours_are_decoration.2 _ hsession⟩

end EchoProbe
