import EchoProbe.Proofs.Text.Control
import EchoProbe.Session.Report

/-!
# What a report quotes as it is

A report is rendered as words of the renderer, values as JSON, and a few texts that are quoted
as they are: addresses, the reason of a failure and the reasons for which checks stayed open
(`Report.quotations`). Only these can bring a control character into a line of it, be it a line
feed or one that steers the terminal (`Report.lineLacks_lines_iff`).
-/

namespace EchoProbe

open Text

/-- None of the pieces of a line holds the character. -/
def LineLacks (c : Char) (line : Line) : Prop := ∀ span ∈ line, c ∉ span.text.toList

/-- The reason of an outcome, if it is a failure. -/
def Outcome.reasons : Outcome → List String
  | .failed reason => [reason]
  | _ => []

/-- The reason of a check, if it is open. -/
def Check.reasons : Check → List String
  | .unverified reason => [reason]
  | _ => []

/-- **The texts that a report quotes as they are.** Without an upgrade nothing is said of the
welcome and of the exchanges. -/
def Report.quotations (r : Report) : List String :=
  r.target :: r.outcome.reasons ++
    if r.upgrade then r.welcome.reasons ++ r.exchanges.flatMap (·.check.reasons) else []

/-- **The texts that the report of a session quotes as they are.** -/
def Session.Report.quotations (r : Session.Report) : List String :=
  r.serverUrl ::
    match r.ending with
    | .completed report => report.quotations
    | .cancelled => []

variable {c : Char}

theorem lineLacks_plain_iff {text : String} : LineLacks c [plain text] ↔ c ∉ text.toList :=
  List.forall_mem_singleton

theorem lineLacks_iff {line : Line} :
    LineLacks c line ↔ c ∉ line.flatMap (Span.toChars false) := by
  rw [List.mem_flatMap, not_exists]
  exact forall_congr' fun span => not_and.symm

theorem not_mem_renderLines_iff (hnewline : c ≠ '\n') (lines : List Line) :
    c ∉ (renderLines false lines).toList ↔ ∀ line ∈ lines, LineLacks c line := by
  rw [renderLines, String.toList_ofList, linesChars, List.mem_flatMap, not_exists]
  refine forall_congr' fun line => ?_
  rw [not_and, lineLacks_iff, List.mem_append, List.mem_singleton, or_iff_left hnewline]

variable (hc : IsControl c)
include hc

/-! ## Pieces -/

theorem Outcome.not_mem_toText_iff (outcome : Outcome) :
    c ∉ outcome.toText.toList ↔ ∀ text ∈ outcome.reasons, c ∉ text.toList := by
  cases outcome with
  | failed reason =>
    have hfront : NoControl "FAILED (".toList := by decide
    have hback : NoControl ")".toList := by decide
    rw [toText, hback.not_mem_append_right_iff hc, hfront.not_mem_append_iff hc, reasons,
      List.forall_mem_singleton]
  | _ => exact iff_of_true (NoControl.not_mem (by decide) hc) (List.forall_mem_nil _)

/-- The result is worded at greater length only where nothing is quoted. -/
theorem Report.not_mem_outcomeSpan_iff (r : Report) :
    c ∉ r.outcomeSpan.text.toList ↔ ∀ text ∈ r.outcome.reasons, c ∉ text.toList := by
  unfold outcomeSpan
  cases r.outcome with
  | failed reason => exact Outcome.not_mem_toText_iff hc (.failed reason)
  | _ => exact iff_of_true (NoControl.not_mem (by decide) hc) (List.forall_mem_nil _)

/-- A value that came back altered is shown as JSON, in which there is no control character. -/
theorem Check.not_mem_detail_iff (check : Check) :
    c ∉ check.detail.toList ↔ ∀ text ∈ check.reasons, c ∉ text.toList := by
  cases check with
  | verified => exact iff_of_true (NoControl.not_mem (by decide) hc) (List.forall_mem_nil _)
  | mismatch received =>
    have hfront : NoControl "mismatch, got ".toList := by decide
    rw [detail, hfront.not_mem_append_iff hc]
    exact iff_of_true ((noControl_toText received).not_mem hc) (List.forall_mem_nil _)
  | unverified reason =>
    have hfront : NoControl "unverified (".toList := by decide
    have hback : NoControl ")".toList := by decide
    rw [detail, hback.not_mem_append_right_iff hc, hfront.not_mem_append_iff hc, reasons,
      List.forall_mem_singleton]

/-! ## Lines -/

theorem lineLacks_markedLine_iff {mark : Mark} {text : String} :
    LineLacks c (markedLine mark text) ↔ c ∉ text.toList := by
  have hfront : NoControl (plain "  [").text.toList := by decide
  have hword : NoControl mark.span.text.toList := by cases mark <;> decide
  have hback : NoControl "] ".toList := by decide
  rw [LineLacks, markedLine, List.forall_mem_cons, List.forall_mem_cons,
    List.forall_mem_singleton, and_iff_right (hfront.not_mem hc),
    and_iff_right (hword.not_mem hc)]
  exact hback.not_mem_append_iff hc

namespace Report

theorem lineLacks_exchangeLines_iff (index : Nat) (exchanges : List Exchange) :
    (∀ line ∈ exchangeLines index exchanges, LineLacks c line)
      ↔ ∀ text ∈ exchanges.flatMap (·.check.reasons), c ∉ text.toList := by
  induction exchanges generalizing index with
  | nil => exact iff_of_true (List.forall_mem_nil _) (List.forall_mem_nil _)
  | cons e es ih =>
    have hkind : NoControl e.sent.kind.toList := by
      unfold Frame.kind
      split <;> decide
    have hfront : NoControl
        ("Message " ++ decimal (index + 1) ++ " (" ++ e.sent.kind ++ "): ").toList := by
      simp [IsControl, hkind]
    rw [exchangeLines, List.forall_mem_cons, exchangeLine, lineLacks_markedLine_iff hc,
      hfront.not_mem_append_iff hc, e.check.not_mem_detail_iff hc, ih, List.flatMap_cons,
      List.forall_mem_append]

variable (r : Report)

theorem lineLacks_detailLines_iff : (∀ line ∈ r.detailLines, LineLacks c line)
    ↔ ∀ text ∈ r.welcome.reasons ++ r.exchanges.flatMap (·.check.reasons), c ∉ text.toList := by
  have hwelcome : NoControl "Welcome frame: ".toList := by decide
  have hrelay : NoControl ("Bidirectional relay (" ++ decimal r.verifiedCount ++ "/" ++
      decimal r.exchanges.length ++ " echoed)").toList := by simp [IsControl]
  have hpayload : NoControl "JSON and text payloads preserved".toList := by decide
  have hfixed : ∀ line ∈ [markedLine r.relayMark ("Bidirectional relay (" ++
        decimal r.verifiedCount ++ "/" ++ decimal r.exchanges.length ++ " echoed)"),
      markedLine r.payloadMark "JSON and text payloads preserved"], LineLacks c line := by
    rw [List.forall_mem_cons, List.forall_mem_singleton, lineLacks_markedLine_iff hc,
      lineLacks_markedLine_iff hc]
    exact ⟨hrelay.not_mem hc, hpayload.not_mem hc⟩
  rw [detailLines, List.cons_append, List.forall_mem_cons, lineLacks_markedLine_iff hc,
    hwelcome.not_mem_append_iff hc, r.welcome.not_mem_detail_iff hc, List.forall_mem_append,
    and_iff_left hfixed, lineLacks_exchangeLines_iff hc, ← List.forall_mem_append]

/-- **A control character in a line of a report** is one of a text that is quoted. -/
theorem lineLacks_lines_iff :
    (∀ line ∈ r.lines, LineLacks c line) ↔ ∀ text ∈ r.quotations, c ∉ text.toList := by
  have htarget : NoControl "Proxy probe: ".toList := by decide
  have hupgrade : NoControl "WebSocket upgrade".toList := by decide
  have hresult : LineLacks c
      [plain "Result: ", r.outcomeSpan, plain (" in " ++ r.elapsed.toShortText)]
        ↔ ∀ text ∈ r.outcome.reasons, c ∉ text.toList := by
    have hfront : NoControl (plain "Result: ").text.toList := by decide
    have hback : NoControl (plain (" in " ++ r.elapsed.toShortText)).text.toList := by
      simp [plain, IsControl]
    rw [LineLacks, List.forall_mem_cons, List.forall_mem_cons, List.forall_mem_singleton,
      and_iff_right (hfront.not_mem hc), and_iff_left (hback.not_mem hc),
      r.not_mem_outcomeSpan_iff hc]
  rw [lines, List.cons_append, List.forall_mem_cons, lineLacks_plain_iff,
    htarget.not_mem_append_iff hc, List.cons_append, List.forall_mem_cons,
    lineLacks_markedLine_iff hc, and_iff_right (hupgrade.not_mem hc), List.forall_mem_append,
    List.forall_mem_singleton, hresult, quotations, List.cons_append, List.forall_mem_cons,
    List.forall_mem_append, and_comm (a := ∀ text ∈ r.outcome.reasons, c ∉ text.toList)]
  cases r.upgrade with
  | false => simp
  | true => simp only [if_true, r.lineLacks_detailLines_iff hc]

end Report

/-- So it is for the report of a session. -/
theorem Session.Report.lineLacks_lines_iff (r : Session.Report) :
    (∀ line ∈ r.lines, LineLacks c line) ↔ ∀ text ∈ r.quotations, c ∉ text.toList := by
  have hserver : NoControl "Upstream echo server: ".toList := by decide
  rw [lines, List.forall_mem_cons, lineLacks_plain_iff, hserver.not_mem_append_iff hc,
    quotations, List.forall_mem_cons]
  cases r.ending with
  | completed report => simp only [report.lineLacks_lines_iff hc]
  | cancelled =>
    have hword : NoControl "Session cancelled before the probe completed".toList := by decide
    have hline : LineLacks c [plain "Session cancelled before the probe completed"] :=
      lineLacks_plain_iff.mpr (hword.not_mem hc)
    exact and_congr_right fun _ =>
      iff_of_true (List.forall_mem_singleton.mpr hline) (List.forall_mem_nil _)

end EchoProbe
