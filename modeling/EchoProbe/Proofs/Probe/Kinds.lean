import EchoProbe.Proofs.Probe.Answering
import EchoProbe.Proofs.Frame

/-!
# Payloads of both kinds

A report says that both kinds of payload came back intact if a frame that is
called a JSON value is verified, and one that is called a text. What goes over
the connection is the wire form, and what it is called there is a matter of how
it spells. A text can spell a value; and a value in which an object is led by
the marker, or which is nested too deeply, is written as something that cannot
be read as a value.

So what the report says is sure exactly for a script that *tells the kinds
apart*: of two frames of different kinds that can be verified at all, the
payloads are of different kinds too (`crosses_of_payloadTypesPreserved_iff`). For
such a script it follows from what a verified exchange says of the run
(`Account.crosses_of_verified`). For any other there is a peer that verifies
just these two frames, since a peer may answer what it likes.
-/

namespace EchoProbe

open Json Probe

/-! ## Frames that are what they are called -/

namespace Frame

/-- **A frame that is what it is called**: its wire form is classified as it is itself. -/
def Truthful (frame : Frame) : Prop := (decode frame.wire).isJson = frame.isJson

instance : DecidablePred Truthful :=
  fun frame => inferInstanceAs (Decidable ((decode frame.wire).isJson = frame.isJson))

/-- **Some answer verifies the frame.** -/
def Verifiable (frame : Frame) : Prop := ∃ answer, verifyEcho frame.wire answer = .verified

/-- A text is what it is called if it spells no JSON value. -/
theorem truthful_text_iff (content : String) :
    (text content).Truthful ↔ (decode content).isJson = false :=
  Iff.rfl

/-- A value is, if it can be read. -/
theorem truthful_json {v : Value} (hv : v.Denoted) (hfits : v.Fits maxDepth) :
    (json v).Truthful :=
  congrArg isJson (decode_toText hv hfits)

/-- A decoded payload is, if no object in it is led by the marker. -/
theorem truthful_decode {payload : String} (h : (decode payload).Unmarked) :
    (decode payload).Truthful :=
  congrArg isJson ((decode_wire_eq_iff payload).mpr h)

end Frame

/-- **The frames of the script tell the kinds apart**: of two frames of different kinds that
some answer verifies, the payloads are of different kinds as well. -/
def Script.TellsKinds (script : Script) : Prop :=
  ∀ f ∈ script.frames, ∀ g ∈ script.frames, f.Verifiable → g.Verifiable →
    f.isJson = true → g.isJson = false →
      (Frame.decode f.wire).isJson ≠ (Frame.decode g.wire).isJson

/-- So do frames that are what they are called. -/
theorem Script.tellsKinds_of_truthful {script : Script} (h : ∀ f ∈ script.frames, f.Truthful) :
    script.TellsKinds := by
  intro f hf g hg _ _ hjson htext
  rw [h f hf, h g hg, hjson, htext]
  nofun

/-- A time is written as a number, or as nothing. -/
theorem Frame.truthful_ping (now : Binary64) :
    (Frame.json (.object [("timestamp", Envelope.realValue now),
      ("type", .string "ping")])).Truthful := by
  refine Frame.truthful_json ((Value.denoted_object_iff _).mpr ⟨?_, rfl, ?_⟩)
    ((Value.fits_object_iff _ _).mpr ⟨rfl, ?_⟩)
  · simp only [List.pairwise_cons, List.forall_mem_singleton]
    decide
  · simp only [List.forall_mem_cons]
    exact ⟨Envelope.denoted_realValue now, Envelope.denoted_string _, List.forall_mem_nil _⟩
  · simp only [List.forall_mem_cons]
    exact ⟨Envelope.fits_realValue now _, Envelope.fits_string _ _, List.forall_mem_nil _⟩

/-- **The scripts that come with the program** tell the kinds apart, whatever the time. -/
theorem Script.tellsKinds_ofSettings (s : Settings.Probe) (now : Binary64) :
    (Script.ofSettings s now).TellsKinds := by
  refine tellsKinds_of_truthful ?_
  unfold Script.ofSettings
  split
  · decide +kernel
  · simp only [full, List.forall_mem_cons]
    exact ⟨by decide +kernel, by decide +kernel, Frame.truthful_ping now, List.forall_mem_nil _⟩

theorem Report.preserved_iff (report : Report) (json : Bool) :
    report.preserved json = true ↔
      ∃ (index : Nat) (frame : Frame),
        report.exchanges[index]? = some ⟨frame, .verified⟩ ∧ frame.isJson = json := by
  rw [Report.preserved, List.any_eq_true]
  constructor
  · rintro ⟨⟨frame, check⟩, hmem, hcheck⟩
    rw [Bool.and_eq_true, beq_iff_eq, Check.isVerified_iff] at hcheck
    obtain ⟨rfl, hjson⟩ := hcheck
    obtain ⟨index, hindex⟩ := List.mem_iff_getElem?.mp hmem
    exact ⟨index, frame, hindex, hjson⟩
  · rintro ⟨index, frame, hindex, hjson⟩
    exact ⟨_, List.mem_of_getElem? hindex, by simp [Check.isVerified, hjson]⟩

namespace Probe

/-- **A payload of this kind went out, and its echo came back**: the exchange is verified,
and the answer says the payload as the probe classifies it. -/
def Crosses (run : Run) (report : Report) (json : Bool) : Prop :=
  ∃ (index : Nat) (frame : Frame) (answer : String),
    report.exchanges[index]? = some ⟨frame, .verified⟩ ∧
    (Frame.decode frame.wire).isJson = json ∧ run.sent[index]? = some frame.wire ∧
    run.received[index + 1]? = some answer ∧
    ∃ back processedAt server, Envelope.parse answer = .ok (.echo back processedAt server) ∧
      back.toValue = (Frame.decode frame.wire).toValue

variable {plan : Plan} {link : Link} {answers : List String} {reason : Nat → String} {run : Run}
  {index : Nat} {frame : Frame}

/-- A verified exchange has an answer. -/
theorem exists_answer_of_verified
    (h : (plan.exchanges answers reason)[index]? = some ⟨frame, .verified⟩) :
    plan.script.frames[index]? = some frame ∧
      ∃ answer, answers[index]? = some answer ∧ verifyEcho frame.wire answer = .verified := by
  rw [Plan.getElem?_exchanges] at h
  obtain ⟨frame', hframe, heq⟩ := Option.map_eq_some_iff.mp h
  obtain ⟨rfl, hcheck⟩ := Exchange.mk.inj heq
  cases hanswer : answers[index]? with
  | none =>
    rw [hanswer] at hcheck
    exact nomatch hcheck
  | some answer =>
    rw [hanswer] at hcheck
    exact ⟨hframe, answer, rfl, hcheck⟩

/-- The wire forms of the frames that have an answer have been sent. -/
theorem Log.getElem?_sent (h : Log plan answers run) (hlt : index < answers.length) :
    run.sent[index]? = plan.wires[index]? := by
  cases h with
  | unwelcomed => exact absurd hlt (Nat.not_lt_zero _)
  | welcomed _ _ _ hsent _ _ =>
    rcases hsent with hsent | ⟨-, hsent⟩
    · rw [hsent, List.getElem?_take_of_lt hlt]
    · rw [hsent, List.getElem?_take_of_lt (Nat.lt_succ_of_lt hlt)]

/-- **What a verified exchange says of the run.** -/
theorem Account.crosses_of_verified (h : Account plan answers reason run)
    (hverified : run.report.exchanges[index]? = some ⟨frame, .verified⟩) :
    Crosses run run.report (Frame.decode frame.wire).isJson := by
  have hexchange := hverified
  rw [h.exchanges_eq] at hexchange
  obtain ⟨hframe, answer, hanswer, hcheck⟩ := exists_answer_of_verified hexchange
  have hlt : index < answers.length := (List.getElem?_eq_some_iff.mp hanswer).1
  refine ⟨index, frame, answer, hverified, rfl, ?_, ?_, (verifyEcho_eq_verified_iff _ _).mp hcheck⟩
  · rw [h.log.getElem?_sent hlt, Plan.wires, List.getElem?_map, hframe]
    rfl
  · cases h.log with
    | unwelcomed => exact absurd hlt (Nat.not_lt_zero _)
    | welcomed _ hreceived _ _ _ _ =>
      rw [hreceived]
      exact hanswer

/-- **If the script tells the kinds apart** and both have come back intact, a payload of
each kind has crossed. -/
theorem Account.crosses_of_preserved (h : Account plan answers reason run)
    (hscript : plan.script.TellsKinds) (hpreserved : run.report.payloadTypesPreserved = true)
    (json : Bool) : Crosses run run.report json := by
  rw [Report.payloadTypesPreserved, Bool.and_eq_true, Report.preserved_iff,
    Report.preserved_iff] at hpreserved
  obtain ⟨⟨i, f, hf, hjson⟩, ⟨j, g, hg, htext⟩⟩ := hpreserved
  have hf_crosses := h.crosses_of_verified hf
  have hg_crosses := h.crosses_of_verified hg
  rw [h.exchanges_eq] at hf hg
  obtain ⟨hf_frame, a, -, ha⟩ := exists_answer_of_verified hf
  obtain ⟨hg_frame, b, -, hb⟩ := exists_answer_of_verified hg
  have hne : (Frame.decode f.wire).isJson ≠ (Frame.decode g.wire).isJson :=
    hscript f (List.mem_of_getElem? hf_frame) g (List.mem_of_getElem? hg_frame) ⟨a, ha⟩ ⟨b, hb⟩
      hjson htext
  -- one of the two payloads is of this kind
  rcases Decidable.em ((Frame.decode f.wire).isJson = json) with heq | hnot
  · exact heq ▸ hf_crosses
  · have heq : (Frame.decode g.wire).isJson = json := by
      revert hne hnot
      cases (Frame.decode f.wire).isJson <;> cases (Frame.decode g.wire).isJson <;> cases json <;>
        simp
    exact heq ▸ hg_crosses

/-! ## Reports -/

/-- A peer that verifies two frames, and no other. -/
def twoAnswers (size i j : Nat) (a b : String) : List String :=
  (List.range size).map fun index => if index = i then a else if index = j then b else ""

theorem getElem?_twoAnswers {size i j : Nat} {a b : String} (hindex : index < size) :
    (twoAnswers size i j a b)[index]?
      = some (if index = i then a else if index = j then b else "") := by
  rw [twoAnswers, List.getElem?_map, List.getElem?_range hindex]
  rfl

/-- No answer at all verifies nothing. -/
theorem verifyEcho_empty_ne (sent : String) : verifyEcho sent "" ≠ .verified := by
  rw [ne_eq, verifyEcho_eq_verified_iff]
  rintro ⟨frame, processedAt, server, hparse, -⟩
  have hrefused : (Envelope.parse "").toOption = none := by decide +kernel
  rw [hparse] at hrefused
  exact nomatch hrefused

variable {settings : Settings.Probe} {script : Script} {url : Net.Url}

/-- A run that has finished gives its report. -/
theorem conduct_of_finished (hurl : Net.Url.parse settings.proxyUrl = .ok url)
    (hscheme : url.isWebSocket = true)
    (hphase : (link.run ⟨url.toText, script, settings⟩).run.phase = .finished) :
    conduct settings script link
      = some (.ok { (link.run ⟨url.toText, script, settings⟩).run.report with
        elapsed := ⟨(link.run ⟨url.toText, script, settings⟩).now⟩ }) := by
  rw [conduct, hurl]
  simp only [hscheme, hphase]
  rfl

/-- A welcome. -/
def greeting : String := (Envelope.welcome "hello" "/" (.ofBits 0)).toText

/-- **Any answers can make a report.** -/
theorem exists_conduct_exchanges (script : Script) (answers : List String)
    (hurl : Net.Url.parse settings.proxyUrl = .ok url) (hscheme : url.isWebSocket = true)
    (hsize : answers.length = script.frames.length) :
    ∃ link report, conduct settings script link = some (.ok report) ∧
      report.exchanges
        = Plan.exchanges ⟨url.toText, script, settings⟩ answers fun _ => "not sent" := by
  have hwelcome : verifyWelcome greeting = .verified :=
    verifyWelcome_welcome "hello" "/" (by decide)
  have hrun : ((Link.saying (greeting :: answers)).run ⟨url.toText, script, settings⟩).run = _ :=
    Link.run_saying hwelcome hsize
  refine ⟨.saying (greeting :: answers), _, conduct_of_finished hurl hscheme ?_, ?_⟩
  · rw [hrun]
  · show ((Link.saying (greeting :: answers)).run _).run.report.exchanges = _
    rw [hrun]
    exact (account_completed hwelcome hsize).exchanges_eq

/-- **A peer may verify any two frames**, and no other. -/
theorem exists_conduct_two (hurl : Net.Url.parse settings.proxyUrl = .ok url)
    (hscheme : url.isWebSocket = true) {i j : Nat} {f g : Frame} {a b : String}
    (hi : script.frames[i]? = some f) (hj : script.frames[j]? = some g) (hne : j ≠ i)
    (ha : verifyEcho f.wire a = .verified) (hb : verifyEcho g.wire b = .verified) :
    ∃ link report, conduct settings script link = some (.ok report) ∧
      report.exchanges[i]? = some ⟨f, .verified⟩ ∧ report.exchanges[j]? = some ⟨g, .verified⟩ ∧
      ∀ (index : Nat) (frame : Frame), report.exchanges[index]? = some ⟨frame, .verified⟩ →
        frame = f ∨ frame = g := by
  obtain ⟨link, report, hreport, hexchanges⟩ := exists_conduct_exchanges script
    (twoAnswers script.frames.length i j a b) hurl hscheme
    ((List.length_map _).trans List.length_range)
  refine ⟨link, report, hreport, ?_, ?_, fun index frame hverified => ?_⟩
  · rw [hexchanges, Plan.getElem?_exchanges, hi,
      getElem?_twoAnswers (List.getElem?_eq_some_iff.mp hi).1, if_pos rfl]
    exact congrArg (fun check => some (Exchange.mk f check)) ha
  · rw [hexchanges, Plan.getElem?_exchanges, hj,
      getElem?_twoAnswers (List.getElem?_eq_some_iff.mp hj).1, if_neg hne, if_pos rfl]
    exact congrArg (fun check => some (Exchange.mk g check)) hb
  · rw [hexchanges] at hverified
    obtain ⟨hframe, answer, hanswer, hcheck⟩ := exists_answer_of_verified hverified
    rw [getElem?_twoAnswers (List.getElem?_eq_some_iff.mp hframe).1] at hanswer
    obtain rfl := Option.some.inj hanswer
    split at hcheck
    · next hindex =>
      subst hindex
      exact .inl (Option.some.inj (hframe.symm.trans hi))
    · split at hcheck
      · next hindex =>
        subst hindex
        exact .inr (Option.some.inj (hframe.symm.trans hj))
      · exact absurd hcheck (verifyEcho_empty_ne _)

/-- **When the check of the kinds can be relied on**, whatever the peer does: exactly if the
script tells the kinds apart. -/
theorem crosses_of_payloadTypesPreserved_iff (hurl : Net.Url.parse settings.proxyUrl = .ok url)
    (hscheme : url.isWebSocket = true) (script : Script) :
    (∀ link report, conduct settings script link = some (.ok report) →
      report.payloadTypesPreserved = true →
        ∀ json, Crosses (link.run ⟨url.toText, script, settings⟩).run report json) ↔
      script.TellsKinds := by
  constructor
  · intro h f hf g hg ⟨a, ha⟩ ⟨b, hb⟩ hjson htext heq
    obtain ⟨i, hi⟩ := List.mem_iff_getElem?.mp hf
    obtain ⟨j, hj⟩ := List.mem_iff_getElem?.mp hg
    have hne : j ≠ i := by
      rintro rfl
      obtain rfl := Option.some.inj (hi.symm.trans hj)
      exact Bool.noConfusion (hjson.symm.trans htext)
    obtain ⟨link, report, hreport, hf', hg', honly⟩ :=
      exists_conduct_two hurl hscheme hi hj hne ha hb
    have hpreserved : report.payloadTypesPreserved = true := by
      rw [Report.payloadTypesPreserved, Bool.and_eq_true, Report.preserved_iff,
        Report.preserved_iff]
      exact ⟨⟨i, f, hf', hjson⟩, ⟨j, g, hg', htext⟩⟩
    -- no verified exchange has a payload of the other kind
    obtain ⟨index, frame, -, hverified, hkind, -⟩ :=
      h link report hreport hpreserved (!(Frame.decode f.wire).isJson)
    rcases honly index frame hverified with rfl | rfl
    · exact Bool.not_ne_self _ hkind.symm
    · exact Bool.not_ne_self _ ((congrArg (!·) heq.symm).trans hkind.symm)
  · intro hscript link report h hpreserved json
    obtain ⟨url', hurl', -, rfl⟩ := exists_of_conduct h
    obtain rfl := Except.ok.inj (hurl.symm.trans hurl')
    obtain ⟨answers, reason, haccount⟩ :=
      (link.course_passage ⟨url.toText, script, settings⟩
        (link.bound ⟨url.toText, script, settings⟩)).exists_account
    exact haccount.crosses_of_preserved hscript hpreserved json

/-- What a peer that is honest says to these payloads. -/
def honestTexts (payloads : List String) : List String :=
  greeting :: payloads.map fun payload =>
    (Envelope.echo (Frame.decode payload) (.ofBits 0) "server").toText

/-- A text and a JSON value. -/
def pairScript : Script := .ofFrames [.text "hi", .json (.object [])]

/-- An honest peer verifies both, and both have crossed. -/
theorem crosses_of_payloadTypesPreserved_pair :
    ∃ url report, Net.Url.parse "ws://[::1]:8080/ws" = .ok url ∧ url.isWebSocket = true ∧
      conduct { proxyUrl := "ws://[::1]:8080/ws" } pairScript
        (.saying (honestTexts ["hi", "\x7b\x7d"])) = some (.ok report) ∧
      report.payloadTypesPreserved = true ∧
      ∀ json, Crosses ((Link.saying (honestTexts ["hi", "\x7b\x7d"])).run
        ⟨url.toText, pairScript, { proxyUrl := "ws://[::1]:8080/ws" }⟩).run report json := by
  have hpreserved : ((conduct { proxyUrl := "ws://[::1]:8080/ws" } pairScript
      (.saying (honestTexts ["hi", "\x7b\x7d"]))).bind Except.toOption).map
      Report.payloadTypesPreserved = some true := by
    decide +kernel
  obtain ⟨report, hreport, hpreserved⟩ := exists_report hpreserved
  obtain ⟨url, hurl, -⟩ := exists_of_conduct hreport
  have hscheme : url.isWebSocket = true := by
    have hview : (Net.Url.parse "ws://[::1]:8080/ws").toOption.map Net.Url.isWebSocket
        = some true := by
      decide +kernel
    rw [show Net.Url.parse "ws://[::1]:8080/ws" = .ok url from hurl] at hview
    exact Option.some.inj hview
  have htells : pairScript.TellsKinds := Script.tellsKinds_of_truthful (by decide +kernel)
  exact ⟨url, report, hurl, hscheme, hreport, hpreserved,
    (crosses_of_payloadTypesPreserved_iff hurl hscheme pairScript).mpr htells _ report hreport
      hpreserved⟩

/-- A payload that is a JSON value when it is decoded and none when it is sent again. -/
def markedObject : String := "\x7b\"a\":1,\"$serde_json::private::Number\":\"1\"\x7d"

/-- **Both kinds are reported, and only one has crossed**: a value goes out and comes back as
a text, and a text that spells a value goes out and comes back as this value. -/
theorem preserved_without_crossing :
    (∃ report, conduct { proxyUrl := "ws://[::1]:8080/ws" }
        (.ofFrames [Frame.decode "hi", Frame.decode markedObject])
        (.saying (honestTexts ["hi", (Frame.decode markedObject).wire])) = some (.ok report) ∧
      report.payloadTypesPreserved = true ∧
      ∀ e ∈ report.exchanges, (Frame.decode e.sent.wire).isJson = false) ∧
    ∃ report, conduct { proxyUrl := "ws://[::1]:8080/ws" }
        (.ofFrames [.text "1", .json (.object [])])
        (.saying (honestTexts ["1", "\x7b\x7d"])) = some (.ok report) ∧
      report.payloadTypesPreserved = true ∧
      ∀ e ∈ report.exchanges, (Frame.decode e.sent.wire).isJson = true := by
  constructor
  · have hview : ((conduct { proxyUrl := "ws://[::1]:8080/ws" }
        (.ofFrames [Frame.decode "hi", Frame.decode markedObject])
        (.saying (honestTexts ["hi", (Frame.decode markedObject).wire]))).bind
        Except.toOption).map (fun report => (report.payloadTypesPreserved,
          report.exchanges.all fun e => !(Frame.decode e.sent.wire).isJson))
        = some (true, true) := by
      decide +kernel
    obtain ⟨report, hreport, hview⟩ := exists_report hview
    obtain ⟨hpreserved, hkinds⟩ := Prod.mk.inj hview
    exact ⟨report, hreport, hpreserved, fun e he => by
      simpa using List.all_eq_true.mp hkinds e he⟩
  · have hview : ((conduct { proxyUrl := "ws://[::1]:8080/ws" }
        (.ofFrames [.text "1", .json (.object [])])
        (.saying (honestTexts ["1", "\x7b\x7d"]))).bind
        Except.toOption).map (fun report => (report.payloadTypesPreserved,
          report.exchanges.all fun e => (Frame.decode e.sent.wire).isJson))
        = some (true, true) := by
      decide +kernel
    obtain ⟨report, hreport, hview⟩ := exists_report hview
    obtain ⟨hpreserved, hkinds⟩ := Prod.mk.inj hview
    exact ⟨report, hreport, hpreserved, List.all_eq_true.mp hkinds⟩

end Probe

end EchoProbe
