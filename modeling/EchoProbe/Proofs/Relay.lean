import Mathlib.Data.List.Forall2
import EchoProbe.Proofs.Probe.Exchanges
import EchoProbe.Relay

/-!
# The probe and the echo server keep in step

The probe and the server are two machines of their own, and their moves can
come in any order. Still there is little that can happen: the probe sends a
frame only after the last one was answered, so at most one frame is on its
way, in one direction or the other. `Stands` lists where a relay can be. In
each place the report of the probe is what it is after so many verified
exchanges, and the conversation of the server has read so many frames and
sent so many echoes.

The places are numbered downwards, so that a relay that moves at all moves to
a smaller number (`Stands.step`). That is an invariant and a bound on the
number of moves at once. And the only place with no move left is the one
where everything is verified (`Stands.settled`). So whichever side moves
when, the run ends, and it ends well (`relay_passes`).

The frames must be such that an envelope can carry them (`Frame.Carriable`),
and the clock of the server must tell a finite time.
-/

namespace EchoProbe.Relay

open Probe

/-! ## What is said -/

/-- The clock of the server tells a finite time. -/
def Move.Timely : Move → Prop
  | .connect now => now.isFinite = true
  | .read now => now.isFinite = true
  | _ => True

instance : DecidablePred Move.Timely
  | .connect now => inferInstanceAs (Decidable (now.isFinite = true))
  | .read now => inferInstanceAs (Decidable (now.isFinite = true))
  | .resume | .send | .receive | .reply | .count => .isTrue trivial

variable (setting : Setting)

/-- The message is the welcome of the server, at some time. -/
def IsWelcome (m : Message) : Prop :=
  ∃ now, now.isFinite = true ∧ m = Echo.welcomeMessage setting.server setting.path now

/-- The message is the echo of a payload, at some time. -/
def IsEcho (payload : String) (m : Message) : Prop :=
  ∃ now, now.isFinite = true ∧ m = Echo.echoMessage setting.server (.decode payload) now

/-- **What the server has done**: it has read so many frames of the script,
and has sent the welcome and so many echoes, each exactly once and in order. -/
structure Served (reads echoes : Nat) (sent read : List Message) : Prop where
  /-- The frames it has read. -/
  read_eq : read = (setting.plan.wires.take reads).map .text
  /-- The messages it has sent. -/
  sent_eq : ∃ welcome replies, sent = welcome :: replies ∧ IsWelcome setting welcome ∧
    List.Forall₂ (IsEcho setting) (setting.plan.wires.take echoes) replies

/-- The report after the upgrade. -/
def upgradedReport (plan : Plan) : Report :=
  { Report.pending plan.target plan.script.frames with upgrade := true }

/-- **The report after so many verified exchanges.** -/
def verifiedReport (plan : Plan) (count : Nat) : Report :=
  { Report.pending plan.target plan.script.frames with
    upgrade := true
    welcome := .verified
    exchanges := plan.script.frames.mapIdx fun i frame =>
      ⟨frame, if i < count then .verified else .unverified "not sent"⟩ }

/-- The server can read, or has an echo to count first. -/
inductive Resting : Nat → Echo.Stage → Prop
  | waiting : Resting 0 .waiting
  | counting : Resting 1 .counting

/-- **Where a relay can be**, with a bound on the moves that are left. -/
inductive Stands : Nat → Relay → Prop
  /-- There is no connection yet. -/
  | apart : Stands (6 * setting.plan.size + 3) (start setting)
  /-- The welcome is being sent. -/
  | welcoming {out got w} (hw : IsWelcome setting w) :
    Stands (6 * setting.plan.size + 2)
      ⟨⟨.greeting, upgradedReport setting.plan, out, got⟩, some ⟨.greeting w, [], []⟩, [], []⟩
  /-- The welcome is on its way. -/
  | welcomed {out got w} (hw : IsWelcome setting w) :
    Stands (6 * setting.plan.size + 1)
      ⟨⟨.greeting, upgradedReport setting.plan, out, got⟩, some ⟨.waiting, [w], []⟩, [], [w]⟩
  /-- The probe pauses before a frame. -/
  | pausing {k c out got stage sent read} (hk : k < setting.plan.size) (hstage : Resting c stage)
      (hserved : Served setting k k sent read) :
    Stands (6 * (setting.plan.size - k) + c)
      ⟨⟨.pausing k, verifiedReport setting.plan k, out, got⟩, some ⟨stage, sent, read⟩, [], []⟩
  /-- The probe is about to send a frame. -/
  | sending {k c out got stage sent read} (hk : k < setting.plan.size) (hstage : Resting c stage)
      (hserved : Served setting k k sent read) :
    Stands (6 * (setting.plan.size - k) - 1 + c)
      ⟨⟨.sending k, verifiedReport setting.plan k, out, got⟩, some ⟨stage, sent, read⟩, [], []⟩
  /-- The frame is on its way. -/
  | asked {k c out got stage sent read} (hk : k < setting.plan.size) (hstage : Resting c stage)
      (hserved : Served setting k k sent read) :
    Stands (6 * (setting.plan.size - k) - 2 + c)
      ⟨⟨.awaiting k, verifiedReport setting.plan k, out, got⟩, some ⟨stage, sent, read⟩,
        [.text (setting.plan.wire k)], []⟩
  /-- The echo is being sent. -/
  | echoing {k out got m sent read} (hk : k < setting.plan.size)
      (hm : IsEcho setting (setting.plan.wire k) m)
      (hserved : Served setting (k + 1) k sent read) :
    Stands (6 * (setting.plan.size - k) - 3)
      ⟨⟨.awaiting k, verifiedReport setting.plan k, out, got⟩, some ⟨.echoing m, sent, read⟩,
        [], []⟩
  /-- The echo is on its way. -/
  | echoed {k c out got stage m sent read} (hk : k < setting.plan.size)
      (hstage : Resting c stage) (hm : IsEcho setting (setting.plan.wire k) m)
      (hserved : Served setting (k + 1) (k + 1) sent read) :
    Stands (6 * (setting.plan.size - k) - 5 + c)
      ⟨⟨.awaiting k, verifiedReport setting.plan k, out, got⟩, some ⟨stage, sent, read⟩, [], [m]⟩
  /-- The run is over. -/
  | done {c out got stage sent read} (hstage : Resting c stage)
      (hserved : Served setting setting.plan.size setting.plan.size sent read) :
    Stands c
      ⟨⟨.finished, { verifiedReport setting.plan setting.plan.size with outcome := .passed }, out,
          got⟩, some ⟨stage, sent, read⟩, [], []⟩

/-! ## The reports on the way -/

section Reports

variable (plan : Plan)

/-- Before the first frame nothing but the welcome is verified. -/
theorem exchanges_verifiedReport_zero :
    (verifiedReport plan 0).exchanges = (upgradedReport plan).exchanges := by
  refine List.ext_getElem? fun i => ?_
  show (plan.script.frames.mapIdx _)[i]? = (plan.script.frames.map _)[i]?
  rw [List.getElem?_mapIdx, List.getElem?_map]
  rfl

/-- A verified echo is one more. -/
theorem setCheck_verifiedReport (k : Nat) :
    (verifiedReport plan k).setCheck k .verified = verifiedReport plan (k + 1) := by
  have hexchanges : ((verifiedReport plan k).setCheck k .verified).exchanges
      = (verifiedReport plan (k + 1)).exchanges := by
    refine List.ext_getElem? fun i => ?_
    rw [Report.getElem?_setCheck]
    show ((plan.script.frames.mapIdx _)[i]?).map _ = (plan.script.frames.mapIdx _)[i]?
    rw [List.getElem?_mapIdx, List.getElem?_mapIdx, Option.map_map]
    refine congrFun (congrArg Option.map (funext fun frame => ?_)) _
    show (if k = i then _ else _) = _
    -- before the new check, at it, and behind it
    rcases Nat.lt_trichotomy i k with h | rfl | h
    · rw [if_neg (by omega), if_pos h, if_pos (by omega)]
    · rw [if_pos rfl]
      show Exchange.mk frame .verified = ⟨frame, if i < i + 1 then .verified else _⟩
      rw [if_pos (Nat.lt_succ_self i)]
    · rw [if_neg (by omega), if_neg (by omega), if_neg (by omega)]
  exact congrArg (fun exchanges => { verifiedReport plan k with exchanges }) hexchanges

/-- All exchanges are verified in the end. -/
theorem exchanges_verifiedReport_size :
    (verifiedReport plan plan.size).exchanges
      = plan.script.frames.map fun frame => ⟨frame, .verified⟩ := by
  refine List.ext_getElem? fun i => ?_
  show (plan.script.frames.mapIdx _)[i]? = _
  rw [List.getElem?_mapIdx, List.getElem?_map]
  by_cases h : i < plan.size
  · simp only [if_pos h]
  · rw [List.getElem?_eq_none (by rwa [← Plan.size, ← Nat.not_lt])]
    rfl

/-- **With all echoes verified the run passes.** -/
theorem conclude_verifiedReport (strict : Bool) :
    (verifiedReport plan plan.size).conclude .completed strict
      = { verifiedReport plan plan.size with outcome := .passed } := by
  refine Report.conclude_of_verified _ rfl ?_ strict
  rw [exchanges_verifiedReport_size]
  intro e he
  obtain ⟨frame, -, rfl⟩ := List.mem_map.mp he
  rfl

end Reports

/-! ## What each move does -/

variable {setting}

/-- The server has read one more frame. -/
theorem Served.read_next {k echoes : Nat} {sent read : List Message} (hk : k < setting.plan.size)
    (h : Served setting k echoes sent read) :
    Served setting (k + 1) echoes sent (read ++ [.text (setting.plan.wire k)]) := by
  refine ⟨?_, h.sent_eq⟩
  rw [h.read_eq, Plan.take_succ_wires hk, List.map_append]
  rfl

/-- The server has sent one more echo. -/
theorem Served.sent_next {reads k : Nat} {sent read : List Message} {m : Message}
    (hk : k < setting.plan.size) (hm : IsEcho setting (setting.plan.wire k) m)
    (h : Served setting reads k sent read) :
    Served setting reads (k + 1) (sent ++ [m]) read := by
  obtain ⟨w, replies, rfl, hw, hreplies⟩ := h.sent_eq
  refine ⟨h.read_eq, w, replies ++ [m], rfl, hw, ?_⟩
  rw [Plan.take_succ_wires hk]
  exact List.rel_append hreplies (.cons hm .nil)

/-- Going on to a frame, or to the end. -/
theorem stands_proceed {k c : Nat} {phase : Phase} {out got : List String} {stage : Echo.Stage}
    {sent read : List Message} (hk : k ≤ setting.plan.size) (hstage : Resting c stage)
    (hserved : Served setting k k sent read) :
    ∃ rank ≤ 6 * (setting.plan.size - k) + c, Stands setting rank
      ⟨Run.proceed setting.plan ⟨phase, verifiedReport setting.plan k, out, got⟩ k,
        some ⟨stage, sent, read⟩, [], []⟩ := by
  by_cases hlt : k < setting.plan.size
  · rw [Run.proceed, if_pos hlt]
    by_cases hpause : (0 < k && !setting.plan.script.pause.isZero) = true
    · refine ⟨_, Nat.le_refl _, ?_⟩
      simp only [if_pos hpause]
      exact .pausing hlt hstage hserved
    · refine ⟨6 * (setting.plan.size - k) - 1 + c, by omega, ?_⟩
      simp only [if_neg hpause]
      exact .sending hlt hstage hserved
  · have hsize : k = setting.plan.size := by omega
    subst hsize
    refine ⟨c, by omega, ?_⟩
    rw [Run.proceed, if_neg hlt, conclude_verifiedReport]
    exact .done hstage hserved

/-- The relay stays where it is, or moves to a smaller place. -/
def Descends (setting : Setting) (rank : Nat) (r r' : Relay) : Prop :=
  r' = r ∨ ∃ rank' < rank, Stands setting rank' r'

variable {rank : Nat} {r : Relay}

theorem Stands.connect (h : Stands setting rank r) {now : Binary64} (hnow : now.isFinite = true) :
    Descends setting rank r (r.step setting (.connect now)) := by
  cases h with
  | apart => exact .inr ⟨_, by omega, .welcoming ⟨now, hnow, rfl⟩⟩
  | _ => exact .inl rfl

theorem Stands.resume (h : Stands setting rank r) :
    Descends setting rank r (r.step setting .resume) := by
  cases h with
  | pausing hk hstage hserved => exact .inr ⟨_, by omega, .sending hk hstage hserved⟩
  | _ => exact .inl rfl

theorem Stands.send (h : Stands setting rank r) :
    Descends setting rank r (r.step setting .send) := by
  cases h with
  | sending hk hstage hserved => exact .inr ⟨_, by omega, .asked hk hstage hserved⟩
  | _ => exact .inl rfl

theorem Stands.read (h : Stands setting rank r) {now : Binary64} (hnow : now.isFinite = true) :
    Descends setting rank r (r.step setting (.read now)) := by
  cases h with
  | asked hk hstage hserved =>
    cases hstage with
    | waiting => exact .inr ⟨_, by omega, .echoing hk ⟨now, hnow, rfl⟩ (hserved.read_next hk)⟩
    | counting => exact .inl rfl
  | pausing _ hstage _ | sending _ hstage _ | echoed _ hstage _ _ | done hstage _ =>
    cases hstage <;> exact .inl rfl
  | _ => exact .inl rfl

theorem Stands.reply (h : Stands setting rank r) :
    Descends setting rank r (r.step setting .reply) := by
  cases h with
  | welcoming hw => exact .inr ⟨_, by omega, .welcomed hw⟩
  | echoing hk hm hserved =>
    exact .inr ⟨_, by omega, .echoed hk .counting hm (hserved.sent_next hk hm)⟩
  | pausing _ hstage _ | sending _ hstage _ | asked _ hstage _ | echoed _ hstage _ _
  | done hstage _ =>
    cases hstage <;> exact .inl rfl
  | _ => exact .inl rfl

/-- Once its echo is counted, the server waits again; nothing else changes. -/
theorem Resting.count {c n : Nat} {run : Run} {stage : Echo.Stage}
    {sent read toServer toProbe : List Message} (hstage : Resting c stage)
    (h : Stands setting n ⟨run, some ⟨.waiting, sent, read⟩, toServer, toProbe⟩) :
    Descends setting (n + c) ⟨run, some ⟨stage, sent, read⟩, toServer, toProbe⟩
      (step setting ⟨run, some ⟨stage, sent, read⟩, toServer, toProbe⟩ .count) := by
  cases hstage with
  | waiting => exact .inl rfl
  | counting => exact .inr ⟨n, Nat.lt_succ_self n, h⟩

theorem Stands.count (h : Stands setting rank r) :
    Descends setting rank r (r.step setting .count) := by
  cases h with
  | pausing hk hstage hserved => exact hstage.count (.pausing hk .waiting hserved)
  | sending hk hstage hserved => exact hstage.count (.sending hk .waiting hserved)
  | asked hk hstage hserved => exact hstage.count (.asked hk .waiting hserved)
  | echoed hk hstage hm hserved => exact hstage.count (.echoed hk .waiting hm hserved)
  | done hstage hserved =>
    rw [← Nat.zero_add rank]
    exact hstage.count (.done .waiting hserved)
  | _ => exact .inl rfl

/-- The welcome of the server verifies. -/
theorem IsWelcome.exists_text {w : Message} (hw : IsWelcome setting w) :
    ∃ text, w = .text text ∧ verifyWelcome text = .verified := by
  obtain ⟨now, hnow, rfl⟩ := hw
  exact ⟨_, rfl, verifyWelcome_welcome _ _ hnow⟩

/-- The echo of a payload verifies, if an envelope can carry it. -/
theorem IsEcho.exists_text {payload : String} {m : Message}
    (hcarriable : (Frame.decode payload).Carriable) (hm : IsEcho setting payload m) :
    ∃ text, m = .text text ∧ verifyEcho payload text = .verified := by
  obtain ⟨now, hnow, rfl⟩ := hm
  exact ⟨_, rfl, (verifyEcho_verified_iff _ _ _ _).mpr ⟨hcarriable, hnow, rfl⟩⟩

/-- After a verified welcome the probe goes on to the first frame. -/
theorem step_welcome (plan : Plan) (out got : List String) {text : String}
    (h : verifyWelcome text = .verified) :
    Run.step plan ⟨.greeting, upgradedReport plan, out, got⟩ (.arrived (.message (.text text)))
      = Run.proceed plan ⟨.greeting, verifiedReport plan 0, out, got ++ [text]⟩ 0 := by
  have hreport : { upgradedReport plan with welcome := .verified } = verifiedReport plan 0 :=
    congrArg (fun exchanges => { upgradedReport plan with welcome := .verified, exchanges })
      (exchanges_verifiedReport_zero plan).symm
  rw [← hreport]
  show Run.greeted plan ⟨.greeting, upgradedReport plan, out, got⟩ (.payload text) = _
  simp only [Run.greeted, h]
  rfl

/-- After a verified echo the probe goes on to the next frame. -/
theorem step_echo (plan : Plan) (k : Nat) (out got : List String) {text : String}
    (h : verifyEcho (plan.wire k) text = .verified) :
    Run.step plan ⟨.awaiting k, verifiedReport plan k, out, got⟩
        (.arrived (.message (.text text)))
      = Run.proceed plan ⟨.awaiting k, verifiedReport plan (k + 1), out, got ++ [text]⟩
          (k + 1) := by
  rw [← setCheck_verifiedReport]
  show Run.answered plan ⟨.awaiting k, verifiedReport plan k, out, got⟩ k (.payload text) = _
  rw [Run.answered, h]
  rfl

theorem Stands.receive (hcarriable : ∀ wire ∈ setting.plan.wires, (Frame.decode wire).Carriable)
    (h : Stands setting rank r) :
    Descends setting rank r (r.step setting .receive) := by
  cases h with
  | @welcomed out got w hw =>
    obtain ⟨text, rfl, htext⟩ := hw.exists_text
    obtain ⟨rank', hle, hstands⟩ := stands_proceed (Nat.zero_le _) .waiting
      ⟨rfl, .text text, [], rfl, hw, .nil⟩
    refine .inr ⟨rank', by omega, ?_⟩
    show Stands setting rank'
      ⟨Run.step setting.plan ⟨.greeting, upgradedReport setting.plan, out, got⟩
        (.arrived (.message (.text text))), some ⟨.waiting, [.text text], []⟩, [], []⟩
    rw [step_welcome _ _ _ htext]
    exact hstands
  | @echoed k c out got stage m sent read hk hstage hm hserved =>
    -- the payload is one of the script, so that its echo can be read
    have hmem : setting.plan.wire k ∈ setting.plan.wires := by
      rw [← List.take_append_drop (k + 1) setting.plan.wires, Plan.take_succ_wires hk]
      simp
    obtain ⟨text, rfl, htext⟩ := hm.exists_text (hcarriable _ hmem)
    obtain ⟨rank', hle, hstands⟩ := stands_proceed hk hstage hserved
    refine .inr ⟨rank', by omega, ?_⟩
    show Stands setting rank'
      ⟨Run.step setting.plan ⟨.awaiting k, verifiedReport setting.plan k, out, got⟩
        (.arrived (.message (.text text))), some ⟨stage, sent, read⟩, [], []⟩
    rw [step_echo _ _ _ _ htext]
    exact hstands
  | _ => exact .inl rfl

/-! ## Whole runs -/

/-- **Each move that does something leads to a smaller place.** -/
theorem Stands.step (hcarriable : ∀ wire ∈ setting.plan.wires, (Frame.decode wire).Carriable)
    (h : Stands setting rank r) {move : Move} (hmove : move.Timely) :
    Descends setting rank r (r.step setting move) := by
  cases move with
  | connect now => exact h.connect hmove
  | resume => exact h.resume
  | send => exact h.send
  | receive => exact h.receive hcarriable
  | read now => exact h.read hmove
  | reply => exact h.reply
  | count => exact h.count

/-- How many moves in a row do something. -/
def changes (setting : Setting) (r : Relay) : List Move → Nat
  | [] => 0
  | move :: moves =>
    (if r.step setting move = r then 0 else 1) + changes setting (r.step setting move) moves

/-- A relay keeps to its places, and each move that does something costs. -/
theorem Stands.steps (hcarriable : ∀ wire ∈ setting.plan.wires, (Frame.decode wire).Carriable)
    (h : Stands setting rank r) {moves : List Move} (hmoves : ∀ m ∈ moves, m.Timely) :
    ∃ rank', changes setting r moves + rank' ≤ rank ∧
      Stands setting rank' (r.steps setting moves) := by
  -- the number of the place pays for the moves that do something
  induction moves generalizing rank r with
  | nil => exact ⟨rank, by rw [changes]; omega, h⟩
  | cons move moves ih =>
    obtain ⟨hmove, hmoves⟩ := List.forall_mem_cons.mp hmoves
    rw [changes]
    rcases h.step hcarriable hmove with hsame | ⟨rank', hlt, hstands⟩
    · obtain ⟨last, hle, hlast⟩ := ih h hmoves
      refine ⟨last, ?_, ?_⟩
      · rw [if_pos hsame, hsame]
        omega
      · show Stands setting last ((r.step setting move).steps setting moves)
        rwa [hsame]
    · obtain ⟨last, hle, hlast⟩ := ih hstands hmoves
      refine ⟨last, ?_, hlast⟩
      split <;> omega

/-- **All went well**: the run is complete, everything is verified, and the
server has read the frames of the script and answered each of them once. -/
structure Settled (setting : Setting) (r : Relay) : Prop where
  /-- The run is complete. -/
  phase_eq : r.run.phase = .finished
  /-- It has passed. -/
  outcome_eq : r.run.report.outcome = .passed
  /-- The upgrade is complete. -/
  upgrade_eq : r.run.report.upgrade = true
  /-- The welcome is verified. -/
  welcome_eq : r.run.report.welcome = .verified
  /-- So is each exchange. -/
  exchanges_eq : r.run.report.exchanges
    = setting.plan.script.frames.map fun frame => ⟨frame, .verified⟩
  /-- The server has done its part. -/
  conversation_eq : ∃ stage sent read, r.conversation = some ⟨stage, sent, read⟩ ∧
    read = setting.plan.wires.map .text ∧
    ∃ welcome replies, sent = welcome :: replies ∧ IsWelcome setting welcome ∧
      List.Forall₂ (IsEcho setting) setting.plan.wires replies

/-- **Where no move does anything, all went well.** -/
theorem Stands.settled (h : Stands setting rank r)
    (hrest : ∀ move : Move, move.Timely → r.step setting move = r) : Settled setting r := by
  -- in each place but the last a move is due that would change something
  cases h with
  | apart => exact absurd (congrArg (·.run.phase) (hrest (.connect ⟨false, 0⟩) rfl)) nofun
  | welcoming => exact absurd (congrArg (·.toProbe) (hrest .reply trivial)) nofun
  | welcomed => exact absurd (congrArg (·.toProbe) (hrest .receive trivial)) nofun
  | pausing => exact absurd (congrArg (·.run.phase) (hrest .resume trivial)) nofun
  | sending => exact absurd (congrArg (·.run.phase) (hrest .send trivial)) nofun
  | asked _ hstage _ =>
    cases hstage with
    | waiting => exact absurd (congrArg (·.toServer) (hrest (.read ⟨false, 0⟩) rfl)) nofun
    | counting => exact absurd (congrArg (·.stage?) (hrest .count trivial)) nofun
  | echoing => exact absurd (congrArg (·.toProbe) (hrest .reply trivial)) nofun
  | echoed => exact absurd (congrArg (·.toProbe) (hrest .receive trivial)) nofun
  | done _ hserved =>
    have hall : setting.plan.wires.take setting.plan.size = setting.plan.wires :=
      List.take_of_length_le (Nat.le_of_eq Plan.length_wires)
    have hsent := hserved.sent_eq
    have hread := hserved.read_eq
    rw [hall] at hsent hread
    exact ⟨rfl, rfl, rfl, rfl, exchanges_verifiedReport_size _, _, _, _, rfl, hread, hsent⟩

/-- From every place the run can be completed. -/
theorem Stands.exists_settled
    (hcarriable : ∀ wire ∈ setting.plan.wires, (Frame.decode wire).Carriable)
    (h : Stands setting rank r) :
    ∃ moves : List Move, (∀ m ∈ moves, m.Timely) ∧ Settled setting (r.steps setting moves) := by
  -- as long as a move is due, make it: the number of the place falls
  induction rank using Nat.strongRecOn generalizing r with
  | ind rank ih =>
    by_cases hrest : ∀ move : Move, move.Timely → r.step setting move = r
    · exact ⟨[], by simp, h.settled hrest⟩
    · push Not at hrest
      obtain ⟨move, hmove, hchange⟩ := hrest
      obtain hsame | ⟨rank', hlt, hstands⟩ := h.step hcarriable hmove
      · exact absurd hsame hchange
      · obtain ⟨moves, hmoves, hsettled⟩ := ih rank' hlt hstands
        exact ⟨move :: moves, List.forall_mem_cons.mpr ⟨hmove, hmoves⟩, hsettled⟩

/-- **The probe and the echo server compose.** Let the two sides move in any
order. Then no more than six moves for each frame and three for the welcome
do anything; the run can always be completed; and where no move does anything
any more, the run has passed, and all is verified and was exchanged exactly
once and in order. -/
theorem relay_passes
    (hcarriable : ∀ wire ∈ setting.plan.wires, (Frame.decode wire).Carriable)
    {moves : List Move} (hmoves : ∀ m ∈ moves, m.Timely) :
    changes setting (start setting) moves ≤ 6 * setting.plan.size + 3 ∧
      (∃ more : List Move, (∀ m ∈ more, m.Timely) ∧
        Settled setting (((start setting).steps setting moves).steps setting more)) ∧
      ((∀ move : Move, move.Timely → ((start setting).steps setting moves).step setting move
          = (start setting).steps setting moves) →
        Settled setting ((start setting).steps setting moves)) := by
  obtain ⟨rank', hle, hstands⟩ := Stands.apart.steps hcarriable hmoves
  exact ⟨by omega, hstands.exists_settled hcarriable, hstands.settled⟩

/-- After the run, a server that waits for a message waits for ever. -/
theorem step_eq_self {r : Relay} (hphase : r.run.phase = .finished) (hserver : r.toServer = [])
    (hstage : r.stage? = some .waiting) (move : Move) : r.step setting move = r := by
  obtain ⟨c, hc, hwaiting⟩ := Option.map_eq_some_iff.mp hstage
  cases move with
  | connect now => rw [step, hphase, if_neg nofun]
  | reply => simp only [step, hc, Option.bind_some, Echo.Conversation.outgoing?, hwaiting]
  | _ => simp only [step, hphase, Phase.isWait, hstage, hserver]

/-- The minimal script, sent with the default settings. -/
def minimalSetting : Setting := ⟨⟨"ws://localhost:8080/ws", .minimal, {}⟩, {}, "/"⟩

/-- A turn of each side for the welcome and for each of the two frames. -/
def minimalMoves : List Move :=
  [.connect (.ofBits 0), .reply, .receive,
    .send, .read (.ofBits 0), .reply, .count, .receive,
    .send, .read (.ofBits 0), .reply, .count, .receive]

/-- The minimal script passes. -/
theorem relay_passes_minimal :
    Settled minimalSetting ((start minimalSetting).steps minimalSetting minimalMoves) := by
  have hcarriable : ∀ wire ∈ minimalSetting.plan.wires, (Frame.decode wire).Carriable := by
    decide +kernel
  have hmoves : ∀ m ∈ minimalMoves, m.Timely := by decide
  refine (relay_passes hcarriable hmoves).2.2 fun move _ => ?_
  refine step_eq_self ?_ ?_ ?_ move
  · decide +kernel
  · decide +kernel
  · decide +kernel

end EchoProbe.Relay
