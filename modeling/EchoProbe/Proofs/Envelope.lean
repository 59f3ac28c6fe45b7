import EchoProbe.Envelope
import EchoProbe.Proofs.Frame
import EchoProbe.Proofs.Json.Real

/-!
# Envelopes read back

An envelope is written as an object whose members stand in the order of its
fields. Reading orders them by name, which does not matter: a member is
looked up by name (`Members.lookup_collect`). So the only question is whether
the members themselves can be read. Strings always can, a time if it is
finite, and the frame of an echo if it is `Carriable`.

`Envelope.parse_welcome` and `Envelope.parse_echo` say when an envelope reads
back, and as what: the frame of an echo comes back as the frame its value
stands for. `Envelope.parse_toText_of_readable` puts them together, and says
also what becomes of a time that is not finite: it is written as null, so that
its member counts as missing.
-/

namespace EchoProbe.Envelope

open Json

/-! ## The members -/

theorem fits_string (s : String) (levels : Nat) : (Value.string s).Fits levels :=
  Value.fits_scalar (by simp) (by simp) levels

theorem denoted_string (s : String) : (Value.string s).Denoted :=
  Value.denoted_scalar (by simp) (by simp)

/-- A time is a number, or null. -/
theorem realValue_scalar (x : Binary64) :
    (∀ vs, realValue x ≠ .array vs) ∧ ∀ ms, realValue x ≠ .object ms := by
  unfold realValue
  split <;> simp

theorem fits_realValue (x : Binary64) (levels : Nat) : (realValue x).Fits levels :=
  Value.fits_scalar (realValue_scalar x).1 (realValue_scalar x).2 levels

theorem denoted_realValue (x : Binary64) : (realValue x).Denoted :=
  Value.denoted_scalar (realValue_scalar x).1 (realValue_scalar x).2

/-- A time that is not finite counts as missing. -/
theorem realField_of_not_isFinite {v : Value} {field : String} {x : Binary64}
    (h : v.get? field = some (realValue x)) (hx : ¬ x.isFinite = true) :
    realField v field = .error (.missing field) := by
  have hvalue : realValue x = .null := by rw [realValue, Number.ofBinary64?, if_neg hx]
  rw [realField, h, hvalue]
  rfl

/-- **A time is read back exactly if it is finite.** -/
theorem realField_realValue {v : Value} {field : String} {x : Binary64}
    (h : v.get? field = some (realValue x)) :
    Yields (realField v field) x (x.isFinite = true) := by
  by_cases hx : x.isFinite = true
  · obtain ⟨n, hwritten, hread⟩ := Number.exists_ofBinary64? hx
    have hvalue : realValue x = .number n := by rw [realValue, hwritten]
    rw [realField, h, hvalue, Option.bind_some, Value.asNumber?, Option.bind_some, hread]
    exact .ok hx
  · rw [realField_of_not_isFinite h hx]
    exact .error hx

theorem stringField_of_get? {v : Value} {field s : String}
    (h : v.get? field = some (.string s)) : stringField v field = .ok s := by
  rw [stringField, h]
  rfl

theorem anyField_of_get? {v w : Value} {field : String} (h : v.get? field = some w) :
    anyField v field = .ok w := by
  rw [anyField, h]

/-- A member of a written object is looked up by its name. -/
theorem get?_collect (ms : Members) (name : String) :
    (Value.object (Members.collect ms)).get? name = ms.reverse.lookup name :=
  Members.lookup_collect ms name

/-! ## The envelopes -/

/-- **An object with the members of an echo.** -/
theorem ofValue_echo {v original : Value} {processedAt : Binary64} {server : String}
    (htype : v.get? "type" = some (.string "echo")) (horiginal : v.get? "original" = some original)
    (htime : v.get? "processed_at" = some (realValue processedAt))
    (hserver : v.get? "server" = some (.string server)) :
    Yields (ofValue v) (.echo (Frame.ofValue original) processedAt server)
      (processedAt.isFinite = true) := by
  rw [ofValue, stringField_of_get? htype, anyField_of_get? horiginal,
    stringField_of_get? hserver]
  refine (realField_realValue htime).andThen_ok (fun htime => ?_) fun refusal h => ⟨refusal, ?_⟩
  · rw [htime]
    rfl
  · rw [h]
    rfl

/-- **An object with the members of a welcome.** -/
theorem ofValue_welcome {v : Value} {message path : String} {timestamp : Binary64}
    (htype : v.get? "type" = some (.string "welcome"))
    (hmessage : v.get? "message" = some (.string message))
    (hpath : v.get? "path" = some (.string path))
    (htime : v.get? "timestamp" = some (realValue timestamp)) :
    Yields (ofValue v) (.welcome message path timestamp) (timestamp.isFinite = true) := by
  rw [ofValue, stringField_of_get? htype, stringField_of_get? hmessage,
    stringField_of_get? hpath]
  refine (realField_realValue htime).andThen_ok (fun htime => ?_) fun refusal h => ⟨refusal, ?_⟩
  · rw [htime]
    rfl
  · rw [h]
    rfl

/-- Where all other members can be read, a time that is not finite is what is
missing from an echo, … -/
theorem ofValue_echo_of_not_isFinite {v original : Value} {processedAt : Binary64}
    (htype : v.get? "type" = some (.string "echo")) (horiginal : v.get? "original" = some original)
    (htime : v.get? "processed_at" = some (realValue processedAt))
    (hfinite : ¬ processedAt.isFinite = true) : ofValue v = .error (.missing "processed_at") := by
  rw [ofValue, stringField_of_get? htype, anyField_of_get? horiginal,
    realField_of_not_isFinite htime hfinite]
  rfl

/-- … and from a welcome. -/
theorem ofValue_welcome_of_not_isFinite {v : Value} {message path : String} {timestamp : Binary64}
    (htype : v.get? "type" = some (.string "welcome"))
    (hmessage : v.get? "message" = some (.string message))
    (hpath : v.get? "path" = some (.string path))
    (htime : v.get? "timestamp" = some (realValue timestamp))
    (hfinite : ¬ timestamp.isFinite = true) : ofValue v = .error (.missing "timestamp") := by
  rw [ofValue, stringField_of_get? htype, stringField_of_get? hmessage,
    stringField_of_get? hpath, realField_of_not_isFinite htime hfinite]
  rfl

/-- The members that an envelope is written with, in the order of its fields. -/
def members : Envelope → Members
  | .welcome message path timestamp =>
    [("type", .string "welcome"), ("message", .string message), ("path", .string path),
      ("timestamp", realValue timestamp)]
  | .echo frame processedAt server =>
    [("type", .string "echo"), ("original", frame.toValue),
      ("processed_at", realValue processedAt), ("server", .string server)]

theorem toText_eq (e : Envelope) : e.toText = (Value.object e.members).toText := by
  cases e <;> rfl

/-- The marker leads no envelope: the type does. -/
theorem isLed_members (e : Envelope) : e.members.isLed = false := by
  cases e <;> rfl

section Members

variable {p : Value → Prop} (hstring : ∀ s, p (.string s)) (hreal : ∀ x, p (realValue x))

include hstring hreal

/-- What holds of strings and times holds of all members of a welcome, … -/
theorem forall_members_welcome (message path : String) (timestamp : Binary64) :
    ∀ m ∈ (welcome message path timestamp).members, p m.2 := by
  simp only [members, List.forall_mem_cons]
  exact ⟨hstring _, hstring _, hstring _, hreal _, by simp⟩

/-- … and of those of an echo if it holds of the frame. -/
theorem forall_members_echo_iff (frame : Frame) (processedAt : Binary64) (server : String) :
    (∀ m ∈ (echo frame processedAt server).members, p m.2) ↔ p frame.toValue := by
  simp only [members, List.forall_mem_cons]
  exact ⟨fun h => h.2.1, fun h => ⟨hstring _, h, hreal _, hstring _, by simp⟩⟩

end Members

theorem fits_members_welcome (message path : String) (timestamp : Binary64) (levels : Nat) :
    ∀ m ∈ (welcome message path timestamp).members, m.2.Fits levels :=
  forall_members_welcome (fun s => fits_string s _) (fun x => fits_realValue x _) _ _ _

theorem denoted_members_welcome (message path : String) (timestamp : Binary64) :
    ∀ m ∈ (welcome message path timestamp).members, m.2.Denoted :=
  forall_members_welcome denoted_string denoted_realValue _ _ _

theorem fits_members_echo_iff (frame : Frame) (processedAt : Binary64) (server : String) :
    (∀ m ∈ (echo frame processedAt server).members, m.2.Fits (maxDepth - 1))
      ↔ frame.Carriable := by
  rw [Frame.carriable_iff]
  exact forall_members_echo_iff (fun s => fits_string s _) (fun x => fits_realValue x _) _ _ _

theorem denoted_members_echo {frame : Frame} (hframe : frame.toValue.Denoted)
    (processedAt : Binary64) (server : String) :
    ∀ m ∈ (echo frame processedAt server).members, m.2.Denoted :=
  (forall_members_echo_iff denoted_string denoted_realValue _ _ _).mpr hframe

/-- A written envelope is read as the object of its members, by name. -/
theorem parse_toText {e e' : Envelope} {p : Prop} (hms : ∀ m ∈ e.members, m.2.Denoted)
    (h : Yields (ofValue (.object (Members.collect e.members))) e' p) :
    Yields (parse e.toText) e' ((∀ m ∈ e.members, m.2.Fits (maxDepth - 1)) ∧ p) := by
  have hvalue := Value.parse_object (isLed_members e) hms
  rw [parse, toText_eq]
  apply hvalue.andThen
  · intro hread
    rw [hread]
    exact h
  · intro fault hfault
    rw [hfault]
    exact ⟨.undecodable fault, rfl⟩

/-- If they fit, the object decides about all the rest. -/
theorem parse_toText_eq_ofValue {e : Envelope} (hms : ∀ m ∈ e.members, m.2.Denoted)
    (hfits : ∀ m ∈ e.members, m.2.Fits (maxDepth - 1)) :
    parse e.toText = ofValue (.object (Members.collect e.members)) := by
  rw [parse, toText_eq, (Value.parse_object (isLed_members e) hms).eq_ok hfits]

/-- **When an echo reads back**, and as what. -/
theorem parse_echo {frame : Frame} (hframe : frame.toValue.Denoted) (processedAt : Binary64)
    (server : String) :
    Yields (parse (echo frame processedAt server).toText)
      (.echo (Frame.ofValue frame.toValue) processedAt server)
      (frame.Carriable ∧ processedAt.isFinite = true) :=
  (parse_toText (denoted_members_echo hframe processedAt server)
    (ofValue_echo (get?_collect _ _) (get?_collect _ _) (get?_collect _ _) (get?_collect _ _))).congr
    (and_congr_left fun _ => fits_members_echo_iff frame processedAt server)

/-- **When a welcome reads back.** -/
theorem parse_welcome (message path : String) (timestamp : Binary64) :
    Yields (parse (welcome message path timestamp).toText) (.welcome message path timestamp)
      (timestamp.isFinite = true) :=
  (parse_toText (denoted_members_welcome message path timestamp)
    (ofValue_welcome (get?_collect _ _) (get?_collect _ _) (get?_collect _ _)
      (get?_collect _ _))).congr
    (and_iff_right (fits_members_welcome message path timestamp _))

/-! ## Every envelope -/

/-- **An envelope whose members can be read**: the frame of an echo is one that
an envelope can carry, and its objects are ordered. -/
def Readable : Envelope → Prop
  | .welcome .. => True
  | .echo frame .. => frame.toValue.Canonical ∧ frame.Carriable

/-- The time that an envelope tells, … -/
def time : Envelope → Binary64
  | .welcome _ _ timestamp => timestamp
  | .echo _ processedAt _ => processedAt

/-- … and the member that tells it. -/
def timeField : Envelope → String
  | .welcome .. => "timestamp"
  | .echo .. => "processed_at"

/-- **What an envelope is read back as**: a JSON string that is echoed is read as
text, and nothing else changes. -/
def settled : Envelope → Envelope
  | .echo (.json (.string content)) processedAt server => .echo (.text content) processedAt server
  | e => e

theorem settled_echo (frame : Frame) (processedAt : Binary64) (server : String) :
    (echo frame processedAt server).settled
      = .echo (Frame.ofValue frame.toValue) processedAt server := by
  cases frame with
  | text content => rfl
  | json v => cases v <;> rfl

/-- The frame of such an echo is one that is decoded from some text. -/
theorem denoted_of_carriable {frame : Frame} (hcanonical : frame.toValue.Canonical)
    (hcarriable : frame.Carriable) : frame.toValue.Denoted :=
  Value.denoted_of_unmarked hcanonical ((Frame.carriable_iff frame).mp hcarriable).unmarked

/-- **An envelope is read back as it is settled, if its time is finite.** If it
is not, the member with the time is refused, for all the others can be read. -/
theorem parse_toText_of_readable {e : Envelope} (h : e.Readable) :
    parse e.toText
      = if e.time.isFinite then .ok e.settled else .error (.missing e.timeField) := by
  cases e with
  | welcome message path timestamp =>
    by_cases hfinite : timestamp.isFinite = true
    · rw [time, if_pos hfinite]
      exact (parse_welcome message path timestamp).eq_ok hfinite
    · have hread := parse_toText_eq_ofValue (denoted_members_welcome message path timestamp)
        (fits_members_welcome message path timestamp _)
      rw [time, if_neg hfinite, hread]
      exact ofValue_welcome_of_not_isFinite (get?_collect _ _) (get?_collect _ _)
        (get?_collect _ _) (get?_collect _ _) hfinite
  | echo frame processedAt server =>
    obtain ⟨hcanonical, hcarriable⟩ := h
    have hdenoted := denoted_of_carriable hcanonical hcarriable
    by_cases hfinite : processedAt.isFinite = true
    · rw [time, if_pos hfinite, settled_echo]
      exact (parse_echo hdenoted processedAt server).eq_ok ⟨hcarriable, hfinite⟩
    · have hread := parse_toText_eq_ofValue (denoted_members_echo hdenoted processedAt server)
        ((fits_members_echo_iff frame processedAt server).mpr hcarriable)
      rw [time, if_neg hfinite, hread]
      exact ofValue_echo_of_not_isFinite (get?_collect _ _) (get?_collect _ _)
        (get?_collect _ _) hfinite

/-- An echo of an object in an array, … -/
def nestedEcho : Envelope :=
  .echo (.json (.array [.object [("a", .null), ("b", .string "\n")]])) (.ofBits 0) "tag"

/-- … and one of a string, at a time of its own. -/
def stringEcho (processedAt : Binary64) : Envelope := .echo (.json (.string "hi")) processedAt "tag"

/-- The object is read back, the string is read as text, and without a finite
time the echo is not read. -/
theorem parse_toText_of_readable_echoes :
    nestedEcho.Readable ∧ parse nestedEcho.toText = .ok nestedEcho ∧
      (stringEcho (.ofBits 0)).Readable ∧
      parse (stringEcho (.ofBits 0)).toText = .ok (.echo (.text "hi") (.ofBits 0) "tag") ∧
      (stringEcho (.ofBits 0x7FF0000000000000)).Readable ∧
      parse (stringEcho (.ofBits 0x7FF0000000000000)).toText
        = .error (.missing "processed_at") := by
  have hnested : nestedEcho.Readable :=
    ⟨⟨⟨by decide, trivial, trivial, trivial⟩, trivial⟩, by decide⟩
  have hstring : ∀ t, (stringEcho t).Readable := fun _ => ⟨trivial, by decide⟩
  exact ⟨hnested, parse_toText_of_readable hnested, hstring _,
    parse_toText_of_readable (hstring _), hstring _,
    (parse_toText_of_readable (hstring _)).trans (if_neg (by decide))⟩

end EchoProbe.Envelope
