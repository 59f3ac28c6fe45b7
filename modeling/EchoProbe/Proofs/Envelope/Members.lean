import EchoProbe.Proofs.Envelope
import EchoProbe.Proofs.Json.Grammar.Value

/-!
# Envelopes are read by their members

What an envelope is read as depends on the members of the object alone, each
taken as it was written last. `Envelope.Reads` lays down the result for each
way in which the members can be: the welcome or the echo that they make, or
the first demand that they do not meet, in a fixed order of the demands. There
is a result for all members (`Envelope.exists_reads`), and it is the only one,
as it is what the value is read as (`Envelope.ofValue_eq_iff`).

So neither the order of the members nor blanks nor further members matter,
and two texts whose members agree where they are asked for are read alike. A
text that is no object is refused (`Envelope.parse_reads_members`).
-/

namespace EchoProbe

open Json

namespace Envelope

/-! ## What the members must be -/

/-- A string. -/
def IsText (v : Value) : Prop := ∃ s, v = .string s

/-- **The time that a number tells**, if it is finite. -/
def TellsTime (v : Value) (time : Binary64) : Prop :=
  ∃ n, v = .number n ∧ n.toBinary64 = time ∧ time.isFinite = true

/-- **The frame that a value stands for**: a string is text. -/
inductive StandsFor : Value → Frame → Prop where
  /-- A string is text. -/
  | text (content : String) : StandsFor (.string content) (.text content)
  /-- Every other value is JSON. -/
  | json {v : Value} : ¬ IsText v → StandsFor v (.json v)

/-- A member that must be there, and what it must be. -/
structure Demand where
  /-- The name of the member. -/
  field : String
  /-- What its value must be. -/
  fits : Value → Prop

/-- A string is asked for. -/
abbrev Demand.text (field : String) : Demand := ⟨field, IsText⟩

/-- A number is asked for that tells a time. -/
abbrev Demand.time (field : String) : Demand := ⟨field, fun v => ∃ time, TellsTime v time⟩

/-- Any value is asked for, null included. -/
abbrev Demand.any (field : String) : Demand := ⟨field, fun _ => True⟩

/-- What a welcome must have, in the order in which it is asked for. -/
def welcomeDemands : List Demand := [.text "message", .text "path", .time "timestamp"]

/-- What an echo must have, in the order in which it is asked for. -/
def echoDemands : List Demand := [.any "original", .time "processed_at", .text "server"]

/-- The names of the members that are asked for. -/
def fields : List String :=
  "type" :: (welcomeDemands.map Demand.field ++ echoDemands.map Demand.field)

section Reads

variable (member : String → Option Value)

/-- The member is there and of the right kind. -/
def Demand.Met (d : Demand) : Prop := ∃ v, member d.field = some v ∧ d.fits v

/-- **The first demand that is not met**, by its field. -/
inductive FirstUnmet : List Demand → String → Prop where
  /-- It is this one. -/
  | here {d : Demand} {ds : List Demand} : ¬ d.Met member → FirstUnmet (d :: ds) d.field
  /-- This one is met, and it is one of the others. -/
  | later {d : Demand} {ds : List Demand} {field : String} :
    d.Met member → FirstUnmet ds field → FirstUnmet (d :: ds) field

/-- **What an envelope with these members is read as.** -/
inductive Reads : Except Refusal Envelope → Prop where
  /-- A welcome has a greeting, a path and a time. -/
  | welcome {message path : String} {v : Value} {time : Binary64} :
    member "type" = some (.string "welcome") → member "message" = some (.string message) →
      member "path" = some (.string path) → member "timestamp" = some v → TellsTime v time →
      Reads (.ok (.welcome message path time))
  /-- An echo has a frame, a time and the name of a server. -/
  | echo {original v : Value} {frame : Frame} {time : Binary64} {server : String} :
    member "type" = some (.string "echo") → member "original" = some original →
      StandsFor original frame → member "processed_at" = some v → TellsTime v time →
      member "server" = some (.string server) → Reads (.ok (.echo frame time server))
  /-- There is no type, or it is no string. -/
  | untyped : ¬ (Demand.text "type").Met member → Reads (.error (.missing "type"))
  /-- The type is none that the server uses. -/
  | unknown {name : String} :
    member "type" = some (.string name) → name ≠ "welcome" → name ≠ "echo" →
      Reads (.error (.unknownType name))
  /-- A member of a welcome is missing or of the wrong kind. -/
  | poorWelcome {field : String} :
    member "type" = some (.string "welcome") → FirstUnmet member welcomeDemands field →
      Reads (.error (.missing field))
  /-- A member of an echo is missing or of the wrong kind. -/
  | poorEcho {field : String} :
    member "type" = some (.string "echo") → FirstUnmet member echoDemands field →
      Reads (.error (.missing field))

/-- All demands are met, or there is a first one that is not. -/
theorem forall_met_or_firstUnmet (ds : List Demand) :
    (∀ d ∈ ds, d.Met member) ∨ ∃ field, FirstUnmet member ds field := by
  induction ds with
  | nil => exact Or.inl fun _ => nofun
  | cons d ds ih =>
    by_cases hd : d.Met member
    · rcases ih with hds | ⟨field, hfield⟩
      · exact Or.inl (List.forall_mem_cons.mpr ⟨hd, hds⟩)
      · exact Or.inr ⟨field, .later hd hfield⟩
    · exact Or.inr ⟨_, .here hd⟩

theorem standsFor_iff (v : Value) (frame : Frame) :
    StandsFor v frame ↔ Frame.ofValue v = frame := by
  constructor
  · rintro (content | hv)
    · rfl
    · cases v with
      | string s => exact absurd ⟨s, rfl⟩ hv
      | _ => rfl
  · rintro rfl
    cases v with
    | string s => exact .text s
    | _ => exact .json (by rintro ⟨s, hs⟩; exact absurd hs nofun)

/-- **There is a result for all members.** -/
theorem exists_reads : ∃ result, Reads member result := by
  by_cases htyped : (Demand.text "type").Met member
  · obtain ⟨_, htype, name, rfl⟩ := htyped
    by_cases hwelcome : name = "welcome"
    · rw [hwelcome] at htype
      rcases forall_met_or_firstUnmet member welcomeDemands with hmet | ⟨field, hfield⟩
      · simp only [welcomeDemands, List.forall_mem_cons] at hmet
        obtain ⟨⟨_, hmessage, message, rfl⟩, ⟨_, hpath, path, rfl⟩, ⟨v, hv, time, htime⟩, -⟩ := hmet
        exact ⟨_, .welcome htype hmessage hpath hv htime⟩
      · exact ⟨_, .poorWelcome htype hfield⟩
    · by_cases hecho : name = "echo"
      · rw [hecho] at htype
        rcases forall_met_or_firstUnmet member echoDemands with hmet | ⟨field, hfield⟩
        · simp only [echoDemands, List.forall_mem_cons] at hmet
          obtain ⟨⟨original, horiginal, -⟩, ⟨v, hv, time, htime⟩,
            ⟨_, hserver, server, rfl⟩, -⟩ := hmet
          exact ⟨_, .echo htype horiginal ((standsFor_iff original _).mpr rfl) hv htime hserver⟩
        · exact ⟨_, .poorEcho htype hfield⟩
      · exact ⟨_, .unknown htype hwelcome hecho⟩
  · exact ⟨_, .untyped htyped⟩

end Reads

/-! ## Members one by one -/

section Fields

variable {v : Value} {field : String}

theorem stringField_of_not_met (h : ¬ (Demand.text field).Met v.get?) :
    stringField v field = .error (.missing field) := by
  unfold stringField
  split
  · next s hs =>
    obtain ⟨w, hw, hstring⟩ := Option.bind_eq_some_iff.mp hs
    cases w with
    | string t => exact absurd ⟨_, hw, t, rfl⟩ h
    | _ => exact absurd hstring nofun
  · rfl

theorem realField_of_tellsTime {w : Value} {time : Binary64} (h : v.get? field = some w)
    (htime : TellsTime w time) : realField v field = .ok time := by
  obtain ⟨n, rfl, rfl, hfinite⟩ := htime
  rw [realField, h, Option.bind_some, Value.asNumber?, Option.bind_some, Number.toFinite?,
    if_pos hfinite]

theorem realField_of_not_met (h : ¬ (Demand.time field).Met v.get?) :
    realField v field = .error (.missing field) := by
  unfold realField
  split
  · next x hx =>
    obtain ⟨n, hn, hfinite⟩ := Option.bind_eq_some_iff.mp hx
    obtain ⟨w, hw, hnumber⟩ := Option.bind_eq_some_iff.mp hn
    cases w with
    | number m =>
      obtain rfl := Option.some.inj hnumber
      obtain ⟨hfinite, -⟩ := Option.ite_none_right_eq_some.mp hfinite
      exact absurd ⟨_, hw, _, m, rfl, rfl, hfinite⟩ h
    | _ => exact absurd hnumber nofun
  · rfl

theorem anyField_of_not_met (h : ¬ (Demand.any field).Met v.get?) :
    anyField v field = .error (.missing field) := by
  unfold anyField
  split
  · next w hw => exact absurd ⟨w, hw, trivial⟩ h
  · rfl

end Fields

/-! ## The result -/

variable {v : Value} {result : Except Refusal Envelope}

/-- **What the members lay down is what is read.** -/
theorem Reads.ofValue_eq (h : Reads v.get? result) : ofValue v = result := by
  cases h with
  | welcome htype hmessage hpath hv htime =>
    rw [ofValue, stringField_of_get? htype, stringField_of_get? hmessage,
      stringField_of_get? hpath, realField_of_tellsTime hv htime]
    rfl
  | echo htype horiginal hframe hv htime hserver =>
    rw [ofValue, stringField_of_get? htype, anyField_of_get? horiginal,
      realField_of_tellsTime hv htime, stringField_of_get? hserver,
      ← (standsFor_iff _ _).mp hframe]
    rfl
  | untyped htype =>
    rw [ofValue, stringField_of_not_met htype]
    rfl
  | unknown htype hwelcome hecho =>
    rw [ofValue, stringField_of_get? htype]
    exact (if_neg hwelcome).trans (if_neg hecho)
  | poorWelcome htype hunmet =>
    rw [ofValue, stringField_of_get? htype]
    -- every demand before the first one that is not met has been read
    rcases hunmet with hmessage | ⟨⟨_, hmessage, message, rfl⟩, hpath |
      ⟨⟨_, hpath, path, rfl⟩, htime | ⟨-, hnone⟩⟩⟩
    · rw [stringField_of_not_met hmessage]
      rfl
    · rw [stringField_of_get? hmessage, stringField_of_not_met hpath]
      rfl
    · rw [stringField_of_get? hmessage, stringField_of_get? hpath, realField_of_not_met htime]
      rfl
    · cases hnone
  | poorEcho htype hunmet =>
    rw [ofValue, stringField_of_get? htype]
    rcases hunmet with horiginal | ⟨⟨original, horiginal, -⟩, htime |
      ⟨⟨w, hw, time, htime⟩, hserver | ⟨-, hnone⟩⟩⟩
    · rw [anyField_of_not_met horiginal]
      rfl
    · rw [anyField_of_get? horiginal, realField_of_not_met htime]
      rfl
    · rw [anyField_of_get? horiginal, realField_of_tellsTime hw htime,
        stringField_of_not_met hserver]
      rfl
    · cases hnone

/-- **A value is read by its members**, and in one way only. -/
theorem ofValue_eq_iff (v : Value) (result : Except Refusal Envelope) :
    ofValue v = result ↔ Reads v.get? result := by
  refine ⟨?_, Reads.ofValue_eq⟩
  rintro rfl
  obtain ⟨result, h⟩ := exists_reads v.get?
  rwa [h.ofValue_eq]

/-- Only the members that are asked for matter. -/
theorem ofValue_congr {w : Value} (h : ∀ field ∈ fields, v.get? field = w.get? field) :
    ofValue v = ofValue w := by
  simp only [fields, welcomeDemands, echoDemands, Demand.text, Demand.time, Demand.any,
    List.map_cons, List.map_nil, List.cons_append, List.nil_append, List.forall_mem_cons] at h
  obtain ⟨htype, hmessage, hpath, htimestamp, horiginal, hprocessed, hserver, -⟩ := h
  simp only [ofValue, stringField, realField, anyField, htype, hmessage, hpath, htimestamp,
    horiginal, hprocessed, hserver]

/-- A value that is no object has no type. -/
theorem ofValue_of_not_object (h : ∀ ms, v ≠ .object ms) :
    ofValue v = .error (.missing "type") := by
  refine (ofValue_eq_iff v _).mpr (.untyped ?_)
  rintro ⟨w, hw, -⟩
  cases v with
  | object ms => exact h ms rfl
  | _ => exact absurd hw nofun

/-- **Envelopes are read by their members.** Where a text is an object of which
the marker is not the first member, the members as they were written last
decide about the result, and only those that are asked for. Every other text
is refused. -/
theorem parse_reads_members (text : String) :
    (∀ written, WritesObject text written → written.isLed = false →
      (∀ result, parse text = result ↔ Reads written.last? result) ∧
      ∀ text' written', WritesObject text' written' → written'.isLed = false →
        (∀ field ∈ fields, written'.last? field = written.last? field) →
          parse text' = parse text) ∧
    ((¬ ∃ written, WritesObject text written ∧ written.isLed = false) →
      ∃ refusal, parse text = .error refusal) := by
  have hparse : ∀ {text written}, WritesObject text written → written.isLed = false →
      parse text = ofValue (.object (Members.collect written)) := by
    intro text written h hled
    rw [parse, h.parse_eq hled]
  have hget : ∀ written : Members,
      (Value.object (Members.collect written)).get? = written.last? :=
    fun written => funext (get?_collect written)
  refine ⟨fun written h hled => ⟨fun result => ?_, fun text' written' h' hled' hfields => ?_⟩,
    fun hnone => ?_⟩
  · rw [hparse h hled, ofValue_eq_iff, hget]
  · rw [hparse h hled, hparse h' hled']
    refine ofValue_congr fun field hfield => ?_
    rw [hget, hget, hfields field hfield]
  · rw [exists_writesObject_iff] at hnone
    rw [parse]
    cases hread : Value.parse text with
    | error fault => exact ⟨_, rfl⟩
    | ok v =>
      refine ⟨_, ofValue_of_not_object fun ms hv => hnone ⟨ms, ?_⟩⟩
      rw [hread, hv]

/-- An echo in disorder: the first type and the first server do not count, and
one member is not asked for. -/
def disorder : String :=
  " \x7b \"server\":1,\"type\":\"welcome\", \"original\":null ,\n\"processed_at\":25e-1,"
    ++ "\"x\":[\x7b\x7d],\"type\":\"echo\",\"server\":\"a\"\x7d "

/-- The members that are asked for, in another order, without blanks, and with
an escape. -/
def tidied : String :=
  "\x7b\"processed_at\":25e-1,\"original\":null,\"server\":\"\\u0061\",\"type\":\"echo\"\x7d"

/-- Both are read as the same echo. A text with a path but neither a greeting
nor a finite time is refused for the greeting, and an array for its type. -/
theorem parse_reads_members_disorder :
    parse disorder = .ok (.echo (.json .null) (.ofBits 0x4004000000000000) "a") ∧
      parse tidied = parse disorder ∧
      parse "\x7b\"timestamp\":1e999,\"path\":\"/\",\"type\":\"welcome\"\x7d"
        = .error (.missing "message") ∧
      ∃ refusal, parse "[1]" = .error refusal := by
  let time : Value := .number ⟨false, .positive 1 [5], none, some ⟨true, 1, []⟩⟩
  have htime : TellsTime time (.ofBits 0x4004000000000000) :=
    ⟨_, rfl, by decide +kernel, by decide⟩
  have hdisorder : WritesObject disorder
      [("server", .number ⟨false, .positive 0 [], none, none⟩), ("type", .string "welcome"),
        ("original", .null), ("processed_at", time), ("x", .array [.object []]),
        ("type", .string "echo"), ("server", .string "a")] :=
    writesObject_of_readMembers 8 (show disorder.toList = [' '] ++ '{' :: _ from rfl) (by decide)
      (show Blanks [' '] by decide) (by decide +kernel)
  have htidied : WritesObject tidied
      [("processed_at", time), ("original", .null), ("server", .string "a"),
        ("type", .string "echo")] :=
    writesObject_of_readMembers 5 (show tidied.toList = [] ++ '{' :: _ from rfl) .nil .nil
      (by decide +kernel)
  have hpoor : WritesObject "\x7b\"timestamp\":1e999,\"path\":\"/\",\"type\":\"welcome\"\x7d"
      [("timestamp", .number ⟨false, .positive 0 [], none, some ⟨false, 9, [9, 9]⟩⟩),
        ("path", .string "/"), ("type", .string "welcome")] :=
    writesObject_of_readMembers 4 (show String.toList _ = [] ++ '{' :: _ from rfl) .nil .nil
      (by decide +kernel)
  obtain ⟨hreads, hlike⟩ := (parse_reads_members disorder).1 _ hdisorder rfl
  have hnull : StandsFor .null (.json .null) := (standsFor_iff .null _).mpr rfl
  refine ⟨(hreads _).mpr (.echo rfl rfl hnull rfl htime rfl),
    hlike _ _ htidied rfl (by decide), ?_, ?_⟩
  · refine (((parse_reads_members _).1 _ hpoor rfl).1 _).mpr (.poorWelcome rfl (.here ?_))
    rintro ⟨_, h, -⟩
    exact absurd h nofun
  · refine (parse_reads_members "[1]").2 ?_
    rw [exists_writesObject_iff]
    rintro ⟨ms, h⟩
    have harray : Value.parse "[1]"
        = .ok (.array [.number ⟨false, .positive 0 [], none, none⟩]) := by decide +kernel
    rw [harray] at h
    exact absurd h nofun

end Envelope

end EchoProbe
