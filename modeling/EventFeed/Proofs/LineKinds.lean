import EventFeed.Proofs.EventText
import EventFeed.Proofs.Flow.SourceLines
import EventFeed.Proofs.Json.BlanksBehind

/-!
# What a line is

A line is told to be blank without being parsed, by a rule that knows one blank more than JSON does: the form
feed. No event is lost by that, since no document begins with a form feed. What a line is does not depend
either on whether the bytes that end it were taken off before, as these are blanks to both rules.
-/

namespace EventFeed

open EventFeed.Flow

variable {line blanks : List UInt8} {value : Json}

/-! ## Lines of blanks -/

/-- What ASCII has for blanks, the vertical tab left out. -/
def asciiBlanks : List UInt8 := [0x20, 0x09, 0x0A, 0x0C, 0x0D]

theorem isLineBlank_iff {b : UInt8} : isLineBlank b = true ↔ b ∈ asciiBlanks := by
  simp only [isLineBlank, asciiBlanks, Bool.or_eq_true, decide_eq_true_eq, List.mem_cons, List.not_mem_nil,
    or_false, or_assoc]

theorem all_isLineBlank_iff : line.all isLineBlank = true ↔ ∀ b ∈ line, b ∈ asciiBlanks := by
  simp only [List.all_eq_true, isLineBlank_iff]

theorem isLineBlank_of_isBlank {b : UInt8} (blank : Json.isBlank b = true) : isLineBlank b = true := by
  rcases Json.cases_of_isBlank blank with rfl | rfl | rfl | rfl <;> rfl

/-- Behind the blanks of JSON a line of blanks has nothing, or a form feed. -/
theorem skipBlanks_of_all_isLineBlank (all : line.all isLineBlank = true) :
    Json.skipBlanks line = [] ∨ ∃ rest, Json.skipBlanks line = 0x0C :: rest := by
  induction line with
  | nil => exact .inl rfl
  | cons b rest ih =>
      obtain ⟨first, others⟩ := Bool.and_eq_true_iff.1 (List.all_cons.symm.trans all)
      rw [Json.skipBlanks]
      by_cases blank : Json.isBlank b = true
      · rw [if_pos blank]
        exact ih others
      · rw [if_neg blank]
        have feed : b = 0x0C := by
          have found := isLineBlank_iff.1 first
          simp only [asciiBlanks, List.mem_cons, List.not_mem_nil, or_false] at found
          rcases found with rfl | rfl | rfl | rfl | rfl
          · exact absurd rfl blank
          · exact absurd rfl blank
          · exact absurd rfl blank
          · rfl
          · exact absurd rfl blank
        exact .inr ⟨rest, by rw [feed]⟩

theorem Event.parse_of_all_isLineBlank (all : line.all isLineBlank = true) :
    ∃ error, Event.parse line = .error (.json error) := by
  have refused : ∃ fault, Json.readDocument line = .error fault := by
    rw [Json.readDocument, Json.fuelFor, Json.readValue]
    rcases skipBlanks_of_all_isLineBlank all with none | ⟨rest, feed⟩
    · rw [none]
      exact ⟨_, rfl⟩
    · rw [feed]
      exact ⟨_, rfl⟩
  obtain ⟨fault, refused⟩ := refused
  have parsed : Json.parse line = .error (fault.toError line) := by rw [Json.parse, refused]
  exact ⟨_, Event.parse_of_error parsed⟩

/-! ## Lines that differ in blanks behind them -/

/-- Two refusals of one kind. They differ at most in what is wrong with the JSON. -/
inductive Refusal.Alike : Refusal → Refusal → Prop where
  | json (error error' : Json.Error) : Alike (.json error) (.json error')
  | same (refusal : Refusal) : Alike refusal refusal

/-- Two lines of one kind: the same event, both blank, or refused in the same way. -/
inductive Line.Alike : Line → Line → Prop where
  | event (event : Event) : Alike (.event event) (.event event)
  | blank : Alike .blank .blank
  | malformed {refusal refusal' : Refusal} (alike : refusal.Alike refusal') :
      Alike (.malformed refusal) (.malformed refusal')

theorem Event.parse_of_ok (parsed : Json.parse line = .ok value) :
    Event.parse line = Event.ofJson value (Json.ordered_of_parse parsed) := by
  unfold Event.parse
  split
  · rename_i error refused
    rw [refused] at parsed
    cases parsed
  · rename_i other found
    obtain rfl : value = other := Except.ok.inj (parsed.symm.trans found)
    rfl

/-- Blanks behind a line change at most what is wrong with its JSON. -/
theorem Event.parse_append_blanks (blank : ∀ b ∈ blanks, Json.isBlank b = true) (line : List UInt8) :
    Event.parse (line ++ blanks) = Event.parse line ∨
      ∃ error error', Event.parse line = .error (.json error) ∧
        Event.parse (line ++ blanks) = .error (.json error') := by
  rcases Json.parse_append_blanks blank line with ⟨value, parsed, parsed'⟩ | ⟨error, error', refused, refused'⟩
  · exact .inl ((Event.parse_of_ok parsed').trans (Event.parse_of_ok parsed).symm)
  · exact .inr ⟨error, error', Event.parse_of_error refused, Event.parse_of_error refused'⟩

namespace Line

theorem Alike.refl (line : Line) : line.Alike line := by
  cases line with
  | event event => exact .event event
  | blank => exact .blank
  | malformed refusal => exact .malformed (.same refusal)

theorem classify_of_blank (all : line.all isLineBlank = true) : classify line = .blank :=
  if_pos all

theorem classify_of_not_blank (some : ¬line.all isLineBlank = true) :
    classify line = match Event.parse line with
      | .ok parsed => .event parsed
      | .error refusal => .malformed refusal :=
  if_neg some

theorem alike_append_blanks (blank : ∀ b ∈ blanks, Json.isBlank b = true) (line : List UInt8) :
    (classify (line ++ blanks)).Alike (classify line) := by
  have behind : blanks.all isLineBlank = true :=
    List.all_eq_true.2 fun b inside => isLineBlank_of_isBlank (blank b inside)
  have whole : (line ++ blanks).all isLineBlank = line.all isLineBlank := by
    rw [List.all_append, behind, Bool.and_true]
  by_cases all : line.all isLineBlank = true
  · rw [classify_of_blank all, classify_of_blank (whole.trans all)]
    exact .blank
  rw [classify_of_not_blank all, classify_of_not_blank (whole ▸ all)]
  rcases Event.parse_append_blanks blank line with same | ⟨error, error', refused, refused'⟩
  · rw [same]
    exact .refl _
  · rw [refused, refused']
    exact .malformed (.json error' error)

end Line

/-! ## Terminators -/

namespace Flow

def trimFeed (buffer : List UInt8) : List UInt8 :=
  if buffer.getLast? = some lineFeed then buffer.dropLast else buffer

/-- Some bytes without one line feed at their end, and then without one carriage return. -/
def trimTerminator (buffer : List UInt8) : List UInt8 :=
  trimReturn (trimFeed buffer)

/-- What a read takes up: everything as far as the first line feed, and that too. -/
def rawLine (bytes : List UInt8) : List UInt8 :=
  bytes.takeWhile (· ≠ lineFeed) ++ (bytes.dropWhile (· ≠ lineFeed)).take 1

theorem exists_blanks_trimFeed (buffer : List UInt8) :
    ∃ blanks, buffer = trimFeed buffer ++ blanks ∧ ∀ b ∈ blanks, Json.isBlank b = true := by
  by_cases last : buffer.getLast? = some lineFeed
  · refine ⟨[lineFeed], ?_, List.forall_mem_singleton.2 rfl⟩
    rw [trimFeed, if_pos last, List.dropLast_append_getLast? _ last]
  · exact ⟨[], by rw [trimFeed, if_neg last, List.append_nil], List.forall_mem_nil _⟩

theorem exists_blanks_trimReturn (line : List UInt8) :
    ∃ blanks, line = trimReturn line ++ blanks ∧ ∀ b ∈ blanks, Json.isBlank b = true := by
  by_cases last : line.getLast? = some carriageReturn
  · refine ⟨[carriageReturn], ?_, List.forall_mem_singleton.2 rfl⟩
    rw [trimReturn, if_pos last, List.dropLast_append_getLast? _ last]
  · exact ⟨[], by rw [trimReturn, if_neg last, List.append_nil], List.forall_mem_nil _⟩

/-- All that is taken off the end of a line are blanks. -/
theorem exists_blanks_trimTerminator (buffer : List UInt8) :
    ∃ blanks, buffer = trimTerminator buffer ++ blanks ∧ ∀ b ∈ blanks, Json.isBlank b = true := by
  obtain ⟨feed, cut, feedBlank⟩ := exists_blanks_trimFeed buffer
  obtain ⟨back, cut', backBlank⟩ := exists_blanks_trimReturn (trimFeed buffer)
  refine ⟨back ++ feed, ?_, List.forall_mem_append.2 ⟨backBlank, feedBlank⟩⟩
  rw [trimTerminator, ← List.append_assoc, ← cut']
  exact cut

theorem rawLine_append_afterFirstLine (bytes : List UInt8) : rawLine bytes ++ afterFirstLine bytes = bytes := by
  rw [rawLine, afterFirstLine, List.append_assoc, List.take_append_drop, List.takeWhile_append_dropWhile]

theorem trimTerminator_rawLine (bytes : List UInt8) : trimTerminator (rawLine bytes) = firstLine bytes := by
  rw [trimTerminator, firstLine, rawLine]
  refine congrArg trimReturn ?_
  rcases dropWhile_lineFeed_cases bytes with nothing | feed
  · rw [nothing, List.take_nil, List.append_nil]
    exact if_neg fun last => lineFeed_notMem_takeWhile bytes (List.mem_of_getLast? last)
  · rw [feed, trimFeed]
    exact (if_pos List.getLast?_concat).trans List.dropLast_concat

variable {file : OpenFile} {text rest : List UInt8}

/-- A read takes up a raw line and hands it over without its terminator. -/
theorem OpenFile.rawLine_of_read (found : file.read = .line text rest) :
    rawLine file.rest ++ rest = file.rest ∧ text = trimTerminator (rawLine file.rest) := by
  have line : text = firstLine file.rest ∧ rest = afterFirstLine file.rest := by
    unfold read at found
    split at found <;> split at found <;> cases found
    · exact ⟨rfl, rfl⟩
    · exact ⟨rfl, rfl⟩
  obtain ⟨rfl, rfl⟩ := line
  exact ⟨rawLine_append_afterFirstLine _, (trimTerminator_rawLine _).symm⟩

end Flow

/-! ## Kinds of lines -/

namespace Line

theorem alike_trimTerminator (buffer : List UInt8) :
    (classify buffer).Alike (classify (trimTerminator buffer)) := by
  obtain ⟨blanks, cut, blank⟩ := exists_blanks_trimTerminator buffer
  have alike := alike_append_blanks blank (trimTerminator buffer)
  rwa [← cut] at alike

theorem classify_eq_event_iff {event : Event} : classify line = .event event ↔ Event.parse line = .ok event := by
  by_cases all : line.all isLineBlank = true
  · obtain ⟨error, refused⟩ := Event.parse_of_all_isLineBlank all
    rw [classify_of_blank all, refused]
    exact iff_of_false nofun nofun
  · rw [classify_of_not_blank all]
    cases Event.parse line with
    | ok parsed => exact ⟨fun same => by cases same; rfl, fun same => by cases same; rfl⟩
    | error refusal => exact iff_of_false nofun nofun

theorem classify_eq_blank_iff : classify line = .blank ↔ ∀ b ∈ line, b ∈ asciiBlanks := by
  rw [← all_isLineBlank_iff]
  by_cases all : line.all isLineBlank = true
  · exact iff_of_true (classify_of_blank all) all
  · refine iff_of_false ?_ all
    rw [classify_of_not_blank all]
    cases Event.parse line with
    | ok parsed => exact nofun
    | error refusal => exact nofun

theorem classify_eq_malformed_iff {refusal : Refusal} :
    classify line = .malformed refusal ↔ Event.parse line = .error refusal ∧ ¬∀ b ∈ line, b ∈ asciiBlanks := by
  rw [← all_isLineBlank_iff]
  by_cases all : line.all isLineBlank = true
  · rw [classify_of_blank all]
    exact iff_of_false nofun fun both => both.2 all
  · rw [classify_of_not_blank all]
    cases Event.parse line with
    | ok parsed => exact iff_of_false nofun nofun
    | error other => exact ⟨fun same => by cases same; exact ⟨rfl, all⟩, fun ⟨same, _⟩ => by cases same; rfl⟩

/-- A line is an event exactly if it spells one, blank exactly if it has nothing but blanks in it, and else
malformed for the reason it is refused. It is of the same kind with its terminator as without it, and so is every
line that is read from a file. -/
theorem kind_follows_parse (line : List UInt8) :
    (∀ event, classify line = .event event ↔ Event.parse line = .ok event) ∧
    (classify line = .blank ↔ ∀ b ∈ line, b ∈ asciiBlanks) ∧
    (∀ refusal, classify line = .malformed refusal ↔
      Event.parse line = .error refusal ∧ ¬∀ b ∈ line, b ∈ asciiBlanks) ∧
    (classify line).Alike (classify (trimTerminator line)) ∧
    ∀ file text rest, OpenFile.read file = .line text rest →
      rawLine file.rest ++ rest = file.rest ∧ text = trimTerminator (rawLine file.rest) ∧
        (classify (rawLine file.rest)).Alike (classify text) := by
  refine ⟨fun _ => classify_eq_event_iff, classify_eq_blank_iff, fun _ => classify_eq_malformed_iff,
    alike_trimTerminator line, fun file text rest found => ?_⟩
  obtain ⟨whole, rfl⟩ := OpenFile.rawLine_of_read found
  exact ⟨whole, rfl, alike_trimTerminator _⟩

/-- A line that is cut short, with a carriage return behind it. -/
def cutLine : List UInt8 := Utf8.ofString "\x7b\"a\": [1e\r"

def cutFile : OpenFile :=
  ⟨⟨[]⟩, cutLine, none, 0, 0⟩

theorem kind_follows_parse_cutFile :
    cutFile.read = .line (Utf8.ofString "\x7b\"a\": [1e") [] ∧
    (classify cutLine).Alike (classify (Utf8.ofString "\x7b\"a\": [1e")) ∧
    ∃ refusal, classify cutLine = .malformed refusal := by
  have read : cutFile.read = .line (Utf8.ofString "\x7b\"a\": [1e") [] := by decide +kernel
  obtain ⟨_, _, malformed, _, fromFile⟩ := kind_follows_parse cutLine
  obtain ⟨_, _, alike⟩ := fromFile cutFile _ _ read
  refine ⟨read, alike, ?_⟩
  have none : (Event.parse cutLine).toOption.isNone = true := by decide +kernel
  cases refused : Event.parse cutLine with
  | error refusal => exact ⟨refusal, (malformed refusal).2 ⟨refused, by decide +kernel⟩⟩
  | ok event =>
      rw [refused] at none
      cases none

end Line

end EventFeed
