import EventFeed.Line
import EventFeed.Flow.Reader
import EventFeed.Proofs.Json.RoundTrip

/-!
# Events come back

The text of an event fits on one line, and a source hands that line over as it was written. It spells the
event again, unless sorting has brought the embedding key to the front of an object, or documents in texts
have brought in more nesting than a text may spell.
-/

namespace EventFeed

open EventFeed.Flow

variable {event : Event} {line : List UInt8}

/-! ## Lines of a file -/

namespace Flow

/-- What ends a line: a line feed, behind a carriage return or not. -/
inductive EndsLine : List UInt8 → Prop where
  | feed : EndsLine [lineFeed]
  | returnFeed : EndsLine [carriageReturn, lineFeed]

variable {text ending rest : List UInt8}

theorem trimReturn_of_visible (visible : ∀ b ∈ text, 0x20 ≤ b.toNat) : trimReturn text = text := by
  rw [trimReturn, if_neg]
  intro last
  have inside := List.mem_of_getLast? last
  exact absurd (visible _ inside) (by decide)

/-- A read finds a text without control characters as it was written. -/
theorem OpenFile.read_written (visible : ∀ b ∈ text, 0x20 ≤ b.toNat) (ends : EndsLine ending) (path : Path)
    (rest : List UInt8) (fault : Option SystemFault) (lines bytes : Nat) :
    (OpenFile.mk path (text ++ ending ++ rest) fault lines bytes).read = .line text rest := by
  have kept : ∀ b ∈ text, decide (b ≠ lineFeed) = true := by
    intro b inside
    apply decide_eq_true
    rintro rfl
    exact absurd (visible _ inside) (by decide)
  have first : firstLine (text ++ ending ++ rest) = text := by
    rw [firstLine, List.append_assoc, List.takeWhile_append_of_pos kept]
    cases ends with
    | feed =>
        rw [List.cons_append, List.takeWhile_cons_of_neg (by decide), List.append_nil]
        exact trimReturn_of_visible visible
    | returnFeed =>
        rw [List.cons_append, List.cons_append, List.takeWhile_cons_of_pos (by decide),
          List.takeWhile_cons_of_neg (by decide), trimReturn, List.getLast?_concat, if_pos rfl,
          List.dropLast_concat]
  have behind : afterFirstLine (text ++ ending ++ rest) = rest := by
    rw [afterFirstLine, List.append_assoc, List.dropWhile_append_of_pos kept]
    cases ends with
    | feed => rfl
    | returnFeed => rfl
  have present : lineFeed ∈ text ++ ending ++ rest := by
    cases ends <;> simp
  have nonempty : text ++ ending ++ rest ≠ [] := List.ne_nil_of_mem present
  have contained : (text ++ ending ++ rest).contains lineFeed = true := List.contains_iff_mem.2 present
  cases fault with
  | none => simp only [OpenFile.read, if_neg nonempty, first, behind]
  | some fault => simp only [OpenFile.read, if_pos contained, first, behind]

end Flow

/-! ## Events -/

theorem Event.parse_eq_ok_iff : Event.parse line = .ok event ↔ Json.parse line = .ok event.toJson := by
  unfold Event.parse
  split
  · rename_i error refused
    rw [refused]
    constructor
    · intro same
      cases same
    · intro same
      cases same
  · rename_i value parsed
    constructor
    · intro made
      cases value with
      | object members =>
          cases made
          exact parsed
      | _ => cases made
    · intro same
      obtain rfl : event.toJson = value := Except.ok.inj (same.symm.trans parsed)
      rfl

theorem Event.parse_of_error {error : Json.Error} (refused : Json.parse line = .error error) :
    Event.parse line = .error (.json error) := by
  unfold Event.parse
  split
  · rename_i other found
    rw [refused] at found
    cases found
    rfl
  · rename_i value parsed
    rw [refused] at parsed
    cases parsed

/-- The text of an event is parsed as the event when it may be read back, and refused otherwise. -/
theorem Event.parse_compact (parsed : Event.parse line = .ok event) (whole : event.toJson.Whole) :
    Json.Fits Json.nestingLimit event.toJson ∧ Event.parse (Utf8.ofString event.compact) = .ok event ∨
      ¬ Json.Fits Json.nestingLimit event.toJson ∧
        ∃ error, Event.parse (Utf8.ofString event.compact) = .error (.json error) := by
  have ordered : event.toJson.Ordered := event.ordered
  have accompanied := Json.accompanied_of_parse (Event.parse_eq_ok_iff.1 parsed)
  rcases Json.parseText_compact ordered whole accompanied with ⟨fits, again⟩ | ⟨fails, error, refused⟩
  · exact .inl ⟨fits, Event.parse_eq_ok_iff.2 again⟩
  · exact .inr ⟨fails, error, Event.parse_of_error refused⟩

theorem Event.visible_compact (whole : event.toJson.Whole) {b : UInt8}
    (inside : b ∈ Utf8.ofString event.compact) : 0x20 ≤ b.toNat := by
  rw [Event.compact, Json.ofString_compact] at inside
  exact (Json.visible_chars event.toJson whole).le_of_mem_encode inside

/-- The text of an event is no line of blanks. -/
theorem Event.classify_compact (event : Event) :
    Line.classify (Utf8.ofString event.compact) =
      match Event.parse (Utf8.ofString event.compact) with
      | .ok parsed => .event parsed
      | .error refusal => .malformed refusal := by
  have brace : (Utf8.ofString event.compact).all isLineBlank = false := by
    rw [Event.compact, Json.ofString_compact]
    rfl
  rw [Line.classify, brace]
  rfl

/-- An event with whole numbers comes back from its text, and from the line of a file that holds its text,
exactly when it does not nest too deep and no object in it begins with the embedding key. Else its text is
refused. It comes back from its value in any case, and its text is always one line. -/
theorem Event.text_returns_iff (parsed : Event.parse line = .ok event) (whole : event.toJson.Whole) :
    (Event.parse (Utf8.ofString event.compact) = .ok event ↔
      event.toJson.nesting ≤ Json.nestingLimit ∧ event.toJson.Unembedded) ∧
    (Line.classify (Utf8.ofString event.compact) = .event event ↔
      event.toJson.nesting ≤ Json.nestingLimit ∧ event.toJson.Unembedded) ∧
    (¬ (event.toJson.nesting ≤ Json.nestingLimit ∧ event.toJson.Unembedded) →
      ∃ error, Event.parse (Utf8.ofString event.compact) = .error (.json error) ∧
        Line.classify (Utf8.ofString event.compact) = .malformed (.json error)) ∧
    Event.ofJson event.toJson event.ordered = .ok event ∧
    (∀ b ∈ Utf8.ofString event.compact, 0x20 ≤ b.toNat) ∧
    ∀ ending, EndsLine ending → ∀ path rest fault lines bytes,
      (OpenFile.mk path (Utf8.ofString event.compact ++ ending ++ rest) fault lines bytes).read =
        .line (Utf8.ofString event.compact) rest := by
  have visible : ∀ b ∈ Utf8.ofString event.compact, 0x20 ≤ b.toNat := fun _ => Event.visible_compact whole
  have kind := event.classify_compact
  have written : ∀ ending, EndsLine ending → ∀ path rest fault lines bytes,
      (OpenFile.mk path (Utf8.ofString event.compact ++ ending ++ rest) fault lines bytes).read =
        .line (Utf8.ofString event.compact) rest :=
    fun ending ends path rest fault lines bytes => OpenFile.read_written visible ends path rest fault lines bytes
  rcases Event.parse_compact parsed whole with ⟨fits, again⟩ | ⟨fails, error, refused⟩
  · rw [again] at kind
    exact ⟨iff_of_true again fits, iff_of_true kind fits, fun fails => absurd fits fails, rfl, visible, written⟩
  · rw [refused] at kind
    have notAgain : Event.parse (Utf8.ofString event.compact) ≠ .ok event := by
      rw [refused]
      exact nofun
    have notKind : Line.classify (Utf8.ofString event.compact) ≠ .event event := by
      rw [kind]
      exact nofun
    exact ⟨iff_of_false notAgain fails, iff_of_false notKind fails, fun _ => ⟨error, refused, kind⟩, rfl,
      visible, written⟩

/-! ## Two events -/

/-- What is computed for the event of a line holds of an event that the line spells. -/
theorem Event.exists_of_any (holds : Event → Bool) (found : (Event.parse line).toOption.any holds = true) :
    ∃ event, Event.parse line = .ok event ∧ holds event = true := by
  cases parsed : Event.parse line with
  | error refusal =>
      rw [parsed] at found
      cases found
  | ok event =>
      rw [parsed] at found
      exact ⟨event, rfl, found⟩

/-- A line with a key that comes twice, escapes, and numbers at the ends of both ranges. -/
def mixedLine : List UInt8 :=
  Utf8.ofString
    ("\x7b\"b\": 1, \"a\": null, \"b\": [18446744073709551615, -9223372036854775808, " ++
      "\x7b\"c\": \"\\u00e9\\ud83d\\ude00\\n\"\x7d, -0]\x7d")

theorem Event.text_returns_iff_mixedLine :
    ∃ event, Event.parse mixedLine = .ok event ∧ event.toJson.Whole ∧
      event.compact =
        "\x7b\"a\":null,\"b\":[18446744073709551615,-9223372036854775808,\x7b\"c\":\"é😀\\n\"\x7d,-0.0]\x7d" ∧
      Event.parse (Utf8.ofString event.compact) = .ok event ∧
      (OpenFile.mk ⟨[]⟩ (Utf8.ofString event.compact ++ [carriageReturn, lineFeed] ++ mixedLine) none 0 0).read =
        .line (Utf8.ofString event.compact) mixedLine := by
  obtain ⟨event, parsed, holds⟩ := Event.exists_of_any (fun event => decide (event.toJson.Whole ∧
    (event.toJson.nesting ≤ Json.nestingLimit ∧ event.toJson.Unembedded) ∧ event.compact =
      "\x7b\"a\":null,\"b\":[18446744073709551615,-9223372036854775808,\x7b\"c\":\"é😀\\n\"\x7d,-0.0]\x7d"))
    (show (Event.parse mixedLine).toOption.any _ = true by decide +kernel)
  obtain ⟨whole, fits, text⟩ := of_decide_eq_true holds
  obtain ⟨again, _, _, _, _, written⟩ := Event.text_returns_iff parsed whole
  exact ⟨event, parsed, whole, text, again.2 fits, written _ .returnFeed _ _ _ _ _⟩

/-- A line that spells an event with an object whose first key, in order, is the embedding key. -/
def coveredLine : List UInt8 :=
  Utf8.ofString "\x7b\"x\":\x7b\"a\":1,\"$serde_json::private::RawValue\":\"5\"\x7d\x7d"

/-- The text of an event need not spell the event, nor any other one. -/
theorem Event.text_does_not_return :
    ∃ event, Event.parse coveredLine = .ok event ∧ event.toJson.Whole ∧
      event.toJson.nesting ≤ Json.nestingLimit ∧
      event.compact = "\x7b\"x\":\x7b\"$serde_json::private::RawValue\":\"5\",\"a\":1\x7d\x7d" ∧
      ∃ error, Event.parse (Utf8.ofString event.compact) = .error (.json error) := by
  obtain ⟨event, parsed, holds⟩ := Event.exists_of_any (fun event => decide (event.toJson.Whole ∧
    event.toJson.nesting ≤ Json.nestingLimit ∧ ¬ event.toJson.Unembedded ∧
    event.compact = "\x7b\"x\":\x7b\"$serde_json::private::RawValue\":\"5\",\"a\":1\x7d\x7d"))
    (show (Event.parse coveredLine).toOption.any _ = true by decide +kernel)
  obtain ⟨whole, shallow, embedded, text⟩ := of_decide_eq_true holds
  rcases Event.parse_compact parsed whole with ⟨fits, _⟩ | ⟨_, refused⟩
  · exact absurd fits.2 embedded
  · exact ⟨event, parsed, whole, shallow, text, refused⟩

end EventFeed
