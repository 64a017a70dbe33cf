import EventFeed.Proofs.Client.Exchange
import EventFeed.Proofs.Documents
import EventFeed.Proofs.Json.Echoes
import EventFeed.Proofs.Schema.Strangers
import EventFeed.Proofs.Url.Forms

/-!
# What a response says

The body of a success is nothing, a JSON value or a text, and each body is taken for exactly one of these. Any
other response tells the reason in an envelope, which may hold more than the reason, or it does not tell it. Every
value comes back from its own text, unless an object in it begins with the embedding key.
-/

namespace EventFeed

variable {body : String} {value : Json}

/-! ## Blank bodies -/

namespace Text

/-- No value begins with such a byte, and no blank of JSON is one. -/
def NoStart (b : UInt8) : Prop :=
  b = 0x0B ∨ b = 0x0C ∨ 0x80 ≤ b.toNat

instance : DecidablePred NoStart := fun _ => inferInstanceAs (Decidable (_ ∨ _))

theorem NoStart.ne {b other : UInt8} (noStart : NoStart b) (start : ¬NoStart other) : b ≠ other := by
  rintro rfl
  exact start noStart

theorem NoStart.isDigit {b : UInt8} (noStart : NoStart b) : Json.isDigit b = false := by
  rcases noStart with rfl | rfl | large
  · rfl
  · rfl
  · have above : ¬b ≤ 0x39 := by
      rw [UInt8.le_iff_toNat_le]
      exact Nat.not_le.2 (Nat.lt_of_lt_of_le (by decide) large)
    rw [Json.isDigit, decide_eq_false above, Bool.and_false]

theorem NoStart.isBlank {b : UInt8} (noStart : NoStart b) : Json.isBlank b = false := by
  simp only [Json.isBlank, Bool.or_eq_false_iff, decide_eq_false_iff_not]
  exact ⟨⟨⟨noStart.ne (by decide), noStart.ne (by decide)⟩, noStart.ne (by decide)⟩, noStart.ne (by decide)⟩

/-- White space is a blank of JSON, or begins with a byte with which no value begins. -/
theorem encodeChar_of_isBlank {c : Char} (blank : isBlank c = true) :
    ∃ b behind, Utf8.encodeChar c = b :: behind ∧ (behind = [] ∧ Json.isBlank b = true ∨ NoStart b) := by
  by_cases small : c.toNat < 0x80
  · have all : ∀ n < 0x80, isBlank (Char.ofNat n) = true →
        Json.isBlank (UInt8.ofNat n) = true ∨ NoStart (UInt8.ofNat n) := by decide
    have first := all c.toNat small (by rw [Char.ofNat_toNat]; exact blank)
    exact ⟨_, [], Utf8.encodeChar_of_lt small, first.imp_left fun blank => ⟨rfl, blank⟩⟩
  · obtain ⟨b, behind, spelled⟩ := List.exists_cons_of_ne_nil (Utf8.encodeChar_ne_nil c)
    have large := Utf8.le_of_mem_encodeChar (Nat.le_of_not_lt small) (spelled ▸ List.mem_cons_self)
    exact ⟨b, behind, spelled, .inr (.inr (.inr large))⟩

/-- Behind the blanks of JSON a blank text has nothing, or a byte with which no value begins. -/
theorem skipBlanks_of_isBlank {text : List Char} (all : ∀ c ∈ text, isBlank c = true) :
    Json.skipBlanks (Utf8.encode text) = [] ∨
      ∃ b rest, Json.skipBlanks (Utf8.encode text) = b :: rest ∧ NoStart b := by
  induction text with
  | nil => exact .inl rfl
  | cons c text ih =>
      obtain ⟨first, others⟩ := List.forall_mem_cons.1 all
      obtain ⟨b, behind, spelled, kind⟩ := encodeChar_of_isBlank first
      rw [Utf8.encode_cons, spelled, List.cons_append]
      rcases kind with ⟨rfl, blank⟩ | noStart
      · rw [Json.skipBlanks, if_pos blank]
        exact ih others
      · rw [Json.skipBlanks_front noStart.isBlank]
        exact .inr ⟨b, _, rfl, noStart⟩

/-- No value is read from a blank text. -/
theorem exists_error_of_isBlank (all : ∀ c ∈ body.toList, isBlank c = true) :
    ∃ error, Json.parseText body = .error error := by
  have refused : ∃ fault, Json.readDocument (Utf8.ofString body) = .error fault := by
    rw [Json.readDocument, Json.fuelFor, Json.readValue, Utf8.ofString]
    rcases skipBlanks_of_isBlank all with none | ⟨b, rest, front, noStart⟩
    · rw [none]
      exact ⟨_, rfl⟩
    · have other {c : UInt8} (start : ¬NoStart c) : b ≠ c := noStart.ne start
      rw [front]
      dsimp only
      rw [if_neg (other (by decide)), if_neg (other (by decide)), if_neg (other (by decide)),
        if_neg (other (by decide)), noStart.isDigit, if_neg Bool.false_ne_true, if_neg (other (by decide)),
        if_neg (other (by decide)), if_neg (other (by decide))]
      exact ⟨_, rfl⟩
  obtain ⟨fault, refused⟩ := refused
  exact ⟨fault.toError (Utf8.ofString body), by rw [Json.parseText, Json.parse, refused]⟩

end Text

/-! ## Envelopes -/

def Json.blankChars : List Char := [' ', '\t', '\n', '\r']

theorem Json.isBlank_of_blankChars {text : String} (blank : ∀ c ∈ text.toList, c ∈ blankChars) :
    ∀ b ∈ Utf8.ofString text, isBlank b = true := by
  intro b inside
  obtain ⟨c, present, within⟩ := List.mem_flatMap.1 inside
  have one := blank c present
  simp only [blankChars, List.mem_cons, List.not_mem_nil, or_false] at one
  rcases one with rfl | rfl | rfl | rfl <;> (rw [List.mem_singleton.1 within]; rfl)

/-- A record stands in brackets or braces. -/
theorem Schema.exists_fault_read_record {name : String} {fields : Fields} {fuel depth : Nat} {input : List UInt8}
    (noBracket : (Json.skipBlanks input).head? ≠ some 0x5B) (noBrace : (Json.skipBlanks input).head? ≠ some 0x7B) :
    ∃ fault, read (.record name fields) fuel depth input = .error fault := by
  rw [read]
  dsimp only
  generalize Json.skipBlanks input = front at noBracket noBrace
  cases front with
  | nil => exact ⟨_, rfl⟩
  | cons b rest =>
      dsimp only
      rw [if_neg fun same => noBracket (congrArg some same), if_neg fun same => noBrace (congrArg some same)]
      exact ⟨_, rfl⟩

namespace Envelope

/-- The document has a rejection under the key of errors. Both the envelope and the rejection may hold strangers
besides, and may have their members in any order. -/
def Around (rejection : Rejection) (document : Json) : Prop :=
  ∃ members inside outside, rejection.toJson = .object members ∧
    Schema.Besides ["class", "message", "detail", "additional"] members inside ∧
    Schema.Besides ["error"] [("error", .object inside)] outside ∧ document = .object outside

variable {rejection : Rejection} {document : Json}

/-- Without strangers it is the envelope's own document. -/
theorem around_toJson (rejection : Rejection) : Around rejection (Envelope.mk rejection).toJson := by
  refine ⟨_, _, _, rfl, ?_, Schema.Besides.refl ?_, rfl⟩
  · refine Schema.Besides.refl fun member inside => ?_
    have own (key : String) (remark : Option String) (among : member ∈ Rejection.remarkField key remark) :
        member.1 = key := by
      cases remark with
      | none => cases among
      | some text => rw [List.mem_singleton.1 among]
    simp only [List.cons_append, List.nil_append, List.mem_cons, List.mem_append] at inside
    rcases inside with rfl | rfl | detail | additional
    · exact List.mem_cons_self
    · exact List.mem_cons_of_mem _ List.mem_cons_self
    · rw [own _ _ detail]
      decide
    · rw [own _ _ additional]
      decide
  · exact List.forall_mem_singleton.2 List.mem_cons_self

theorem Around.holds (around : Around rejection document) :
    ∃ datum, schema.Holds datum document ∧ ofDatum? datum = some ⟨rejection⟩ := by
  obtain ⟨members, inside, outside, spelled, within, besides, rfl⟩ := around
  obtain ⟨datum, writes, back⟩ := rejection.carries
  rw [spelled] at writes
  have here : Rejection.schema.Holds datum (.object inside) := writes.holds within
  refine ⟨.record [datum], .record (List.pairwise_singleton _ _) (.present here .nil) besides, ?_⟩
  rw [ofDatum?, back]
  rfl

/-- The rejection is found in every envelope around it. -/
theorem Around.decode (around : Around rejection document) {front behind : String}
    (blankFront : ∀ c ∈ front.toList, c ∈ Json.blankChars) (blankBehind : ∀ c ∈ behind.toList, c ∈ Json.blankChars) :
    Document.decode (Utf8.ofString (front ++ document.compact ++ behind)) = .ok (Envelope.mk rejection) := by
  obtain ⟨datum, holds, back⟩ := around.holds
  have bytes : Utf8.ofString (front ++ document.compact ++ behind) =
      Utf8.ofString front ++ (document.bytes ++ Utf8.ofString behind) := by
    rw [← Json.ofString_compact]
    simp only [Utf8.ofString, String.toList_append, Utf8.encode_append, List.append_assoc]
  have found : Schema.decode (Document.schema Envelope) _ = .ok datum :=
    holds.decode (by decide) (Json.isBlank_of_blankChars blankFront) (Json.isBlank_of_blankChars blankBehind)
  have meant : Document.ofDatum? datum = some (Envelope.mk rejection) := back
  rw [bytes, Document.decode, found]
  dsimp only
  rw [Document.ofDatum, meant]

end Envelope

namespace Client

variable {status : Http.Status} {request : Http.Request} {response : Http.Response} {result : Except Failure Json}
  {world : World} {arrived : Nat} {sent : List Http.Request}

/-! ## Bodies of successes -/

/-- What the body of a success is taken for: nothing, a value, or a text. -/
structure TakesBody (body : String) (result : Except Failure Json) : Prop where
  blank : (∀ c ∈ body.toList, Text.isBlank c = true) → result = .ok .null
  value : ∀ value, Json.parseText body = .ok value → result = .ok value
  text : ∀ error, Json.parseText body = .error error → (∃ c ∈ body.toList, Text.isBlank c = false) →
    result = .ok (.string body)
  written : ∀ value : Json, value.Ordered → value.Whole → value.nesting ≤ Json.nestingLimit →
    body = value.compact → (result = .ok value ↔ value.Unembedded)

theorem successValue_of_blank (all : ∀ c ∈ body.toList, Text.isBlank c = true) : successValue body = .null :=
  if_pos (List.all_eq_true.2 all)

theorem successValue_of_parse (parsed : Json.parseText body = .ok value) : successValue body = value := by
  have visible : ¬Text.isBlankText body.toList = true := by
    intro blank
    obtain ⟨error, refused⟩ := Text.exists_error_of_isBlank (List.all_eq_true.1 blank)
    rw [refused] at parsed
    cases parsed
  rw [successValue, if_neg visible, parsed]

theorem successValue_of_error {error : Json.Error} (refused : Json.parseText body = .error error)
    (visible : ∃ c ∈ body.toList, Text.isBlank c = false) : successValue body = .string body := by
  have notBlank : ¬Text.isBlankText body.toList = true := by
    intro blank
    obtain ⟨c, inside, black⟩ := visible
    rw [List.all_eq_true.1 blank c inside] at black
    cases black
  rw [successValue, if_neg notBlank, refused]

/-- A value comes back from its text exactly if no object in it begins with the embedding key. -/
theorem successValue_compact_iff (ordered : value.Ordered) (whole : value.Whole)
    (shallow : value.nesting ≤ Json.nestingLimit) : successValue value.compact = value ↔ value.Unembedded := by
  have parsed := Json.parseText_compact_iff ordered whole
  constructor
  · intro same
    unfold successValue at same
    split at same
    · rw [← same]
      exact Json.throughout_leaf rfl trivial
    · split at same
      · rename_i found read
        rw [same] at read
        exact (parsed.1 read).2
      -- A text that was refused comes back as a text, in which no object is.
      · rw [← same]
        exact Json.throughout_leaf rfl trivial
  · intro unembedded
    exact successValue_of_parse (parsed.2 ⟨shallow, unembedded⟩)

theorem takesBody (body : String) : TakesBody body (.ok (successValue body)) where
  blank all := by rw [successValue_of_blank all]
  value _ parsed := by rw [successValue_of_parse parsed]
  text _ refused visible := by rw [successValue_of_error refused visible]
  written value ordered whole shallow text := by
    rw [text, Except.ok.injEq]
    exact successValue_compact_iff ordered whole shallow

/-! ## Other bodies -/

/-- What a response that is no success tells: the reason, if its body is an envelope, and else its body. -/
structure TellsReason (status : Http.Status) (body : String) (result : Except Failure Json) : Prop where
  fails : ∀ value, result ≠ .ok value
  reason : ∀ envelope : Envelope, Document.decode (Utf8.ofString body) = .ok envelope →
    result = .error (.remote status envelope.rejection.kind envelope.rejection.message)
  written : ∀ rejection, body = Document.encode (Envelope.mk rejection) →
    result = .error (.remote status rejection.kind rejection.message)
  around : ∀ (rejection : Rejection) (document : Json) (front behind : String),
    Envelope.Around rejection document → (∀ c ∈ front.toList, c ∈ Json.blankChars) →
    (∀ c ∈ behind.toList, c ∈ Json.blankChars) → body = front ++ document.compact ++ behind →
      result = .error (.remote status rejection.kind rejection.message)
  other : (∀ envelope : Envelope, Document.decode (Utf8.ofString body) ≠ .ok envelope) →
    result = .error (.status status body)
  unlike : ∀ value, Json.parseText body = .ok value →
    (∀ envelope : Envelope, Document.decodeJson value ≠ .ok envelope) → result = .error (.status status body)
  plain : (Json.skipBlanks (Utf8.ofString body)).head? ≠ some 0x5B →
    (Json.skipBlanks (Utf8.ofString body)).head? ≠ some 0x7B → result = .error (.status status body)

theorem failureOf_of_decode {envelope : Envelope} (found : Document.decode (Utf8.ofString body) = .ok envelope) :
    failureOf status body = .remote status envelope.rejection.kind envelope.rejection.message := by
  rw [failureOf, found]

theorem failureOf_of_around {rejection : Rejection} {document : Json} {front behind : String}
    (around : Envelope.Around rejection document) (blankFront : ∀ c ∈ front.toList, c ∈ Json.blankChars)
    (blankBehind : ∀ c ∈ behind.toList, c ∈ Json.blankChars) :
    failureOf status (front ++ document.compact ++ behind) = .remote status rejection.kind rejection.message :=
  failureOf_of_decode (around.decode blankFront blankBehind)

theorem failureOf_of_other (none : ∀ envelope : Envelope, Document.decode (Utf8.ofString body) ≠ .ok envelope) :
    failureOf status body = .status status body := by
  unfold failureOf
  split
  · rename_i envelope found
    exact absurd found (none envelope)
  · rfl

/-- A JSON value that is no envelope does not spell one. -/
theorem decode_ne_of_decodeJson (parsed : Json.parseText body = .ok value)
    (none : ∀ envelope : Envelope, Document.decodeJson value ≠ .ok envelope) (envelope : Envelope) :
    Document.decode (Utf8.ofString body) ≠ .ok envelope := by
  intro found
  have byValue := Document.decodeByValue_of_decode Envelope.lawful.refuses found parsed
  unfold Document.decodeByValue at byValue
  rw [show Json.parse (Utf8.ofString body) = .ok value from parsed] at byValue
  exact none envelope byValue

/-- What does not begin like a list or an object is no envelope. -/
theorem decode_ne_of_head (noBracket : (Json.skipBlanks (Utf8.ofString body)).head? ≠ some 0x5B)
    (noBrace : (Json.skipBlanks (Utf8.ofString body)).head? ≠ some 0x7B) (envelope : Envelope) :
    Document.decode (Utf8.ofString body) ≠ .ok envelope := by
  obtain ⟨fault, refused⟩ : ∃ fault, Schema.read (Document.schema Envelope) (Json.fuelFor (Utf8.ofString body))
      Json.nestingLimit (Utf8.ofString body) = .error fault := Schema.exists_fault_read_record noBracket noBrace
  intro found
  rw [Document.decode, Schema.decode, refused] at found
  cases found

theorem tellsReason (status : Http.Status) (body : String) :
    TellsReason status body (.error (failureOf status body)) where
  fails _ := nofun
  reason _ found := by rw [failureOf_of_decode found]
  written rejection text := by
    have found : failureOf status ("" ++ (Envelope.mk rejection).toJson.compact ++ "") = _ :=
      failureOf_of_around (Envelope.around_toJson rejection) nofun nofun
    rw [String.empty_append, String.append_empty] at found
    rw [text, Document.encode]
    exact congrArg Except.error found
  around _ _ _ _ around blankFront blankBehind text := by
    rw [text, failureOf_of_around around blankFront blankBehind]
  other none := by rw [failureOf_of_other none]
  unlike _ parsed none := by rw [failureOf_of_other (decode_ne_of_decodeJson parsed none)]
  plain noBracket noBrace := by rw [failureOf_of_other (decode_ne_of_head noBracket noBrace)]

/-! ## Answers -/

/-- A body without errors is taken as it is. -/
theorem readResponse_eq (utf8 : Utf8.toString? response.body = some body) :
    readResponse response =
      if 200 ≤ response.status.code ∧ response.status.code < 300 then .ok (successValue body)
      else .error (failureOf response.status body) := by
  obtain ⟨text, decoded, rfl⟩ := Option.map_eq_some_iff.1 utf8
  have same : Utf8.toStringLossy response.body = String.ofList text :=
    congrArg String.ofList (Utf8.decodeLossyFrom_of_decodeFrom decoded)
  rw [readResponse, same]
  simp only [Http.Status.isSuccess, Bool.and_eq_true, decide_eq_true_eq]

/-- What becomes of a call is what its final response says. -/
theorem runFrom_perform_of_final {base : Url} {call : Call} (formed : call.request base = .ok request)
    (final : (exchange Http.maxRedirects request).runFrom world arrived = (sent, some response)) (metrics : Metrics) :
    (perform base call metrics).runFrom world arrived =
      (sent, readResponse response, tally call.route (readResponse response) metrics) := by
  unfold perform
  rw [formed]
  dsimp only
  rw [Errand.runFrom_bind, final, Errand.runFrom, List.append_nil]
  rfl

/-- Whatever a call is for, the final response alone decides what becomes of it: its body, if it is a success, and
else its status, with the reason that the body tells or with the body. -/
theorem answer_follows_body {base : Url} {call : Call} (formed : call.request base = .ok request)
    (final : (exchange Http.maxRedirects request).runFrom world arrived = (sent, some response))
    (utf8 : Utf8.toString? response.body = some body) (metrics : Metrics) :
    ∃ result, (perform base call metrics).runFrom world arrived = (sent, result, tally call.route result metrics) ∧
      (200 ≤ response.status.code ∧ response.status.code < 300 → TakesBody body result) ∧
      (¬(200 ≤ response.status.code ∧ response.status.code < 300) → TellsReason response.status body result) := by
  refine ⟨_, runFrom_perform_of_final formed final metrics, ?_, ?_⟩
  · intro success
    rw [readResponse_eq utf8, if_pos success]
    exact takesBody body
  · intro failure
    rw [readResponse_eq utf8, if_neg failure]
    exact tellsReason response.status body

/-! ## Two responses -/

def bare (status : Http.Status) (text : String) : Http.Response :=
  ⟨status, [], Utf8.ofString text⟩

theorem toString?_bare (status : Http.Status) (text : String) : Utf8.toString? (bare status text).body = some text :=
  Utf8.toString?_encode text

theorem runFrom_exchange_bare (request : Http.Request) (status : Http.Status) (text : String) :
    (exchange Http.maxRedirects request).runFrom (serverWorld [bare status text]) 0 =
      ([request], some (bare status text)) := by
  have sends : exchange Http.maxRedirects request = .send request (afterReply request (exchange 9)) := rfl
  have reached : (serverWorld [bare status text]).reaches request.url = true := rfl
  have came : (serverWorld [bare status text]).reply 0 = .response (bare status text) := rfl
  -- Without a header there is no place to go on to.
  have stays : request.onward (bare status text) = .stays := by
    rw [Http.Request.onward]
    exact (if_pos rfl).trans (by cases request.afterStatus? (bare status text).status <;> rfl)
  rw [sends, Errand.runFrom, if_pos reached, came, afterReply, stays]
  rfl

/-- A rejection among strangers, one of which begins with the embedding key. -/
def strayReason : List (String × Json) :=
  [("message", .string "no \"t\""), ("hint", .object [(Json.embeddedKey, .bool true)]), ("class", .string "table"),
    ("detail", .string "")]

def strayEnvelope : Json :=
  .object [("took", .array [.null, .number (.integer (-5) (by decide))]), ("error", .object strayReason)]

def strayBody : String := "\n" ++ strayEnvelope.compact ++ " "

theorem around_strayEnvelope : Envelope.Around ⟨"table", "no \"t\"", some "", none⟩ strayEnvelope :=
  ⟨_, strayReason, _, rfl, ⟨.swap _ _ _, by decide⟩, ⟨.refl _, by decide⟩, rfl⟩

/-- A value that begins with the embedding key. -/
def coveredValue : Json :=
  .object [(Json.embeddedKey, .string "5"), ("a", .number (.integer 1 (by decide)))]

/-- The reason is found between strangers and blanks, and a value is taken for itself. -/
theorem answer_follows_body_strayEnvelope :
    (∃ sent later, (perform Call.node .status Metrics.empty).runFrom
        (serverWorld [bare ⟨404, by decide⟩ strayBody]) 0 =
      (sent, .error (.remote ⟨404, by decide⟩ "table" "no \"t\""), later)) ∧
    ∃ sent later, (perform Call.node .status Metrics.empty).runFrom
        (serverWorld [bare .ok (Json.array [.null, .string "\n"]).compact]) 0 =
      (sent, .ok (.array [.null, .string "\n"]), later) := by
  have formed : Call.status.request Call.node = .ok (Call.status.toRequest Call.node) := rfl
  have final := runFrom_exchange_bare (Call.status.toRequest Call.node)
  constructor
  · obtain ⟨result, ran, _, tells⟩ :=
      answer_follows_body formed (final ⟨404, by decide⟩ strayBody) (toString?_bare _ _) Metrics.empty
    have blankFront : ∀ c ∈ "\n".toList, c ∈ Json.blankChars := List.forall_mem_singleton.2 (by decide)
    have blankBehind : ∀ c ∈ " ".toList, c ∈ Json.blankChars := List.forall_mem_singleton.2 (by decide)
    have reason := (tells (by decide)).around _ _ "\n" " " around_strayEnvelope blankFront blankBehind rfl
    rw [reason] at ran
    exact ⟨_, _, ran⟩
  · obtain ⟨result, ran, takes, _⟩ :=
      answer_follows_body formed (final .ok (Json.array [.null, .string "\n"]).compact) (toString?_bare _ _)
        Metrics.empty
    have value := (takes (by decide)).written (.array [.null, .string "\n"]) ⟨trivial, trivial, trivial⟩ (by decide)
      (by decide) rfl
    rw [value.2 (by decide)] at ran
    exact ⟨_, _, ran⟩

/-- A value of whole numbers and little depth is taken for its text. -/
theorem answer_mistakes_value :
    coveredValue.Ordered ∧ coveredValue.Whole ∧ coveredValue.nesting ≤ Json.nestingLimit ∧
      ∃ sent later, (perform Call.node .status Metrics.empty).runFrom
          (serverWorld [bare .ok coveredValue.compact]) 0 =
        (sent, .ok (.string coveredValue.compact), later) := by
  have ordered : coveredValue.Ordered :=
    ⟨trivial, List.forall_mem_singleton.2 (by decide), trivial, List.forall_mem_nil _, trivial⟩
  have whole : coveredValue.Whole := by decide
  have accompanied : coveredValue.Accompanied := by
    refine Json.throughout_object.2 ⟨trivial, List.forall_mem_cons.2 ⟨?_, List.forall_mem_singleton.2 ?_⟩⟩
    · exact Json.throughout_leaf rfl trivial
    · exact Json.throughout_leaf rfl trivial
  have embedded : ¬coveredValue.Unembedded := by decide
  have visible : ∃ c ∈ coveredValue.compact.toList, Text.isBlank c = false := by
    rw [Json.compact, String.toList_ofList]
    exact ⟨_, List.mem_cons_self, rfl⟩
  have formed : Call.status.request Call.node = .ok (Call.status.toRequest Call.node) := rfl
  have ran := runFrom_perform_of_final formed (runFrom_exchange_bare _ .ok coveredValue.compact) Metrics.empty
  have success : 200 ≤ (bare .ok coveredValue.compact).status.code ∧
      (bare .ok coveredValue.compact).status.code < 300 := by decide
  rcases Json.parseText_compact ordered whole accompanied with ⟨fits, _⟩ | ⟨_, error, refused⟩
  · exact absurd fits.2 embedded
  · rw [readResponse_eq (toString?_bare _ _), if_pos success, successValue_of_error refused visible] at ran
    exact ⟨ordered, whole, by decide, _, _, ran⟩

end Client

end EventFeed
