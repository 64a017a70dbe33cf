import EventFeed.Json.Skipper

/-!
# Pieces that are passed over

A string or a number that is passed over ends where it would end if it were read, and a string that is read
does not depend on the fuel. The skipper accepts more than the readers do; nothing is said about that.
-/

namespace EventFeed.Json

variable {fuel fuel' : Nat} {input rest rest' : List UInt8}

/-! ## Strings -/

/-- The second half of a character is an escape of its own. -/
theorem readPair_rest {leading : Nat} {c : Char} (read : readPair leading input = .ok (c, rest)) :
    ∃ code after, input = 0x5C :: 0x75 :: after ∧ readHex after = .ok (code, rest) := by
  unfold readPair at read
  split at read
  · cases read
  rename_i first behind
  split at read
  · rename_i backslash
    split at read
    · cases read
    rename_i second after
    split at read
    · rename_i letter
      cases hex : readHex after with
      | error fault =>
          rw [hex] at read
          cases read
      | ok found =>
          rw [hex] at read
          dsimp only at read
          by_cases trailing : isTrailingSurrogate found.1 = true
          · rw [if_pos trailing] at read
            obtain ⟨_, rfl⟩ := Prod.mk.inj (Except.ok.inj read)
            exact ⟨found.1, after, by rw [backslash, letter], hex⟩
          · rw [if_neg trailing] at read
            cases read
    · cases read
  · cases read

theorem scanString_unique {seen bytes bytes' : List UInt8}
    (scanned : scanString fuel seen input = .ok (bytes, rest))
    (again : scanString fuel' seen input = .ok (bytes', rest')) : bytes = bytes' ∧ rest = rest' := by
  induction fuel generalizing fuel' seen input with
  | zero => cases scanned
  | succ fuel ih =>
      cases fuel' with
      | zero => cases again
      | succ fuel' =>
          cases input with
          | nil => cases scanned
          | cons b behind =>
              rw [scanString] at scanned again
              split at scanned
              · rename_i quote
                rw [if_pos quote] at again
                cases scanned
                cases again
                exact ⟨rfl, rfl⟩
              rename_i noQuote
              rw [if_neg noQuote] at again
              split at scanned
              · rename_i backslash
                rw [if_pos backslash] at again
                cases escape : readEscape behind with
                | error fault =>
                    rw [escape] at scanned
                    cases scanned
                | ok found =>
                    rw [escape] at scanned again
                    exact ih scanned again
              rename_i noBackslash
              rw [if_neg noBackslash] at again
              split at scanned
              · cases scanned
              rename_i visible
              rw [if_neg visible] at again
              exact ih scanned again

theorem scanString_of_readString {text : String} (read : readString fuel input = .ok (text, rest)) :
    ∃ bytes, scanString fuel [] input = .ok (bytes, rest) ∧ Utf8.toString? bytes = some text := by
  unfold readString at read
  split at read
  · cases read
  rename_i bytes behind scanned
  split at read
  · rename_i text decoded
    cases read
    exact ⟨bytes, scanned, decoded⟩
  · cases read

/-- What a string reads as does not depend on the fuel. -/
theorem readString_unique {text text' : String} (read : readString fuel input = .ok (text, rest))
    (again : readString fuel' input = .ok (text', rest')) : text = text' ∧ rest = rest' := by
  obtain ⟨bytes, scanned, decoded⟩ := scanString_of_readString read
  obtain ⟨bytes', scanned', decoded'⟩ := scanString_of_readString again
  obtain ⟨rfl, rfl⟩ := scanString_unique scanned scanned'
  exact ⟨Option.some.inj (decoded.symm.trans decoded'), rfl⟩

/-- Skipping over an escape takes one round, or two where a character is written as two escapes. -/
theorem exists_skipString_escape {c : Char} (read : readEscape input = .ok (c, rest))
    (skipped : skipString (fuel + 1) (0x5C :: input) = .ok rest') :
    ∃ fuel, skipString fuel rest = .ok rest' := by
  unfold readEscape at read
  split at read
  · cases read
  rename_i letter behind
  unfold skipString at skipped
  rw [if_neg (by decide), if_pos rfl] at skipped
  dsimp only at skipped
  split at read
  · rename_i unicode
    rw [if_pos unicode] at skipped
    unfold readCodePoint at read
    cases hex : readHex behind with
    | error fault =>
        rw [hex] at read
        cases read
    | ok found =>
        obtain ⟨code, after⟩ := found
        rw [hex] at read skipped
        dsimp only at read skipped
        by_cases trailing : isTrailingSurrogate code = true
        · rw [if_pos trailing] at read
          cases read
        rw [if_neg trailing] at read
        by_cases leading : isLeadingSurrogate code = true
        · rw [if_pos leading] at read
          obtain ⟨second, beyond, rfl, pair⟩ := readPair_rest read
          cases fuel with
          | zero => cases skipped
          | succ fuel =>
              unfold skipString at skipped
              rw [if_neg (by decide), if_pos rfl] at skipped
              dsimp only at skipped
              rw [if_pos rfl, pair] at skipped
              exact ⟨fuel, skipped⟩
        · rw [if_neg leading] at read
          obtain ⟨_, rfl⟩ := Prod.mk.inj (Except.ok.inj read)
          exact ⟨fuel, skipped⟩
  · rename_i other
    rw [if_neg other] at skipped
    split at read
    · rename_i c found
      cases read
      rw [if_pos (by rw [found]; rfl)] at skipped
      exact ⟨fuel, skipped⟩
    · cases read

/-- A string that is passed over ends where it would end if it were read. -/
theorem skipString_of_scanString {seen bytes : List UInt8}
    (scanned : scanString fuel seen input = .ok (bytes, rest))
    (skipped : skipString fuel' input = .ok rest') : rest' = rest := by
  induction fuel generalizing fuel' seen input with
  | zero => cases scanned
  | succ fuel ih =>
      cases fuel' with
      | zero => cases skipped
      | succ fuel' =>
          cases input with
          | nil => cases scanned
          | cons b behind =>
              rw [scanString] at scanned
              split at scanned
              · rename_i quote
                unfold skipString at skipped
                rw [if_pos quote] at skipped
                cases scanned
                cases skipped
                rfl
              rename_i noQuote
              split at scanned
              · rename_i backslash
                subst backslash
                cases escape : readEscape behind with
                | error fault =>
                    rw [escape] at scanned
                    cases scanned
                | ok found =>
                    rw [escape] at scanned
                    obtain ⟨left, later⟩ := exists_skipString_escape escape skipped
                    exact ih scanned later
              rename_i noBackslash
              unfold skipString at skipped
              rw [if_neg noQuote, if_neg noBackslash] at skipped
              split at scanned
              · cases scanned
              rename_i visible
              rw [if_neg visible] at skipped
              exact ih scanned skipped

/-! ## Numbers -/

theorem readDigits_rest (digits : Significand) (input : List UInt8) :
    (readDigits digits input).2 = skipDigits input := by
  induction input generalizing digits with
  | nil => rfl
  | cons b behind ih =>
      rw [readDigits, skipDigits]
      split
      · exact ih _
      · rfl

theorem readPower_rest {refuse : Bool} {value power : Nat}
    (read : readPower refuse value input = .ok (power, rest)) :
    rest = skipDigits input := by
  induction input generalizing value with
  | nil =>
      cases read
      rfl
  | cons b behind ih =>
      rw [readPower] at read
      rw [skipDigits]
      split at read
      · rename_i digit
        rw [if_pos digit]
        dsimp only at read
        split at read
        · exact ih read
        split at read
        · cases read
        · exact ih read
      · rename_i noDigit
        rw [if_neg noDigit]
        cases read
        rfl

theorem doubleOf_rest {negative : Bool} {digits : Nat} {exponent : Int} {number : Number}
    (read : doubleOf negative digits exponent input = .ok (number, rest)) : rest = input := by
  unfold doubleOf at read
  split at read
  · cases read
    rfl
  · cases read

theorem integerNumber_rest {negative : Bool} {value dropped : Nat} {number : Number}
    (read : integerNumber negative value dropped input = .ok (number, rest)) : rest = input := by
  unfold integerNumber at read
  split at read
  · split at read
    · cases read
      rfl
    · exact doubleOf_rest read
  · split at read
    · cases read
      rfl
    · exact doubleOf_rest read

theorem skipExponent_of_readExponent {negative : Bool} {digits : Nat} {scale : Int} {number : Number}
    (read : readExponent negative digits scale input = .ok (number, rest)) : skipExponent input = .ok rest := by
  unfold readExponent at read
  unfold skipExponent
  dsimp only at read
  cases signed : (readSign input).2 with
  | nil =>
      rw [signed] at read
      cases read
  | cons b behind =>
      rw [signed] at read
      dsimp only at read ⊢
      split at read
      · rename_i digit
        rw [if_pos digit]
        split at read
        · cases read
        rename_i power left found
        rw [doubleOf_rest read, readPower_rest found]
      · cases read

theorem startsWithDigit_of_readDigits {value : Nat}
    (some : (readDigits ⟨value, 0, 0⟩ input).1.kept + (readDigits ⟨value, 0, 0⟩ input).1.dropped ≠ 0) :
    startsWithDigit input = true := by
  cases input with
  | nil => exact absurd rfl some
  | cons b behind =>
      cases digit : isDigit b with
      | true => exact digit
      | false =>
          rw [readDigits, digit] at some
          exact absurd rfl some

theorem skipFraction_of_readFraction {negative : Bool} {whole dropped : Nat} {number : Number}
    (read : readFraction negative whole dropped input = .ok (number, rest)) :
    startsWithDigit input = true ∧ skipOptionalExponent (skipDigits input) = .ok rest := by
  unfold readFraction at read
  dsimp only at read
  split at read
  · cases read
  rename_i some
  refine ⟨startsWithDigit_of_readDigits some, ?_⟩
  rw [← readDigits_rest ⟨whole, 0, 0⟩]
  split at read
  · rename_i b after left
    rw [left, skipOptionalExponent]
    split at read
    · rename_i letter
      rw [if_pos letter]
      exact skipExponent_of_readExponent read
    · rename_i noLetter
      rw [if_neg noLetter, doubleOf_rest read, left]
  · rename_i left
    rw [left, doubleOf_rest read]
    rfl

theorem skipNumberTail_of_readNumberTail {negative : Bool} {value dropped : Nat} {number : Number}
    (read : readNumberTail negative value dropped input = .ok (number, rest)) : skipNumberTail input = .ok rest := by
  cases input with
  | nil => exact congrArg Except.ok (integerNumber_rest read).symm
  | cons b behind =>
      rw [readNumberTail] at read
      rw [skipNumberTail]
      split at read
      · rename_i point
        obtain ⟨digit, skipped⟩ := skipFraction_of_readFraction read
        rw [if_pos point, if_pos digit]
        exact skipped
      rename_i noPoint
      rw [if_neg noPoint, skipOptionalExponent]
      split at read
      · rename_i letter
        rw [if_pos letter]
        exact skipExponent_of_readExponent read
      · rename_i noLetter
        rw [if_neg noLetter, integerNumber_rest read]

/-- A number that is passed over ends where it would end if it were read. -/
theorem skipNumber_of_readNumber {negative : Bool} {number : Number}
    (read : readNumber negative input = .ok (number, rest)) : skipNumber input = .ok rest := by
  cases input with
  | nil => cases read
  | cons b behind =>
      rw [readNumber] at read
      rw [skipNumber]
      split at read
      · rename_i zero
        rw [if_pos zero]
        split at read
        · cases read
        rename_i alone
        rw [if_neg alone]
        exact skipNumberTail_of_readNumberTail read
      rename_i notZero
      rw [if_neg notZero]
      split at read
      · rename_i digit
        rw [if_pos digit, ← readDigits_rest]
        exact skipNumberTail_of_readNumberTail read
      · cases read

end EventFeed.Json
