import EventFeed.Proofs.EventText
import EventFeed.Proofs.Flow.Prospect
import Mathlib.Data.List.Induction

/-!
# Line breaks

Every text is some pieces with a line feed behind each of them and what stands behind the last line feed, and it
is that in one way only. What the lines of the text are, and what they count for, is told from these pieces.
-/

namespace EventFeed.Flow

variable {pieces : List (List UInt8)} {line cut bytes : List UInt8} {fault : Option SystemFault}

/-- Pieces with a line feed behind each of them, and what stands behind the last one. -/
def brokenText (pieces : List (List UInt8)) (cut : List UInt8) : List UInt8 :=
  pieces.flatMap (· ++ [lineFeed]) ++ cut

theorem brokenText_cons (piece : List UInt8) (pieces : List (List UInt8)) (cut : List UInt8) :
    brokenText (piece :: pieces) cut = piece ++ lineFeed :: brokenText pieces cut := by
  simp only [brokenText, List.flatMap_cons, List.append_assoc, List.cons_append, List.nil_append]

theorem exists_brokenText (bytes : List UInt8) :
    ∃ pieces cut, (∀ piece ∈ pieces, lineFeed ∉ piece) ∧ lineFeed ∉ cut ∧ bytes = brokenText pieces cut := by
  induction bytes with
  | nil => exact ⟨[], [], nofun, nofun, rfl⟩
  | cons byte bytes ih =>
      obtain ⟨pieces, cut, clear, absent, rfl⟩ := ih
      by_cases feed : byte = lineFeed
      · refine ⟨[] :: pieces, cut, ?_, absent, ?_⟩
        · rintro piece (_ | ⟨_, inside⟩)
          · exact nofun
          · exact clear piece inside
        · rw [brokenText_cons, feed]
          rfl
      · have apart {piece : List UInt8} (absent : lineFeed ∉ piece) : lineFeed ∉ byte :: piece :=
          List.not_mem_cons_of_ne_of_not_mem (Ne.symm feed) absent
        cases pieces with
        | nil => exact ⟨[], byte :: cut, nofun, apart absent, rfl⟩
        | cons first pieces =>
            refine ⟨(byte :: first) :: pieces, cut, ?_, absent, ?_⟩
            · rintro piece (_ | ⟨_, inside⟩)
              · exact apart (clear first List.mem_cons_self)
              · exact clear piece (List.mem_cons_of_mem first inside)
            · rw [brokenText_cons, brokenText_cons]
              rfl

theorem splitOn_brokenText (clear : ∀ piece ∈ pieces, lineFeed ∉ piece) (absent : lineFeed ∉ cut) :
    (brokenText pieces cut).splitOn lineFeed = pieces ++ [cut] := by
  induction pieces with
  | nil => exact List.splitOn_eq_singleton absent
  | cons piece pieces ih =>
      obtain ⟨this, others⟩ := List.forall_mem_cons.1 clear
      rw [brokenText_cons, List.splitOn_append_cons_self_of_not_mem this, ih others]
      rfl

/-- What stands behind the last line feed is a line if there is something, and no fault. -/
theorem completePieces_brokenText (clear : ∀ piece ∈ pieces, lineFeed ∉ piece) (absent : lineFeed ∉ cut) :
    completePieces (brokenText pieces cut) fault =
      pieces ++ if fault.isSome ∨ cut = [] then [] else [cut] := by
  simp only [completePieces, splitOn_brokenText clear absent, List.getLast?_concat, Option.some.injEq,
    List.dropLast_concat]
  split
  · exact (List.append_nil pieces).symm
  · rfl

/-- A fault takes away what stands behind the last line feed. -/
theorem linesOfBytes_of_fault (clear : ∀ piece ∈ pieces, lineFeed ∉ piece) (absent : lineFeed ∉ cut)
    (fault : SystemFault) :
    linesOfBytes (brokenText pieces cut) (some fault) = linesOfBytes (brokenText pieces []) none := by
  rw [linesOfBytes, linesOfBytes, completePieces_brokenText clear absent,
    completePieces_brokenText clear List.not_mem_nil, if_pos (.inl rfl), if_pos (.inr rfl)]

/-! ## Carriage returns -/

def EndsInReturn (piece : List UInt8) : Prop :=
  piece.getLast? = some carriageReturn

instance : DecidablePred EndsInReturn :=
  fun piece => inferInstanceAs (Decidable (piece.getLast? = some carriageReturn))

theorem trimReturn_of_ends {piece : List UInt8} (ends : EndsInReturn piece) : trimReturn piece = piece.dropLast :=
  if_pos ends

theorem trimReturn_of_not_ends {piece : List UInt8} (bare : ¬EndsInReturn piece) : trimReturn piece = piece :=
  if_neg bare

theorem lineFeed_notMem_trimReturn {piece : List UInt8} (absent : lineFeed ∉ piece) : lineFeed ∉ trimReturn piece := by
  by_cases ends : EndsInReturn piece
  · rw [trimReturn_of_ends ends]
    exact fun inside => absent (List.dropLast_subset piece inside)
  · rw [trimReturn_of_not_ends ends]
    exact absent

/-- What pieces count for is what they count for without their carriage returns, and one for each of those. -/
theorem weight_map_trimReturn (pieces : List (List UInt8)) :
    weight (pieces.map trimReturn) + pieces.countP (EndsInReturn ·) = weight pieces := by
  induction pieces with
  | nil => rfl
  | cons piece pieces ih =>
      simp only [weight, List.map_cons]
      by_cases ends : EndsInReturn piece
      · have nonempty : piece ≠ [] := by
          rintro rfl
          cases ends
        have positive := List.length_pos_iff.2 nonempty
        rw [trimReturn_of_ends ends, List.length_dropLast, List.countP_cons_of_pos (by simpa using ends)]
        omega
      · rw [trimReturn_of_not_ends ends, List.countP_cons_of_neg (by simpa using ends)]
        omega

/-! ## Bytes -/

theorem length_brokenText (pieces : List (List UInt8)) (cut : List UInt8) :
    (brokenText pieces cut).length = weight pieces + cut.length := by
  induction pieces with
  | nil => exact (Nat.zero_add _).symm
  | cons piece pieces ih =>
      rw [brokenText_cons, List.length_append, List.length_cons, ih, weight]
      omega

/-- A text ends where its last line does exactly if nothing stands behind that. -/
theorem brokenText_ends_iff (absent : lineFeed ∉ cut) :
    (brokenText pieces cut = [] ∨ (brokenText pieces cut).getLast? = some lineFeed) ↔ cut = [] := by
  constructor
  · rintro (empty | ends)
    · exact (List.append_eq_nil_iff.1 empty).2
    · rw [brokenText, List.getLast?_append] at ends
      cases last : cut.getLast? with
      | none => exact List.getLast?_eq_none_iff.1 last
      | some byte =>
          rw [last, Option.some_or] at ends
          exact absurd (List.mem_of_getLast? (last.trans ends)) absent
  · rintro rfl
    cases pieces using List.reverseRecOn with
    | nil => exact .inl rfl
    | append_singleton pieces piece =>
        right
        rw [brokenText, List.flatMap_append, List.flatMap_singleton, List.append_nil, ← List.append_assoc,
          List.getLast?_concat]

/-- What the lines of a text count for, and one for every carriage return that was taken off, is the length of the
text, and one more if its last line is not ended. -/
theorem weight_linesOfBytes (bytes : List UInt8) :
    weight (linesOfBytes bytes none) + (completePieces bytes none).countP (EndsInReturn ·) =
      bytes.length + if bytes = [] ∨ bytes.getLast? = some lineFeed then 0 else 1 := by
  obtain ⟨pieces, cut, clear, absent, rfl⟩ := exists_brokenText bytes
  rw [linesOfBytes, weight_map_trimReturn, completePieces_brokenText clear absent, weight_append,
    length_brokenText]
  by_cases nothing : cut = []
  · rw [if_pos (.inr nothing), if_pos ((brokenText_ends_iff absent).2 nothing), nothing]
    rfl
  · rw [if_neg (by simpa using nothing), if_neg (mt (brokenText_ends_iff absent).1 nothing)]
    simp only [weight]
    omega

/-- Of two carriage returns one is taken off, also from what stands behind the last line feed. -/
example : linesOfBytes [carriageReturn, carriageReturn, lineFeed, carriageReturn] none = [[carriageReturn], []] := by
  decide

theorem lineFeed_notMem_of_mem (inside : line ∈ linesOfBytes bytes fault) : lineFeed ∉ line := by
  obtain ⟨pieces, cut, clear, absent, rfl⟩ := exists_brokenText bytes
  rw [linesOfBytes, completePieces_brokenText clear absent, List.mem_map] at inside
  obtain ⟨piece, inside, rfl⟩ := inside
  apply lineFeed_notMem_trimReturn
  rcases List.mem_append.1 inside with before | behind
  · exact clear piece before
  · split at behind
    · cases behind
    · rw [List.mem_singleton.1 behind]
      exact absent

/-! ## Lines that are written and read back -/

/-- A line that keeps its bytes when it is written and read back. -/
def Portable (line : List UInt8) : Prop :=
  lineFeed ∉ line ∧ ¬EndsInReturn line

instance : DecidablePred Portable :=
  fun line => inferInstanceAs (Decidable (lineFeed ∉ line ∧ ¬EndsInReturn line))

structure EndedLine where
  bytes : List UInt8
  ending : List UInt8
  portable : Portable bytes
  ends : EndsLine ending

namespace EndedLine

def text (ended : EndedLine) : List UInt8 :=
  ended.bytes ++ ended.ending

/-- What stands before the line feed: the line, and perhaps a carriage return. -/
def piece (ended : EndedLine) : List UInt8 :=
  ended.bytes ++ ended.ending.dropLast

theorem text_eq (ended : EndedLine) : ended.text = ended.piece ++ [lineFeed] := by
  obtain ⟨bytes, ending, _, ends⟩ := ended
  cases ends with
  | feed => exact congrArg (· ++ [lineFeed]) (List.append_nil bytes).symm
  | returnFeed => exact (List.append_assoc bytes [carriageReturn] [lineFeed]).symm

theorem lineFeed_notMem_piece (ended : EndedLine) : lineFeed ∉ ended.piece := by
  obtain ⟨bytes, ending, ⟨absent, _⟩, ends⟩ := ended
  cases ends with
  | feed => exact List.not_mem_append absent nofun
  | returnFeed => exact List.not_mem_append absent (by decide : lineFeed ∉ [carriageReturn])

theorem trimReturn_piece (ended : EndedLine) : trimReturn ended.piece = ended.bytes := by
  obtain ⟨bytes, ending, ⟨_, bare⟩, ends⟩ := ended
  cases ends with
  | feed => exact (congrArg trimReturn (List.append_nil bytes)).trans (trimReturn_of_not_ends bare)
  | returnFeed => exact (trimReturn_of_ends List.getLast?_concat).trans List.dropLast_concat

end EndedLine

/-- Lines that are ended, and perhaps a last one that is not. -/
def written (lines : List EndedLine) (last : Option (List UInt8)) : List UInt8 :=
  lines.flatMap EndedLine.text ++ last.getD []

theorem written_eq_brokenText (lines : List EndedLine) (last : Option (List UInt8)) :
    written lines last = brokenText (lines.map EndedLine.piece) (last.getD []) := by
  rw [written, brokenText, List.flatMap_map]
  exact congrArg (List.flatMap · lines ++ last.getD []) (funext EndedLine.text_eq)

/-- Lines that are written, each with a line feed or with both bytes behind it, are read back. -/
theorem linesOfBytes_written (lines : List EndedLine) {last : Option (List UInt8)}
    (portable : ∀ line ∈ last, Portable line ∧ line ≠ []) :
    linesOfBytes (written lines last) none = lines.map EndedLine.bytes ++ last.toList := by
  have clear : ∀ piece ∈ lines.map EndedLine.piece, lineFeed ∉ piece :=
    List.forall_mem_map.2 fun ended _ => ended.lineFeed_notMem_piece
  have trimmed : (lines.map EndedLine.piece).map trimReturn = lines.map EndedLine.bytes := by
    rw [List.map_map]
    exact List.map_congr_left fun ended _ => ended.trimReturn_piece
  rw [written_eq_brokenText, linesOfBytes]
  cases last with
  | none =>
      rw [Option.getD_none, completePieces_brokenText clear List.not_mem_nil, if_pos (.inr rfl), List.append_nil,
        trimmed]
      exact (List.append_nil _).symm
  | some line =>
      obtain ⟨⟨absent, bare⟩, nonempty⟩ := portable line rfl
      rw [Option.getD_some, completePieces_brokenText clear absent, if_neg (by simpa using nonempty),
        List.map_append, trimmed, List.map_singleton, trimReturn_of_not_ends bare]
      rfl

end EventFeed.Flow
