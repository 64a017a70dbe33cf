import EventFeed.Proofs.Url.Forms
import EventFeed.Proofs.Url.Names
import EventFeed.Url.FromText
import Mathlib.Data.List.TakeWhile

/-!
# Servers with a port behind them

A colon and a port put behind a text lead to that port only if nothing in the text ends the server before. If
something does, the port ends up in the path, the query or the fragment. A user may come along in the text as
well, unless whatever stands before its last at sign is nothing, or a colon.
-/

namespace EventFeed

/-! ## Segments -/

theorem Percent.escapeChar_ne_nil (keeps : Char → Bool) (c : Char) : escapeChar keeps c ≠ [] := by
  unfold escapeChar
  split
  · exact List.cons_ne_nil _ _
  · unfold Utf8.encodeChar
    dsimp only
    split_ifs <;> exact List.cons_ne_nil _ _

namespace Url

theorem not_leads_of_colon {segment : String} (colon : ':' ∈ segment.toList) :
    leadsUp segment = false ∧ leadsNowhere segment = false := by
  have absent {list : List String} (clear : ∀ other ∈ list, ':' ∉ other.toList) :
      list.contains segment = false := by
    rw [← Bool.not_eq_true, List.contains_iff_mem]
    intro inside
    exact clear segment inside colon
  exact ⟨absent (by decide), absent (by decide)⟩

/-- The last segment stays when it leads nowhere else. -/
theorem getLast?_settle {last : String} (still : leadsUp last = false ∧ leadsNowhere last = false)
    (segments : List String) (above : List String) :
    (settle above (segments ++ [last])).getLast? = some last := by
  induction segments generalizing above with
  | nil =>
      rw [List.nil_append, settle, still.1, still.2]
      exact List.getLast?_concat
  | cons segment rest ih =>
      obtain ⟨next, others, more⟩ : ∃ next others, rest ++ [last] = next :: others :=
        List.exists_cons_of_ne_nil (List.append_ne_nil_of_right_ne_nil _ (List.cons_ne_nil _ _))
      rw [List.cons_append, more, settle, ← more]
      split
      · exact ih _
      · split
        · exact ih _
        · exact ih _

/-- A colon behind the last slash is part of the path. -/
theorem readPath_ne_root (above : List String) {text behind : List Char} (colon : ':' ∈ behind)
    (noSlash : ∀ c ∈ behind, c ≠ '/' ∧ c ≠ '\\') : readPath above (text ++ behind) ≠ [""] := by
  have same : (behind.map fun c => if c = '\\' then '/' else c) = behind := by
    rw [List.map_congr_left fun c inside => if_neg (noSlash c inside).2, List.map_id']
  obtain ⟨front, last, split⟩ := Form.pieces_append (fun inside => (noSlash '/' inside).1 rfl)
    (text.map fun c => if c = '\\' then '/' else c)
  have kept : ':' ∈ Percent.escape Percent.keepsPath (last ++ behind) :=
    List.mem_flatMap.2 ⟨':', List.mem_append_right last colon, List.mem_singleton_self _⟩
  rw [← String.toList_ofList (l := Percent.escape Percent.keepsPath (last ++ behind))] at kept
  intro root
  have lasts := getLast?_settle (not_leads_of_colon kept)
    (front.map fun segment => String.ofList (Percent.escape Percent.keepsPath segment)) above
  rw [readPath, List.map_append, same, split, List.map_append, List.map_singleton] at root
  rw [root] at lasts
  rw [← Option.some.inj lasts] at kept
  exact absurd kept (by decide)

/-! ## Users -/

theorem splitUser_eq_none_iff {server : List Char} : splitUser server = none ↔ '@' ∉ server := by
  induction server with
  | nil => exact iff_of_true rfl List.not_mem_nil
  | cons c rest ih =>
      rw [splitUser, List.mem_cons, not_or]
      cases found : splitUser rest with
      | none =>
          have absent := ih.1 found
          dsimp only
          split
          · rename_i sign
            exact iff_of_false nofun fun both => both.1 sign.symm
          · rename_i other
            exact iff_of_true rfl ⟨Ne.symm other, absent⟩
      | some split =>
          refine iff_of_false nofun fun both => ?_
          rw [ih.2 both.2] at found
          cases found

theorem of_splitUser {server before behind : List Char} (found : splitUser server = some (before, behind)) :
    server = before ++ '@' :: behind ∧ '@' ∉ behind := by
  induction server generalizing before with
  | nil => cases found
  | cons c rest ih =>
      rw [splitUser] at found
      split at found
      · rename_i earlier later split
        cases found
        obtain ⟨whole, absent⟩ := ih split
        exact ⟨congrArg (c :: ·) whole, absent⟩
      · rename_i none
        split at found
        · rename_i sign
          cases found
          exact ⟨congrArg (· :: behind) sign, splitUser_eq_none_iff.1 none⟩
        · cases found

theorem splitUser_append {behind : List Char} (absent : '@' ∉ behind) (server : List Char) :
    splitUser (server ++ behind) = (splitUser server).map fun (user, rest) => (user, rest ++ behind) := by
  induction server with
  | nil => exact splitUser_eq_none_iff.2 absent
  | cons c rest ih =>
      rw [List.cons_append, splitUser, ih, splitUser]
      cases splitUser rest with
      | some split => rfl
      | none =>
          dsimp only [Option.map_none]
          split <;> rfl

/-- What stands behind all at signs does not matter for the user. -/
theorem readUser_append {behind : List Char} (absent : '@' ∉ behind) (server : List Char) :
    readUser (server ++ behind) =
      ((readUser server).1, (readUser server).2.1, (readUser server).2.2 ++ behind) := by
  rw [readUser, readUser, splitUser_append absent]
  cases splitUser server with
  | some split => rfl
  | none => rfl

theorem userPart_eq_empty_iff {text : List Char} : userPart text = "" ↔ text = [] := by
  rw [userPart, String.ofList_eq_empty_iff, Percent.escape, List.flatMap_eq_nil_iff]
  constructor
  · intro empty
    cases text with
    | nil => rfl
    | cons c rest => exact absurd (empty c List.mem_cons_self) (Percent.escapeChar_ne_nil _ c)
  · rintro rfl c inside
    cases inside

/-- A text names a server and nobody who asks: there is at most one at sign, with nothing or a colon before
it, and nothing ends the server. -/
def NamesServer (text : List Char) : Prop :=
  ∃ server, (text = server ∨ text = '@' :: server ∨ text = ':' :: '@' :: server) ∧
    ∀ c ∈ server, c ≠ '@' ∧ endsServer c = false

/-- Nobody asks exactly if nothing or a colon stands before the last at sign. -/
theorem readUser_nobody_iff {server : List Char} :
    (readUser server).1 = "" ∧ (readUser server).2.1 = "" ↔
      ∃ rest, (server = rest ∨ server = '@' :: rest ∨ server = ':' :: '@' :: rest) ∧ '@' ∉ rest := by
  constructor
  · rw [readUser]
    cases found : splitUser server with
    | none => exact fun _ => ⟨server, .inl rfl, splitUser_eq_none_iff.1 found⟩
    | some split =>
        obtain ⟨before, behind⟩ := split
        obtain ⟨rfl, absent⟩ := of_splitUser found
        dsimp only
        rw [userPart_eq_empty_iff, userPart_eq_empty_iff]
        rintro ⟨noName, noPassword⟩
        refine ⟨behind, .inr ?_, absent⟩
        cases before with
        | nil => exact .inl rfl
        | cons c rest =>
            rw [List.takeWhile_cons] at noName
            split at noName
            · cases noName
            · rename_i colon
              have same : c = ':' := by simpa using colon
              rw [same] at noPassword ⊢
              have alone : rest = [] := noPassword
              rw [alone]
              exact .inr rfl
  · rintro ⟨rest, rfl | rfl | rfl, clear⟩
    · have read := readUser_append clear []
      rw [List.nil_append] at read
      rw [read]
      exact ⟨rfl, rfl⟩
    · have read := readUser_append clear ['@']
      rw [List.singleton_append] at read
      rw [read]
      exact ⟨rfl, rfl⟩
    · have read := readUser_append clear [':', '@']
      rw [List.cons_append, List.singleton_append] at read
      rw [read]
      exact ⟨rfl, rfl⟩

/-! ## Ports -/

theorem splitHost_of_notMem {text : List Char} (absent : ':' ∉ text) (bracketed : Bool) :
    splitHost bracketed text = (text, []) := by
  induction text generalizing bracketed with
  | nil => rfl
  | cons c rest ih =>
      obtain ⟨other, later⟩ := not_or.1 (mt List.mem_cons.2 absent)
      rw [splitHost, if_neg fun both => other both.1.symm, ih later]

/-- Where the host ends before a port that is put behind it: right there, or at an earlier colon, or, behind a
bracket that is not closed, nowhere. -/
theorem splitHost_port {digits : List Char} (numeric : ∀ c ∈ digits, c.isDigit = true) (bracketed : Bool)
    (text : List Char) :
    splitHost bracketed (text ++ ':' :: digits) = (text, ':' :: digits) ∨
      (∃ host rest, splitHost bracketed (text ++ ':' :: digits) = (host, ':' :: (rest ++ ':' :: digits))) ∨
        splitHost bracketed (text ++ ':' :: digits) = (text ++ ':' :: digits, []) := by
  have noColon : ':' ∉ digits := by
    intro inside
    cases numeric ':' inside
  induction text generalizing bracketed with
  | nil =>
      cases bracketed with
      | false => exact .inl rfl
      | true =>
          right
          right
          rw [List.nil_append, splitHost, if_neg (fun both => nomatch both.2), splitHost_of_notMem noColon]
  | cons c text ih =>
      rw [List.cons_append, splitHost]
      split
      · rename_i colon
        rw [colon.1]
        exact .inr (.inl ⟨[], text, rfl⟩)
      · rcases ih (if c = '[' then true else if c = ']' then false else bracketed) with
          here | ⟨host, rest, earlier⟩ | nowhere
        · rw [here]
          exact .inl rfl
        · rw [earlier]
          exact .inr (.inl ⟨c :: host, rest, rfl⟩)
        · rw [nowhere]
          exact .inr (.inr rfl)

/-- Two colons make no port. -/
theorem readPort_twoColons (scheme : String) (rest digits : List Char) :
    readPort scheme (':' :: (rest ++ ':' :: digits)) = .error .badPort := by
  obtain ⟨first, others, more⟩ : ∃ first others, rest ++ ':' :: digits = first :: others :=
    List.exists_cons_of_ne_nil (List.append_ne_nil_of_right_ne_nil _ (List.cons_ne_nil _ _))
  have bad : portOf? (rest ++ ':' :: digits) = none := by
    apply if_neg
    intro all
    exact absurd (List.all_eq_true.1 all ':' (List.mem_append_right _ List.mem_cons_self)) (by decide)
  rw [more] at bad ⊢
  rw [readPort, bad]
  exact nofun

theorem hexValue?_of_isDigit {c : Char} (digit : c.isDigit = true) :
    Percent.hexValue? c = some (c.toNat - '0'.toNat) ∧ c.toNat - '0'.toNat < 10 := by
  have range := digit
  simp only [Char.isDigit, Bool.and_eq_true, decide_eq_true_eq] at range
  have least : 0x30 ≤ c.toNat := UInt32.le_iff_toNat_le.1 range.1
  have most : c.toNat ≤ 0x39 := UInt32.le_iff_toNat_le.1 range.2
  have zero : '0'.toNat = 0x30 := rfl
  constructor
  · rw [Percent.hexValue?, if_pos ⟨least, most⟩, zero]
  · omega

theorem spelled_of_isDigit {digits : List Char} (numeric : ∀ c ∈ digits, c.isDigit = true) :
    Host.spelled 10 digits = some (Nat.ofDigitChars 10 digits 0) := by
  rw [Host.spelled, Nat.ofDigitChars]
  generalize 0 = total
  induction digits generalizing total with
  | nil => rfl
  | cons c rest ih =>
      obtain ⟨digit, later⟩ := List.forall_mem_cons.1 numeric
      obtain ⟨value, small⟩ := hexValue?_of_isDigit digit
      rw [List.foldl_cons, List.foldl_cons, value]
      dsimp only
      rw [if_pos small, ih later, Nat.mul_comm]

theorem isDigit_of_mem_port {n : Nat} {c : Char} (inside : c ∈ Nat.toDigits 10 n) : c.isDigit = true :=
  Nat.isDigit_of_mem_toDigits (by decide) (by decide) inside

/-- The digits of a port stand for that port. -/
theorem portOf?_toDigits {n port : Nat} (found : portOf? (Nat.toDigits 10 n) = some port) : port = n := by
  have numeric : ∀ c ∈ Nat.toDigits 10 n, c.isDigit = true := fun _ => isDigit_of_mem_port
  rw [portOf?, if_pos (List.all_eq_true.2 numeric), spelled_of_isDigit numeric, Nat.ofDigitChars_ten_toDigits,
    Option.bind_some] at found
  split at found
  · exact (Option.some.inj found).symm
  · cases found

/-- A URL has the port whose digits were read behind its host, be it the usual one or not. -/
theorem effectivePort?_of_readPort {url : Url} {n : Nat}
    (read : readPort url.scheme (':' :: Nat.toDigits 10 n) = .ok url.port) : url.effectivePort? = some n := by
  obtain ⟨first, rest, digits⟩ : ∃ first rest, Nat.toDigits 10 n = first :: rest :=
    List.exists_cons_of_ne_nil (List.ne_nil_of_length_pos Nat.length_toDigits_pos)
  rw [digits, readPort] at read
  · split at read
    · cases read
    · rename_i port found
      rw [← digits] at found
      obtain rfl := portOf?_toDigits found
      have known := Except.ok.inj read
      rw [effectivePort?, ← known]
      split at known
      · rename_i usual
        rw [if_pos usual]
        exact usual.symm
      · rename_i own
        rw [if_neg own]
  · exact nofun

/-! ## The whole -/

def serverPart (text : List Char) : List Char :=
  text.takeWhile fun c => !endsServer c

def afterServer (text : List Char) : List Char :=
  text.dropWhile fun c => !endsServer c

/-- What the parts of a URL are read from. -/
structure ReadFrom (url : Url) (scheme : String) (text : List Char) : Prop where
  scheme : url.scheme = scheme
  user : url.user = (readUser (serverPart text)).1
  password : url.password = (readUser (serverPart text)).2.1
  host : Host.ofText (splitHost false (readUser (serverPart text)).2.2).1 = .ok url.host
  port : readPort url.scheme (splitHost false (readUser (serverPart text)).2.2).2 = .ok url.port
  path : url.path = readRootPath (splitAt '?' (splitAt '#' (afterServer text)).1).1
  query : url.query = none ↔ (splitAt '?' (splitAt '#' (afterServer text)).1).2 = none
  fragment : url.fragment = none ↔ (splitAt '#' (afterServer text)).2 = none

theorem readFrom_of_ok {scheme : String} {text : List Char} {url : Url}
    (made : ofServerText scheme text = .ok url) : url.ReadFrom scheme text := by
  unfold ofServerText at made
  simp only [bind, Except.bind, throw, throwThe, MonadExceptOf.throw, pure, Except.pure] at made
  split at made
  · cases made
  · split at made
    · cases made
    · rename_i host named
      split at made
      · cases made
      · rename_i port numbered
        cases made
        exact ⟨rfl, rfl, rfl, named, numbered, rfl, Option.map_eq_none_iff, Option.map_eq_none_iff⟩

theorem splitAt_eq_none_iff {mark : Char} {text : List Char} : (splitAt mark text).2 = none ↔ mark ∉ text := by
  have absent : mark ∉ text ↔ text.dropWhile (· ≠ mark) = [] := by
    rw [List.dropWhile_eq_nil_iff]
    simp only [decide_eq_true_eq]
    exact ⟨fun absent c inside same => absent (same ▸ inside), fun other inside => other mark inside rfl⟩
  rw [absent, splitAt]
  cases text.dropWhile (· ≠ mark) with
  | nil => exact iff_of_true rfl rfl
  | cons c rest => exact iff_of_false nofun nofun

theorem splitAt_of_notMem {mark : Char} {text : List Char} (absent : mark ∉ text) :
    (splitAt mark text).1 = text := by
  apply List.takeWhile_eq_self_iff.2
  intro c inside
  exact decide_eq_true fun same => absent (same ▸ inside)

/-- A URL names a node of the web and nothing more: a server and its port. -/
structure IsNode (url : Url) (port : Nat) : Prop where
  scheme : url.scheme = "http"
  port : url.effectivePort? = some port
  path : url.path = [""]
  nobody : url.user = "" ∧ url.password = ""
  query : url.query = none
  fragment : url.fragment = none

variable {text : List Char} {url : Url} {n : Nat}

/-- A colon and a port hold nothing that is looked for in a text with a server. -/
theorem clear_of_mem_port {c : Char} (inside : c ∈ ':' :: Nat.toDigits 10 n) :
    endsServer c = false ∧ c ≠ '@' ∧ c ≠ ']' ∧ c ≠ '/' ∧ c ≠ '\\' := by
  rcases List.mem_cons.1 inside with rfl | digit
  · decide
  · have numeric := isDigit_of_mem_port digit
    have other {mark : Char} (noDigit : mark.isDigit = false) : c ≠ mark := by
      rintro rfl
      rw [numeric] at noDigit
      cases noDigit
    refine ⟨?_, other rfl, other rfl, other rfl, other rfl⟩
    rw [endsServer, decide_eq_false (other rfl), decide_eq_false (other rfl), decide_eq_false (other rfl),
      decide_eq_false (other rfl)]
    rfl

/-- The port behind a server is the one that requests go to. -/
theorem ReadFrom.effectivePort? (read : url.ReadFrom "http" (text ++ ':' :: Nat.toDigits 10 n))
    (whole : serverPart (text ++ ':' :: Nat.toDigits 10 n) = text ++ ':' :: Nat.toDigits 10 n) :
    url.effectivePort? = some n := by
  have noSign : '@' ∉ ':' :: Nat.toDigits 10 n := fun inside => (clear_of_mem_port inside).2.1 rfl
  have host := read.host
  have port := read.port
  rw [whole, readUser_append noSign] at host port
  dsimp only at host port
  rcases splitHost_port (fun _ => isDigit_of_mem_port) false (readUser text).2.2 with
    here | ⟨_, rest, earlier⟩ | nowhere
  · rw [here] at port
    exact effectivePort?_of_readPort port
  · rw [earlier] at port
    rw [readPort_twoColons] at port
    cases port
  · rw [nowhere] at host
    have unclosed : ((readUser text).2.2 ++ ':' :: Nat.toDigits 10 n).getLast? ≠ some ']' := by
      intro closed
      rw [List.getLast?_append_of_ne_nil _ (List.cons_ne_nil _ _)] at closed
      exact (clear_of_mem_port (List.mem_of_getLast? closed)).2.2.1 rfl
    obtain ⟨fault, refused⟩ := Host.exists_fault (List.mem_append_right _ List.mem_cons_self) unclosed
    rw [refused] at host
    cases host

/-- When nothing ends the server, all of the text names it, and no path, query or fragment is left. -/
theorem ReadFrom.isNode_iff_of_clear (read : url.ReadFrom "http" (text ++ ':' :: Nat.toDigits 10 n))
    (clear : ∀ c ∈ text, endsServer c = false) : url.IsNode n ↔ NamesServer text := by
  have all : ∀ c ∈ text ++ ':' :: Nat.toDigits 10 n, (!endsServer c) = true := by
    intro c inside
    rw [Bool.not_eq_true']
    rcases List.mem_append.1 inside with before | behind
    · exact clear c before
    · exact (clear_of_mem_port behind).1
  have whole : serverPart (text ++ ':' :: Nat.toDigits 10 n) = text ++ ':' :: Nat.toDigits 10 n :=
    List.takeWhile_eq_self_iff.2 all
  have none : afterServer (text ++ ':' :: Nat.toDigits 10 n) = [] := List.dropWhile_eq_nil_iff.2 all
  have noSign : '@' ∉ ':' :: Nat.toDigits 10 n := fun inside => (clear_of_mem_port inside).2.1 rfl
  have path := read.path
  have query := read.query
  have fragment := read.fragment
  rw [none] at path query fragment
  have nobody : (url.user = "" ∧ url.password = "") ↔ (readUser text).1 = "" ∧ (readUser text).2.1 = "" := by
    rw [read.user, read.password, whole, readUser_append noSign]
  constructor
  · intro node
    obtain ⟨rest, same, absent⟩ := readUser_nobody_iff.1 (nobody.1 node.nobody)
    refine ⟨rest, same, ?_⟩
    intro c inside
    have within : c ∈ text := by
      rcases same with rfl | rfl | rfl
      · exact inside
      · exact List.mem_cons_of_mem _ inside
      · exact List.mem_cons_of_mem _ (List.mem_cons_of_mem _ inside)
    exact ⟨fun sign => absent (sign ▸ inside), clear c within⟩
  · rintro ⟨server, same, plain⟩
    have absent : '@' ∉ server := fun inside => (plain '@' inside).1 rfl
    exact {
      scheme := read.scheme
      port := read.effectivePort? whole
      path := path
      nobody := nobody.2 (readUser_nobody_iff.2 ⟨server, same, absent⟩)
      query := query.2 rfl
      fragment := fragment.2 rfl }

/-- When something ends the server, the port ends up behind it. -/
theorem ReadFrom.not_isNode (read : url.ReadFrom "http" (text ++ ':' :: Nat.toDigits 10 n)) {c : Char}
    (inside : c ∈ text) (ends : endsServer c = true) : ¬url.IsNode n := by
  intro node
  obtain ⟨mark, more, rest⟩ : ∃ mark more, text.dropWhile (fun c => !endsServer c) = mark :: more := by
    apply List.exists_cons_of_ne_nil
    intro none
    have clear := List.dropWhile_eq_nil_iff.1 none c inside
    rw [ends] at clear
    cases clear
  have after : afterServer (text ++ ':' :: Nat.toDigits 10 n) = mark :: (more ++ ':' :: Nat.toDigits 10 n) := by
    rw [afterServer, List.dropWhile_append, rest]
    rfl
  have marks : endsServer mark = true := by
    have head := List.head?_dropWhile_not (fun c => !endsServer c) text
    rw [rest] at head
    exact Bool.not_eq_eq_eq_not.1 head
  have noFragment := splitAt_eq_none_iff.1 (read.fragment.1 node.fragment)
  have query := read.query.1 node.query
  have path := read.path
  rw [splitAt_of_notMem noFragment] at query path
  have noQuery := splitAt_eq_none_iff.1 query
  rw [splitAt_of_notMem noQuery, after] at path
  rw [after] at noFragment noQuery
  -- Without a query and a fragment, a slash ends the server, and the port stands at the end of the path.
  have slash : (mark = '/' || mark = '\\') = true := by
    have noMark : mark ≠ '?' ∧ mark ≠ '#' := by
      constructor
      · rintro rfl
        exact noQuery List.mem_cons_self
      · rintro rfl
        exact noFragment List.mem_cons_self
    rw [endsServer, decide_eq_false noMark.1, decide_eq_false noMark.2, Bool.or_false, Bool.or_false] at marks
    exact marks
  have noSlash : ∀ c ∈ ':' :: Nat.toDigits 10 n, c ≠ '/' ∧ c ≠ '\\' := fun _ inside =>
    (clear_of_mem_port inside).2.2.2
  rw [node.path, readRootPath, if_pos slash] at path
  exact readPath_ne_root [] List.mem_cons_self noSlash path.symm

/-- A text before a colon and a port makes the URL of that node exactly if it names a server and nobody who
asks. -/
theorem isNode_iff (made : ofServerText "http" (text ++ ':' :: Nat.toDigits 10 n) = .ok url) :
    url.IsNode n ↔ NamesServer text := by
  have read := readFrom_of_ok made
  by_cases clear : ∀ c ∈ text, endsServer c = false
  · exact read.isNode_iff_of_clear clear
  · simp only [not_forall, Bool.not_eq_false] at clear
    obtain ⟨c, inside, ends⟩ := clear
    refine iff_of_false (read.not_isNode inside ends) ?_
    rintro ⟨server, same, plain⟩
    have within : c = ':' ∨ c = '@' ∨ c ∈ server := by
      rcases same with rfl | rfl | rfl
      · exact .inr (.inr inside)
      · exact .inr (List.mem_cons.1 inside)
      · exact (List.mem_cons.1 inside).imp_right List.mem_cons.1
    rcases within with rfl | rfl | inServer
    · cases ends
    · cases ends
    · rw [(plain c inServer).2] at ends
      cases ends

end Url

end EventFeed
