import FlightQuery.Proofs.Outcome
import FlightQuery.Proofs.Url.Percent
import FlightQuery.Url.Reader

/-! The parts of a URL that was read hold no character that would end them. -/

namespace FlightQuery

namespace Url

/-- Letters and digits stand in the pieces of a URL. -/
theorem ne_of_isAlphanum {c : Char} (letter : c.isAlphanum = true) : c ≠ '/' ∧ c ≠ '?' := by
  constructor <;> rintro rfl <;> exact nomatch letter

/-- Texts with something in between hold nothing else. -/
theorem mem_intercalate {c d : Char} {texts : List (List Char)}
    (listed : d ∈ [c].intercalate texts) : d = c ∨ ∃ text ∈ texts, d ∈ text := by
  -- The induction is on the texts, and something stands between two of them only.
  induction texts with
  | nil => simp at listed
  | cons text rest ih =>
    cases rest with
    | nil => exact .inr ⟨text, List.mem_singleton_self text, by simpa using listed⟩
    | cons next rest =>
      rw [List.intercalate_cons_cons, List.append_assoc, List.mem_append,
        List.singleton_append, List.mem_cons] at listed
      rcases listed with inside | same | behind
      · exact .inr ⟨text, List.mem_cons_self, inside⟩
      · exact .inl same
      · exact (ih behind).imp_right fun ⟨text', member, inside⟩ =>
          ⟨text', List.mem_cons_of_mem text member, inside⟩

/-- A text that can stand between the slashes of a URL, in front of the query. -/
def IsPiece (text : List Char) : Prop := ∀ c ∈ text, c ≠ '/' ∧ c ≠ '?'

instance : DecidablePred IsPiece := fun text =>
  List.decidableBAll (fun c => c ≠ '/' ∧ c ≠ '?') text

namespace IsPiece

variable {text text' : List Char}

/-- Pieces can be put together. -/
theorem append (piece : IsPiece text) (piece' : IsPiece text') : IsPiece (text ++ text') :=
  List.forall_mem_append.2 ⟨piece, piece'⟩

/-- A piece with one more character. -/
theorem cons {c : Char} (plain : c ≠ '/' ∧ c ≠ '?') (piece : IsPiece text) : IsPiece (c :: text) :=
  List.forall_mem_cons.2 ⟨plain, piece⟩

/-- The empty text is a piece. -/
theorem nil : IsPiece [] := by simp [IsPiece]

/-- Pieces can be put together with something in between. -/
theorem intercalate {c : Char} {pieces : List (List Char)} (plain : c ≠ '/' ∧ c ≠ '?')
    (all : ∀ piece ∈ pieces, IsPiece piece) : IsPiece ([c].intercalate pieces) := by
  intro d listed
  -- A character of the whole is the separator or lies in one of the pieces.
  rcases mem_intercalate listed with rfl | ⟨piece, member, inside⟩
  · exact plain
  · exact all piece member d inside

/-- An encoded text is a piece if what stands for itself in it is. -/
theorem encode {keeps : Char → Bool} (kept : ∀ c ∈ text, keeps c = true → c ≠ '/' ∧ c ≠ '?') :
    IsPiece (Percent.encode keeps text) := by
  intro c listed
  -- What is written is a character kept, a percent sign or a hexadecimal digit.
  rcases Percent.mem_encode listed with ⟨inside, stands⟩ | rfl | letter
  · exact kept c inside stands
  · decide
  · exact ne_of_isAlphanum letter

/-- The digits of a number are a piece. -/
theorem toDigits {base : Nat} (large : 1 < base) (small : base ≤ 16) (value : Nat) :
    IsPiece (Nat.toDigits base value) := by
  have digit : ∀ value < 16, Nat.digitChar value ≠ '/' ∧ Nat.digitChar value ≠ '?' := by decide
  -- The induction follows the digits, of which the last one is that of the remainder.
  induction value using Nat.strongRecOn with
  | _ value ih =>
    rw [Nat.toDigits_eq_if large]
    split
    · exact cons (digit value (by omega)) nil
    · have smaller : value / base < value := Nat.div_lt_self (by omega) large
      have remainder : value % base < base := Nat.mod_lt _ (by omega)
      exact (ih _ smaller).append (cons (digit _ (by omega)) nil)

end IsPiece
end Url

/-! ### Hosts -/

namespace Punycode

/-- The digits of a difference are letters and digits. -/
theorem isAlphanum_of_mem_digits (bias position difference : Nat) :
    ∀ c ∈ digits bias position difference, c.isAlphanum = true := by
  -- The thresholds bound each digit by 36, the number of letters and digits.
  have letters : ∀ value < 36, (digit value).isAlphanum = true := by decide
  have threshold_le (position : Nat) : threshold position bias ≤ 26 := by
    unfold threshold
    omega
  -- The induction follows the digits as they are written.
  fun_induction digits bias position difference with
  | case1 position difference least small =>
    have := threshold_le position
    simpa using letters difference (by omega)
  | case2 position difference least large ih =>
    have := threshold_le position
    have := Nat.mod_lt (difference - least) (show 36 - least > 0 by omega)
    exact List.forall_mem_cons.2 ⟨letters _ (by omega), ih⟩

/-- What has been written stays letters and digits when a character is met. -/
theorem isAlphanum_of_mem_meet {basic code : Nat} {state : State} (c : Char)
    (letters : ∀ c ∈ state.written, c.isAlphanum = true) :
    ∀ d ∈ (meet basic code state c).written, d.isAlphanum = true := by
  -- Something is written only for the character whose turn it is.
  unfold meet
  by_cases before : c.toNat < code
  · rw [if_pos before]
    exact letters
  · rw [if_neg before]
    by_cases same : c.toNat = code
    · rw [if_pos same]
      exact List.forall_mem_append.2 ⟨letters, isAlphanum_of_mem_digits _ _ _⟩
    · rw [if_neg same]
      exact letters

/-- The code points that are not ASCII are written in letters and digits. -/
theorem isAlphanum_of_mem_writeCodes (label : List Char) (basic : Nat) (codes : List Nat)
    (next : Nat) (state : State) (letters : ∀ c ∈ state.written, c.isAlphanum = true) :
    ∀ c ∈ writeCodes label basic codes next state, c.isAlphanum = true := by
  induction codes generalizing next state with
  | nil => exact letters
  | cons code codes ih =>
    -- Nothing but what is met along the label adds to what has been written.
    have met (label : List Char) (state : State)
        (letters : ∀ c ∈ state.written, c.isAlphanum = true) :
        ∀ c ∈ (label.foldl (meet basic code) state).written, c.isAlphanum = true := by
      induction label generalizing state with
      | nil => exact letters
      | cons c label ih => exact ih _ (isAlphanum_of_mem_meet c letters)
    exact ih _ _ (met label _ letters)

/-- An encoded label has no characters but its own, letters, digits and hyphens. -/
theorem mem_encode {label : List Char} {c : Char} (listed : c ∈ encode label) :
    c ∈ label ∨ c = '-' ∨ c.isAlphanum = true := by
  -- The front holds characters of the label and a hyphen, the back is written in digits.
  rcases List.mem_append.1 listed with front | back
  · split at front
    · cases front
    · rcases List.mem_append.1 front with own | hyphen
      · exact .inl (List.mem_filter.1 own).1
      · exact .inr (.inl (List.mem_singleton.1 hyphen))
  · exact .inr (.inr (isAlphanum_of_mem_writeCodes _ _ _ _ _ (by simp) c back))

end Punycode

namespace Url
namespace IsPiece

/-- The parts of a text are made of the characters between its separators. -/
theorem of_mem_splitOnP {p : Char → Bool} {text part : List Char} {c : Char}
    (listed : part ∈ text.splitOnP p) (inside : c ∈ part) : c ∈ text ∧ p c = false := by
  -- The induction is on the text, whose first character separates or joins the first part.
  induction text generalizing part with
  | nil =>
    obtain rfl : part = [] := by simpa using listed
    cases inside
  | cons d rest ih =>
    rw [List.splitOnP_cons_eq_if_modifyHead] at listed
    by_cases separator : p d = true
    · rw [if_pos separator] at listed
      -- A separator starts a new part, and the part in front of it is empty.
      rcases List.mem_cons.1 listed with rfl | listed
      · cases inside
      · exact (ih listed inside).imp_left (List.mem_cons_of_mem d)
    · rw [if_neg separator] at listed
      -- Only the first part is changed, which gets the character that is no separator.
      cases parts : rest.splitOnP p with
      | nil => exact absurd parts (List.splitOnP_ne_nil p rest)
      | cons first others =>
        rw [parts, List.modifyHead_cons] at listed
        rcases List.mem_cons.1 listed with rfl | listed
        · rcases List.mem_cons.1 inside with rfl | inside
          · exact ⟨List.mem_cons_self, by simpa using separator⟩
          · have found := ih (parts ▸ List.mem_cons_self) inside
            exact found.imp_left (List.mem_cons_of_mem d)
        · have found := ih (parts ▸ List.mem_cons_of_mem first listed) inside
          exact found.imp_left (List.mem_cons_of_mem d)

/-- A domain is a piece. -/
theorem domain {text name : List Char} (read : Domain.read? text = some name) : IsPiece name := by
  -- The name is made of labels, none of which has a forbidden character.
  simp only [Domain.read?, Option.bind_eq_bind, Option.bind_eq_some_iff] at read
  obtain ⟨mapped, _, meanings, _, read⟩ := read
  generalize Domain.compose mapped.flatten = composed at read
  split at read
  · cases read
  · rename_i allowed
    obtain ⟨_, ⟨⟩⟩ := Option.ite_none_right_eq_some.1 read
    refine intercalate (by decide) fun piece listed => ?_
    obtain ⟨label, inside, rfl⟩ := List.mem_map.1 listed
    rw [List.splitOn_eq_splitOnP] at inside
    have label_is : IsPiece label := by
      intro c member
      have found := (of_mem_splitOnP inside member).1
      constructor <;> rintro rfl <;> exact allowed (List.any_eq_true.2 ⟨_, found, by decide⟩)
    -- A label is written as it is, or its characters are encoded.
    unfold Domain.writeLabel
    split
    · exact label_is
    · refine append (by decide) fun c member => ?_
      rcases Punycode.mem_encode member with own | rfl | letter
      · exact label_is c own
      · decide
      · exact ne_of_isAlphanum letter

/-- The host of a special URL is a piece. -/
theorem host {text : List Char} {host : Host} (read : Host.readSpecial text = .ok host) :
    IsPiece host.write := by
  -- Both forms of an address are numbers with a separator between them.
  have written (base : Nat) (large : 1 < base) (small : base ≤ 16) {c : Char}
      (plain : c ≠ '/' ∧ c ≠ '?') (values : List Nat) :
      IsPiece ([c].intercalate (values.map (Nat.toDigits base))) := by
    refine intercalate plain fun piece listed => ?_
    obtain ⟨value, _, rfl⟩ := List.mem_map.1 listed
    exact toDigits large small value
  have pieces_written (pieces : List UInt16) : IsPiece (Host.writePieces pieces) := by
    have := written 16 (by decide) (by decide) (by decide : ':' ≠ '/' ∧ ':' ≠ '?')
      (pieces.map UInt16.toNat)
    simpa [Host.writePieces, List.map_map, Function.comp_def] using this
  cases host with
  -- The reader of domains has several ways to fail, and one to succeed.
  | domain name =>
    unfold Host.readSpecial at read
    split at read
    · split at read <;> cases read
    · split at read
      · cases read
      · rename_i found
        split at read
        · cases read
        · split at read
          · split at read <;> cases read
          · cases read
            obtain ⟨decoded, _, found⟩ := Option.bind_eq_some_iff.1 found
            simpa [Host.write] using domain found
  | ipv4 address => exact written 10 (by decide) (by decide) (by decide) _
  -- The longest run of zeros may be left out, and then two colons stand in its place.
  | ipv6 pieces =>
    refine append (cons (by decide) ?_) (by decide)
    rw [Host.writeIpv6]
    split
    split
    · exact pieces_written pieces
    · exact (pieces_written _).append (cons (by decide) (cons (by decide) (pieces_written _)))

end IsPiece

/-! ### Authorities and segments -/

/-- What stands behind the last occurrence of a character belongs to the text. -/
theorem mem_of_mem_splitLast? {c d : Char} {text front back : List Char}
    (split : splitLast? c text = some (front, back)) (listed : d ∈ back) : d ∈ text := by
  unfold splitLast? at split
  -- The text is read from its end, up to the first occurrence from there.
  cases found : text.reverse.dropWhile (· != c) with
  | nil => simp [found] at split
  | cons first rest =>
    simp only [found, Option.some.injEq, Prod.mk.injEq] at split
    obtain ⟨_, rfl⟩ := split
    exact List.mem_reverse.1 ((List.takeWhile_prefix _).subset (List.mem_reverse.1 listed))

/-- The port of a host belongs to the text. -/
theorem mem_of_mem_splitHost {inside : Bool} {text : List Char} {c : Char}
    (listed : c ∈ (splitHost inside text).2) : c ∈ text := by
  -- The induction follows the text, in which a colon within brackets does not split.
  fun_induction splitHost inside text with
  | case1 => exact listed
  | case2 => exact listed
  | case3 inside d rest _ inside' host port split ih =>
    rw [split] at ih
    exact List.mem_cons_of_mem d (ih listed)

/-- The parts of the authority of a special URL: what stands in front of a user and the rest, which
starts with the host. -/
theorem exists_of_readAuthority {scheme text left : List Char} {followed : Bool}
    {authority : Authority} (special : isSpecialScheme scheme = true)
    (read : readAuthority scheme text followed = .ok (authority, left)) :
    ∃ userinfo rest host port, (∀ c ∈ rest, c ∈ text) ∧
      Host.readSpecial (splitHost false rest).1 = .ok host ∧
      authority = { username := (readUserinfo userinfo).1, password := (readUserinfo userinfo).2
                    host, port } ∧
      left = (splitHost false rest).2.dropWhile (· != '\\') := by
  unfold readAuthority at read
  simp only [special, true_or, and_true, if_true] at read
  -- Whatever stands in front of the last at-sign is the user.
  cases split : splitLast? '@' text with
  | none =>
    simp only [split, Option.getD_none] at read
    split at read
    · exact nomatch read
    · obtain ⟨host, host_read, read⟩ := Outcome.bind_eq_ok_iff.1 read
      obtain ⟨port, _, ⟨⟩⟩ := Outcome.bind_eq_ok_iff.1 read
      exact ⟨[], text, host, port, fun _ => id, host_read, rfl, rfl⟩
  | some parts =>
    simp only [split, Option.getD_some] at read
    split at read
    · exact nomatch read
    · obtain ⟨host, host_read, read⟩ := Outcome.bind_eq_ok_iff.1 read
      obtain ⟨port, _, ⟨⟩⟩ := Outcome.bind_eq_ok_iff.1 read
      have inside (c : Char) (listed : c ∈ parts.2) : c ∈ text := mem_of_mem_splitLast? split listed
      exact ⟨parts.1, parts.2, host, port, inside, host_read, rfl, rfl⟩

/-- The authority of a special URL is a piece, and nothing is left of a text without
backslashes. -/
theorem readAuthority_special {scheme text left : List Char} {followed : Bool}
    {authority : Authority} (special : isSpecialScheme scheme = true) (straight : '\\' ∉ text)
    (read : readAuthority scheme text followed = .ok (authority, left)) :
    IsPiece (writeAuthority authority) ∧ left = [] := by
  obtain ⟨userinfo, rest, host, port, inside, host_read, rfl, rfl⟩ :=
    exists_of_readAuthority special read
  -- What is encoded of a user has no slashes and question marks.
  have encoded (text : List Char) : IsPiece (Percent.encode Percent.keepsUserinfo text) := by
    refine .encode fun c _ kept => ?_
    constructor <;> rintro rfl <;> exact absurd kept (by decide)
  -- The three parts are the user, the host and the port, and then there is the rest.
  refine ⟨.append (.append ?_ (.host host_read)) ?_, ?_⟩
  · unfold writeUserinfo
    split
    · exact .nil
    · refine .append (.append (encoded _) ?_) (by decide)
      split
      · exact .nil
      · exact .cons (by decide) (encoded _)
  · cases port with
    | none => exact .nil
    | some port => exact .cons (by decide) (.toDigits (by decide) (by decide) _)
  · -- What is left begins with a backslash, of which the text has none.
    refine List.dropWhile_eq_nil_iff.2 fun c listed => ?_
    refine bne_iff_ne.2 ?_
    rintro rfl
    exact straight (inside _ (mem_of_mem_splitHost listed))

/-- A piece that is appended to pieces leaves pieces. -/
theorem isPiece_of_mem_appendSegment {scheme segment : List Char} {segments : List (List Char)}
    {isLast : Bool} (all : ∀ piece ∈ segments, IsPiece piece) (segment_is : IsPiece segment) :
    ∀ piece ∈ appendSegment scheme segments segment isLast, IsPiece piece := by
  have ending : ∀ piece ∈ (if isLast then [[]] else [] : List (List Char)), IsPiece piece := by
    cases isLast <;> simp [IsPiece.nil]
  -- A segment is appended, unless it is a point or a drive.
  unfold appendSegment
  split
  · -- Two points take the last segment away and leave the others.
    refine List.forall_mem_append.2 ⟨fun piece listed => ?_, ending⟩
    unfold leaveLast at listed
    split at listed
    · exact all piece listed
    · exact all piece ((List.dropLast_prefix _).subset listed)
  · split
    · exact List.forall_mem_append.2 ⟨all, ending⟩
    · split
      · -- A drive is written with a colon, after its letter.
        have start : IsPiece (segment.take 1) := fun c listed =>
          segment_is c (List.mem_of_mem_take listed)
        simpa using start.append (by decide : IsPiece [':'])
      · exact List.forall_mem_append.2 ⟨all, by simpa using segment_is⟩

/-- Pieces that are resolved are pieces. -/
theorem isPiece_of_mem_resolveSegments {scheme : List Char} {segments further : List (List Char)}
    (all : ∀ piece ∈ segments, IsPiece piece) (all' : ∀ piece ∈ further, IsPiece piece) :
    ∀ piece ∈ resolveSegments scheme segments further, IsPiece piece := by
  -- The segments are resolved one by one, and each step leaves pieces.
  fun_induction resolveSegments scheme segments further with
  | case1 => exact all
  | case2 segments segment => exact isPiece_of_mem_appendSegment all (all' segment (by simp))
  | case3 segments segment rest _ ih =>
    obtain ⟨segment_is, rest_are⟩ := List.forall_mem_cons.1 all'
    exact ih (isPiece_of_mem_appendSegment all segment_is) rest_are

/-- The empty segments in front stay, unless they lead to a file. -/
theorem withoutLeading_of_remote {scheme : List Char} (remote : isFileScheme scheme = false)
    (segments : List (List Char)) : withoutLeading scheme segments = segments := by
  rw [withoutLeading, remote, if_neg Bool.false_ne_true]

/-- The segments of a path that is read are pieces. -/
theorem isPiece_of_mem_readSegments {scheme : List Char} (remote : isFileScheme scheme = false)
    (text : List Char) : ∀ piece ∈ readSegments scheme text, IsPiece piece := by
  have all : ∀ piece ∈ (text.splitOnP (isSlash (isSpecialScheme scheme))).map
      (Percent.encode Percent.keepsPath), IsPiece piece := by
    intro piece listed
    obtain ⟨part, part_listed, rfl⟩ := List.mem_map.1 listed
    refine .encode fun c inside kept => ?_
    -- There are no slashes in the parts, and question marks do not stand for themselves.
    have apart := (IsPiece.of_mem_splitOnP part_listed inside).2
    constructor <;> rintro rfl
    · exact nomatch apart
    · exact absurd kept (by decide)
  rw [readSegments, withoutLeading_of_remote remote]
  exact isPiece_of_mem_resolveSegments (by simp) all

end Url
end FlightQuery
