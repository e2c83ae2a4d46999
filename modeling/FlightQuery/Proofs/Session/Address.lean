import FlightQuery.Proofs.Session.Sending
import FlightQuery.Proofs.Text.LowerCase
import FlightQuery.Proofs.Url.Root

/-! Addresses below a root keep the segments and the pairs that they are made of. -/

namespace FlightQuery

namespace Url

/-! ### Reading an address -/

/-- The bytes of the pieces between the slashes behind an authority, in front of a query. -/
def pieces (text : String) : List (List UInt8) :=
  (((text.toList.takeWhile (· != '?')).splitOn '/').drop 3).map Percent.decode

/-- The bytes of the pairs in a query. -/
def pairs (text : String) : List (List UInt8 × List UInt8) :=
  Percent.readForm ((text.toList.dropWhile (· != '?')).drop 1)

/-- A piece with further ones behind it, a slash in front of each. -/
theorem append_writeSegments (piece : List Char) (segments : List (List Char)) :
    piece ++ writeSegments segments = ['/'].intercalate (piece :: segments) := by
  -- Each further segment stands behind one slash.
  induction segments generalizing piece with
  | nil => simp [writeSegments]
  | cons segment segments ih =>
    rw [List.intercalate_cons_cons, ← ih]
    simp [writeSegments]

namespace IsPlain

variable {url : Url} {authority : Authority} {segments : List (List Char)}

/-- The text of a plain URL is made of pieces with slashes between them, and of the query. -/
theorem toList_text (plain : url.IsPlain authority segments) : ∃ front,
    url.text.toList = ['/'].intercalate (front :: [] :: writeAuthority authority :: segments) ++
      (url.query.elim [] fun query => '?' :: query) ∧
    ∀ piece ∈ front :: [] :: writeAuthority authority :: segments, IsPiece piece := by
  -- What stands before the path is the scheme, the empty piece between the slashes, and the
  -- authority.
  refine ⟨url.scheme ++ [':'], ?_, ?_⟩
  · rw [List.intercalate_cons_cons, List.intercalate_cons_cons, ← append_writeSegments]
    simp only [text, String.toList_ofList, write, plain.authority_eq, plain.path_eq,
      plain.fragment_eq, Option.isSome_some, writePath]
    cases url.query <;> simp
  · have scheme_is := (isWeb_scheme plain.web).2.2
    simp only [List.forall_mem_cons]
    exact ⟨scheme_is.append (by decide), .nil, plain.authority_is, plain.segments_are⟩

/-- The query of a plain URL starts at the first question mark. -/
theorem splits_text (plain : url.IsPlain authority segments) :
    pieces url.text = segments.map Percent.decode ∧
    pairs url.text = url.query.elim [] Percent.readForm ∧
    ('?' ∈ url.text.toList ↔ url.query.isSome = true) := by
  obtain ⟨front, text_eq, front_are⟩ := plain.toList_text
  -- Question marks occur in no piece, so that the first one begins the query.
  have bounded : ∀ c ∈ ['/'].intercalate (front :: [] :: writeAuthority authority :: segments),
      (c != '?') = true := by
    intro c listed
    rcases mem_intercalate listed with rfl | ⟨piece, member, inside⟩
    · decide
    · exact bne_iff_ne.2 (front_are piece member c inside).2
  -- Slashes occur in no piece either, so that splitting gives the pieces back.
  have splits := List.splitOn_intercalate '/'
    (fun piece listed slash => (front_are piece listed '/' slash).1 rfl) (List.cons_ne_nil _ _)
  generalize ['/'].intercalate (front :: [] :: writeAuthority authority :: segments) = before
    at text_eq bounded splits
  have unqueried : '?' ∉ before := fun listed => absurd (bounded '?' listed) (by decide)
  unfold pieces pairs
  rw [text_eq, List.takeWhile_append_of_pos bounded, List.dropWhile_append_of_pos bounded]
  cases url.query with
  | none => simp [splits, unqueried, Percent.readForm]
  | some query => simp [splits]

end IsPlain

/-! ### Segments -/

/-- A segment that can be appended to a path as it is. -/
def IsSegment (segment : String) : Prop :=
  segment ≠ "." ∧ segment ≠ ".." ∧ ∀ c ∈ segment.toList, isIgnored c = false

instance : DecidablePred IsSegment := fun segment =>
  have := List.decidableBAll (fun c => isIgnored c = false) segment.toList
  inferInstanceAs (Decidable (segment ≠ "." ∧ segment ≠ ".." ∧ _))

/-- Encode a segment. -/
def encodeSegment (scheme : List Char) (segment : String) : List Char :=
  Percent.encode (keepsSegment scheme) segment.toList

/-- Neither percent signs nor slashes stand for themselves in a segment. -/
theorem keepsSegment_eq_false {c : Char} (delimits : c ∈ ['%', '/', '?']) (scheme : List Char) :
    keepsSegment scheme c = false := by
  -- Both tables of kept characters are looked at, for special schemes and for others.
  have both : ['%', '/', '?'].all (fun c =>
      !Percent.keepsSpecialSegment c && !Percent.keepsSegment c) = true := by decide
  have kept := List.all_eq_true.1 both c delimits
  simp only [Bool.and_eq_true, Bool.not_eq_true'] at kept
  unfold keepsSegment
  split
  · exact kept.1
  · exact kept.2

/-- An encoded segment stands for the bytes of the segment. -/
theorem decode_encodeSegment (scheme : List Char) (segment : String) :
    Percent.decode (encodeSegment scheme segment) = Percent.bytes segment := by
  rw [encodeSegment, Percent.decode_encode (keepsSegment_eq_false (by decide) scheme),
    Percent.bytes_eq]

/-- An encoded segment is a piece. -/
theorem isPiece_encodeSegment (scheme : List Char) (segment : String) :
    IsPiece (encodeSegment scheme segment) := by
  -- A segment keeps neither the slash nor the question mark as it is.
  refine .encode fun c _ kept => ?_
  constructor <;> rintro rfl <;>
    exact absurd kept (by rw [keepsSegment_eq_false (by decide)]; decide)

/-- A point that may be encoded stands for the byte of a point. -/
theorem decode_of_dot {letters : List Char}
    (dot : letters.map Char.toLower = ['.'] ∨ letters.map Char.toLower = ['%', '2', 'e'])
    (rest : List Char) :
    Percent.decode (letters ++ rest) = Percent.bytes "." ++ Percent.decode rest := by
  -- No letter but one has another case, which is a digit of the same value.
  have own {mark : Char} (listed : mark ∈ ['.', '%', '2']) {c : Char} (lower : c.toLower = mark) :
      c = mark := by
    have alike : ['.', '%', '2'].all (fun mark => Text.capitals.all fun c =>
        decide (c.toLower = mark) = decide (c = mark)) = true := by decide +kernel
    have told := Text.apply_toLower (fun c => decide (c = mark))
      (List.all_eq_true.1 alike mark listed) c
    simpa [lower] using told
  have value (c : Char) : Number.hexDigit? c.toLower = Number.hexDigit? c :=
    Text.apply_toLower Number.hexDigit? (by decide +kernel) c
  rcases dot with dot | dot
  · -- A point is a character that stands for itself.
    obtain ⟨c, rfl, lower⟩ : ∃ c, letters = [c] ∧ c.toLower = '.' := by simpa using dot
    obtain rfl := own (by decide) lower
    exact Percent.decode_cons (by decide) rest
  · -- Its number is written with a sign and two digits, the second of which may be a capital.
    simp only [List.map_eq_cons_iff, List.map_eq_nil_iff] at dot
    obtain ⟨sign, _, rfl, sign_lower, high, _, rfl, high_lower, low, _, rfl, low_lower, rfl⟩ := dot
    obtain rfl := own (by decide) sign_lower
    have low_value : Number.hexDigit? low = some 14 := by
      rw [← value, low_lower]
      decide
    obtain rfl := own (by decide) high_lower
    simp only [List.cons_append, List.nil_append, Percent.decode, low_value,
      show Number.hexDigit? '2' = some 2 by decide]
    rfl

/-- A segment that is read as a point stands for one. -/
theorem decode_of_isDot {letters : List Char} (dot : isDot letters = true) :
    Percent.decode letters = Percent.bytes "." := by
  have decoded := decode_of_dot (by simpa [isDot] using dot) []
  simpa [Percent.decode] using decoded

/-- A segment that is read as two points stands for two. -/
theorem decode_of_isDoubleDot {letters : List Char} (double : isDoubleDot letters = true) :
    Percent.decode letters = Percent.bytes ".." := by
  -- Each point is written as itself or by its number, which gives four spellings.
  obtain ⟨first, second, first_dot, second_dot, both⟩ : ∃ first second,
      (first = ['.'] ∨ first = ['%', '2', 'e']) ∧ (second = ['.'] ∨ second = ['%', '2', 'e']) ∧
        letters.map Char.toLower = first ++ second := by
    simp only [isDoubleDot, List.contains_iff_mem, List.mem_cons, List.not_mem_nil,
      or_false] at double
    rcases double with both | both | both | both
    · exact ⟨_, _, .inl rfl, .inl rfl, both⟩
    · exact ⟨_, _, .inl rfl, .inr rfl, both⟩
    · exact ⟨_, _, .inr rfl, .inl rfl, both⟩
    · exact ⟨_, _, .inr rfl, .inr rfl, both⟩
  obtain ⟨front, back, rfl, rfl, rfl⟩ := List.map_eq_append_iff.1 both
  rw [decode_of_dot first_dot, decode_of_isDot (by simpa [isDot] using second_dot)]
  rfl

/-- A segment that is no point is appended to a path. A slash alone makes room for it. -/
theorem pushSegment_eq {scheme : List Char} (remote : isFileScheme scheme = false)
    {segment : String} (plain : IsSegment segment) (segments : List (List Char)) :
    pushSegment scheme segments segment =
      (if segments = [[]] then [] else segments) ++ [encodeSegment scheme segment] := by
  obtain ⟨no_dot, no_double, kept⟩ := plain
  -- What would be read as points would stand for points.
  have single : isDot (encodeSegment scheme segment) = false := by
    refine Bool.eq_false_iff.2 fun dot => no_dot (Percent.bytes_inj ?_)
    rw [← decode_encodeSegment scheme, decode_of_isDot dot]
  have double : isDoubleDot (encodeSegment scheme segment) = false := by
    refine Bool.eq_false_iff.2 fun dot => no_double (Percent.bytes_inj ?_)
    rw [← decode_encodeSegment scheme, decode_of_isDoubleDot dot]
  have whole : segment.toList.filter (fun c => !isIgnored c) = segment.toList :=
    List.filter_eq_self.2 fun c listed => by rw [kept c listed, Bool.not_false]
  rw [pushSegment, if_neg (not_or.2 ⟨no_dot, no_double⟩)]
  simp only [whole]
  rw [withoutLeading_of_remote remote]
  exact appendSegment_of_plain remote single double

/-- The pieces below a root. If its only piece is empty, it gives way to the first piece that is
not, and those in front of this one are lost. -/
def below {α : Type} [DecidableEq α] (root further : List (List α)) : List (List α) :=
  if root = [[]] then
    match further.dropWhile (· == []) with
    | [] => [[]]
    | rest => rest
  else root ++ further

/-- Segments are appended to a path one after the other. -/
theorem foldl_pushSegment {scheme : List Char} (remote : isFileScheme scheme = false)
    {path : List String} (plain : ∀ segment ∈ path, IsSegment segment)
    {segments : List (List Char)} (nonempty : segments ≠ []) :
    path.foldl (pushSegment scheme) segments =
      below segments (path.map (encodeSegment scheme)) := by
  -- The segments so far stay quantified over, and only a single slash makes a difference.
  induction path generalizing segments with
  | nil =>
    by_cases slash : segments = [[]]
    · simp [below, slash]
    · simp [below, slash]
  | cons segment path ih =>
    obtain ⟨segment_is, path_are⟩ := List.forall_mem_cons.1 plain
    rw [List.foldl_cons, pushSegment_eq remote segment_is, ih path_are (by simp), List.map_cons]
    generalize encodeSegment scheme segment = encoded
    -- The first segment takes the place of the single slash, unless it is empty.
    by_cases slash : segments = [[]]
    · by_cases empty : encoded = []
      · simp [below, slash, empty]
      · simp [below, slash, empty]
    · have longer : segments ++ [encoded] ≠ [[]] := by
        intro same
        cases segments <;> simp_all
      simp [below, slash, longer]

/-- What pieces are changed to lies below in the same way, if only the empty one becomes empty. -/
theorem map_below {α β : Type} [DecidableEq α] [DecidableEq β] {change : List α → List β}
    (kept : ∀ piece, change piece = [] ↔ piece = []) (root further : List (List α)) :
    (below root further).map change = below (root.map change) (further.map change) := by
  -- The root is a single slash after the change exactly when it was one before.
  have slash_iff : root.map change = [[]] ↔ root = [[]] := by
    simp [List.map_eq_cons_iff, kept]
  unfold below
  by_cases slash : root = [[]]
  · have same : (fun piece => piece == []) ∘ change = fun piece => piece == [] := by
      funext piece
      exact Bool.eq_iff_iff.2 (by simpa using kept piece)
    rw [if_pos slash, if_pos (slash_iff.2 slash), List.dropWhile_map, same]
    cases further.dropWhile (· == []) with
    | nil => simpa using kept []
    | cons piece rest => rfl
  · rw [if_neg slash, if_neg (slash_iff.not.2 slash), List.map_append]

/-- No piece below a root is new. -/
theorem forall_mem_below {α : Type} [DecidableEq α] {property : List α → Prop}
    {root further : List (List α)} (root_all : ∀ piece ∈ root, property piece)
    (further_all : ∀ piece ∈ further, property piece) :
    ∀ piece ∈ below root further, property piece := by
  -- Below a single slash the empty pieces in front are dropped, and nothing is added anywhere.
  unfold below
  split
  · rename_i slash
    have dropped : ∀ piece ∈ further.dropWhile (· == []), property piece := fun piece listed =>
      further_all piece ((List.dropWhile_suffix _).subset listed)
    split
    · exact slash ▸ root_all
    · exact dropped
  · exact List.forall_mem_append.2 ⟨root_all, further_all⟩

/-! ### Addresses -/

/-- Pairs in the query keep a URL plain. -/
theorem IsPlain.addQuery {url : Url} {authority : Authority} {segments : List (List Char)}
    (plain : url.IsPlain authority segments) (unqueried : url.query = none)
    (query : List (String × String)) :
    (url.addQuery query).IsPlain authority segments ∧
      (url.addQuery query).query = if query = [] then none else some (Percent.writeForm query) := by
  -- Without pairs the URL is not changed, and otherwise only its query is.
  unfold Url.addQuery
  by_cases none : query = []
  · simp [none, plain, unqueried]
  · simp only [if_neg none, unqueried]
    exact ⟨{ plain with }, trivial⟩

/-- Further segments lead from a root to a plain URL. -/
theorem IsRoot.extend? {root : Url} {authority : Authority} {segments : List (List Char)}
    (is_root : root.IsRoot authority segments) {path : List String}
    (plain : ∀ segment ∈ path, IsSegment segment) : ∃ url, root.extend? path = some url ∧
      url.IsPlain authority (below segments (path.map (encodeSegment root.scheme))) ∧
      url.query = none := by
  have remote := (isWeb_scheme is_root.web).2.1
  -- No root ends in a slash but the one that is nothing else.
  have unslashed : dropLastSlash segments = segments ∧ segments ≠ [] := by
    rcases is_root.ends with rfl | ⟨front, rfl⟩
    · exact ⟨rfl, by simp⟩
    · simp [dropLastSlash, rootSegment]
  -- The segments are appended one by one, and below the root they are the same.
  have extended : root.extend? path = some { root with
      path := .segments (below segments (path.map (encodeSegment root.scheme))) } := by
    simp only [Url.extend?, is_root.path_eq, unslashed.1,
      foldl_pushSegment remote plain unslashed.2]
  refine ⟨_, extended, { is_root.toIsPlain with path_eq := rfl, segments_are := ?_ }, ?_⟩
  · refine forall_mem_below is_root.segments_are fun piece listed => ?_
    obtain ⟨segment, _, rfl⟩ := List.mem_map.1 listed
    exact isPiece_encodeSegment _ segment
  · exact is_root.query_eq

end Url

namespace Session

/--
An address below the root of an interface loses nothing of what it is made of.

Between slashes it has the pieces of the root and the segments, one piece for each.
Only where the root has nothing but a slash, its empty piece and the empty segments in front are
lost.
The query has the pairs, and there is none without pairs.
-/
theorem address_lossless {settings : Settings} {server : Server} {now : Int} {session : Session}
    (started : start settings server now = .ok session) {root : Url}
    (read : Url.read session.root = .ok root) (web : root.isWeb = true)
    (unqueried : root.query = none) (unmarked : root.fragment = none) {path : List String}
    (plain : ∀ segment ∈ path, Url.IsSegment segment) (query : List (String × String)) :
    ∃ url, session.address path query = .ok url ∧
      Url.pieces url.text = Url.below (Url.pieces root.text) (path.map Percent.bytes) ∧
      Url.pairs url.text = query.map (fun pair => (Percent.bytes pair.1, Percent.bytes pair.2)) ∧
      ('?' ∈ url.text.toList ↔ query ≠ []) := by
  -- The session has read its root, and what settings allow as a root is a root of addresses.
  obtain ⟨text, _, rooted, _, rfl⟩ := start_eq_ok_iff.1 started
  obtain ⟨authority, segments, is_root⟩ :=
    Url.exists_isRoot (Settings.suffix_root rooted) read web unqueried unmarked
  obtain ⟨url, extended, url_plain, url_unqueried⟩ := is_root.extend? plain
  have address_eq : Session.address ⟨settings, text, none, server, [], now⟩ path query =
      .ok (url.addQuery query) := by
    simp only [address, read, extended]
  obtain ⟨url_plain, query_eq⟩ := url_plain.addQuery url_unqueried query
  obtain ⟨root_pieces, _⟩ := is_root.toIsPlain.splits_text
  obtain ⟨url_pieces, url_pairs, url_query⟩ := url_plain.splits_text
  refine ⟨_, address_eq, ?_, ?_, ?_⟩
  · -- Each segment is kept or encoded, and decodes to its own bytes in either case.
    rw [url_pieces, root_pieces, Url.map_below fun _ => Percent.decode_eq_nil_iff, List.map_map]
    refine congrArg _ (List.map_congr_left fun segment _ => ?_)
    exact Url.decode_encodeSegment _ segment
  · -- The pairs are written as a form, unless there are none.
    rw [url_pairs, query_eq]
    split
    · simp [*]
    · exact Percent.readForm_writeForm query
  · rw [url_query, query_eq]
    split <;> simp [*]

/-- Slashes, percent signs and the like are kept in segments and pairs. -/
theorem address_lossless_encoded :
    let path := ["v2", "", "a/b", "50%2F", "[x] ü?#", "%2e"]
    let query := [("groupId", "[-hub-][x]&y=1"), ("", "a+b c")]
    ∃ session root url, start {} .unreachable 0 = .ok session ∧
      Url.read session.root = .ok root ∧ root.isWeb = true ∧ root.query = none ∧
      root.fragment = none ∧ (∀ segment ∈ path, Url.IsSegment segment) ∧
      session.address path query = .ok url ∧
      Url.pieces url.text = Percent.bytes "api" :: path.map Percent.bytes ∧
      Url.pairs url.text = query.map (fun pair => (Percent.bytes pair.1, Percent.bytes pair.2)) ∧
      ('?' ∈ url.text.toList ↔ query ≠ []) := by
  intro path query
  -- The session starts with the root that the settings have by default.
  have started := start_of_isOk (rfl : ({} : Settings).root = .ok "https://ems.efoqa.com/api")
    (by decide +kernel) .unreachable 0
  let root : Url := {
    scheme := "https".toList, authority := some { host := .domain "ems.efoqa.com" }
    path := .segments ["api".toList] }
  have read : Url.read "https://ems.efoqa.com/api" = .ok root :=
    Outcome.toOption_eq_some_iff.1 (by decide +kernel)
  have plain : ∀ segment ∈ path, Url.IsSegment segment := by decide +kernel
  -- What the URL consists of follows from the theorem, and only the root is evaluated.
  obtain ⟨url, address_eq, pieces_eq, rest⟩ :=
    address_lossless started read (by decide) rfl rfl plain query
  have root_pieces : Url.pieces root.text = [Percent.bytes "api"] := by decide +kernel
  refine ⟨_, root, url, started, read, by decide, rfl, rfl, plain, address_eq, ?_, rest⟩
  rw [pieces_eq, root_pieces]
  rfl

/-- Where the root has nothing but a slash, an empty segment in front is lost. -/
theorem address_loses :
    let settings : Settings := { serverUrl := some "http://api" }
    ∃ session root url, start settings .unreachable 0 = .ok session ∧
      Url.read session.root = .ok root ∧ root.isWeb = true ∧ root.query = none ∧
      root.fragment = none ∧ (∀ segment ∈ ["", "v2"], Url.IsSegment segment) ∧
      session.address ["", "v2"] [] = .ok url ∧ url.text = "http://api/v2" ∧
      Url.pieces url.text ≠ Url.pieces root.text ++ ["", "v2"].map Percent.bytes ∧
      Url.pieces url.text ≠ ["", "v2"].map Percent.bytes := by
  intro settings
  -- This root has nothing but a slash behind its host.
  have started := start_of_isOk (rfl : settings.root = .ok "http://api")
    (by decide +kernel) .unreachable 0
  let root : Url := {
    scheme := "http".toList, authority := some { host := .domain "api" }, path := .segments [[]] }
  have read : Url.read "http://api" = .ok root :=
    Outcome.toOption_eq_some_iff.1 (by decide +kernel)
  let url : Url := { root with path := .segments ["v2".toList] }
  -- The address is evaluated, and the empty segment in front does not appear in it.
  have address_eq : Session.address ⟨settings, "http://api", none, .unreachable, [], 0⟩
      ["", "v2"] [] = .ok url :=
    Outcome.toOption_eq_some_iff.1 (by decide +kernel)
  exact ⟨_, root, url, started, read, by decide, rfl, rfl, by decide +kernel, address_eq,
    by decide +kernel, by decide +kernel, by decide +kernel⟩

end Session
end FlightQuery
