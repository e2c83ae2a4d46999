import FlightQuery.Proofs.Session.Sendable
import FlightQuery.Proofs.Settings.Root
import FlightQuery.Proofs.Url.Piece

/-! The root of an interface: its path ends in the same segment, or there is nothing but a slash. -/

namespace FlightQuery

/-- The end of a text stays when characters in front are dropped that it does not start with. -/
theorem suffix_dropWhile {α : Type} {p : α → Bool} {c : α} {back text : List α} (kept : p c = false)
    (suffix : c :: back <:+ text) : c :: back <:+ text.dropWhile p := by
  obtain ⟨front, rfl⟩ := suffix
  -- The induction is on what stands in front, which is dropped or stays.
  induction front with
  | nil => simp [kept]
  | cons d front ih =>
    rw [List.cons_append, List.dropWhile_cons]
    split
    · exact ih
    · exact ⟨d :: front, rfl⟩

/-- What is left of a text starts with a character that is not dropped. -/
theorem eq_false_of_dropWhile {α : Type} {p : α → Bool} {c : α} {text rest : List α}
    (left : text.dropWhile p = c :: rest) : p c = false := by
  have head := List.head?_dropWhile_not p text
  rw [left] at head
  exact head

namespace Url

/-- The schemes of the web are special, and they do not lead to files. -/
theorem isWeb_scheme {url : Url} (web : url.isWeb = true) :
    isSpecialScheme url.scheme = true ∧ isFileScheme url.scheme = false ∧ IsPiece url.scheme := by
  -- There are two such schemes, and both are special and no file's.
  have either : url.scheme = "http".toList ∨ url.scheme = "https".toList := by
    simpa [isWeb] using web
  rcases either with scheme_eq | scheme_eq <;> rw [scheme_eq] <;> decide

/-- Behind a scheme with an authority, the scheme stays. -/
theorem scheme_of_readHierarchy {scheme text : List Char} {url : Url}
    (read : readHierarchy scheme text = .ok url) : url.scheme = scheme := by
  obtain ⟨parts, _, ⟨⟩⟩ := Outcome.bind_eq_ok_iff.1 read
  rfl

/-- Behind the scheme of files, the scheme stays. -/
theorem scheme_of_readFile {scheme text : List Char} {url : Url}
    (read : readFile scheme text = .ok url) : url.scheme = scheme := by
  have host {rest : List Char} (read : readFileHost scheme rest = .ok url) :
      url.scheme = scheme := by
    simp only [readFileHost] at read
    split at read
    · cases read
      rfl
    · -- The host may be left out, but what follows it is the same.
      split at read
      all_goals
        obtain ⟨host, _, read⟩ := Outcome.bind_eq_ok_iff.1 read
        split at read <;> cases read
        · rfl
        · split <;> rfl
  -- Without a second slash there is no host.
  unfold readFile at read
  split at read
  · split at read
    · exact host read
    · cases read
      rfl
  · cases read
    rfl

/-- A URL has the scheme that its text starts with. -/
theorem exists_of_read {text : String} {url : Url} (read : Url.read text = .ok url)
    (web : url.isWeb = true) : ∃ rest,
      readScheme? (significant text.toList) = some (url.scheme, rest) ∧
      readHierarchy url.scheme (rest.dropWhile fun c => c == '/' || c == '\\') = .ok url := by
  obtain ⟨special, remote, _⟩ := isWeb_scheme web
  unfold Url.read at read
  split at read
  · cases read
  · rename_i scheme rest found
    -- A file has a host of its own kind, and it is not on the web.
    split at read
    · rename_i file
      rw [scheme_of_readFile read, file] at remote
      cases remote
    · split at read
      · obtain rfl := scheme_of_readHierarchy read
        exact ⟨rest, found, read⟩
      · rename_i plain
        -- A scheme of the web is special, so that none of the further forms remains.
        have scheme_eq : url.scheme = scheme := by
          split at read
          · exact scheme_of_readHierarchy read
          · cases read
            rfl
          · cases read
            rfl
        exact absurd (scheme_eq ▸ special) plain

/-- A URL without a query and a fragment has a path that does not end before its text does. -/
theorem dropWhile_endsPath_of_ofParts {scheme text : List Char} {authority : Option Authority}
    {path : List Char → UrlPath} (query : (ofParts scheme authority path text).query = none)
    (fragment : (ofParts scheme authority path text).fragment = none) :
    text.dropWhile (fun c => !endsPath c) = [] := by
  -- What ends a path begins a query or a fragment, and there is neither.
  cases found : text.dropWhile fun c => !endsPath c with
  | nil => rfl
  | cons c rest =>
    have ends := eq_false_of_dropWhile found
    simp only [ofParts, found] at query fragment
    rcases (by simpa [endsPath, or_iff_not_imp_left] using ends : c = '?' ∨ c = '#') with rfl | rfl
    · exact nomatch query
    · exact nomatch fragment

/-- The authority of a special URL is a piece. The path follows it, where there is one. -/
theorem exists_of_readHierarchy {scheme text : List Char} {url : Url}
    (special : isSpecialScheme scheme = true) (read : readHierarchy scheme text = .ok url)
    (query : url.query = none) (fragment : url.fragment = none) :
    (∃ authority, url.authority = some authority ∧ IsPiece (writeAuthority authority)) ∧
    ∃ path, path = text.dropWhile (fun c => !endsAuthority true c) ∧
      (∀ c ∈ path, endsPath c = false) ∧
      url.path = .segments
        (if path = [] then [[]] else readSegments scheme (dropSlash true path)) := by
  obtain ⟨⟨authority, left⟩, authority_read, ⟨⟩⟩ := Outcome.bind_eq_ok_iff.1 read
  rw [special] at authority_read
  -- The authority ends at a backslash, so that it has none.
  have straight : '\\' ∉ text.takeWhile fun c => !endsAuthority true c := by
    intro listed
    exact absurd (List.mem_takeWhile_imp listed) (by decide)
  obtain ⟨piece, rfl⟩ := readAuthority_special special straight authority_read
  have whole := dropWhile_endsPath_of_ofParts query fragment
  rw [special, List.nil_append] at whole
  refine ⟨⟨authority, rfl, piece⟩, _, rfl, ?_, ?_⟩
  · simpa using List.dropWhile_eq_nil_iff.1 whole
  · -- Without query and fragment the path is all that is left of the text.
    have path_eq := List.takeWhile_append_dropWhile (p := fun c => !endsPath c)
      (l := text.dropWhile fun c => !endsAuthority true c)
    rw [whole, List.append_nil] at path_eq
    simp only [ofParts, special, List.nil_append, path_eq, if_true]
    split <;> rfl

/-- A segment that is no point is appended to a path, unless it is a drive in front of a file. -/
theorem appendSegment_of_plain {scheme segment : List Char} {segments : List (List Char)}
    {isLast : Bool} (remote : isFileScheme scheme = false) (single : isDot segment = false)
    (double : isDoubleDot segment = false) :
    appendSegment scheme segments segment isLast = segments ++ [segment] := by
  simp [appendSegment, remote, single, double]

/-- A path ends in its last segment, unless this is a point. -/
theorem exists_resolveSegments_concat {scheme segment : List Char}
    (remote : isFileScheme scheme = false) (single : isDot segment = false)
    (double : isDoubleDot segment = false) (segments further : List (List Char)) :
    ∃ front, resolveSegments scheme segments (further ++ [segment]) = front ++ [segment] := by
  -- The last segment is resolved last, whatever the ones in front have left.
  induction further generalizing segments with
  | nil => exact ⟨segments, appendSegment_of_plain remote single double⟩
  | cons first further ih =>
    rw [List.cons_append, resolveSegments]
    · exact ih _
    · simp

/-- The last segment of the root of an interface. -/
def rootSegment : List Char := ['a', 'p', 'i']

/-- A path with the end of a root leads to its last segment. -/
theorem exists_readSegments {scheme path : List Char} {c : Char}
    (special : isSpecialScheme scheme = true) (remote : isFileScheme scheme = false)
    (slash : isSlash true c = true) (ends : Settings.rootEnd <:+ c :: path) :
    ∃ front, readSegments scheme (dropSlash true (c :: path)) = front ++ [rootSegment] := by
  have last : rootSegment.splitOnP (isSlash true) = [rootSegment] := by decide
  -- The slash of the end is the first one of the path, or one behind it.
  obtain ⟨front, parts⟩ : ∃ front, path.splitOnP (isSlash true) = front ++ [rootSegment] := by
    obtain ⟨front, path_eq⟩ := ends
    cases front with
    | nil =>
      obtain ⟨_, rfl⟩ := List.cons_eq_cons.1 path_eq
      exact ⟨[], last⟩
    | cons d front =>
      obtain ⟨_, rfl⟩ := List.cons_eq_cons.1 path_eq
      refine ⟨front.splitOnP (isSlash true), ?_⟩
      have slash : isSlash true '/' = true := by decide
      have parts := List.splitOnP_append_cons front rootSegment slash
      rwa [last] at parts
  -- The end is written as it is, and nothing in it is a point.
  have encoded : Percent.encode Percent.keepsPath rootSegment = rootSegment := by decide
  rw [dropSlash, if_pos slash, readSegments, special, parts, List.map_append,
    withoutLeading_of_remote remote, List.map_singleton, encoded]
  exact exists_resolveSegments_concat remote (by decide) (by decide) _ _

/-- A URL of the web without a fragment, in which nothing ends a part but the own delimiters. -/
structure IsPlain (url : Url) (authority : Authority) (segments : List (List Char)) : Prop where
  web : url.isWeb = true
  authority_eq : url.authority = some authority
  authority_is : IsPiece (writeAuthority authority)
  path_eq : url.path = .segments segments
  segments_are : ∀ piece ∈ segments, IsPiece piece
  fragment_eq : url.fragment = none

/-- The root of an interface. Its path ends in the same segment for all roots, unless it is a slash
alone. -/
structure IsRoot (url : Url) (authority : Authority) (segments : List (List Char)) : Prop
    extends url.IsPlain authority segments where
  query_eq : url.query = none
  ends : segments = [[]] ∨ ∃ front, segments = front ++ [rootSegment]

/-- The end of a root is significant. -/
theorem suffix_significant {text : List Char} (ends : Settings.rootEnd <:+ text) :
    Settings.rootEnd <:+ significant text := by
  -- The end is neither preceded nor followed by what is dropped around a text.
  obtain ⟨front, text_eq⟩ : Settings.rootEnd <:+ text.dropWhile isOuter :=
    suffix_dropWhile (by decide) ends
  have kept : (front ++ Settings.rootEnd).reverse.dropWhile isOuter =
      (front ++ Settings.rootEnd).reverse := by
    simp [Settings.rootEnd, show isOuter 'i' = false by decide]
  rw [significant, ← text_eq, kept, List.reverse_reverse, List.filter_append]
  exact List.suffix_append _ _

/-- The end of a root stands behind the scheme. -/
theorem suffix_of_readScheme? {text scheme rest : List Char} (ends : Settings.rootEnd <:+ text)
    (read : readScheme? text = some (scheme, rest)) : Settings.rootEnd <:+ rest := by
  -- No character of the scheme is a slash, so that the end stands behind it.
  have ends' := suffix_dropWhile (by decide : isSchemeChar '/' = false) ends
  simp only [readScheme?] at read
  split at read
  · rename_i behind
    obtain ⟨_, ⟨⟩⟩ := Option.ite_none_right_eq_some.1 read
    rw [behind] at ends'
    rcases List.suffix_cons_iff.1 ends' with same | suffix
    · cases same
    · exact suffix
  · cases read

/-- The address of an interface is read as a root. -/
theorem exists_isRoot {text : String} {url : Url} (ends : Settings.rootEnd <:+ text.toList)
    (read : Url.read text = .ok url) (web : url.isWeb = true) (query_eq : url.query = none)
    (fragment_eq : url.fragment = none) : ∃ authority segments, url.IsRoot authority segments := by
  obtain ⟨special, remote, _⟩ := isWeb_scheme web
  obtain ⟨rest, scheme_read, read⟩ := exists_of_read read web
  obtain ⟨⟨authority, authority_eq, authority_is⟩, path, path_def, bounded, path_eq⟩ :=
    exists_of_readHierarchy special read query_eq fragment_eq
  refine ⟨authority, _, ⟨web, authority_eq, authority_is, path_eq, ?_, fragment_eq⟩, query_eq, ?_⟩
  · split
    · simp [IsPiece.nil]
    · exact isPiece_of_mem_readSegments remote _
  · have suffix := suffix_of_readScheme? (suffix_significant ends) scheme_read
    have suffix' := List.dropWhile_suffix (l := rest) fun c => c == '/' || c == '\\'
    generalize rest.dropWhile (fun c => c == '/' || c == '\\') = behind at path_def suffix'
    -- The end of the root lies behind the slashes of the authority, or it gives up the own slash.
    have either : Settings.rootEnd <:+ behind ∨ behind <:+ rootSegment := by
      rcases List.suffix_or_suffix_of_suffix suffix suffix' with whole | part
      · exact .inl whole
      · rcases List.suffix_cons_iff.1 part with rfl | part
        · exact .inl List.suffix_rfl
        · exact .inr part
    -- The end is split off as the last segment of the path, or there is no path at all.
    rcases either with whole | part
    · have ends' : Settings.rootEnd <:+ path :=
        path_def ▸ suffix_dropWhile (by decide : (!endsAuthority true '/') = false) whole
      cases path with
      | nil => simp [Settings.rootEnd] at ends'
      | cons c path =>
        have slash : isSlash true c = true := by
          have ends := eq_false_of_dropWhile path_def.symm
          simpa [endsAuthority, bounded c List.mem_cons_self] using ends
        exact .inr (exists_readSegments special remote slash ends')
    · have none : path = [] := by
        rw [path_def, List.dropWhile_eq_nil_iff]
        intro c listed
        have plain : rootSegment.all (fun c => !endsAuthority true c) = true := by decide
        exact List.all_eq_true.1 plain c (part.subset listed)
      exact .inl (if_pos none)

end Url
end FlightQuery
