import FlightQuery.Proofs.Text.Blank
import FlightQuery.Settings

/-! The root of an interface: how it ends, and when slashes behind an address matter to it. -/

namespace FlightQuery.Settings

open Text

/-- An address that ends as a root does is a root. -/
theorem rootOfUrl_eq_self {url : String} (ends : rootEnd <:+ url.toList) : rootOfUrl url = url := by
  -- The end is looked for before any slash is dropped.
  rw [rootOfUrl, if_pos (List.isSuffixOf_iff_suffix.2 ends), String.ofList_toList]

/-- Any other address is completed, and its slashes are dropped before. -/
theorem rootOfUrl_of_open {url : String} (unfinished : ¬ rootEnd <:+ url.toList) :
    rootOfUrl url = String.ofList (dropEndWhile (· == '/') url.toList ++ rootEnd) :=
  if_neg fun ends => unfinished (List.isSuffixOf_iff_suffix.1 ends)

/-- All addresses lead to roots that end alike. -/
theorem suffix_rootOfUrl (url : String) : rootEnd <:+ (rootOfUrl url).toList := by
  -- The end is there already, or it is appended.
  by_cases ends : rootEnd <:+ url.toList
  · rwa [rootOfUrl_eq_self ends]
  · rw [rootOfUrl_of_open ends, String.toList_ofList]
    exact List.suffix_append ..

/-- All roots end alike. -/
theorem suffix_root {settings : Settings} {root : String}
    (rooted : settings.root = .ok root) : rootEnd <:+ root.toList := by
  unfold Settings.root at rooted
  -- An explicit address ends so because it is made to, a known server by evaluation.
  cases given : settings.serverUrl with
  | some url =>
    simp only [given, Except.ok.injEq] at rooted
    subst rooted
    exact suffix_rootOfUrl url
  | none =>
    simp only [given] at rooted
    cases found : servers.lookup (settings.server.getD "prod") with
    | none => simp [found] at rooted
    | some url =>
      simp only [found, Except.ok.injEq] at rooted
      subst rooted
      -- The addresses of the known servers are roots.
      have all : ∀ server ∈ servers, rootEnd.isSuffixOf server.2.toList = true := by decide
      obtain ⟨front, back, servers_eq, _⟩ := List.lookup_eq_some_iff.1 found
      have listed : (settings.server.getD "prod", url) ∈ servers := by simp [servers_eq]
      exact List.isSuffixOf_iff_suffix.1 (all _ listed)

/-- An address that ends in a slash does not end as a root does. -/
theorem not_suffix_append_slashes (url : String) {count : Nat} (positive : 0 < count) :
    ¬ rootEnd <:+ (url ++ slashes count).toList := by
  intro ends
  -- The last characters of the two differ.
  obtain ⟨fewer, rfl⟩ := Nat.exists_eq_succ_of_ne_zero (Nat.ne_of_gt positive)
  rw [toList_append_slashes, List.replicate_succ', ← List.append_assoc] at ends
  have last := List.IsSuffix.getLast ends (by decide)
  simp [rootEnd] at last

/-- The end of a root has no slash at its own end. -/
theorem dropEndWhile_of_suffix {text : List Char} (ends : rootEnd <:+ text) :
    dropEndWhile (· == '/') text = text := by
  -- The last character is a letter, so that nothing is dropped.
  obtain ⟨front, rfl⟩ := ends
  exact List.rdropWhile_eq_self_iff.2 fun _ => by simp [rootEnd]

/-- Slashes behind an address are dropped. Only behind a root they lead to another root, which has
the end twice. -/
theorem rootOfUrl_append_slashes (url : String) (count : Nat) :
    rootOfUrl (url ++ slashes count) =
      if 0 < count ∧ rootEnd <:+ url.toList then url ++ "/api" else rootOfUrl url := by
  rcases Nat.eq_zero_or_pos count with rfl | positive
  · rw [if_neg fun both => absurd both.1 (Nat.lt_irrefl 0)]
    refine congrArg rootOfUrl (String.toList_inj.1 ?_)
    rw [toList_append_slashes, List.replicate_zero, List.append_nil]
  -- Behind slashes the end is not found, so that they are dropped and the end is appended.
  rw [rootOfUrl_of_open (not_suffix_append_slashes url positive), toList_append_slashes,
    dropEndWhile_append_slashes]
  by_cases ends : rootEnd <:+ url.toList
  · rw [if_pos ⟨positive, ends⟩, dropEndWhile_of_suffix ends, String.ofList_append,
      String.ofList_toList]
    rfl
  · rw [if_neg fun both => ends both.2, rootOfUrl_of_open ends]

/--
The root that an address leads to does not depend on slashes at its end, unless it is a root itself.

All roots end alike and lead to themselves.
Slashes behind an address that is a root already hide its end, so that this is appended once more.
-/
theorem root_append_slashes (settings : Settings) (url : String) :
    let rootOf (url : String) := { settings with serverUrl := some url }.root
    ∃ root, rootOf url = .ok root ∧ rootEnd <:+ root.toList ∧ rootOf root = .ok root ∧
      ∀ count, rootOf (url ++ slashes count) =
          .ok (if 0 < count ∧ rootEnd <:+ url.toList then url ++ "/api" else root) ∧
        (rootOf (url ++ slashes count) = .ok root ↔ count = 0 ∨ ¬ rootEnd <:+ url.toList) := by
  -- The root that comes out is its own root, for it has the end already.
  have ends := suffix_rootOfUrl url
  refine ⟨rootOfUrl url, rfl, ends, congrArg Except.ok (rootOfUrl_eq_self ends), fun count => ?_⟩
  have root_eq : rootOfUrl (url ++ slashes count) = _ := rootOfUrl_append_slashes url count
  refine ⟨congrArg Except.ok root_eq, ?_⟩
  simp only [Settings.root, root_eq, Except.ok.injEq]
  by_cases doubled : 0 < count ∧ rootEnd <:+ url.toList
  · -- The address is its own root, to which the end is appended.
    have longer : url ++ "/api" ≠ url := by
      intro same
      have lengths := congrArg String.length same
      simp at lengths
    rw [if_pos doubled, rootOfUrl_eq_self doubled.2]
    exact iff_of_false longer (not_or.2 ⟨Nat.ne_of_gt doubled.1, not_not.2 doubled.2⟩)
  · -- The slashes are trimmed in front of the end, so that the same root comes out.
    rw [if_neg doubled]
    exact iff_of_true rfl ((not_and_or.1 doubled).imp_left Nat.eq_zero_of_not_pos)

/-- A slash behind a root leads to another root. -/
theorem root_append_slash_ne :
    let rootOf (url : String) := { ({} : Settings) with serverUrl := some url }.root
    rootOf "https://ems.example.com/api" = .ok "https://ems.example.com/api" ∧
      rootOf ("https://ems.example.com/api" ++ slashes 1) ≠
        rootOf "https://ems.example.com/api" := by
  decide +kernel

end FlightQuery.Settings
