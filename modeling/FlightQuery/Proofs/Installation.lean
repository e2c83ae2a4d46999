import FlightQuery.Installation
import FlightQuery.Proofs.Text.LowerCase

/-! The installation that a keyword denotes: its name starts with the keyword, and of several such
installations it is the one that bears the keyword as its name. -/

namespace FlightQuery.Installation

/-- Whether an installation bears a keyword as its name, the case of letters aside. -/
def bears (keyword : String) (installation : Installation) : Bool :=
  Text.lower installation.name.toList == Text.lower (Text.trim keyword.toList)

/-- What has the name up to the case of ASCII letters has it up to the case of letters. -/
theorem bears_of_isNamed {keyword : String} {installation : Installation}
    (named : isNamed keyword installation = true) : bears keyword installation = true := by
  -- Names are compared after folding their ASCII letters, and lowering folds these as well.
  have folded : foldAscii installation.name.toList = foldAscii (Text.trim keyword.toList) :=
    beq_iff_eq.1 named
  have lowered : Text.lower installation.name.toList = Text.lower (Text.trim keyword.toList) := by
    rw [← Text.lower_map_toLower installation.name.toList,
      ← Text.lower_map_toLower (Text.trim keyword.toList)]
    exact congrArg Text.lower folded
  exact beq_iff_eq.2 lowered

/-- A name starts with itself. -/
theorem startsWith_of_bears {keyword : String} {installation : Installation}
    (borne : bears keyword installation = true) : startsWith keyword installation = true := by
  exact List.isPrefixOf_iff_prefix.2 (beq_iff_eq.1 borne ▸ List.prefix_refl _)

/-- What is chosen is one of the candidates. -/
theorem mem_candidates_of_choose {installations : List Installation} {keyword : Option String}
    {id : UInt32} (chosen : choose installations keyword = .ok id) :
    ∃ installation ∈ candidates installations keyword, installation.id = id := by
  -- Either the only candidate is chosen or the one that is named.
  unfold choose at chosen
  split at chosen
  · cases chosen
  · rename_i installation sole
    cases chosen
    exact ⟨installation, sole ▸ List.mem_singleton_self installation, rfl⟩
  · split at chosen
    · rename_i installation found
      cases chosen
      obtain ⟨_, _, found⟩ := Option.bind_eq_some_iff.1 found
      exact ⟨installation, List.mem_of_find?_eq_some found, rfl⟩
    · cases chosen

/-- Without a keyword nothing is chosen among several installations. -/
theorem choose_none_eq_ok_iff {installations : List Installation} {id : UInt32} :
    choose installations none = .ok id ↔
      ∃ installation, installations = [installation] ∧ installation.id = id := by
  rw [choose, candidates]
  rcases installations with _ | ⟨first, _ | ⟨second, rest⟩⟩ <;> simp

/-- The only installation that bears a keyword is chosen if it is the only candidate, or if its name
is the keyword up to the case of ASCII letters. -/
theorem choose_of_bears {installations : List Installation} {keyword : String}
    {installation : Installation}
    (sole : installations.filter (bears keyword) = [installation]) :
    choose installations (some keyword) =
      if candidates installations (some keyword) = [installation] ∨
          isNamed keyword installation = true then .ok installation.id
      else .error (.parameter (.severalInstallations
        ((candidates installations (some keyword)).map Installation.name))) := by
  obtain ⟨listed, borne⟩ := List.mem_filter.1 (sole ▸ List.mem_singleton_self installation)
  -- Bearing the keyword is more than starting with it, so that the installation is a candidate.
  have candidate : installation ∈ candidates installations (some keyword) :=
    List.mem_filter.2 ⟨listed, startsWith_of_bears borne⟩
  -- A candidate that is named by the keyword bears it, and so it is the only one that does.
  have named_iff (other : Installation) (among : other ∈ candidates installations (some keyword)) :
      isNamed keyword other = true → other = installation := by
    intro named
    have bearer : other ∈ installations.filter (bears keyword) :=
      List.mem_filter.2 ⟨(List.mem_filter.1 among).1, bears_of_isNamed named⟩
    rw [sole] at bearer
    exact List.mem_singleton.1 bearer
  unfold choose
  generalize candidates installations (some keyword) = several at candidate named_iff
  rcases several with _ | ⟨first, _ | ⟨second, rest⟩⟩
  · -- There is a candidate, so that the list is not empty.
    cases candidate
  · rw [List.mem_singleton.1 candidate]
    simp
  · -- Of several candidates the one that is named is searched for.
    simp only [Option.bind_some, List.cons.injEq, reduceCtorEq, and_false, false_or]
    split
    · rename_i found found_eq
      have named := List.find?_some found_eq
      obtain rfl := named_iff found (List.mem_of_find?_eq_some found_eq) named
      rw [if_pos named]
    · rename_i missed
      rw [List.find?_eq_none] at missed
      rw [if_neg (missed installation candidate)]

/--
A keyword denotes the installation that bears it, as far as the two differ in ASCII letters only.

The only installation that bears a keyword is chosen if it is the only candidate, or if its name is
the keyword up to the case of ASCII letters. Otherwise all candidates are told.
The name of whatever is chosen starts with the keyword.
Without a keyword the only installation is chosen.
-/
theorem choose_by_name (installations : List Installation) :
    (∀ keyword installation, installations.filter (bears keyword) = [installation] →
      choose installations (some keyword) =
        if candidates installations (some keyword) = [installation] ∨
            isNamed keyword installation = true then .ok installation.id
        else .error (.parameter (.severalInstallations
          ((candidates installations (some keyword)).map Installation.name)))) ∧
    (∀ keyword id, choose installations (some keyword) = .ok id →
      ∃ installation ∈ installations, installation.id = id ∧
        Text.lower (Text.trim keyword.toList) <+: Text.lower installation.name.toList) ∧
    ∀ id, choose installations none = .ok id ↔
      ∃ installation, installations = [installation] ∧ installation.id = id := by
  refine ⟨fun keyword installation sole => choose_of_bears sole, fun keyword id chosen => ?_,
    fun id => choose_none_eq_ok_iff⟩
  -- What is chosen is a candidate, and the candidates start with the keyword.
  obtain ⟨installation, candidate, id_eq⟩ := mem_candidates_of_choose chosen
  obtain ⟨listed, starts⟩ := List.mem_filter.1 candidate
  exact ⟨installation, listed, id_eq, List.isPrefixOf_iff_prefix.1 starts⟩

/-- A name in other ASCII letters is preferred to a longer name that starts with it. -/
theorem choose_by_name_longer :
    let acme : Installation := { id := 1, name := "ACME" }
    let installations := [{ id := 2, name := "ACME-TEST" }, acme, { id := 5, name := "Contoso" }]
    installations.filter (bears " acme") = [acme] ∧
      candidates installations (some " acme") ≠ [acme] ∧
      choose installations (some " acme") = .ok 1 := by
  intro acme installations
  -- Two candidates start with the keyword, so that the name decides.
  have sole : installations.filter (bears " acme") = [acme] := by decide +kernel
  refine ⟨sole, by decide +kernel, ?_⟩
  rw [(choose_by_name installations).1 " acme" acme sole, if_pos (.inr (by decide +kernel))]

/-- A name in other letters that are not ASCII letters is not preferred to a longer name. -/
theorem choose_accented_ne :
    let bearer : Installation := { id := 1, name := "ÄCME" }
    let installations := [bearer, { id := 2, name := "ÄCME-TEST" }]
    installations.filter (bears "äcme") = [bearer] ∧
      choose installations (some "äcme") ≠ .ok bearer.id := by
  intro bearer installations
  -- The prefix is found without regard to case, but the name is compared by its ASCII letters.
  have sole : installations.filter (bears "äcme") = [bearer] := by decide +kernel
  refine ⟨sole, ?_⟩
  rw [choose_of_bears sole, if_neg (by decide +kernel)]
  exact nofun

end FlightQuery.Installation
