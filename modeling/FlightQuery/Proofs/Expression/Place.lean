import FlightQuery.Expression.Pieces
import FlightQuery.Proofs.Text.Blank

/-! The places of operators in a text: all are found, and from right to left. -/

namespace FlightQuery

namespace OperatorFamily

/-- No operator starts with a blank. -/
theorem operators_visible (family : OperatorFamily) :
    ∀ operator ∈ family.operators, operator.toList ≠ [] ∧
      Text.startsBlank operator.toList = false := by
  cases family <;> decide

/-- Where an operator starts with another one of its family, no blank follows that one. -/
theorem operators_extension (family : OperatorFamily) :
    ∀ operator ∈ family.operators, ∀ longer ∈ family.operators,
      operator.toList.isPrefixOf longer.toList →
        Text.startsBlank (longer.toList.drop operator.toList.length) = false := by
  cases family <;> decide

/-- What is left of a longer operator behind a shorter one does not start with a blank. -/
theorem operators_rest {family : OperatorFamily} {operator longer : String} {rest : List Char}
    (listed : operator ∈ family.operators) (listed' : longer ∈ family.operators)
    (longer_eq : longer.toList = operator.toList ++ rest) : Text.startsBlank rest = false := by
  -- The table of operators answers for the pair, once the shorter one is a prefix.
  have within : operator.toList.isPrefixOf longer.toList := by
    rw [longer_eq, List.isPrefixOf_iff_prefix]
    exact List.prefix_append _ _
  have visible := operators_extension family operator listed longer listed' within
  rwa [longer_eq, List.drop_left] at visible

/-- A text starts with at most one operator of a family that a blank follows. -/
theorem operators_exclusive {family : OperatorFamily} {operator operator' : String}
    {after after' : List Char} (listed : operator ∈ family.operators)
    (listed' : operator' ∈ family.operators) (blank : Text.startsBlank after = true)
    (blank' : Text.startsBlank after' = true)
    (same : operator.toList ++ after = operator'.toList ++ after') :
    operator = operator' ∧ after = after' := by
  -- One of the two is the start of the other, and what follows is blank only if they are equal.
  rcases List.append_eq_append_iff.mp same with ⟨rest, longer, behind⟩ | ⟨rest, longer, behind⟩
  · have visible := operators_rest listed listed' longer
    cases rest with
    | nil => exact ⟨String.toList_inj.mp (by simpa using longer.symm), by simpa using behind⟩
    | cons c tail => simp_all
  · have visible := operators_rest listed' listed longer
    cases rest with
    | nil => exact ⟨String.toList_inj.mp (by simpa using longer), by simpa using behind.symm⟩
    | cons c tail => simp_all

end OperatorFamily

namespace Pieces

/-- An operator of a family stands at a place of a text, with a blank on either side of it. -/
structure Place.StandsIn (family : OperatorFamily) (text : List Char) (place : Place) : Prop where
  text_eq : text = place.before ++ (place.operator.toList ++ place.after)
  listed : place.operator ∈ family.operators
  blankBefore : Text.endsBlank place.before = true
  blankAfter : Text.startsBlank place.after = true

/-- At most one operator of a family stands at each position of a text. -/
theorem Place.StandsIn.unique {family : OperatorFamily} {text : List Char} {place other : Place}
    (stands : place.StandsIn family text) (stands' : other.StandsIn family text)
    (position : place.before.length = other.before.length) : place = other := by
  -- Equally long parts in front are equal, and then so are the operators that follow them.
  have same := stands.text_eq.symm.trans stands'.text_eq
  obtain ⟨before, rest⟩ := List.append_inj same position
  obtain ⟨operator, after⟩ := OperatorFamily.operators_exclusive stands.listed stands'.listed
    stands.blankAfter stands'.blankAfter rest
  cases place
  cases other
  simp_all

/-- An operator is found at the front of a text exactly when it stands there before a blank. -/
theorem operatorAt?_eq_some_iff {family : OperatorFamily} {text after : List Char}
    {operator : String} :
    operatorAt? family text = some (operator, after) ↔
      operator ∈ family.operators ∧ text = operator.toList ++ after ∧
        Text.startsBlank after = true := by
  have sound : ∀ {operator' : String} {after' : List Char},
      operatorAt? family text = some (operator', after') →
        operator' ∈ family.operators ∧ text = operator'.toList ++ after' ∧
          Text.startsBlank after' = true := by
    intro operator' after' found
    -- What the search returns passed the two tests of the operator.
    obtain ⟨listed, member, taken⟩ := List.exists_of_findSome?_eq_some found
    simp only [Option.ite_none_right_eq_some, Bool.and_eq_true, Option.some.injEq,
      Prod.mk.injEq] at taken
    obtain ⟨⟨within, blank⟩, rfl, rfl⟩ := taken
    have whole := List.prefix_iff_eq_append.mp (List.isPrefixOf_iff_prefix.mp within)
    rw [String.length_toList] at whole
    exact ⟨member, whole.symm, blank⟩
  refine ⟨sound, ?_⟩
  rintro ⟨listed, text_eq, blank⟩
  cases found : operatorAt? family text with
  | none =>
    -- The search would have stopped at the operator.
    have missed := List.findSome?_eq_none_iff.mp found operator listed
    have within : operator.toList <+: text := text_eq ▸ List.prefix_append _ _
    have dropped : text.drop operator.length = after := by
      rw [text_eq, ← String.length_toList, List.drop_left]
    simp [within, dropped, blank] at missed
  | some taken =>
    -- The operator that is found stands there too, and only one of them can.
    obtain ⟨operator', after'⟩ := taken
    obtain ⟨listed', text_eq', blank'⟩ := sound found
    obtain ⟨rfl, rfl⟩ := OperatorFamily.operators_exclusive listed listed' blank blank'
      (text_eq.symm.trans text_eq')
    rfl

/-- The place found at the front of a text is the one that stands right behind what was passed. -/
theorem placeAt?_eq_some_iff {family : OperatorFamily} {passed text : List Char} {place : Place} :
    placeAt? family passed text = some place ↔
      place.StandsIn family (passed.reverse ++ text) ∧ place.before.length = passed.length := by
  unfold placeAt?
  constructor
  · intro found
    simp only [Option.ite_none_right_eq_some, Option.map_eq_some_iff, Prod.exists] at found
    -- The passed characters are kept with the last one first.
    obtain ⟨blank, operator, after, found, rfl⟩ := found
    obtain ⟨listed, text_eq, blank'⟩ := operatorAt?_eq_some_iff.mp found
    refine ⟨⟨by rw [text_eq], listed, ?_, blank'⟩, by simp⟩
    simpa [Text.endsBlank] using blank
  · rintro ⟨stands, position⟩
    -- A place of that position has exactly the passed characters in front of it.
    obtain ⟨before, rest⟩ := List.append_inj stands.text_eq (by simpa using position.symm)
    have blank : Text.startsBlank passed = true := by
      have ends := stands.blankBefore
      rwa [← before, Text.endsBlank, List.reverse_reverse] at ends
    have found := operatorAt?_eq_some_iff.mpr ⟨stands.listed, rest, stands.blankAfter⟩
    rw [if_pos blank, found, Option.map_some, before]

/-- The places found behind some passed characters are those that stand there. -/
theorem mem_placesAfter_iff {family : OperatorFamily} {passed text : List Char} {place : Place} :
    place ∈ placesAfter family passed text ↔
      place.StandsIn family (passed.reverse ++ text) ∧ passed.length ≤ place.before.length := by
  -- Each step passes one character and adds the place in front of it.
  induction text generalizing passed with
  | nil =>
    refine ⟨fun member => absurd member (by simp [placesAfter]), ?_⟩
    rintro ⟨stands, position⟩
    -- An operator is not empty, so that none stands behind the last character.
    have visible := (OperatorFamily.operators_visible family _ stands.listed).1
    have lengths := congrArg List.length stands.text_eq
    have positive := List.length_pos_iff.mpr visible
    simp only [List.append_nil, List.length_reverse, List.length_append] at lengths
    omega
  | cons c rest ih =>
    rw [placesAfter, List.mem_append, ih, Option.mem_toList, placeAt?_eq_some_iff]
    simp only [List.reverse_cons, List.append_assoc, List.singleton_append, List.length_cons]
    constructor
    · rintro (⟨stands, position⟩ | ⟨stands, position⟩)
      · exact ⟨stands, by omega⟩
      · exact ⟨stands, by omega⟩
    · rintro ⟨stands, position⟩
      -- A place not further left is the one found here or one that is found later.
      rcases Nat.eq_or_lt_of_le position with here | later
      · exact .inr ⟨stands, here.symm⟩
      · exact .inl ⟨stands, later⟩

/-- The places of a text are exactly those where an operator stands in it. -/
theorem mem_places_iff {family : OperatorFamily} {text : List Char} {place : Place} :
    place ∈ places family text ↔ place.StandsIn family text := by
  simp [places, mem_placesAfter_iff]

/-- Places further right come first. -/
theorem placesAfter_pairwise (family : OperatorFamily) (passed text : List Char) :
    (placesAfter family passed text).Pairwise
      fun place other => other.before.length < place.before.length := by
  -- Each step appends its own place behind those further right.
  induction text generalizing passed with
  | nil => exact .nil
  | cons c rest ih =>
    rw [placesAfter]
    refine List.pairwise_append.mpr ⟨ih (c :: passed), ?_, ?_⟩
    · cases placeAt? family passed (c :: rest) <;> simp
    · intro place later other here
      have position := (mem_placesAfter_iff.mp later).2
      have position' := (placeAt?_eq_some_iff.mp (Option.mem_toList.mp here)).2
      simp only [List.length_cons] at position
      omega

/-- A search through the places succeeds with the rightmost place at which it can. -/
theorem findSome?_places_eq_some_iff {α : Type} {family : OperatorFamily} {text : List Char}
    {search : Place → Option α} {found : α} :
    (places family text).findSome? search = some found ↔
      ∃ place : Place, place.StandsIn family text ∧ search place = some found ∧
        ∀ other : Place, other.StandsIn family text →
          place.before.length < other.before.length → search other = none := by
  have sound : ∀ {found' : α}, (places family text).findSome? search = some found' →
      ∃ place : Place, place.StandsIn family text ∧ search place = some found' ∧
        ∀ other : Place, other.StandsIn family text →
          place.before.length < other.before.length → search other = none := by
    intro found' taken
    -- The search missed all places in front of the one that answers, which are those further right.
    obtain ⟨right, place, left, split, here, missed⟩ := List.findSome?_eq_some_iff.mp taken
    have sorted : (places family text).Pairwise _ := placesAfter_pairwise family [] text
    rw [split, List.pairwise_append, List.pairwise_cons] at sorted
    refine ⟨place, mem_places_iff.mp (by simp [split]), here, fun other stands position => ?_⟩
    have member := mem_places_iff.mpr stands
    rw [split, List.mem_append, List.mem_cons] at member
    rcases member with member | rfl | member
    · exact missed other member
    · exact absurd position (Nat.lt_irrefl _)
    · have behind := sorted.2.1.1 other member
      omega
  -- Conversely, whatever the search takes has the same property, and two such places are the same.
  refine ⟨sound, ?_⟩
  rintro ⟨place, stands, here, rightmost⟩
  cases taken : (places family text).findSome? search with
  | none =>
    have missed := List.findSome?_eq_none_iff.mp taken place (mem_places_iff.mpr stands)
    rw [here] at missed
    exact absurd missed (by simp)
  | some found' =>
    obtain ⟨place', stands', here', rightmost'⟩ := sound taken
    -- Neither of the two places is further right than the other one.
    rcases Nat.lt_trichotomy place.before.length place'.before.length with less | same | greater
    · simp [rightmost place' stands' less] at here'
    · have equal := stands.unique stands' same
      rw [← equal, here] at here'
      exact here'.symm
    · simp [rightmost' place stands greater] at here

/-- A search through the places fails exactly when it fails at each of them. -/
theorem findSome?_places_eq_none_iff {α : Type} {family : OperatorFamily} {text : List Char}
    {search : Place → Option α} :
    (places family text).findSome? search = none ↔
      ∀ place : Place, place.StandsIn family text → search place = none := by
  simp only [List.findSome?_eq_none_iff, mem_places_iff]

end Pieces
end FlightQuery
