import FlightQuery.Database
import FlightQuery.Proofs.FieldTree.Lookup

/-! The shortest match is the first of those that match with the least name. -/

namespace FlightQuery

variable {α : Type}

/-- An item is the first of the least ones: those in front of it are greater, and those behind it
are not less. -/
def IsFirstLeast (size : α → Nat) (items : List α) (found : α) : Prop :=
  ∃ front back, items = front ++ found :: back ∧ (∀ item ∈ front, size found < size item) ∧
    ∀ item ∈ back, size found ≤ size item

/-- The smallest of some items is the first of the least ones. -/
theorem smallest?_isFirstLeast {size : α → Nat} {items : List α} {found : α}
    (smallest : smallest? size items = some found) : IsFirstLeast size items found := by
  -- The first item is compared with the smallest one of the others.
  induction items generalizing found with
  | nil => cases smallest
  | cons item items ih =>
    unfold smallest? at smallest
    split at smallest
    · -- Nothing is smallest among the others only if there are none.
      rename_i none
      cases smallest
      have empty : items = [] := List.eq_nil_iff_forall_not_mem.2 fun other listed => by
        obtain ⟨_, some, _⟩ := exists_smallest? listed
        exact nomatch none.symm.trans some
      exact ⟨[], [], by rw [empty]; rfl, by simp, by simp⟩
    · rename_i other later
      obtain ⟨front, back, items_eq, above, least⟩ := ih later
      split at smallest
      · -- The first item is not above the smallest one of the others, and so it comes first.
        rename_i less
        cases smallest
        refine ⟨[], items, rfl, by simp, fun another listed => ?_⟩
        obtain ⟨_, other_eq, least⟩ := exists_smallest? listed
        cases later.symm.trans other_eq
        exact Nat.le_trans less least
      · -- The smallest one of the others stays, with one more item above it in front.
        rename_i greater
        cases smallest
        refine ⟨item :: front, back, by rw [items_eq]; rfl, ?_, least⟩
        exact List.forall_mem_cons.2 ⟨Nat.lt_of_not_le greater, above⟩

/-- Among items that are made of others, the smallest is the one that is made of the smallest. -/
theorem smallest?_map {β : Type} {size : α → Nat} (make : β → α) (items : List β) :
    smallest? size (items.map make) =
      (smallest? (fun item => size (make item)) items).map make := by
  -- The induction follows the search, which compares each item with the smallest of the rest.
  induction items with
  | nil => rfl
  | cons item items ih =>
    rw [List.map_cons, smallest?, smallest?, ih]
    cases smallest? (fun item => size (make item)) items with
    | none => rfl
    | some other =>
      simp only [Option.map_some]
      split <;> rfl

/-- An item is the first of the least ones with a property: it has the property, and among the
others that have it, those in front of it are greater, and those behind it are not less. -/
structure IsForemost (p : α → Prop) (size : α → Nat) (items : List α) (found : α) : Prop where
  holds : p found
  foremost : ∃ front back, items = front ++ found :: back ∧
    (∀ item ∈ front, p item → size found < size item) ∧
    ∀ item ∈ back, p item → size found ≤ size item

section Selection

variable {p : α → Prop} {size : α → Nat} {items : List α} {found : α}

/-- An item that is the first of the least ones with a property is listed. -/
theorem IsForemost.mem (first : IsForemost p size items found) : found ∈ items := by
  obtain ⟨_, front, back, rfl, _⟩ := first
  exact List.mem_append_right front List.mem_cons_self

/-- An item that is the first of the least ones with a property is as small as any that has it. -/
theorem IsForemost.le (first : IsForemost p size items found) {item : α} (listed : item ∈ items)
    (holds : p item) : size found ≤ size item := by
  obtain ⟨_, front, back, rfl, above, least⟩ := first
  -- What stands in front is above it, and what stands behind is not below it.
  rcases List.mem_append.1 listed with early | late
  · exact Nat.le_of_lt (above item early holds)
  · rcases List.mem_cons.1 late with rfl | late
    · exact Nat.le_refl _
    · exact least item late holds

/-- No other item is the first of the least ones with a property. -/
theorem IsForemost.eq (first : IsForemost p size items found) {other : α}
    (first' : IsForemost p size items other) : found = other := by
  -- If one stood in front of the other, it would be greater and not greater than the other.
  have together {front between back back' : List α} {one two : α}
      (parts : one :: back = between ++ two :: back') (holds : p one) (holds' : p two)
      (least : ∀ item ∈ back, p item → size one ≤ size item)
      (above : ∀ item ∈ front ++ between, p item → size two < size item) : one = two := by
    cases between with
    | nil => exact (List.cons.inj parts).1
    | cons next between =>
      obtain ⟨rfl, rfl⟩ := List.cons.inj parts
      have greater := above one (by simp) holds
      exact absurd (least two (by simp) holds') (Nat.not_le_of_lt greater)
  obtain ⟨holds, front, back, rfl, above, least⟩ := first
  obtain ⟨holds', front', back', same, above', least'⟩ := first'
  rcases List.append_eq_append_iff.1 same with ⟨between, rfl, parts⟩ | ⟨between, rfl, parts⟩
  · exact together parts holds holds' least above'
  · exact (together parts holds' holds least' above).symm

variable [DecidablePred p]

/-- The first of the least items in a selection is the first of the least ones with the property
that is selected. -/
theorem IsFirstLeast.isForemost
    (first : IsFirstLeast size (items.filter fun item => p item) found) :
    IsForemost p size items found := by
  -- The items that are selected, taken apart at this one, are those of the parts of all items.
  obtain ⟨front, back, filter_eq, above, least⟩ := first
  obtain ⟨before, rest, rfl, rfl, filter_eq'⟩ := List.filter_eq_append_iff.1 filter_eq
  obtain ⟨skipped, behind, rfl, unselected, holds, rfl⟩ := List.filter_eq_cons_iff.1 filter_eq'
  refine ⟨of_decide_eq_true holds, before ++ skipped, behind, by simp, fun item listed has => ?_,
    fun item listed has => least item (List.mem_filter.2 ⟨listed, decide_eq_true has⟩)⟩
  rcases List.mem_append.1 listed with early | late
  · exact above item (List.mem_filter.2 ⟨early, decide_eq_true has⟩)
  · exact absurd (decide_eq_true has) (unselected item late)

/-- A selection has no smallest item exactly when no item is selected. -/
theorem smallest?_filter_eq_none_iff :
    smallest? size (items.filter fun item => p item) = none ↔ ∀ item ∈ items, ¬ p item := by
  constructor
  · -- An item that is selected makes the selection nonempty.
    intro none item listed holds
    have selected : item ∈ items.filter fun item => p item :=
      List.mem_filter.2 ⟨listed, decide_eq_true holds⟩
    obtain ⟨_, some, _⟩ := exists_smallest? selected
    exact nomatch none.symm.trans some
  · -- What is smallest in the selection is selected.
    intro unselected
    refine Option.eq_none_iff_forall_ne_some.2 fun found smallest => ?_
    obtain ⟨listed, holds⟩ := List.mem_filter.1 (smallest?_mem smallest)
    exact unselected found listed (of_decide_eq_true holds)

/-- The smallest item of a selection is the first of the least ones with its property. -/
theorem smallest?_filter_eq_some_iff :
    smallest? size (items.filter fun item => p item) = some found ↔
      IsForemost p size items found := by
  constructor
  · -- The smallest item is foremost, and there is only one that is.
    exact fun smallest => (smallest?_isFirstLeast smallest).isForemost
  · intro first
    cases smallest : smallest? size (items.filter fun item => p item) with
    | none => exact absurd first.holds (smallest?_filter_eq_none_iff.1 smallest found first.mem)
    | some other => rw [first.eq (smallest?_isFirstLeast smallest).isForemost]

end Selection

/-- An item is the first of the shortest matches: it matches, and among the others that match, those
in front of it have longer names, and those behind it do not have shorter ones. -/
structure IsForemostMatch (mode : SearchMode) (name : α → String) (keyword : String)
    (items : List α) (found : α) : Prop where
  accepted : mode.accepts (name found) keyword = true
  foremost : ∃ front back, items = front ++ found :: back ∧
    (∀ item ∈ front, mode.accepts (name item) keyword = true →
      (name found).length < (name item).length) ∧
    ∀ item ∈ back, mode.accepts (name item) keyword = true →
      (name found).length ≤ (name item).length

/-- The shortest match is the smallest item of those that match. -/
theorem shortestMatch?_eq (mode : SearchMode) (name : α → String) (keyword : String)
    (items : List α) : shortestMatch? mode name keyword items =
      smallest? (fun item => (name item).length)
        (items.filter fun item => mode.accepts (name item) keyword = true) := by
  simp only [Bool.decide_eq_true]
  rfl

/-- The match that is found is the first of the shortest ones. -/
theorem shortestMatch?_isForemostMatch {mode : SearchMode} {name : α → String} {keyword : String}
    {items : List α} {found : α} (shortest : shortestMatch? mode name keyword items = some found) :
    IsForemostMatch mode name keyword items found := by
  rw [shortestMatch?_eq, smallest?_filter_eq_some_iff] at shortest
  exact ⟨shortest.holds, shortest.foremost⟩

/-- Nothing is found exactly when nothing matches. -/
theorem shortestMatch?_eq_none_iff {mode : SearchMode} {name : α → String} {keyword : String}
    {items : List α} : shortestMatch? mode name keyword items = none ↔
      ∀ item ∈ items, mode.accepts (name item) keyword = false := by
  rw [shortestMatch?_eq, smallest?_filter_eq_none_iff]
  simp only [Bool.not_eq_true]

namespace Database

/-- What comes of the choice of a database by a keyword: the first of the shortest matches, or an
error with the names of all databases if none of them matches. -/
inductive Picks (mode : SearchMode) (databases : List Database) (keyword : String) :
    Outcome Database → Prop
  | found {database : Database}
      (foremost : IsForemostMatch mode Database.name keyword databases database) :
      Picks mode databases keyword (.ok database)
  | missing (unmatched : ∀ database ∈ databases, mode.accepts database.name keyword = false) :
      Picks mode databases keyword
        (.error (.parameter (.noDatabase keyword (databases.map Database.name))))

/-- A database is chosen by the length of its name and by its place. -/
theorem picks_pick (mode : SearchMode) (databases : List Database) (keyword : String) :
    Picks mode databases keyword (pick mode databases keyword) := by
  unfold pick
  -- The pick is the shortest match, and there is none when no database matches.
  cases shortest : shortestMatch? mode Database.name keyword databases with
  | none => exact .missing (shortestMatch?_eq_none_iff.1 shortest)
  | some database => exact .found (shortestMatch?_isForemostMatch shortest)

end Database
end FlightQuery
