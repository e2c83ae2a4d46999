import FlightQuery.Proofs.Condition.Resolve
import FlightQuery.Proofs.FieldTree.Lookup
import FlightQuery.Proofs.Filter.Dispatch
import Mathlib

/-! Filters that are built from expressions have the form that the server expects, and they are
equal to themselves. -/

namespace FlightQuery

/-- The number of arguments that an operator takes, its field among them. -/
def FilterOperator.Takes : FilterOperator → (count : Nat) → Prop
  | isNull, count | isNotNull, count | isTrue, count | isFalse, count => count = 1
  | equal, count | notEqual, count | lessThan, count | lessThanOrEqual, count
  | greaterThan, count | greaterThanOrEqual, count => count = 2
  | betweenExclusive, count | betweenInclusive, count | notBetweenExclusive, count
  | notBetweenInclusive, count | dateTimeBefore, count | dateTimeOnAfter, count => count = 3
  | isIn, count | notIn, count => 2 ≤ count

/-- The literals of a condition that was read are scalars. -/
theorem Condition.IsRead.scalars {condition : Condition} (isRead : condition.IsRead) :
    ∀ literal ∈ condition.literals, literal.IsScalar := by
  -- Each form has the scalars that it was read from, and a check of null has none.
  cases isRead with
  | null => simp [literals]
  | compare _ scalar => exact List.forall_mem_singleton.2 scalar
  | membership _ _ scalars => exact scalars
  | range _ _ scalarLow scalarHigh =>
    exact List.forall_mem_cons.2 ⟨scalarLow, List.forall_mem_singleton.2 scalarHigh⟩

namespace Filter

/-- A filter on a field of a tree whose constants are ones that its operator and field take. -/
structure WellFormed (tree : FieldTree) (filter : Filter) (field : Field) (constants : List Json) :
    Prop where
  /-- The field belongs to the tree. -/
  listed : field ∈ tree.fields
  /-- The field comes first, and it is the only one. -/
  arguments : filter.arguments = .field field.id :: constants.map .constant
  /-- The operator takes as many arguments. -/
  arity : filter.operator.Takes filter.arguments.length
  /-- No constant is null, a list, an object or a number that is not finite. -/
  scalars : ∀ constant ∈ constants, constant.IsScalar
  /-- The constants of a discrete field are among the keys of its labels. -/
  keys : field.type = .discrete → ∀ constant ∈ constants, ∃ labels key label,
    tree.labels.find? field.id = some labels ∧ labels.find? key = some label ∧
      constant = .int key.toInt

variable {store : Store} {field : Field} {condition : Condition} {constants : List Json}

/-- Every key that is sent is an integer that the store gives. -/
theorem IsKey.exists_of_mem {values : List Literal}
    (keys : List.Forall₂ (IsKey store field) values constants) :
    ∀ constant ∈ constants, ∃ literal ∈ values, IsKey store field literal constant := by
  -- Keys and literals are paired in their order.
  induction keys with
  | nil => simp
  | cons first _ ih =>
    refine List.forall_mem_cons.2 ⟨⟨_, List.mem_cons_self, first⟩, fun constant listed => ?_⟩
    obtain ⟨literal, listed, isKey⟩ := ih constant listed
    exact ⟨literal, List.mem_cons_of_mem _ listed, isKey⟩

/-- The values of literals that were read are scalars. -/
theorem forall_toJson_isScalar {values : List Literal}
    (scalars : ∀ literal ∈ values, literal.IsScalar) :
    ∀ constant ∈ values.map Literal.toJson, constant.IsScalar := by
  intro constant listed
  -- Every constant sent was written as one of the scalar literals.
  obtain ⟨literal, written, rfl⟩ := List.mem_map.1 listed
  exact (scalars literal written).toJson

/-- What is sent for a condition that was read are scalars. -/
theorem Sends.isScalar (sends : Sends store field condition constants)
    (isRead : condition.IsRead) : ∀ constant ∈ constants, constant.IsScalar := by
  -- The literals are scalars, and keys and the zone of a date are too.
  have scalars := forall_toJson_isScalar isRead.scalars
  unfold Sends at sends
  split at sends
  · subst sends
    simp
  · subst sends
    simp
  · intro constant listed
    obtain ⟨_, _, key, _, rfl⟩ := IsKey.exists_of_mem sends constant listed
    exact .int key.toInt
  · exact sends ▸ scalars
  · exact sends ▸ scalars
  · rw [sends]
    exact List.forall_mem_append.2 ⟨scalars, List.forall_mem_singleton.2 (.text "Utc")⟩

/-- A constant is sent for each literal where no type adds or drops one. -/
theorem Sends.length_eq (sends : Sends store field condition constants)
    (plain : field.type = .discrete ∨ field.type = .number ∨ field.type = .text) :
    constants.length = condition.literals.length := by
  unfold Sends at sends
  -- Keys are paired with the literals, and values are mapped from them.
  rcases plain with type | type | type
  all_goals
    rw [type] at sends
    cases condition with
    | null => exact congrArg List.length sends
    | compare | membership | range =>
      first
        | exact (List.Forall₂.length_eq sends).symm
        | exact (congrArg List.length sends).trans (List.length_map _)

/-- The operator of a row takes the field and the constants that are sent for the row. -/
theorem Row.takes {operator : FilterOperator} (row : Row field.type condition operator)
    (sends : Sends store field condition constants) (isRead : condition.IsRead) :
    operator.Takes (constants.length + 1) := by
  -- One case for each row, whose shape fixes the number of its literals.
  obtain ⟨id, name, type⟩ := field
  cases row with
  | check checks =>
    obtain rfl : constants = [] := by cases type <;> exact sends
    cases checks <;> rfl
  | boolean asserts =>
    obtain rfl : constants = [] := sends
    cases asserts <;> rfl
  | compare ordered compares =>
    rw [sends.length_eq (ordered.imp_right .inl)]
    cases compares <;> rfl
  | text equality compares =>
    rw [sends.length_eq (.inr (.inr rfl))]
    rcases equality with rfl | rfl <;> cases compares <;> rfl
  | date dates =>
    obtain rfl : constants = _ := sends
    cases dates <;> rfl
  | membership listed contains =>
    rw [sends.length_eq listed]
    cases isRead with
    | membership _ nonempty =>
      -- The field comes on top of one value at least.
      have atLeast := Nat.succ_le_succ (List.length_pos_iff.2 nonempty)
      cases contains <;> exact atLeast
  | range bounds =>
    rw [sends.length_eq (.inr (.inl rfl))]
    cases bounds <;> rfl

/-- A filter that is built for a condition read from an expression is well formed. -/
theorem wellFormed_of_build {tree : FieldTree} {filter : Filter} (listed : field ∈ tree.fields)
    (isRead : condition.IsRead) (built : build tree.toStore field condition = .ok filter) :
    ∃ constants, WellFormed tree filter field constants := by
  -- The table tells the operator of the filter and its constants.
  obtain ⟨row, constants, sends, arguments⟩ := build_eq_ok_iff.1 built
  refine ⟨constants, listed, arguments, ?_, sends.isScalar isRead, ?_⟩
  · have takes := row.takes sends isRead
    simpa [arguments] using takes
  · -- A key comes from the label of a literal, and stands in the tree with this label.
    intro type constant sent
    obtain ⟨literal, _, key, found, rfl⟩ := IsKey.exists_of_mem (sends.keys type) constant sent
    obtain ⟨labels, known, named⟩ := FieldTree.find?_of_valueKey found
    exact ⟨labels, key, literal.label, known, named, rfl⟩

/-- Whatever text is given, a filter that is built from it on a tree is well formed, on the field
to which the text resolves. -/
theorem ofExpression_wellFormed {tree : FieldTree} {expression : String} {filter : Filter}
    (built : ofExpression tree.toStore expression = .ok filter) :
    ∃ parsed field condition constants, Expression.parse expression = .ok parsed ∧
      Condition.resolve tree.toStore parsed = .ok (field, condition) ∧
      WellFormed tree filter field constants := by
  -- The expression was parsed, its field found and its constants read before anything was built.
  obtain ⟨parsed, taken, rest⟩ := Outcome.bind_eq_ok_iff.1 built
  obtain ⟨⟨field, condition⟩, resolved, finished⟩ := Outcome.bind_eq_ok_iff.1 rest
  obtain ⟨⟨_, found⟩, isRead⟩ := Condition.resolve_sound resolved
  have listed := FieldTree.mem_fields_of_searchField found
  obtain ⟨constants, wellFormed⟩ := wellFormed_of_build listed isRead finished
  exact ⟨parsed, field, condition, constants, taken, resolved, wellFormed⟩

/-- A tree of one discrete field with one label. -/
def phaseTree : FieldTree where
  databaseId := "flights"
  entries := [{ field := { id := "phase", name := "Phase", type := .discrete }, parentId := none }]
  labels := Dictionary.empty.insert "phase" (Dictionary.empty.insert 2 "Climb")

/-- The filter on a label of a phase holds the key of the label and is well formed. -/
theorem ofExpression_wellFormed_phase :
    ofExpression phaseTree.toStore "'P' == 'Climb'" =
        .ok { operator := .equal, arguments := [.field "phase", .constant (.int 2)] } ∧
      ∃ parsed field condition constants,
        Expression.parse "'P' == 'Climb'" = .ok parsed ∧
        Condition.resolve phaseTree.toStore parsed = .ok (field, condition) ∧
        WellFormed phaseTree
          { operator := .equal, arguments := [.field "phase", .constant (.int 2)] }
          field constants := by
  -- The filter is evaluated, and its form follows from the theorem.
  have built : ofExpression phaseTree.toStore "'P' == 'Climb'" =
      .ok { operator := .equal, arguments := [.field "phase", .constant (.int 2)] } := by cbv
  exact ⟨built, ofExpression_wellFormed built⟩

end Filter

/-! ### Equality of filters, which hold no undefined numbers -/

/-- A finite number is equal to itself. -/
theorem Binary64.same_self {value : Binary64} (finite : value.isFinite) : value.same value := by
  cases value with
  | finite negative mantissa exponent => simp [same]
  | infinite | notNumber => exact nomatch finite

/-- A scalar is equal to itself. -/
theorem Json.IsScalar.same_self {value : Json} (scalar : value.IsScalar) : value.same value := by
  cases scalar with
  | bool value | text value | int value => simp [same, JsonNumber.same]
  | float finite => simpa [same, JsonNumber.same] using Binary64.same_self finite

namespace Filter

/-- Arguments are equal to themselves when their constants are scalars. -/
theorem sameArguments_self {constants : List Json}
    (scalars : ∀ constant ∈ constants, constant.IsScalar) :
    sameArguments (constants.map .constant) (constants.map .constant) := by
  -- The induction is on the constants, each of which equals itself because it is a scalar.
  induction constants with
  | nil => rfl
  | cons constant constants ih =>
    obtain ⟨first, others⟩ := List.forall_mem_cons.1 scalars
    simp [sameArguments, Argument.same, first.same_self, ih others]

/-- A filter that is built from an expression is equal to itself. -/
theorem same_self_of_ofExpression {store : Store} {expression : String} {filter : Filter}
    (built : ofExpression store expression = .ok filter) : filter.same filter := by
  obtain ⟨parsed, taken, rest⟩ := Outcome.bind_eq_ok_iff.1 built
  obtain ⟨⟨field, condition⟩, resolved, finished⟩ := Outcome.bind_eq_ok_iff.1 rest
  obtain ⟨_, isRead⟩ := Condition.resolve_sound resolved
  -- It holds a field and the scalars that are sent.
  obtain ⟨_, constants, sends, arguments⟩ := build_eq_ok_iff.1 finished
  have scalars := sameArguments_self (sends.isScalar isRead)
  simp [same, arguments, sameArguments, Argument.same, scalars]

end Filter

end FlightQuery
