import FlightQuery.Filter.Build
import Mathlib.Data.List.Forall2

/-! The table of the conditions that each type of field accepts, and what is sent for them. -/

namespace FlightQuery

/-- The literals of a condition in their written order. -/
def Condition.literals : Condition → List Literal
  | null _ => []
  | compare _ value => [value]
  | membership _ values => values
  | range _ _ low high => [low, high]

namespace FilterOperator

/-- The operators of the null checks. -/
inductive Checks : NullCheck → FilterOperator → Prop
  | isNull : Checks .isNull .isNull
  | isNotNull : Checks .isNotNull .isNotNull

/-- The operators of the six comparisons. -/
inductive Compares : Comparator → FilterOperator → Prop
  | equal : Compares .equal .equal
  | notEqual : Compares .notEqual .notEqual
  | less : Compares .less .lessThan
  | lessOrEqual : Compares .lessOrEqual .lessThanOrEqual
  | greater : Compares .greater .greaterThan
  | greaterOrEqual : Compares .greaterOrEqual .greaterThanOrEqual

/-- The operators of the comparisons with a boolean. -/
inductive Asserts : Comparator → Bool → FilterOperator → Prop
  | equalTrue : Asserts .equal true .isTrue
  | equalFalse : Asserts .equal false .isFalse
  | notEqualTrue : Asserts .notEqual true .isFalse
  | notEqualFalse : Asserts .notEqual false .isTrue

/-- The operators of the two memberships, the second one being negated. -/
inductive Contains : Bool → FilterOperator → Prop
  | isIn : Contains false .isIn
  | notIn : Contains true .notIn

/-- The operators of the ranges, by the comparison that stands on both sides. -/
inductive Bounds : Comparator → FilterOperator → Prop
  | less : Bounds .less .betweenExclusive
  | lessOrEqual : Bounds .lessOrEqual .betweenInclusive
  | greater : Bounds .greater .notBetweenExclusive
  | greaterOrEqual : Bounds .greaterOrEqual .notBetweenInclusive

/-- The operators of the comparisons with a point in time. -/
inductive Dates : Comparator → FilterOperator → Prop
  | less : Dates .less .dateTimeBefore
  | greaterOrEqual : Dates .greaterOrEqual .dateTimeOnAfter

theorem checks_ofNullCheck (check : NullCheck) : Checks check (ofNullCheck check) := by
  cases check <;> constructor

theorem compares_ofComparator (comparator : Comparator) :
    Compares comparator (ofComparator comparator) := by
  cases comparator <;> constructor

theorem contains_ofMembership (negated : Bool) : Contains negated (ofMembership negated) := by
  cases negated <;> constructor

theorem Checks.eq {check : NullCheck} {operator : FilterOperator} (checks : Checks check operator) :
    operator = ofNullCheck check := by
  cases checks <;> rfl

theorem Compares.eq {comparator : Comparator} {operator : FilterOperator}
    (compares : Compares comparator operator) : operator = ofComparator comparator := by
  cases compares <;> rfl

theorem Contains.eq {negated : Bool} {operator : FilterOperator}
    (contains : Contains negated operator) : operator = ofMembership negated := by
  cases contains <;> rfl

/-- A range has an operator exactly when one of the bounding comparisons stands on both sides. -/
theorem ofRange?_eq_some_iff {outer inner : Comparator} {operator : FilterOperator} :
    ofRange? outer inner = some operator ↔ outer = inner ∧ Bounds outer operator := by
  -- Every comparison has its case on both sides.
  constructor
  · intro listed
    unfold ofRange? at listed
    split at listed <;> cases listed <;> exact ⟨rfl, by constructor⟩
  · rintro ⟨rfl, bounds⟩
    cases bounds <;> rfl

end FilterOperator

namespace Filter

/-- The rows of the table: the conditions that a type accepts, each with its operator. -/
inductive Row : FieldType → Condition → FilterOperator → Prop
  /-- Every type accepts the null checks. -/
  | check {type : FieldType} {check : NullCheck} {operator : FilterOperator}
      (checks : FilterOperator.Checks check operator) : Row type (.null check) operator
  /-- Booleans are compared for equality with a boolean. -/
  | boolean {comparator : Comparator} {value : Bool} {operator : FilterOperator}
      (asserts : FilterOperator.Asserts comparator value operator) :
      Row .boolean (.compare comparator (.bool value)) operator
  /-- Labels and numbers are compared in all six ways. -/
  | compare {type : FieldType} {comparator : Comparator} {value : Literal}
      {operator : FilterOperator} (ordered : type = .discrete ∨ type = .number)
      (compares : FilterOperator.Compares comparator operator) :
      Row type (.compare comparator value) operator
  /-- Texts are compared for equality. -/
  | text {comparator : Comparator} {value : Literal} {operator : FilterOperator}
      (equality : comparator = .equal ∨ comparator = .notEqual)
      (compares : FilterOperator.Compares comparator operator) :
      Row .text (.compare comparator value) operator
  /-- Points in time are compared as before, or not before, another one. -/
  | date {comparator : Comparator} {value : Literal} {operator : FilterOperator}
      (dates : FilterOperator.Dates comparator operator) :
      Row .dateTime (.compare comparator value) operator
  /-- Labels, numbers and texts are looked for among others. -/
  | membership {type : FieldType} {negated : Bool} {values : List Literal}
      {operator : FilterOperator} (listed : type = .discrete ∨ type = .number ∨ type = .text)
      (contains : FilterOperator.Contains negated operator) :
      Row type (.membership negated values) operator
  /-- Numbers lie in ranges that have the same comparison on both sides. -/
  | range {comparator : Comparator} {low high : Literal} {operator : FilterOperator}
      (bounds : FilterOperator.Bounds comparator operator) :
      Row .number (.range comparator comparator low high) operator

/-- A constant is the key that the store gives for the text of a literal. -/
def IsKey (store : Store) (field : Field) (literal : Literal) (constant : Json) : Prop :=
  ∃ key, store.valueKey literal.label field.id = .ok key ∧ constant = .int key.toInt

/-- The constants that are sent for a condition, in the order of its literals. -/
def Sends (store : Store) (field : Field) (condition : Condition) (constants : List Json) : Prop :=
  match field.type, condition with
  | _, .null _ => constants = []
  | .boolean, _ => constants = []
  | .discrete, condition => List.Forall₂ (IsKey store field) condition.literals constants
  | .number, condition => constants = condition.literals.map Literal.toJson
  | .text, condition => constants = condition.literals.map Literal.toJson
  | .dateTime, condition => constants = condition.literals.map Literal.toJson ++ [.text "Utc"]

/-- A condition has a row in the table, and a filter has its operator, field and constants. -/
def Accepted (store : Store) (field : Field) (condition : Condition) (filter : Filter) : Prop :=
  Row field.type condition filter.operator ∧
    ∃ constants, Sends store field condition constants ∧
      filter.arguments = .field field.id :: constants.map .constant

/-- The errors of the conditions for which no filter is built. -/
inductive Rejected (store : Store) (field : Field) : Condition → Error → Prop
  /-- A boolean is compared for equality with another literal. -/
  | notBoolean {comparator : Comparator} {value : Literal} (type : field.type = .boolean)
      (equality : comparator = .equal ∨ comparator = .notEqual)
      (other : ∀ expected, value ≠ .bool expected) :
      Rejected store field (.compare comparator value)
        (.invalidLiteral value.display field.name)
  /-- The store gives no key for a literal, after it has given one for each literal before. -/
  | noKey {condition : Condition} {operator : FilterOperator} {known rest : List Literal}
      {literal : Literal} {error : Error} (type : field.type = .discrete)
      (row : Row field.type condition operator)
      (literals : condition.literals = known ++ literal :: rest)
      (keys : ∀ before ∈ known, ∃ key, store.valueKey before.label field.id = .ok key)
      (missing : store.valueKey literal.label field.id = .error error) :
      Rejected store field condition error
  /-- The table has no row for any other comparison, membership or range. -/
  | noRow {condition : Condition} (absent : ∀ operator, ¬ Row field.type condition operator)
      (unequal : field.type = .boolean → ∀ comparator value,
        condition = .compare comparator value → comparator ≠ .equal ∧ comparator ≠ .notEqual) :
      Rejected store field condition (.unsupportedOperator condition.describe field.type)

end Filter
end FlightQuery
