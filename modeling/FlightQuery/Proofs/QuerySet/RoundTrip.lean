import FlightQuery.Proofs.Json.Decoding
import FlightQuery.Proofs.Query.Run

/-! A query set is loaded as it was saved. -/

namespace FlightQuery

open Decoder (Restores restores_list restores_structure restores_tagged)

/-! ### Names -/

/-- An aggregation is found by its name. -/
@[simp] theorem Aggregate.lookup_name (aggregate : Aggregate) :
    names.lookup aggregate.name = some aggregate := by
  cases aggregate <;> rfl

/-- A direction is found by its name. -/
@[simp] theorem SortOrder.lookup_name (order : SortOrder) :
    names.lookup order.name = some order := by
  cases order <;> rfl

/-- A combination is found by its name. -/
@[simp] theorem GroupOperator.lookup_name (operator : GroupOperator) :
    names.lookup operator.name = some operator := by
  cases operator <;> rfl

/-- An operator is found by its name. -/
@[simp] theorem FilterOperator.lookup_name (operator : FilterOperator) :
    names.lookup operator.name = some operator := by
  cases operator <;> rfl

/-! ### Constants -/

/-- A plain value: a boolean, a text or an integer of 64 bits. -/
inductive Json.IsPlain : Json → Prop
  | bool (value : Bool) : IsPlain (.bool value)
  | text (value : String) : IsPlain (.text value)
  | int (value : Int64) : IsPlain (.int value.toInt)

/-- Plain values are exact. -/
theorem Json.IsPlain.isExact {value : Json} (plain : value.IsPlain) : value.IsExact := by
  cases plain with
  | bool value => exact .bool value
  | text value => exact .text value
  | int value => exact .int (Number.isExact_int64 value)

/-- Plain values are decoded as they were. -/
theorem Json.IsPlain.restores {value : Json} (plain : value.IsPlain) :
    Restores Decoder.json 0 value value := by
  cases plain <;> exact fun _ _ => rfl

/-! ### Filters -/

/-- An argument whose constant is plain, if it is one. -/
def Argument.IsPlain (argument : Argument) : Prop :=
  ∀ value, argument = .constant value → value.IsPlain

/-- A filter whose constants are plain. -/
def Filter.IsPlain (filter : Filter) : Prop := ∀ argument ∈ filter.arguments, argument.IsPlain

/-- Filters whose constants are plain. -/
def FilterGroup.IsPlain (group : FilterGroup) : Prop := ∀ filter ∈ group.filters, filter.IsPlain

/-- A query set whose filters have plain constants. -/
def QuerySet.IsPlain (querySet : QuerySet) : Prop := ∀ group ∈ querySet.filter, group.IsPlain

/-- Arguments are exact. -/
theorem Argument.IsPlain.isExact {argument : Argument} (plain : argument.IsPlain) :
    argument.toJson.IsExact := by
  cases argument with
  | field id => exact .object (by simp)
  | constant value => exact .object (by simp [(plain value rfl).isExact])

/-- Arguments are decoded as they were. -/
theorem Argument.IsPlain.restores {argument : Argument} (plain : argument.IsPlain) :
    Restores decode 1 argument.toJson argument := by
  -- The tag of the argument tells its kind, and only a constant has a value to be restored.
  cases argument with
  | field id => exact restores_tagged rfl fun _ _ => rfl
  | constant value =>
    have known : List.lookup "constant" [("field", Kind.field), ("constant", .constant)] =
      some .constant := rfl
    refine restores_tagged known fun scope room => ?_
    exact congrArg (Option.map constant) ((plain value rfl).restores scope room)

/-- Filters are exact. -/
theorem Filter.IsPlain.isExact {filter : Filter} (plain : filter.IsPlain) :
    filter.toJson.IsExact := by
  -- The arguments stand in a body, and the body in an envelope.
  have arguments := Json.isExact_list_map fun argument listed => (plain argument listed).isExact
  have body : (Json.object [("operator", .text filter.operator.name),
      ("args", .list (filter.arguments.map Argument.toJson))]).IsExact :=
    .object (by simp [arguments])
  exact .object (by simp [body])

/-- Filters are decoded as they were. -/
theorem Filter.IsPlain.restores {filter : Filter} (plain : filter.IsPlain) :
    Restores decode 4 filter.toJson filter := by
  have arguments := restores_list fun argument listed => (plain argument listed).restores
  -- The envelope holds the operator and the arguments.
  refine restores_tagged rfl (restores_structure (by simp) (by simp) fun inside room => ?_)
  simp [List.lookup_cons, arguments inside room]

/-- Groups of filters are exact. -/
theorem FilterGroup.IsPlain.isExact {group : FilterGroup} (plain : group.IsPlain) :
    (QuerySet.filtersToJson group).IsExact := by
  have filters := Json.isExact_list_map fun filter listed => (plain filter listed).isExact
  exact .object (by simp [filters])

/-- Groups of filters are decoded as they were. -/
theorem FilterGroup.IsPlain.restores {group : FilterGroup} (plain : group.IsPlain) :
    Restores QuerySet.decodeFilters 6 (QuerySet.filtersToJson group) group := by
  have filters := restores_list fun filter listed => (plain filter listed).restores
  refine restores_structure (by simp) (by simp) fun inside room => ?_
  simp [List.lookup_cons, filters inside room]

namespace QuerySet

/-! ### Fields -/

/-- Selected fields are decoded as they were. -/
theorem restores_select (item : SelectItem) :
    Restores decodeSelect 1 (selectToJson item) item :=
  restores_structure (by simp) (by simp) fun inside room => by simp [List.lookup_cons]

/-- Fields that rows are grouped by are decoded as they were. -/
theorem restores_group (fieldId : String) :
    Restores decodeGroup 1 (groupToJson fieldId) fieldId :=
  restores_structure (by simp) (by simp) fun inside room => by simp

/-- Fields that rows are sorted by are decoded as they were. -/
theorem restores_order (item : OrderItem) :
    Restores decodeOrder 1 (orderToJson item) item :=
  restores_structure (by simp) (by simp) fun inside room => by simp [List.lookup_cons]

/-! ### Query sets -/

/-- Query sets are exact. -/
theorem IsPlain.isExact {querySet : QuerySet} (plain : querySet.IsPlain) :
    querySet.toJson.IsExact := by
  have select : (Json.list (querySet.select.map selectToJson)).IsExact :=
    Json.isExact_list_map fun _ _ => .object (by simp)
  have groupBy : (Json.list (querySet.groupBy.map groupToJson)).IsExact :=
    Json.isExact_list_map fun _ _ => .object (by simp)
  have orderBy : (Json.list (querySet.orderBy.map orderToJson)).IsExact :=
    Json.isExact_list_map fun _ _ => .object (by simp)
  obtain ⟨_, _, _, filter, _, top, _⟩ := querySet
  -- Filters and a greatest number of rows are members only when they are given.
  have filters : ∀ group ∈ filter, (filtersToJson group).IsExact :=
    fun group given => (plain group given).isExact
  have count : ∀ count ∈ top, (Json.int count.toNat).IsExact :=
    fun count _ => .int (Number.isExact_uint32 count)
  refine .object ?_
  cases filter <;> cases top <;> simp [select, groupBy, orderBy, filters, count]

/-- Query sets are decoded as they were. -/
theorem IsPlain.restores {querySet : QuerySet} (plain : querySet.IsPlain) :
    Restores decode 7 querySet.toJson querySet := by
  -- The three lists are always written, each with its items one by one.
  have select := restores_list fun item (_ : item ∈ querySet.select) => restores_select item
  have groupBy := restores_list fun item (_ : item ∈ querySet.groupBy) => restores_group item
  have orderBy := restores_list fun item (_ : item ∈ querySet.orderBy) => restores_order item
  obtain ⟨_, _, _, filter, _, top, _⟩ := querySet
  -- A member that is left out is decoded by its default.
  refine restores_structure ?_ ?_ fun inside room => ?_
  · cases filter <;> cases top <;> simp
  · cases filter <;> cases top <;> simp
  · have shallow : 2 ≤ inside.room := Nat.le_trans (by decide) room
    have filters : ∀ group ∈ filter, Decoder.nullable decodeFilters inside
        (filtersToJson group).written = some (some group) :=
      fun group given => (plain group given).restores.nullable nofun inside room
    have count : ∀ count ∈ top, Decoder.nullable Decoder.uint32 inside
        (Json.int count.toNat).written = some (some count) :=
      fun count _ => (Decoder.restores_uint32 count).nullable nofun inside (Nat.zero_le _)
    cases filter <;> cases top <;>
      simp [List.lookup_cons, select inside shallow, groupBy inside shallow,
        orderBy inside shallow, filters, count]

/-- The text of a query set is read as that query set. -/
theorem IsPlain.load_save {querySet : QuerySet} (plain : querySet.IsPlain) :
    load querySet.save = .ok querySet := by
  unfold load save
  rw [plain.restores.fromText_compact (by decide) plain.isExact]

end QuerySet

namespace Query

/--
Loading the text of a query set gives that query set, whatever the query was before.

Constants are booleans, texts or integers of 64 bits; everything else may be anything.
-/
theorem step_load_save (store : Store) (query : Query) {querySet : QuerySet}
    (plain : querySet.IsPlain) :
    step store query (.load querySet.save) = (.ok .done, { columns := [], querySet }) ∧
      (step store query (.load querySet.save)).2.querySet.save = querySet.save := by
  -- Loading puts the saved query set in place of the old one and clears the columns.
  have loaded : step store query (.load querySet.save) = (.ok .done, { columns := [], querySet }) :=
    (Succeeds.load plain.load_save).step_eq
  exact ⟨loaded, by rw [loaded]⟩

/-- A query set with characters that have to be escaped and with the least and greatest numbers. -/
theorem step_load_save_escapes :
    let querySet : QuerySet := {
      select := [{ fieldId := "say \"hi\"\\\n\u0001 é", aggregate := .average }]
      orderBy := [{ fieldId := "", order := .descending, aggregate := .none }]
      filter := some {
        operator := .any
        filters := [{
          operator := .isIn
          arguments := [.field "\u0000", .constant (.text "\\u0041"),
            .constant (.int Int64.minValue.toInt), .constant (.int Int64.maxValue.toInt),
            .constant (.bool false)] }] }
      distinct := false
      top := some 4294967295 }
    querySet.IsPlain ∧ step flightTree.toStore {} (.load querySet.save) =
      (.ok .done, { columns := [], querySet }) := by
  intro querySet
  -- The four constants are looked at one by one.
  have plain : querySet.IsPlain := by
    rintro group ⟨⟩ filter listed argument given value rfl
    simp only [List.mem_singleton] at listed
    subst listed
    simp only [List.mem_cons, Argument.constant.injEq, List.not_mem_nil, or_false, reduceCtorEq,
      false_or] at given
    rcases given with rfl | rfl | rfl | rfl
    · exact .text _
    · exact .int Int64.minValue
    · exact .int Int64.maxValue
    · exact .bool false
  exact ⟨plain, (step_load_save flightTree.toStore {} plain).1⟩

end Query
end FlightQuery
