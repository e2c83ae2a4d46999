import FlightQuery.Proofs.Filter.Table
import FlightQuery.Proofs.Outcome

/-! The builder follows the table of accepted conditions. -/

namespace FlightQuery.Filter

/-- The key of a literal is the one that the store gives. -/
theorem keyOf_eq_ok_iff {store : Store} {field : Field} {literal : Literal} {constant : Json} :
    keyOf store field literal = .ok constant ↔ IsKey store field literal constant := by
  -- The store is asked once, and its key becomes an integer.
  unfold keyOf IsKey
  cases store.valueKey literal.label field.id with
  | error error => simp
  | ok key => simp [eq_comm]

/-- A literal has no key exactly when the store gives an error for it. -/
theorem keyOf_eq_error_iff {store : Store} {field : Field} {literal : Literal} {error : Error} :
    keyOf store field literal = .error error ↔
      store.valueKey literal.label field.id = .error error := by
  unfold keyOf
  cases store.valueKey literal.label field.id with
  | error other => simp
  | ok key => simp

/-- The keys of some literals are found when each literal has its own. -/
theorem mapM_keyOf_eq_ok {store : Store} {field : Field} {values : List Literal}
    {constants : List Json} (keys : List.Forall₂ (IsKey store field) values constants) :
    values.mapM (keyOf store field) = .ok constants := by
  -- Each key is found in turn.
  induction keys with
  | nil => rfl
  | cons first _ ih =>
    simp [List.mapM_cons, keyOf_eq_ok_iff.2 first, ih]

/-- The first literal without a key gives its error. -/
theorem mapM_keyOf_eq_error {store : Store} {field : Field} {known rest : List Literal}
    {literal : Literal} {error : Error}
    (keys : ∀ before ∈ known, ∃ key, store.valueKey before.label field.id = .ok key)
    (missing : store.valueKey literal.label field.id = .error error) :
    (known ++ literal :: rest).mapM (keyOf store field) = .error error := by
  -- The keys before the missing one are found, and what follows it is not looked at.
  induction known with
  | nil => simp [List.mapM_cons, keyOf_eq_error_iff.2 missing]
  | cons head known ih =>
    obtain ⟨key, found⟩ := keys head List.mem_cons_self
    have first : keyOf store field head = .ok (.int key.toInt) :=
      keyOf_eq_ok_iff.2 ⟨key, found, rfl⟩
    have later := ih fun before listed => keys before (List.mem_cons_of_mem _ listed)
    rw [List.cons_append, List.mapM_cons, first, later]
    rfl

/-- Either each of some literals has a key, or there is a first one without. -/
theorem exists_keys_or_missing (store : Store) (field : Field) (values : List Literal) :
    (∃ constants, List.Forall₂ (IsKey store field) values constants) ∨
      ∃ known literal rest error, values = known ++ literal :: rest ∧
        (∀ before ∈ known, ∃ key, store.valueKey before.label field.id = .ok key) ∧
        store.valueKey literal.label field.id = .error error := by
  -- The head has a key and the tail decides, or the head is the first one without.
  induction values with
  | nil => exact .inl ⟨[], .nil⟩
  | cons value values ih =>
    cases found : store.valueKey value.label field.id with
    | error error => exact .inr ⟨[], value, values, error, rfl, by simp, found⟩
    | ok key =>
      rcases ih with ⟨constants, keys⟩ | ⟨known, literal, rest, error, rfl, keys, missing⟩
      · exact .inl ⟨.int key.toInt :: constants, .cons ⟨key, found, rfl⟩ keys⟩
      · refine .inr ⟨value :: known, literal, rest, error, rfl, ?_, missing⟩
        -- The keys known so far gain the one just found.
        intro before listed
        rcases List.mem_cons.1 listed with rfl | later
        · exact ⟨key, found⟩
        · exact keys before later

/-- The filter of a condition with a row has the operator of the row and the constants sent. -/
theorem build_of_row {store : Store} {field : Field} {condition : Condition}
    {operator : FilterOperator} {constants : List Json}
    (row : Row field.type condition operator) (sends : Sends store field condition constants) :
    build store field condition = .ok (onField operator field constants) := by
  -- One case for each row, in which the type and the constants are known.
  obtain ⟨id, name, type⟩ := field
  cases row with
  | check checks =>
    obtain rfl := checks.eq
    cases type <;> (obtain rfl : constants = [] := sends; rfl)
  | boolean asserts =>
    obtain rfl : constants = [] := sends
    cases asserts <;> rfl
  | compare ordered compares =>
    obtain rfl := compares.eq
    rcases ordered with rfl | rfl
    · -- A single literal has a single key.
      obtain ⟨key, rfl⟩ : ∃ constant, constants = [constant] := by
        cases sends with
        | cons first none => cases none; exact ⟨_, rfl⟩
      have found := keyOf_eq_ok_iff.2 (List.forall₂_cons.1 sends).1
      simp [build, onDiscrete, found]
    · obtain rfl : constants = _ := sends
      rfl
  | text equality compares =>
    obtain rfl := compares.eq
    obtain rfl : constants = _ := sends
    rcases equality with rfl | rfl <;> rfl
  | date dates =>
    obtain rfl : constants = _ := sends
    cases dates <;> rfl
  | membership listed contains =>
    obtain rfl := contains.eq
    rcases listed with rfl | rfl | rfl
    · -- The keys of several literals are found one after the other.
      have found := mapM_keyOf_eq_ok sends
      simp only [Condition.literals] at found
      simp [build, onDiscrete, found]
    · obtain rfl : constants = _ := sends
      rfl
    · obtain rfl : constants = _ := sends
      rfl
  | range bounds =>
    obtain rfl : constants = _ := sends
    cases bounds <;> rfl

/-- A discrete field whose table has a row fails with the error of the first missing key. -/
theorem build_of_missing {store : Store} {field : Field} {condition : Condition}
    {operator : FilterOperator} {error : Error} (type : field.type = .discrete)
    (row : Row field.type condition operator)
    (missing : condition.literals.mapM (keyOf store field) = .error error) :
    build store field condition = .error error := by
  -- Only three rows of the table belong to discrete fields.
  unfold build
  rw [type] at row ⊢
  cases row with
  | check => simp [Condition.literals] at missing
  -- A comparison has one literal, and it is the one without a key.
  | @compare _ _ value =>
    have notFound : keyOf store field value = .error error := by
      cases found : keyOf store field value with
      | error other => simpa [Condition.literals, found] using missing
      | ok key =>
        simp [Condition.literals, found] at missing
    simp [onDiscrete, notFound]
  -- A membership looks for all its keys, and it fails with the first one that is missing.
  | membership =>
    simp only [Condition.literals] at missing
    simp [onDiscrete, missing]

/-- A condition without a row is refused, unless a boolean is compared for equality. -/
theorem build_of_absent {store : Store} {field : Field} {condition : Condition}
    (absent : ∀ operator, ¬ Row field.type condition operator)
    (unequal : field.type = .boolean → ∀ comparator value,
      condition = .compare comparator value → comparator ≠ .equal ∧ comparator ≠ .notEqual) :
    build store field condition = .error (unsupported field condition) := by
  obtain ⟨id, name, fieldType⟩ := field
  -- Each shape that the type accepts has a row, which contradicts its absence.
  cases condition with
  | null check => exact absurd (.check (FilterOperator.checks_ofNullCheck check)) (absent _)
  | compare comparator value =>
    have compares := FilterOperator.compares_ofComparator comparator
    cases fieldType with
    | boolean =>
      -- Booleans are not compared for equality here, and no other comparison has a row.
      obtain ⟨notEqual, notNotEqual⟩ := unequal rfl comparator value rfl
      cases comparator <;> first | contradiction | rfl
    | discrete => exact absurd (.compare (.inl rfl) compares) (absent _)
    | number => exact absurd (.compare (.inr rfl) compares) (absent _)
    | text =>
      cases comparator with
      | equal => exact absurd (.text (.inl rfl) compares) (absent _)
      | notEqual => exact absurd (.text (.inr rfl) compares) (absent _)
      | less | lessOrEqual | greater | greaterOrEqual => rfl
    | dateTime =>
      cases comparator with
      | less => exact absurd (.date .less) (absent _)
      | greaterOrEqual => exact absurd (.date .greaterOrEqual) (absent _)
      | equal | notEqual | lessOrEqual | greater => rfl
  | membership negated values =>
    have contains := FilterOperator.contains_ofMembership negated
    cases fieldType with
    | boolean | dateTime => rfl
    | discrete => exact absurd (.membership (.inl rfl) contains) (absent _)
    | number => exact absurd (.membership (.inr (.inl rfl)) contains) (absent _)
    | text => exact absurd (.membership (.inr (.inr rfl)) contains) (absent _)
  | range outer inner low high =>
    -- Only numbers have ranges, and only with the same bounding comparison on both sides.
    cases fieldType with
    | boolean | discrete | text | dateTime => rfl
    | number =>
      cases found : FilterOperator.ofRange? outer inner with
      | none => simp [build, onNumber, found]
      | some operator =>
        obtain ⟨rfl, bounds⟩ := FilterOperator.ofRange?_eq_some_iff.1 found
        exact absurd (.range bounds) (absent _)

/-- A rejected condition gives its error. -/
theorem build_of_rejected {store : Store} {field : Field} {condition : Condition} {error : Error}
    (rejected : Rejected store field condition error) :
    build store field condition = .error error := by
  cases rejected with
  | @notBoolean comparator value type equality other =>
    -- A literal that is no boolean fails in the same way under both comparisons.
    unfold build
    rw [type]
    cases value with
    | bool expected => exact absurd rfl (other expected)
    | int | float | text | list => rcases equality with rfl | rfl <;> rfl
  | noKey type row literals keys missing =>
    -- The keys are looked up in the order of the literals.
    refine build_of_missing type row ?_
    rw [literals]
    exact mapM_keyOf_eq_error keys missing
  | noRow absent unequal => exact build_of_absent absent unequal

/-- Every row has constants to send, unless a key of a discrete field is missing. -/
theorem exists_sends {store : Store} {field : Field} {condition : Condition}
    {operator : FilterOperator} (row : Row field.type condition operator) :
    (∃ constants, Sends store field condition constants) ∨
      ∃ error, Rejected store field condition error := by
  -- Only the labels of discrete fields can be without a constant.
  by_cases discrete : field.type = .discrete
  · rcases exists_keys_or_missing store field condition.literals with
      ⟨constants, keys⟩ | ⟨known, literal, rest, error, literals, keys, missing⟩
    · refine .inl ⟨constants, ?_⟩
      unfold Sends
      rw [discrete]
      cases condition with
      | null => cases keys; rfl
      | compare | membership | range => exact keys
    · exact .inr ⟨error, .noKey discrete row literals keys missing⟩
  · -- No other type asks the store for anything.
    refine .inl ?_
    unfold Sends
    split
    case h_3 type _ => exact absurd type discrete
    all_goals exact ⟨_, rfl⟩

/-- Every condition is accepted with some filter or rejected with some error. -/
theorem accepted_or_rejected (store : Store) (field : Field) (condition : Condition) :
    (∃ filter, Accepted store field condition filter) ∨
      ∃ error, Rejected store field condition error := by
  -- A condition with a row is accepted as soon as its constants are known.
  by_cases listed : ∃ operator, Row field.type condition operator
  · obtain ⟨operator, row⟩ := listed
    refine (exists_sends row).imp_left ?_
    rintro ⟨constants, sends⟩
    exact ⟨onField operator field constants, row, constants, sends, rfl⟩
  · have absent : ∀ operator, ¬ Row field.type condition operator :=
      fun operator row => listed ⟨operator, row⟩
    by_cases equality : field.type = .boolean ∧ ∃ comparator value,
        condition = .compare comparator value ∧
          (comparator = .equal ∨ comparator = .notEqual)
    · obtain ⟨type, comparator, value, rfl, equality⟩ := equality
      refine .inr ⟨_, .notBoolean type equality ?_⟩
      -- A comparison with a boolean would have a row.
      rintro expected rfl
      rw [type] at absent
      rcases equality with rfl | rfl <;> cases expected
      · exact absent _ (.boolean .equalFalse)
      · exact absent _ (.boolean .equalTrue)
      · exact absent _ (.boolean .notEqualFalse)
      · exact absent _ (.boolean .notEqualTrue)
    · refine .inr ⟨_, .noRow absent ?_⟩
      intro type comparator value compared
      constructor
      · rintro rfl
        exact equality ⟨type, _, value, compared, .inl rfl⟩
      · rintro rfl
        exact equality ⟨type, _, value, compared, .inr rfl⟩

/-- A filter is built for a condition exactly when the table accepts it, and it is the filter of
the row. -/
theorem build_eq_ok_iff {store : Store} {field : Field} {condition : Condition}
    {filter : Filter} :
    build store field condition = .ok filter ↔ Accepted store field condition filter := by
  -- What is accepted is built, and what is rejected is not, so that nothing else is built.
  have complete : ∀ {filter}, Accepted store field condition filter →
      build store field condition = .ok filter := by
    rintro ⟨operator, arguments⟩ ⟨row, constants, sends, sent⟩
    obtain rfl : arguments = _ := sent
    exact build_of_row row sends
  constructor
  · intro built
    rcases accepted_or_rejected store field condition with
      ⟨other, accepted⟩ | ⟨error, rejected⟩
    · have same := (complete accepted).symm.trans built
      exact Except.ok.inj same ▸ accepted
    · exact nomatch (build_of_rejected rejected).symm.trans built
  · exact complete

/-- A condition gives an error exactly when the table rejects it with that error. -/
theorem build_eq_error_iff {store : Store} {field : Field} {condition : Condition}
    {error : Error} :
    build store field condition = .error error ↔ Rejected store field condition error := by
  constructor
  · -- A condition that is accepted builds a filter, so that a failing one is rejected, with its
    -- error.
    intro failed
    rcases accepted_or_rejected store field condition with
      ⟨filter, accepted⟩ | ⟨other, rejected⟩
    · exact nomatch (build_eq_ok_iff.2 accepted).symm.trans failed
    · have same := (build_of_rejected rejected).symm.trans failed
      exact Except.error.inj same ▸ rejected
  · exact build_of_rejected

/-- What is sent for a discrete field are the keys of the literals. -/
theorem Sends.keys {store : Store} {field : Field} {condition : Condition}
    {constants : List Json} (sends : Sends store field condition constants)
    (type : field.type = .discrete) :
    List.Forall₂ (IsKey store field) condition.literals constants := by
  -- Null checks have no literals and send nothing, all others send a key for each.
  unfold Sends at sends
  rw [type] at sends
  cases condition with
  | null =>
    obtain rfl : constants = [] := sends
    exact .nil
  | compare | membership | range => exact sends

/-- Keys that stand beside literals leave no literal without a key. -/
theorem exists_key_of_mem {store : Store} {field : Field} {values : List Literal}
    {constants : List Json} (keys : List.Forall₂ (IsKey store field) values constants)
    {literal : Literal} (listed : literal ∈ values) :
    ∃ key, store.valueKey literal.label field.id = .ok key := by
  -- The literal is the first one or among the others.
  induction keys with
  | nil => exact nomatch listed
  | cons first _ ih =>
    rcases List.mem_cons.1 listed with rfl | later
    · obtain ⟨key, found, _⟩ := first
      exact ⟨key, found⟩
    · exact ih later

/-- A condition with a row whose literals all have keys is not rejected. -/
theorem not_rejected {store : Store} {field : Field} {condition : Condition}
    {operator : FilterOperator} (row : Row field.type condition operator)
    (keys : field.type = .discrete → ∀ literal ∈ condition.literals,
      ∃ key, store.valueKey literal.label field.id = .ok key) (error : Error) :
    ¬ Rejected store field condition error := by
  intro rejected
  cases rejected with
  -- Booleans are compared with nothing but Booleans, and only for equality.
  | notBoolean type equality other =>
    rw [type] at row
    cases row with
    | boolean => exact other _ rfl
    | compare ordered => rcases ordered with impossible | impossible <;> cases impossible
  | @noKey _ _ known rest literal _ type _ literals _ missing =>
    -- The literal without a key is one of the condition.
    have listed : literal ∈ condition.literals := by
      rw [literals]
      exact List.mem_append_right known List.mem_cons_self
    obtain ⟨key, found⟩ := keys type literal listed
    exact nomatch found.symm.trans missing
  | noRow absent => exact absent operator row

/-- A filter is built exactly for the conditions in the table whose labels have keys. -/
theorem exists_build_iff {store : Store} {field : Field} {condition : Condition} :
    (∃ filter, build store field condition = .ok filter) ↔
      (∃ operator, Row field.type condition operator) ∧
        (field.type = .discrete → ∀ literal ∈ condition.literals,
          ∃ key, store.valueKey literal.label field.id = .ok key) := by
  constructor
  · -- The constants that are sent have been looked up, one for each label.
    rintro ⟨filter, built⟩
    obtain ⟨row, constants, sends, _⟩ := build_eq_ok_iff.1 built
    exact ⟨⟨_, row⟩, fun type _ listed => exists_key_of_mem (sends.keys type) listed⟩
  · -- A row and keys leave no reason for rejecting the condition.
    rintro ⟨⟨operator, row⟩, keys⟩
    rcases accepted_or_rejected store field condition with
      ⟨filter, accepted⟩ | ⟨error, rejected⟩
    · exact ⟨filter, build_eq_ok_iff.2 accepted⟩
    · exact absurd rejected (not_rejected row keys error)

/-- The builder follows the table: it builds a filter exactly for the conditions in the table
whose labels have keys, the filter is the one of the row, and every other condition gives the
error that the table tells. -/
theorem build_follows_table (store : Store) (field : Field) (condition : Condition) :
    ((∃ filter, build store field condition = .ok filter) ↔
      (∃ operator, Row field.type condition operator) ∧
        (field.type = .discrete → ∀ literal ∈ condition.literals,
          ∃ key, store.valueKey literal.label field.id = .ok key)) ∧
      (∀ filter, build store field condition = .ok filter ↔
        Accepted store field condition filter) ∧
      ∀ error, build store field condition = .error error ↔
        Rejected store field condition error :=
  -- The three parts are the laws of the builder, for any store, field and condition.
  ⟨exists_build_iff, fun _ => build_eq_ok_iff, fun _ => build_eq_error_iff⟩

end FlightQuery.Filter
