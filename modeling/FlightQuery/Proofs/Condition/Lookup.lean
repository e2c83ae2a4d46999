import FlightQuery.FieldTree
import FlightQuery.Filter.Build
import FlightQuery.Proofs.Literal.Writing

/-! The lookup of the field of an expression: on which side of a comparison the field is found, and
what comes of a store that fails. -/

namespace FlightQuery

/-- A comparison holds exactly when the mirrored one holds of the operands in the opposite order. -/
theorem Comparator.holds_flip (comparator : Comparator) (left right : Int) :
    comparator.flip.holds right left = comparator.holds left right := by
  cases comparator with
  | equal => exact BEq.comm
  | notEqual => exact bne_comm
  | less | lessOrEqual | greater | greaterOrEqual => rfl

/-- A store fails to look up any field, and never because it does not know the field. -/
structure Store.Fails (store : Store) (failure : String → Error) : Prop where
  failed : ∀ keyword, store.searchField keyword = .error (failure keyword)
  known : ∀ keyword missing, failure keyword ≠ .unknownField missing

/-- A store that refuses all lookups fails. -/
theorem Store.fails_refusing (store : Store) (reason : String → String) :
    (store.refusing reason).Fails fun keyword => .parameter (.told (reason keyword)) :=
  ⟨fun _ => rfl, nofun⟩

/-- The operand of an expression in which its field is looked for first. -/
def Expression.fieldOperand : Expression → String
  | check operand _ => operand
  | binary left _ _ => left
  | range _ _ field _ _ => field

namespace Condition

variable {store : Store} {field : Field} {left right : String} {failure : String → Error}

/-- A name in quotes is read as this name. -/
theorem readName_write (style : Literal.Style) (name : String) :
    readName (style.write (.text name)) = .ok name := by
  have writable := Literal.IsWritable.scalar (.text name)
  rw [readName, writable.parse_write style]
  rfl

/-! ### The sides of a comparison -/

/-- An operand names no field of a store: it is no quoted name, or the store knows no field of
that name. -/
inductive NamesNone (store : Store) (operand : String) : Prop
  | unquoted {fault : Error} (read : readName operand = .error fault) : NamesNone store operand
  | unknown {name keyword : String} (read : readName operand = .ok name)
      (missing : store.searchField name = .error (.unknownField keyword)) : NamesNone store operand

/-- A comparison is one of the field that its left operand names. -/
theorem resolve_of_left (named : resolveField store left = .ok field) (comparator : Comparator)
    (right : String) : resolve store (.binary left (.compare comparator) right) =
      (do return (field, .compare comparator (← readScalar right))) := by
  obtain ⟨name, read, found⟩ := Outcome.bind_eq_ok_iff.1 named
  simp only [resolve, resolveComparison, read, found]

/-- A comparison whose left operand names no field is the mirrored one of the field that its right
operand names. -/
theorem resolve_of_right (unnamed : NamesNone store left)
    (named : resolveField store right = .ok field) (comparator : Comparator) :
    resolve store (.binary left (.compare comparator) right) =
      (do return (field, .compare comparator.flip (← readScalar left))) := by
  -- Whatever the left operand is at fault with, it does not come up.
  have mirrored (otherwise : Error) : resolveMirrored store left comparator right otherwise =
      (do return (field, .compare comparator.flip (← readScalar left))) := by
    simp only [resolveMirrored, mirroredField?, named, Except.toOption]
  cases unnamed with
  | unquoted read => simp only [resolve, resolveComparison, read, mirrored]
  | unknown read missing => simp only [resolve, resolveComparison, read, missing, mirrored]

/--
A comparison of an operand that names no field with one that does resolves as the mirrored
comparison does, to the same condition or the same error, and so the same filter is built of both.

The mirrored comparison means the same: it holds of the same numbers.
-/
theorem resolve_flip (unnamed : NamesNone store left) (named : resolveField store right = .ok field)
    (comparator : Comparator) :
    let written := Expression.binary left (.compare comparator) right
    let mirrored := Expression.binary right (.compare comparator.flip) left
    resolve store written = resolve store mirrored ∧
      (do let (field, condition) ← resolve store written
          Filter.build store field condition) =
        (do let (field, condition) ← resolve store mirrored
            Filter.build store field condition) ∧
      ∀ x y : Int, comparator.holds x y = true ↔ comparator.flip.holds y x = true := by
  intro written mirrored
  -- Both operand orders take the name from the same operand once the other is known to be none.
  have same : resolve store written = resolve store mirrored :=
    (resolve_of_right unnamed named comparator).trans
      (resolve_of_left named comparator.flip left).symm
  exact ⟨same, by rw [same], fun x y => by rw [comparator.holds_flip]⟩

/-- A tree of one number field. -/
def recordTree : FieldTree where
  databaseId := "flights"
  entries := [{ field := { id := "record", name := "Record", type := .number }, parentId := none }]

/-- A quoted text on the left might be a name, and the comparison is mirrored because no field has
this name. -/
theorem resolve_flip_quoted :
    let store := recordTree.toStore
    let field : Field := { id := "record", name := "Record", type := .number }
    NamesNone store "'17000'" ∧ resolveField store "'record'" = .ok field ∧
      resolve store (.binary "'17000'" (.compare .less) "'record'") =
        resolve store (.binary "'record'" (.compare .greater) "'17000'") := by
  intro store field
  -- The quoted text is read as a name, so that a field of this name is looked for first.
  have read : readName "'17000'" = .ok "17000" := readName_write .display "17000"
  have missing : store.searchField "17000" = .error (.unknownField "17000") := rfl
  have named : resolveField store "'record'" = .ok field :=
    Outcome.bind_eq_ok_iff.2 ⟨"record", readName_write .display "record", rfl⟩
  have unnamed : NamesNone store "'17000'" := .unknown read missing
  exact ⟨unnamed, named, (resolve_flip unnamed named .less).1⟩

/-! ### Stores that fail -/

/-- An operand that is read as a name leads to the failure of the store. -/
theorem resolveField_of_fails (fails : store.Fails failure) (operand : String) :
    resolveField store operand = readName operand >>= fun name => .error (failure name) := by
  simp only [resolveField, fails.failed]

/-- With a store that fails, an expression comes to the failure for the operand in which its field
is looked for first, or to the fault in this operand. -/
theorem resolve_of_fails (fails : store.Fails failure) (expression : Expression) :
    resolve store expression =
      readName expression.fieldOperand >>= fun name => .error (failure name) := by
  -- The field operand of each form is read before anything else is looked at.
  cases expression with
  | check operand check =>
    simp only [resolve, resolveField_of_fails fails, Expression.fieldOperand]
    cases readName operand <;> rfl
  | range low outer field inner high =>
    simp only [resolve, resolveField_of_fails fails, Expression.fieldOperand]
    cases readName field <;> rfl
  | binary left operator right =>
    rw [Expression.fieldOperand]
    cases operator with
    | membership negated =>
      simp only [resolve, resolveField_of_fails fails]
      cases readName left <;> rfl
    | compare comparator =>
      -- The right operand is looked up as well, and a failure counts as no field there.
      have mirrored : mirroredField? store right = none := by
        rw [mirroredField?, resolveField_of_fails fails]
        cases readName right <;> rfl
      simp only [resolve, resolveComparison, resolveMirrored, mirrored]
      -- With no field on the right, the left operand is all that is left to be told.
      cases readName left with
      | error fault => rfl
      | ok name =>
        simp only [fails.failed, Outcome.ok_bind]
        split
        · rename_i failed
          cases failed
        · rename_i missing failed
          exact absurd (Except.error.inj failed) (fails.known name missing)
        · rename_i failed
          rw [Except.error.inj failed]

/--
The failure of a store is told by every expression that has a name where its field is looked for
first, whatever its other operands are.

A comparison whose left operand is no name tells the fault in this operand, also where the store
fails for a name on the right.
-/
theorem resolve_failure (fails : store.Fails failure) :
    (∀ expression name, readName expression.fieldOperand = .ok name →
      resolve store expression = .error (failure name)) ∧
    ∀ left comparator right fault, readName left = .error fault →
      resolve store (.binary left (.compare comparator) right) = .error fault := by
  constructor
  · -- The name of the first field operand is read before the store is asked for anything else.
    intro expression name read
    rw [resolve_of_fails fails, read]
    rfl
  · intro left comparator right fault read
    rw [resolve_of_fails fails, Expression.fieldOperand, read]
    rfl

/-- The failure of a store is told by a range around a name, although one of its bounds is at fault,
and a constant on the left of a comparison is told instead of it. -/
theorem resolve_failure_range :
    let store := recordTree.toStore.refusing ("denied " ++ ·)
    let expression := Expression.range "1" .less "'Record'" .less "[2"
    store.Fails (fun keyword => .parameter (.told ("denied " ++ keyword))) ∧
      readName expression.fieldOperand = .ok "Record" ∧
      resolve store expression = .error (.parameter (.told ("denied " ++ "Record"))) ∧
      readName "1" = .error (.malformed (.fieldNameExpected "1")) ∧
      resolve store (.binary "1" (.compare .less) "'Record'") =
        .error (.malformed (.fieldNameExpected "1")) := by
  intro store expression
  -- The bound is at fault as well, but it is not looked at before the field is found.
  have fails := recordTree.toStore.fails_refusing ("denied " ++ ·)
  have read : readName expression.fieldOperand = .ok "Record" := readName_write .display "Record"
  have fault : readName "1" = .error (.malformed (.fieldNameExpected "1")) := rfl
  obtain ⟨told, hidden⟩ := resolve_failure fails
  exact ⟨fails, read, told expression "Record" read, fault, hidden "1" .less "'Record'" _ fault⟩

/-- The failure of a store is not told by a comparison with a name on the right. -/
theorem resolve_failure_mirrored_ne :
    let store := recordTree.toStore.refusing ("denied " ++ ·)
    let failure (keyword : String) : Error := .parameter (.told ("denied " ++ keyword))
    let expression := Expression.binary "1" (.compare .equal) "'Record'"
    Expression.parse "1 == 'Record'" = .ok expression ∧ store.Fails failure ∧
      (∀ name, readName "1" ≠ .ok name) ∧ readName "'Record'" = .ok "Record" ∧
      resolve store expression ≠ .error (failure "Record") := by
  intro store failure expression
  -- The constant on the left is no name, and what the store says of the right is dropped for its
  -- fault.
  have parsed : Expression.parse "1 == 'Record'" = .ok expression := rfl
  have fault : readName "1" = .error (.malformed (.fieldNameExpected "1")) := rfl
  have read : readName "'Record'" = .ok "Record" := readName_write .display "Record"
  have told : resolve store expression = .error (.malformed (.fieldNameExpected "1")) := by
    rw [resolve_of_fails (recordTree.toStore.fails_refusing _), Expression.fieldOperand, fault]
    rfl
  refine ⟨parsed, recordTree.toStore.fails_refusing _, fun name => ?_, read, ?_⟩
  · rw [fault]
    nofun
  · rw [told]
    nofun

end Condition
end FlightQuery
