import FlightQuery.Proofs.Dictionary
import FlightQuery.Proofs.Discovery.Fetching

/-! Labels that are missing: they are fetched one field after the other, and a fetch that breaks off
can be taken up again. -/

namespace FlightQuery

open Stateful Exploration

/-- The labels of a field that have been fetched, and what has been sent for them. -/
structure FetchedLabels where
  fieldId : String
  exchanges : List Exchange
  labels : Labels

/-- Labels are brought by exchanges: they are the only ones that are replied, and their keys are
integers. -/
def Brings (exchanges : List Exchange) (labels : Labels) : Prop :=
  ∃ texts, exchanges.filterMap (Exchange.value? decodeLabels) = [texts] ∧
    labelsOf texts = .ok labels

namespace Discovery

/-- Exchanges ask for the labels of a field. -/
def AsksForLabels (discovery : Discovery) (id : UInt32) (fieldId : String)
    (exchanges : List Exchange) : Prop :=
  ∀ exchange ∈ exchanges, ∃ url,
    discovery.session.address (fieldPath id discovery.tree fieldId) [] = .ok url ∧
      discovery.session.AsksWith (Call.withToken "GET" url none) exchange

/-- What is asked for does not depend on what has been sent before. -/
theorem AsksForLabels.of_continues {before middle : Discovery} {sent exchanges : List Exchange}
    {id : UInt32} {fieldId : String} (continues : before.session.Continues sent middle.session)
    (database_eq : middle.tree.databaseId = before.tree.databaseId)
    (asks : middle.AsksForLabels id fieldId exchanges) :
    before.AsksForLabels id fieldId exchanges := by
  -- Addresses depend on the root and the database alone, which stay the same in a session.
  intro exchange listed
  obtain ⟨url, address_eq, asked⟩ := asks exchange listed
  rw [continues.address_eq, fieldPath, database_eq] at address_eq
  exact ⟨url, address_eq, asked.imp_left fun made => continues.loginRequest_eq ▸ made⟩

/-- What happens when the labels of some fields are fetched: those of the first ones are, and if
there are other fields, the fetch has broken off at the first of them. -/
structure FetchesLabels {α : Type} (id : UInt32) (fieldIds : List String) (before : Discovery)
    (outcome : Outcome α) (fetched : List FetchedLabels) (rest : List String)
    (last : List Exchange) (after : Discovery) : Prop where
  fieldIds_eq : fieldIds = fetched.map FetchedLabels.fieldId ++ rest
  continues : before.session.Continues (fetched.flatMap FetchedLabels.exchanges ++ last)
    after.session
  asks : ∀ one ∈ fetched, before.AsksForLabels id one.fieldId one.exchanges
  brings : ∀ one ∈ fetched, Brings one.exchanges one.labels
  asks_last : ∀ fieldId ∈ rest.head?, before.AsksForLabels id fieldId last
  vain : ∀ labels, ¬ Brings last labels
  tree_eq : after.tree = { before.tree with labels := after.tree.labels }
  stored : ∀ one ∈ fetched, after.tree.labels.find? one.fieldId = some one.labels
  kept : ∀ fieldId ∉ fetched.map FetchedLabels.fieldId,
    after.tree.labels.find? fieldId = before.tree.labels.find? fieldId
  complete : ∀ value, outcome = .ok value → rest = [] ∧ last = []
  broken : ∀ error, outcome = .error error → rest ≠ []

namespace FetchesLabels

variable {α : Type} {id : UInt32} {before middle after : Discovery} {outcome : Outcome α}
  {fetched : List FetchedLabels} {fieldIds rest : List String} {last : List Exchange}

/-- Without a field there is nothing to do. -/
theorem nil (id : UInt32) (value : α) (discovery : Discovery) :
    FetchesLabels id [] discovery (.ok value) [] [] [] discovery where
  -- Everything is told of no fields and no exchanges, and the discovery is the same.
  fieldIds_eq := rfl
  continues := .refl discovery.session
  asks := by simp
  brings := by simp
  asks_last := by simp
  vain := by simp [Brings]
  tree_eq := rfl
  stored := by simp
  kept := by simp
  complete := by simp
  broken := by simp

/-- The fetch breaks off at the first field. -/
theorem fail {session : Session} {fieldId : String} {error : Error}
    (continues : before.session.Continues last session)
    (asks : before.AsksForLabels id fieldId last) (vain : ∀ labels, ¬ Brings last labels) :
    FetchesLabels id (fieldId :: rest) before (.error error : Outcome α) [] (fieldId :: rest) last
      { before with session } where
  -- No labels are fetched, so that the tree stays and only the session goes on.
  fieldIds_eq := rfl
  continues := continues
  asks := by simp
  brings := by simp
  asks_last := by simpa using asks
  vain := vain
  tree_eq := rfl
  stored := by simp
  kept := by simp
  complete := by simp
  broken := by simp

/-- The labels of the first field are fetched, and then those of the others. -/
theorem cons {one : FetchedLabels} (distinct : (one.fieldId :: fieldIds).Nodup)
    (continues : before.session.Continues one.exchanges middle.session)
    (asks : before.AsksForLabels id one.fieldId one.exchanges)
    (brings : Brings one.exchanges one.labels)
    (added : middle.tree = before.tree.addLabels one.fieldId one.labels)
    (fetches : FetchesLabels id fieldIds middle outcome fetched rest last after) :
    FetchesLabels id (one.fieldId :: fieldIds) before outcome (one :: fetched) rest last after := by
  -- The labels of the first field are all that the rest of the fetch finds changed.
  have database_eq : middle.tree.databaseId = before.tree.databaseId := by rw [added]; rfl
  have labels_eq (fieldId : String) : middle.tree.labels.find? fieldId =
      if fieldId = one.fieldId then some one.labels else before.tree.labels.find? fieldId := by
    rw [added]
    exact Dictionary.find?_insert ..
  -- The first field is none of those whose labels are fetched later.
  have alone : one.fieldId ∉ fetched.map FetchedLabels.fieldId := fun again =>
    (List.nodup_cons.1 distinct).1 (fetches.fieldIds_eq ▸ List.mem_append_left rest again)
  exact {
    fieldIds_eq := by rw [fetches.fieldIds_eq]; rfl
    continues := by
      rw [List.flatMap_cons, List.append_assoc]
      exact continues.trans fetches.continues
    asks := List.forall_mem_cons.2
      ⟨asks, fun other listed => (fetches.asks other listed).of_continues continues database_eq⟩
    brings := List.forall_mem_cons.2 ⟨brings, fetches.brings⟩
    asks_last := fun fieldId first =>
      (fetches.asks_last fieldId first).of_continues continues database_eq
    vain := fetches.vain
    tree_eq := by rw [fetches.tree_eq, added]; rfl
    stored := by
      refine List.forall_mem_cons.2 ⟨?_, fetches.stored⟩
      rw [fetches.kept _ alone, labels_eq, if_pos rfl]
    kept := by
      intro fieldId unlisted
      rw [List.map_cons, List.mem_cons, not_or] at unlisted
      rw [fetches.kept _ unlisted.2, labels_eq, if_neg unlisted.1]
    complete := fetches.complete
    broken := fetches.broken }

/-- What is told in the end does not matter. -/
theorem map {β : Type} (tell : α → β)
    (fetches : FetchesLabels id fieldIds before outcome fetched rest last after) :
    FetchesLabels id fieldIds before (outcome.map tell) fetched rest last after where
  __ := fetches
  -- Whether the fetch has ended tells what is complete and what is broken, and a map keeps it.
  complete := by
    cases outcome with
    | error error => simp [Except.map]
    | ok value => exact fun _ _ => fetches.complete value rfl
  broken := by
    cases outcome with
    | error error => exact fun _ _ => fetches.broken error rfl
    | ok value => simp [Except.map]

/-- The fields with labels are those that had labels, and those whose labels have been fetched. -/
theorem hasLabels_iff (fetches : FetchesLabels id fieldIds before outcome fetched rest last after)
    (fieldId : String) : after.tree.hasLabels fieldId = true ↔
      fieldId ∈ fetched.map FetchedLabels.fieldId ∨ before.tree.hasLabels fieldId = true := by
  unfold FieldTree.hasLabels Dictionary.contains
  -- A field whose labels have been fetched has those, and any other field keeps its own.
  by_cases listed : fieldId ∈ fetched.map FetchedLabels.fieldId
  · obtain ⟨one, found, rfl⟩ := List.mem_map.1 listed
    simp [fetches.stored one found, listed]
  · simp only [fetches.kept fieldId listed, listed, false_or]

/-- When all labels that are missing are to be fetched, those of the other fields are left. -/
theorem missingLabels_eq
    (fetches : FetchesLabels id (missingLabels before.tree) before outcome fetched rest last after)
    (distinct : (missingLabels before.tree).Nodup) : missingLabels after.tree = rest := by
  have fields_eq : after.tree.fields = before.tree.fields := by rw [fetches.tree_eq]; rfl
  have left : missingLabels after.tree = (missingLabels before.tree).filter
      fun fieldId => fieldId ∉ fetched.map FetchedLabels.fieldId := by
    -- The fields are still the same, and some more of them have labels.
    rw [missingLabels, missingLabels, fields_eq, List.filter_map, List.filter_filter]
    congr 1
    refine List.filter_congr fun field _ => ?_
    rw [Bool.eq_iff_iff]
    simp only [Function.comp_apply, Bool.and_eq_true, decide_eq_true_eq, Bool.not_eq_true',
      ← Bool.not_eq_true, fetches.hasLabels_iff, not_or]
    exact and_left_comm
  rw [fetches.fieldIds_eq] at left distinct
  obtain ⟨_, _, apart⟩ := List.nodup_append.1 distinct
  -- As no field is listed twice, the filter takes away the first ones and no other.
  rw [left, List.filter_append, List.filter_eq_nil_iff.2 (by simp), List.nil_append]
  refine List.filter_eq_self.2 fun fieldId listed => ?_
  exact decide_eq_true fun again => apart _ again _ listed rfl

end FetchesLabels

/-- The labels of some fields are fetched in their order. -/
theorem exists_fetchesLabels (id : UInt32) {fieldIds : List String} (distinct : fieldIds.Nodup)
    (before : Discovery) :
    ∃ fetched rest last, FetchesLabels id fieldIds before
      (applyTo before (fieldIds.forM (fetchLabels id))).1 fetched rest last
      (applyTo before (fieldIds.forM (fetchLabels id))).2 := by
  -- The induction is on the fields: the fetch breaks off at the first one, or it goes on behind it.
  induction fieldIds generalizing before with
  | nil => exact ⟨[], [], [], .nil id () before⟩
  | cons fieldId fieldIds ih =>
    obtain ⟨outcome, sent, session, fetches, applied⟩ := exists_fetchLabels id fieldId before
    -- The exchanges bring labels exactly when the fetch succeeds and its keys are numbers.
    have brings_iff (labels : Labels) :
        Brings sent labels ↔ (outcome >>= labelsOf) = .ok labels := by
      rw [Brings, fetches.values_eq]
      cases outcome <;> simp [Except.toOption]
    have step : (fieldId :: fieldIds).forM (fetchLabels id) =
        fetchLabels id fieldId >>= fun _ => fieldIds.forM (fetchLabels id) := rfl
    rw [step, applyTo_bind, applied]
    cases labelled : outcome >>= labelsOf with
    | error error =>
      -- Nothing has been fetched, and all fields are left, this one included.
      refine ⟨[], fieldId :: fieldIds, sent, .fail fetches.continues fetches.asks ?_⟩
      intro labels brought
      cases labelled.symm.trans ((brings_iff labels).1 brought)
    | ok labels =>
      obtain ⟨fetched, rest, last, later⟩ := ih (List.nodup_cons.1 distinct).2
        { tree := before.tree.addLabels fieldId labels, session }
      let one : FetchedLabels := { fieldId, exchanges := sent, labels }
      have asks : before.AsksForLabels id one.fieldId one.exchanges := fetches.asks
      exact ⟨one :: fetched, rest, last,
        .cons distinct fetches.continues asks ((brings_iff labels).2 labelled) rfl later⟩

/-- Fields with unique identifiers are missing once at most. -/
theorem nodup_missingLabels {tree : FieldTree} (unique : (tree.fields.map Field.id).Nodup) :
    (missingLabels tree).Nodup :=
  unique.sublist (List.filter_sublist.map Field.id)

/-- When nothing is missing, all discrete fields have labels. -/
theorem hasLabels_of_missingLabels {tree : FieldTree} (none : missingLabels tree = [])
    {field : Field} (listed : field ∈ tree.fields) (discrete : field.type = .discrete) :
    tree.hasLabels field.id = true := by
  have found := List.filter_eq_nil_iff.1 (List.map_eq_nil_iff.1 none) field listed
  simpa [discrete] using found

/-- All labels that are missing are fetched in the order of the fields. -/
theorem exists_fetchMissingLabels (id : UInt32) {before : Discovery}
    (unique : (before.tree.fields.map Field.id).Nodup) :
    (∀ count, (applyTo before (fetchMissingLabels id)).1 = .ok count →
      count = (missingLabels before.tree).length) ∧
    ∃ fetched rest last, FetchesLabels id (missingLabels before.tree) before
      (applyTo before (fetchMissingLabels id)).1 fetched rest last
      (applyTo before (fetchMissingLabels id)).2 := by
  obtain ⟨fetched, rest, last, fetches⟩ :=
    exists_fetchesLabels id (nodup_missingLabels unique) before
  -- In the end only the number of fields is told.
  simp only [fetchMissingLabels, applyTo_bind, applyTo_get]
  cases made : applyTo before ((missingLabels before.tree).forM (fetchLabels id)) with
  | mk outcome after =>
    rw [made] at fetches
    have told := fetches.map fun _ => (missingLabels before.tree).length
    cases outcome with
    | error error => exact ⟨by simp, fetched, rest, last, told⟩
    | ok _ => exact ⟨by simp, fetched, rest, last, told⟩

/--
The fetch of all labels that are missing can be repeated and taken up again.

It asks for the labels of one field after the other.
Those of the first fields are stored, and nothing else changes in the tree.
If it succeeds, no field is left, and another fetch does nothing.
If it fails, another fetch starts with the first field that is left.
-/
theorem missingLabels_resumable {id : UInt32} {before after : Discovery} {outcome : Outcome Nat}
    (unique : (before.tree.fields.map Field.id).Nodup)
    (made : applyTo before (fetchMissingLabels id) = (outcome, after)) :
    ∃ fetched rest last,
      FetchesLabels id (missingLabels before.tree) before outcome fetched rest last after ∧
      missingLabels after.tree = rest ∧
      (∀ fieldId labels, before.tree.labels.find? fieldId = some labels →
        after.tree.labels.find? fieldId = some labels) ∧
      (∀ count, outcome = .ok count → count = (missingLabels before.tree).length ∧
        (∀ field ∈ after.tree.fields, field.type = .discrete →
          after.tree.hasLabels field.id = true) ∧
        ∀ again, applyTo after (fetchMissingLabels again) = (.ok 0, after)) ∧
      ∀ again later, later.tree = after.tree → ∃ fetched' rest' last',
        FetchesLabels again rest later (applyTo later (fetchMissingLabels again)).1 fetched' rest'
          last' (applyTo later (fetchMissingLabels again)).2 := by
  obtain ⟨counted, fetched, rest, last, fetches⟩ := exists_fetchMissingLabels id unique
  -- What is missing afterwards is what the fetch has not come to.
  rw [made] at counted fetches
  have left := fetches.missingLabels_eq (nodup_missingLabels unique)
  have fields_eq : after.tree.fields = before.tree.fields := by rw [fetches.tree_eq]; rfl
  refine ⟨fetched, rest, last, fetches, left, fun fieldId labels known => ?_,
    fun count succeeded => ⟨counted count succeeded, ?_, fun again => ?_⟩,
    fun again later tree_eq => ?_⟩
  · -- A field that has labels is not missing, so that none are fetched for it.
    rw [fetches.kept fieldId, known]
    intro listed
    have missing : fieldId ∈ missingLabels before.tree :=
      fetches.fieldIds_eq ▸ List.mem_append_left rest listed
    obtain ⟨field, found, rfl⟩ := List.mem_map.1 missing
    have unlabelled := (List.mem_filter.1 found).2
    simp [FieldTree.hasLabels, Dictionary.contains, known] at unlabelled
  · rw [(fetches.complete count succeeded).1] at left
    exact fun field listed discrete => hasLabels_of_missingLabels left listed discrete
  · rw [(fetches.complete count succeeded).1] at left
    simp [fetchMissingLabels, left]
  · -- The fields that are left are those that a later fetch finds missing.
    have unique' : (later.tree.fields.map Field.id).Nodup := by
      rw [tree_eq, fields_eq]
      exact unique
    have resumed := (exists_fetchMissingLabels again unique').2
    rwa [tree_eq, left] at resumed

/-- A fetch that breaks off at the second of two fields leaves this one to be fetched. -/
theorem missingLabels_resumable_broken :
    let entry (id : String) : FieldEntry :=
      { field := { id, name := "", type := .discrete }, parentId := none }
    let before : Discovery := {
      tree := { databaseId := "flights", entries := [entry "a", entry "b"] }
      session := .sample [.replying 200 (.object [("discreteValues", .ofTexts [("1", "on")])]),
        { reply := none }] }
    (before.tree.fields.map Field.id).Nodup ∧
      ∃ outcome after, applyTo before (fetchMissingLabels 1) = (outcome, after) ∧
        outcome.isOk = false ∧ after.tree.labels = .ofList [("a", .ofList [(1, "on")])] ∧
        missingLabels after.tree = ["b"] ∧
        ∃ fetched rest last,
          FetchesLabels 1 (missingLabels before.tree) before outcome fetched rest last after ∧
          missingLabels after.tree = rest := by
  intro entry before
  -- What is left after the fetch is evaluated, and the theorem names what has been fetched.
  have unique : (before.tree.fields.map Field.id).Nodup := by decide
  have evaluated : (applyTo before (fetchMissingLabels 1)).1.isOk = false ∧
      (applyTo before (fetchMissingLabels 1)).2.tree.labels = .ofList [("a", .ofList [(1, "on")])] ∧
      missingLabels (applyTo before (fetchMissingLabels 1)).2.tree = ["b"] := by
    decide +kernel
  cases made : applyTo before (fetchMissingLabels 1) with
  | mk outcome after =>
    rw [made] at evaluated
    obtain ⟨fetched, rest, last, fetches, left, _⟩ := missingLabels_resumable unique made
    exact ⟨unique, outcome, after, rfl, evaluated.1, evaluated.2.1, evaluated.2.2,
      fetched, rest, last, fetches, left⟩

end Discovery
end FlightQuery
