import FlightQuery.Proofs.Discovery.Fetching
import FlightQuery.Proofs.FieldTree.Path

/-! Paths that are fetched: the fields they lead to are found again by the same path. -/

namespace FlightQuery

open Stateful Exploration

/-- A group, or the root, and what it is listed with. -/
structure Visit where
  groupId : Option String
  listing : Listing

namespace Visit

/-- The groups that are listed in a visit. -/
def groups (visit : Visit) : List FieldGroup := visit.listing.groups visit.groupId

/-- The fields of known types that are listed in a visit. -/
def fields (visit : Visit) : List Field := visit.listing.fields

/-- Visits follow a path: each is one of the group with the shortest name among those that match
the next keyword and are listed in the visit before. -/
inductive Follows (mode : SearchMode) : (visit : Visit) → (keywords : List String) →
    (later : List Visit) → Prop
  | stop (visit : Visit) : Follows mode visit [] []
  | descend {visit next : Visit} {keyword : String} {keywords : List String} {group : FieldGroup}
      {later : List Visit}
      (found : shortestMatch? mode FieldGroup.name keyword visit.groups = some group)
      (next_eq : next.groupId = some group.id) (rest : Follows mode next keywords later) :
      Follows mode visit (keyword :: keywords) (next :: later)

end Visit

namespace FieldTree

variable {tree : FieldTree} {visit : Visit}

/-- The tree behind some visits. -/
def growAll (tree : FieldTree) (visits : List Visit) : FieldTree :=
  visits.foldl (fun tree visit => tree.grow visit.groupId visit.listing) tree

/-- A tree shows what was listed in a visit. -/
structure Shows (tree : FieldTree) (visit : Visit) : Prop where
  groups : ∀ group ∈ visit.groups, group ∈ tree.groups
  entries : ∀ field ∈ visit.fields, { field, parentId := visit.groupId } ∈ tree.entries

/-- Visits leave the search mode as it is. -/
theorem searchMode_growAll (tree : FieldTree) (visits : List Visit) :
    (tree.growAll visits).searchMode = tree.searchMode := by
  induction visits generalizing tree with
  | nil => rfl
  | cons visit visits ih => exact ih (tree.grow visit.groupId visit.listing)

/-- A tree shows what was listed last, if the identifiers are distinct. -/
theorem shows_grow {later : List Visit}
    (groups : (((visit :: later).map Visit.listing).flatMap Listing.groupIds).Nodup)
    (fields : (((visit :: later).map Visit.listing).flatMap Listing.fieldIds).Nodup) :
    (tree.grow visit.groupId visit.listing).Shows visit where
  groups group listed := by
    refine (mem_replaceAll ?_).2 (.inl listed)
    rw [Listing.map_id_groups]
    exact (List.nodup_append.1 groups).1
  entries field listed := by
    -- Not all that is listed is added, but what is added has distinct identifiers all the same.
    refine (mem_replaceAll ?_).2 (.inl (List.mem_map_of_mem listed))
    rw [List.map_map]
    exact (List.nodup_append.1 fields).1.sublist visit.listing.map_id_fields

/-- A group stays in a tree unless its identifier is listed again. -/
theorem mem_groups_growAll {visits : List Visit} {group : FieldGroup} (known : group ∈ tree.groups)
    (distinct : ((visits.map Visit.listing).flatMap Listing.groupIds).Nodup)
    (unlisted : group.id ∉ (visits.map Visit.listing).flatMap Listing.groupIds) :
    group ∈ (tree.growAll visits).groups := by
  -- Each listing in turn replaces other groups only.
  induction visits generalizing tree with
  | nil => exact known
  | cons visit visits ih =>
    rw [List.map_cons, List.flatMap_cons] at distinct unlisted
    obtain ⟨first, rest, _⟩ := List.nodup_append.1 distinct
    rw [List.mem_append, not_or] at unlisted
    refine ih ?_ rest unlisted.2
    rw [← Listing.map_id_groups visit.groupId] at first unlisted
    exact (mem_replaceAll first).2 (.inr ⟨known, unlisted.1⟩)

/-- Visits that follow a path lead to the last one of them, whose fields stand in the tree. -/
theorem leads_of_follows {keywords : List String} {later : List Visit}
    (follows : visit.Follows tree.searchMode keywords later) (shows : tree.Shows visit)
    (groups : (((visit :: later).map Visit.listing).flatMap Listing.groupIds).Nodup)
    (fields : (((visit :: later).map Visit.listing).flatMap Listing.fieldIds).Nodup) :
    ∃ last, (visit :: later).getLast? = some last ∧
      (tree.growAll later).Leads visit.groupId keywords last.groupId ∧
      ∀ field ∈ last.fields,
        { field, parentId := last.groupId } ∈ (tree.growAll later).entries := by
  -- The induction is on the visits, and the tree always shows the one that was made last.
  generalize mode_eq : tree.searchMode = mode at follows
  induction follows generalizing tree with
  | stop visit => exact ⟨visit, rfl, .here fun id held => held, shows.entries⟩
  | @descend visit next keyword keywords group later found next_eq _ ih =>
    obtain ⟨listed, accepted⟩ := shortestMatch?_mem found
    rw [List.map_cons, List.flatMap_cons] at groups fields
    obtain ⟨_, laterGroups, apart⟩ := List.nodup_append.1 groups
    obtain ⟨_, laterFields, _⟩ := List.nodup_append.1 fields
    obtain ⟨last, last_eq, leads, entries⟩ :=
      ih (shows_grow laterGroups laterFields) laterGroups laterFields mode_eq
    -- The group that is visited next stays until the end, as its identifier is not listed again.
    have known : group ∈ (tree.growAll (next :: later)).groups := by
      refine mem_groups_growAll (shows.groups group listed) laterGroups fun again => ?_
      have named : group.id ∈ visit.listing.groupIds :=
        Listing.map_id_groups visit.groupId visit.listing ▸ List.mem_map_of_mem listed
      exact apart _ named _ again rfl
    refine ⟨last, by rw [List.getLast?_cons_cons, last_eq], ?_, entries⟩
    refine .through known ?_ ?_ (next_eq ▸ leads)
    · rw [Listing.parentId_of_mem_groups listed]
      exact fun id held => held
    · rw [searchMode_growAll, mode_eq]
      exact accepted

end FieldTree

namespace Exploration

/-- A group that is fetched is visited. -/
theorem visit_of_fetchGroup {id : UInt32} {groupId : Option String} {before after : Discovery}
    {groups : List FieldGroup}
    (fetched : applyTo before (fetchGroup id groupId) = (.ok groups, after)) :
    ∃ (visit : Visit) (sent : List Exchange), visit.groupId = groupId ∧ groups = visit.groups ∧
      after.tree = before.tree.grow visit.groupId visit.listing ∧
      before.session.Continues sent after.session ∧
      sent.filterMap (Exchange.value? decodeGroup) = [visit.listing] := by
  -- A fetch is one call, whose only listing is the one that the tree grows by.
  obtain ⟨outcome, sent, session, fetches, applied⟩ := exists_fetchGroup id groupId before
  rw [fetched] at applied
  cases outcome with
  | error error => simp at applied
  | ok listing =>
    simp only [Prod.mk.injEq, Except.ok.injEq] at applied
    obtain ⟨rfl, rfl⟩ := applied
    exact ⟨{ groupId, listing }, sent, rfl, rfl, rfl, fetches.continues, fetches.values_eq⟩

/-- A descent makes visits that follow the keywords. -/
theorem follows_of_descend {id : UInt32} {keywords : List String} {before after : Discovery}
    {visit : Visit}
    (fetched : applyTo before (descend id visit.groups keywords) = (.ok (), after)) :
    ∃ (later : List Visit) (sent : List Exchange),
      visit.Follows before.tree.searchMode keywords later ∧
      after.tree = before.tree.growAll later ∧ before.session.Continues sent after.session ∧
      sent.filterMap (Exchange.value? decodeGroup) = later.map Visit.listing := by
  -- The keywords are used up one by one, each by the visit that its group is fetched in.
  induction keywords generalizing before visit with
  | nil =>
    cases fetched
    exact ⟨[], [], .stop visit, rfl, .refl _, rfl⟩
  | cons keyword keywords ih =>
    rw [descend, applyTo_bind, applyTo_get] at fetched
    cases found : shortestMatch? before.tree.searchMode FieldGroup.name keyword visit.groups with
    | none => simp [found] at fetched
    | some group =>
      simp only [found] at fetched
      obtain ⟨_, middle, listed, rest⟩ := applyTo_bind_eq_ok_iff.1 fetched
      obtain ⟨next, sent, next_eq, rfl, tree_eq, continues, values_eq⟩ :=
        visit_of_fetchGroup listed
      obtain ⟨later, sent', follows, tree_eq', continues', values_eq'⟩ := ih rest
      -- The listing leaves the search mode as it is.
      have mode_eq : middle.tree.searchMode = before.tree.searchMode := by rw [tree_eq]; rfl
      refine ⟨next :: later, sent ++ sent', .descend found next_eq (mode_eq ▸ follows), ?_,
        continues.trans continues', ?_⟩
      · rw [tree_eq', tree_eq]
        rfl
      · rw [List.filterMap_append, values_eq, values_eq', List.map_cons, List.singleton_append]

/-- What has been listed from one point of a discovery to another. -/
def listings (before after : Discovery) : List Listing :=
  (after.session.exchanges.drop before.session.exchanges.length).filterMap
    (Exchange.value? decodeGroup)

/-- A path that is fetched makes a visit of the root, and visits that follow the keywords. -/
theorem follows_of_fetchPath {id : UInt32} {keywords : List String} {before after : Discovery}
    (fetched : applyTo before (fetchPath id keywords) = (.ok (), after)) :
    ∃ (root : Visit) (tree : FieldTree) (later : List Visit), root.groupId = none ∧
      tree = before.tree.grow root.groupId root.listing ∧
      root.Follows tree.searchMode keywords later ∧ after.tree = tree.growAll later ∧
      listings before after = (root :: later).map Visit.listing := by
  -- The path begins with a visit of the root, and what the root lists is descended from.
  obtain ⟨_, middle, listed, rest⟩ := applyTo_bind_eq_ok_iff.1 fetched
  obtain ⟨root, sent, root_eq, rfl, tree_eq, continues, values_eq⟩ := visit_of_fetchGroup listed
  obtain ⟨later, sent', follows, tree_eq', continues', values_eq'⟩ := follows_of_descend rest
  refine ⟨root, middle.tree, later, root_eq, tree_eq, follows, tree_eq', ?_⟩
  -- The listings of the root and of the descent are those of the exchanges behind the start.
  rw [listings, (continues.trans continues').exchanges_eq, List.drop_left,
    List.filterMap_append, values_eq, values_eq', List.map_cons, List.singleton_append]

/--
The fields that a path leads to when it is fetched are found by the same path.

The identifiers in the listings have to be distinct, as later ones stand in place of earlier ones.
A field is found that matches the name of the one that was listed last, and its name is not longer.
-/
theorem exists_searchPath_of_fetchPath {id : UInt32} {keywords : List String}
    {before after : Discovery}
    (fetched : applyTo before (fetchPath id keywords) = (.ok (), after))
    (groups : ((listings before after).flatMap Listing.groupIds).Nodup)
    (fields : ((listings before after).flatMap Listing.fieldIds).Nodup) :
    ∃ last, (listings before after).getLast? = some last ∧ ∀ field ∈ Listing.fields last,
      ∃ found, after.tree.searchPath (keywords ++ [field.name]) = .ok found ∧
        after.tree.searchMode.accepts found.name field.name = true ∧
        found.name.length ≤ field.name.length := by
  obtain ⟨root, tree, later, root_eq, grown, follows, tree_eq, listings_eq⟩ :=
    follows_of_fetchPath fetched
  rw [listings_eq] at groups fields ⊢
  -- Once the root is listed, its groups lead to the last visit.
  have shows : tree.Shows root := grown ▸ FieldTree.shows_grow groups fields
  obtain ⟨last, last_eq, leads, entries⟩ := FieldTree.leads_of_follows follows shows groups fields
  rw [← tree_eq, root_eq] at leads
  rw [← tree_eq] at entries
  refine ⟨last.listing, by rw [List.getLast?_map, last_eq]; rfl, fun field known => ?_⟩
  exact FieldTree.exists_searchPath (entries field known) leads (SearchMode.accepts_self _ _)

/-- Of two groups the one with the shorter name is fetched, and its field is found. -/
theorem exists_searchPath_of_fetchPath_roll :
    let before : Discovery := {
      tree := { databaseId := "flights" }
      session := .sample [
        .replying 200 (.object [("groups", .list [.ofTexts [("id", "a"), ("name", "Rollout")],
          .ofTexts [("id", "b"), ("name", "Roll")]])]),
        .replying 200 (.object [("fields", .list [
          .ofTexts [("id", "c"), ("name", "Speed"), ("type", "number")]])])] }
    let after := (applyTo before (fetchPath 1 ["roll"])).2
    applyTo before (fetchPath 1 ["roll"]) = (.ok (), after) ∧
      ((listings before after).flatMap Listing.groupIds).Nodup ∧
      ((listings before after).flatMap Listing.fieldIds).Nodup ∧
      ∃ last, (listings before after).getLast? = some last ∧ ∀ field ∈ Listing.fields last,
        ∃ found, after.tree.searchPath (["roll"] ++ [field.name]) = .ok found ∧
          after.tree.searchMode.accepts found.name field.name = true ∧
          found.name.length ≤ field.name.length := by
  intro before after
  -- The run is evaluated once, and the search is left to the theorem.
  have evaluated : (applyTo before (fetchPath 1 ["roll"])).1.isOk = true ∧
      ((listings before after).flatMap Listing.groupIds).Nodup ∧
      ((listings before after).flatMap Listing.fieldIds).Nodup := by decide +kernel
  obtain ⟨succeeds, groups, fields⟩ := evaluated
  -- That the run succeeds is all that its outcome can tell.
  have fetched : applyTo before (fetchPath 1 ["roll"]) = (.ok (), after) := by
    refine Prod.ext ?_ rfl
    cases outcome_eq : (applyTo before (fetchPath 1 ["roll"])).1 with
    | error error => simp [outcome_eq, Except.isOk, Except.toBool] at succeeds
    | ok _ => rfl
  exact ⟨fetched, groups, fields, exists_searchPath_of_fetchPath fetched groups fields⟩

end Exploration
end FlightQuery
