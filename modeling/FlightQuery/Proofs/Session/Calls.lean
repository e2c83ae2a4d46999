import FlightQuery.Proofs.Session.Protocol
import FlightQuery.Session.Lookup

/-! All calls to a server are made of requests. -/

namespace FlightQuery.Call

open Stateful

variable {α β : Type}

/-- A call does what some actions do. Which ones they are depends on the session, as what is asked
for may depend on what was replied before. -/
def IsRun (part : Call α) : Prop :=
  ∀ session : Session, ∃ actions, (applyTo session part).2 = session.after actions

namespace IsRun

/-- A call that leaves the session as it is does nothing. -/
theorem of_eq {part : Call α} (same : ∀ session, (applyTo session part).2 = session) :
    IsRun part := fun session => ⟨[], same session⟩

/-- Nothing is done when there is an outcome. -/
theorem ofOutcome (outcome : Outcome α) : IsRun (ofOutcome outcome) := of_eq fun _ => rfl

/-- Nothing is done for a value. -/
theorem pure (value : α) : IsRun (pure value : Call α) := of_eq fun _ => rfl

/-- Nothing is done for an error. -/
theorem throw (error : Error) : IsRun (throw error : Call α) := of_eq fun _ => rfl

/-- Actions follow one another. -/
theorem bind {part : Call α} {next : α → Call β} (first : IsRun part)
    (rest : ∀ value, IsRun (next value)) : IsRun (part >>= next) := by
  intro session
  -- The actions of the first part lead to where the second one starts.
  obtain ⟨actions, left⟩ := first session
  rw [applyTo_bind]
  cases made : applyTo session part with
  | mk outcome middle =>
    rw [made] at left
    cases outcome with
    | error error => exact ⟨actions, left⟩
    | ok value =>
      obtain ⟨actions', left'⟩ := rest value middle
      refine ⟨actions ++ actions', ?_⟩
      rw [Session.after, List.foldl_append]
      exact left'.trans (congrArg (Session.after · actions') left)

/-- A request is an action. -/
theorem request (method : String) (path : List String) (query : List (String × String))
    (body : Option Json) : IsRun (request method path query body) := by
  refine fun session => ⟨[.request method path query body], ?_⟩
  simp only [Session.after, List.foldl_cons, List.foldl_nil, Session.Action.perform,
    snd_applyTo_bind_pure]

/-- A value is fetched by a request. -/
theorem fetch (decode : Decoder α) (path : List String) (query : List (String × String)) :
    IsRun (fetch decode path query) := by
  refine .bind (.request "GET" path query none) fun answer => ?_
  -- Reading the answer sends nothing, whether it succeeds or not.
  cases Decoder.fromJson decode answer.content with
  | none => exact .throw .document
  | some value => exact .pure value

/-- The installations are fetched by a request. -/
theorem installations : IsRun installations := .fetch _ _ _

/-- An installation is looked up by a request, or without one. -/
theorem installationId (name : Option String) : IsRun (installationId name) := by
  unfold Call.installationId
  split
  · exact .pure _
  · exact .bind .installations fun found => .ofOutcome _

/-- Databases are listed by a request. -/
theorem listDatabases (id : UInt32) (groupId : Option String) : IsRun (listDatabases id groupId) :=
  .bind (.fetch _ _ _) fun _ => .pure _

/-- Databases are collected by a request for each group. -/
theorem collectDatabases (id : UInt32) (listings : Nat) (groups : List (Option String))
    (found : List Database) : IsRun (collectDatabases id listings groups found) := by
  -- The induction is on the listings that may be made, with any groups left and databases found.
  induction listings generalizing groups found with
  | zero =>
    cases groups with
    | nil => exact .pure found
    | cons group groups => exact .throw .transport
  | succ listings ih =>
    cases groups with
    | nil => exact .pure found
    | cons group groups => exact .bind (.listDatabases id group) fun listed => ih _ _

/-- A database is looked up by requests, or without one. -/
theorem findDatabase (id : UInt32) (mode : SearchMode) (name : String) :
    IsRun (findDatabase id mode name) := by
  -- A bracketed name needs no request, and any other name is searched for group by group.
  unfold Call.findDatabase
  split
  · exact .pure name
  · refine .bind (.of_eq fun _ => rfl) fun session => ?_
    exact .bind (.collectDatabases id _ _ _) fun databases =>
      .bind (.ofOutcome _) fun database => .pure _

/-- A query is submitted by a request. -/
theorem submit (installationId : UInt32) (databaseId : String) (query : Query) :
    IsRun (query.submit installationId databaseId) := .bind (.request _ _ _ _) fun _ => .pure _

/-- A table is fetched by a request. -/
theorem fetchTable (store : Store) (installationId : UInt32) (databaseId : String)
    (query : Query) : IsRun (query.fetchTable store installationId databaseId) :=
  .bind (.submit installationId databaseId query) fun _ => .ofOutcome _

end IsRun

/-- Whatever is called, tokens are held and sent as they were granted. -/
theorem IsRun.isFaithful {part : Call α} (run : IsRun part) {session : Session}
    (faithful : session.IsFaithful) : (applyTo session part).2.IsFaithful := by
  obtain ⟨actions, left⟩ := run session
  rw [left]
  exact faithful.run actions

end FlightQuery.Call
