import FlightQuery.Proofs.Search
import FlightQuery.Proofs.Session.Fetching
import FlightQuery.Session.Lookup

/-! The search for a database: every group is listed in its turn, the first one found first. -/

namespace FlightQuery

open Stateful

/-- A group, or the top, with what it is listed with and what is sent for that. -/
structure DatabaseListing where
  groupId : Option String
  /-- The databases and the groups in the reply. -/
  listed : List Call.Listed × List Call.Listed
  exchanges : List Exchange

namespace DatabaseListing

/-- The listed databases, which the group holds. -/
def databases (listing : DatabaseListing) : List Database :=
  listing.listed.1.map fun item =>
    { id := item.id, name := item.name, groupId := listing.groupId }

/-- The listed groups, each of which is to be listed too. -/
def groupIds (listing : DatabaseListing) : List (Option String) :=
  listing.listed.2.map fun item => some item.id

end DatabaseListing

namespace Call

variable {id : UInt32} {groups : List (Option String)} {before middle after : Session}
  {listings : List DatabaseListing} {last : List Exchange}

/-- The segments of the address at which databases are listed. -/
def databasesPath (id : UInt32) : List String := installationPath id ++ ["database-groups"]

/-- Exchanges ask for the listing of a group: they are logins, and requests at its address. -/
def AsksForGroup (session : Session) (id : UInt32) (groupId : Option String)
    (exchanges : List Exchange) : Prop :=
  ∀ exchange ∈ exchanges, ∃ url,
    session.address (databasesPath id) (groupQuery groupId) = .ok url ∧
      session.AsksWith (withToken "GET" url none) exchange

/-- What is asked for does not depend on what has been sent before. -/
theorem AsksForGroup.of_continues {sent exchanges : List Exchange} {groupId : Option String}
    (continues : before.Continues sent middle) (asks : AsksForGroup middle id groupId exchanges) :
    AsksForGroup before id groupId exchanges := by
  intro exchange listed
  obtain ⟨url, address_eq, asked⟩ := asks exchange listed
  -- Neither an address nor a login depends on what has been sent so far.
  exact ⟨url, continues.address_eq .. ▸ address_eq,
    asked.imp_left fun made => continues.loginRequest_eq ▸ made⟩

/-- The listing of a group fails with an error, behind some exchanges and with some more. -/
structure BreaksOff (id : UInt32) (groupId : Option String) (before : Session)
    (sent : List Exchange) (error : Error) (last : List Exchange) (after : Session) : Prop where
  fails : ∃ middle, before.Continues sent middle ∧
    applyTo middle (listDatabases id groupId) = (.error error, after)
  asks : AsksForGroup before id groupId last
  vain : last.filterMap (Exchange.value? decodeDatabases) = []

/-- A group is listed by some exchanges, which the listing is replied to in. -/
structure Lists (id : UInt32) (before : Session) (listing : DatabaseListing) (after : Session) :
    Prop where
  continues : before.Continues listing.exchanges after
  asks : AsksForGroup before id listing.groupId listing.exchanges
  replies : listing.exchanges.filterMap (Exchange.value? decodeDatabases) = [listing.listed]

/-- A group is listed, or its listing fails. -/
theorem listDatabases_cases (id : UInt32) (groupId : Option String) (before : Session) :
    (∃ error last after, applyTo before (listDatabases id groupId) = (.error error, after) ∧
      before.Continues last after ∧ BreaksOff id groupId before [] error last after) ∨
    ∃ listing groups after, listing.groupId = groupId ∧ Lists id before listing after ∧
      applyTo before (listDatabases id groupId) = (.ok (listing.databases, groups), after) ∧
      groups.map (fun group => some group.id) = listing.groupIds := by
  obtain ⟨sent, fetches⟩ := exists_fetches decodeDatabases (databasesPath id) (groupQuery groupId)
    before
  -- The listing is what is fetched, told in another way.
  have applied : applyTo before (listDatabases id groupId) =
      match applyTo before (fetch decodeDatabases (databasesPath id) (groupQuery groupId)) with
      | (.ok listed, after) =>
        (.ok (DatabaseListing.databases { groupId, listed, exchanges := sent },
          listed.2.map (Listed.toGroup groupId)), after)
      | (.error error, after) => (.error error, after) := by
    simp only [listDatabases, applyTo_bind, databasesPath]
    rcases applyTo before (fetch decodeDatabases _ _) with ⟨_ | _, _⟩ <;> rfl
  -- Fetching a group breaks the search off, or it lists what the group holds.
  cases fetched : applyTo before
      (fetch decodeDatabases (databasesPath id) (groupQuery groupId)) with
  | mk outcome after =>
    rw [fetched] at fetches applied
    cases outcome with
    | error error =>
      exact .inl ⟨error, sent, after, applied, fetches.continues, {
        fails := ⟨before, .refl before, applied⟩
        asks := fetches.asks
        vain := fetches.values_eq }⟩
    | ok listed =>
      refine .inr ⟨{ groupId, listed, exchanges := sent }, _, after, rfl, ?_, applied, ?_⟩
      · exact { continues := fetches.continues, asks := fetches.asks, replies := fetches.values_eq }
      · rw [List.map_map]
        rfl

/--
What happens when some groups are searched, together with the groups that are found in them.

The groups stand in a queue: those that are given come first, and the groups of each listing come
behind those of the listings before it.
-/
structure Searches (id : UInt32) (groups : List (Option String)) (before : Session)
    (outcome : Outcome (List Database)) (listings : List DatabaseListing) (last : List Exchange)
    (after : Session) : Prop where
  continues : before.Continues (listings.flatMap DatabaseListing.exchanges ++ last) after
  asks : ∀ listing ∈ listings, AsksForGroup before id listing.groupId listing.exchanges
  replies : ∀ listing ∈ listings,
    listing.exchanges.filterMap (Exchange.value? decodeDatabases) = [listing.listed]
  /-- Groups are listed in the order of the queue. -/
  order : listings.map DatabaseListing.groupId =
    (groups ++ listings.flatMap DatabaseListing.groupIds).take listings.length
  /-- A listing is made only when the groups found so far are not listed yet, all of them. -/
  pending : ∀ front listing back, listings = front ++ listing :: back →
    front.length < groups.length + (front.flatMap DatabaseListing.groupIds).length
  /-- The search ends when all groups are listed. -/
  complete : ∀ databases, outcome = .ok databases →
    listings.length = groups.length + (listings.flatMap DatabaseListing.groupIds).length ∧
      last = [] ∧ databases = listings.flatMap DatabaseListing.databases
  /-- Otherwise it breaks off at the next group. -/
  broken : ∀ error, outcome = .error error →
    listings.length < groups.length + (listings.flatMap DatabaseListing.groupIds).length ∧
      ∃ groupId,
        (groups ++ listings.flatMap DatabaseListing.groupIds)[listings.length]? = some groupId ∧
          BreaksOff id groupId before (listings.flatMap DatabaseListing.exchanges) error last after

namespace Searches

/-- Without a group the search is over. -/
theorem nil (id : UInt32) (session : Session) :
    Searches id [] session (.ok []) [] [] session where
  -- Nothing is asked for and nothing listed, so that the session is the same.
  continues := .refl session
  asks := by simp
  replies := by simp
  order := rfl
  pending := by simp
  complete := by simp
  broken := by simp

/-- The search breaks off at the first group. -/
theorem fail {groupId : Option String} {error : Error} (continues : before.Continues last after)
    (breaks : BreaksOff id groupId before [] error last after) :
    Searches id (groupId :: groups) before (.error error) [] last after where
  -- Nothing has been listed before the first group, and nothing follows it.
  continues := continues
  asks := by simp
  replies := by simp
  order := rfl
  pending := by simp
  complete := by simp
  broken := by
    rintro _ ⟨⟩
    exact ⟨by simp, groupId, rfl, breaks⟩

/-- The first group is listed, and its groups are searched behind the others. -/
theorem cons {listing : DatabaseListing} {outcome : Outcome (List Database)}
    (lists : Lists id before listing middle)
    (searches : Searches id (groups ++ listing.groupIds) middle outcome listings last after) :
    Searches id (listing.groupId :: groups) before
      (outcome.map fun databases => listing.databases ++ databases) (listing :: listings) last
      after := by
  -- The first group leaves the queue, and its groups enter it, so that it is the same behind it.
  have queue_eq (some : List DatabaseListing) : (listing.groupId :: groups) ++
      (listing :: some).flatMap DatabaseListing.groupIds = listing.groupId ::
        ((groups ++ listing.groupIds) ++ some.flatMap DatabaseListing.groupIds) := by simp
  have length_eq (some : List DatabaseListing) : (listing.groupId :: groups).length +
      ((listing :: some).flatMap DatabaseListing.groupIds).length =
        (groups ++ listing.groupIds).length +
          (some.flatMap DatabaseListing.groupIds).length + 1 := by
    simp only [List.length_cons, List.flatMap_cons, List.length_append]
    omega
  exact {
    continues := by
      rw [List.flatMap_cons, List.append_assoc]
      exact lists.continues.trans searches.continues
    asks := List.forall_mem_cons.2
      ⟨lists.asks, fun other listed => (searches.asks other listed).of_continues lists.continues⟩
    replies := List.forall_mem_cons.2 ⟨lists.replies, searches.replies⟩
    order := by
      rw [queue_eq, List.map_cons, List.length_cons, List.take_succ_cons, searches.order]
    -- What is pending behind the first listing is told by the rest of the search.
    pending := by
      intro front other back split
      cases front with
      | nil => simp
      | cons first front =>
        obtain ⟨rfl, split'⟩ := List.cons.inj split
        rw [length_eq]
        exact Nat.succ_lt_succ (searches.pending front other back split')
    complete := by
      intro databases succeeded
      cases outcome with
      | error error => cases succeeded
      | ok found =>
        obtain ⟨length_eq', none, rfl⟩ := searches.complete found rfl
        cases succeeded
        exact ⟨by rw [length_eq, List.length_cons, length_eq'], none, rfl⟩
    -- A group fails in the same way however many have been listed in front of it.
    broken := by
      intro error failed
      cases outcome with
      | ok found => cases failed
      | error failure =>
        cases failed
        obtain ⟨less, groupId, next, breaks⟩ := searches.broken error rfl
        obtain ⟨failing, reached, fails⟩ := breaks.fails
        refine ⟨by rw [length_eq]; exact Nat.succ_lt_succ less, groupId, ?_, ?_⟩
        · rw [queue_eq, List.length_cons, List.getElem?_cons_succ, next]
        · exact {
            fails := ⟨failing, lists.continues.trans reached, fails⟩
            asks := breaks.asks.of_continues lists.continues
            vain := breaks.vain } }

end Searches

/-- Groups are searched as long as there are some, if every listing that the server can reply to may
be made, and one that fails. -/
theorem exists_searches (id : UInt32) (count : Nat) (groups : List (Option String))
    (found : List Database) (before : Session) (enough : before.server.length < count) :
    ∃ outcome listings last,
      Searches id groups before outcome listings last
        (applyTo before (collectDatabases id count groups found)).2 ∧
      (applyTo before (collectDatabases id count groups found)).1 =
        outcome.map fun databases => found ++ databases := by
  -- The induction is on the listings that may be made. Each one uses up an event of the server.
  induction count generalizing groups found before with
  | zero => exact absurd enough (Nat.not_lt_zero _)
  | succ count ih =>
    cases groups with
    | nil => exact ⟨.ok [], [], [], .nil id before, by simp [collectDatabases, Except.map]⟩
    | cons groupId groups =>
      rw [collectDatabases, applyTo_bind]
      -- Either the search breaks off at the first group, or it goes on with the groups it holds.
      rcases listDatabases_cases id groupId before with
        ⟨error, last, after, applied, continues, breaks⟩ |
        ⟨listing, subgroups, middle, rfl, lists, applied, entered⟩
      · rw [applied]
        exact ⟨.error error, [], last, .fail continues breaks, rfl⟩
      · -- As there is a reply with the listing, less is left of the server.
        have used : 0 < listing.exchanges.length := by
          refine List.length_pos_iff.2 fun unsent => ?_
          have replies := lists.replies
          rw [unsent] at replies
          cases replies
        have enough' : middle.server.length < count := by
          have length_eq := lists.continues.length_server
          omega
        obtain ⟨outcome, listings, last, searches, outcome_eq⟩ :=
          ih (groups ++ listing.groupIds) (found ++ listing.databases) middle enough'
        rw [applied]
        simp only [entered]
        refine ⟨_, listing :: listings, last, .cons lists searches, ?_⟩
        rw [outcome_eq]
        cases outcome <;> simp [Except.map]

/--
A database is searched breadth first, unless its identifier is given.

The top is listed first, and then every group in the order in which the replies list them.
When all groups are listed, the database is the first one of the shortest name that matches.
A listing that fails is the last one, and its error is the result.
-/
theorem findDatabase_breadthFirst {id : UInt32} {mode : SearchMode} {name : String}
    (named : name.toList.head? ≠ some '[') (before : Session) :
    ∃ outcome listings last,
      Searches id [none] before outcome listings last
        (applyTo before (findDatabase id mode name)).2 ∧
      (∀ error, outcome = .error error →
        (applyTo before (findDatabase id mode name)).1 = .error error) ∧
      ∀ databases, outcome = .ok databases →
        (applyTo before (findDatabase id mode name)).1 =
          (Database.pick mode databases name).map Database.id ∧
        Database.Picks mode databases name (Database.pick mode databases name) := by
  -- Each listing uses up an event, so that the server's events are enough fuel.
  obtain ⟨outcome, listings, last, searches, outcome_eq⟩ :=
    exists_searches id (before.server.length + 1) [none] [] before (Nat.lt_succ_self _)
  refine ⟨outcome, listings, last, ?_⟩
  simp only [findDatabase, if_neg named, applyTo_bind, applyTo_get]
  cases made : applyTo before (collectDatabases id (before.server.length + 1) [none] []) with
  | mk collected after =>
    rw [made] at searches outcome_eq
    -- Nothing is sent after the search, and no error of it is lost.
    cases outcome with
    | error error =>
      obtain rfl : collected = .error error := outcome_eq
      exact ⟨searches, by simp, by simp⟩
    | ok databases =>
      obtain rfl : collected = .ok databases := outcome_eq
      refine ⟨?_, by simp, ?_⟩
      · cases picked : Database.pick mode databases name <;> simpa [picked] using searches
      · rintro _ ⟨⟩
        refine ⟨?_, Database.picks_pick mode databases name⟩
        cases picked : Database.pick mode databases name <;> simp [picked, Except.map]

/-- The reply of a server that lists databases and groups, given by their identifiers and names. -/
def sampleReply (databases groups : List (String × String)) : Event :=
  let listed (nameKey : String) (item : String × String) : Json :=
    .ofTexts [("id", item.1), (nameKey, item.2)]
  .replying 200 (.object [("databases", .list (databases.map (listed "pluralName"))),
    ("groups", .list (groups.map (listed "name")))])

/-- A session whose server has two groups at the top, of which the first one has another one. -/
def nestedSession : Session :=
  .sample [sampleReply [("u", "Flights")] [("a", ""), ("b", "")], sampleReply [] [("c", "")],
    sampleReply [("v", "Flight")] [], sampleReply [("w", "FLIGHT")] []]

/-- Of two groups at the top the second one is listed before what the first one holds, and its
database is found, although another one of the same length follows. -/
theorem findDatabase_breadthFirst_nested :
    "flight".toList.head? ≠ some '[' ∧
      (applyTo nestedSession (findDatabase 1 .contain "flight")).1 = .ok "v" ∧
      (applyTo nestedSession (findDatabase 1 .contain "flight")).2.exchanges.map
        (fun exchange => exchange.request.url.query) =
          [none, some "groupId=a".toList, some "groupId=b".toList, some "groupId=c".toList] ∧
      ∃ outcome listings last, Searches 1 [none] nestedSession outcome listings last
        (applyTo nestedSession (findDatabase 1 .contain "flight")).2 := by
  -- The run is evaluated once, and the theorem tells in which order it has searched.
  have named : "flight".toList.head? ≠ some '[' := by decide
  have evaluated : (applyTo nestedSession (findDatabase 1 .contain "flight")).1.toOption =
        some "v" ∧
      (applyTo nestedSession (findDatabase 1 .contain "flight")).2.exchanges.map
        (fun exchange => exchange.request.url.query) =
          [none, some "groupId=a".toList, some "groupId=b".toList, some "groupId=c".toList] := by
    decide +kernel
  obtain ⟨found, queries⟩ := evaluated
  obtain ⟨outcome, listings, last, searches, _⟩ :=
    @findDatabase_breadthFirst 1 .contain "flight" named nestedSession
  exact ⟨named, Outcome.toOption_eq_some_iff.1 found, queries, outcome, listings, last, searches⟩

end Call
end FlightQuery
