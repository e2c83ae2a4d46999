import FlightQuery.Proofs.CommandLine.Activity
import FlightQuery.Proofs.Discovery.Continuation
import FlightQuery.Proofs.FieldTree.RoundTrip

/-! Discoveries of field trees: nothing is stored before all of a tree has been fetched. -/

namespace FlightQuery.CommandLine

open Stateful

/-! ### The cache on the disk -/

namespace Environment

variable {environment : Environment} {shell : Shell} {key : CacheKey} {tree : FieldTree}

/-- The file of the cache in which the tree of a key is kept. -/
def keptFile? (environment : Environment) (disk : Disk) (key : CacheKey) : Option StoredFile :=
  (disk.folder? environment.cacheFolder).bind fun files => files.find? key.file

/-- The tree that the cache keeps under a key. -/
def kept? (environment : Environment) (shell : Shell) (key : CacheKey) : Option FieldTree :=
  (Cache.get shell.diskTime none key (shell.disk.folder? environment.cacheFolder)).1

/-- Trees do not expire as long as no greatest age is given. -/
theorem kept?_eq (environment : Environment) (shell : Shell) (key : CacheKey) :
    environment.kept? shell key = (environment.keptFile? shell.disk key).bind Cache.tree? := by
  unfold kept? keptFile? Cache.get Cache.find?
  cases (shell.disk.folder? environment.cacheFolder).bind _ <;> rfl

/-- A tree that is saved to the file of a key is kept under the key. -/
theorem kept?_of_keptFile? {now : Int} (found : environment.keptFile? shell.disk key =
    some { content := .text tree.save, modified := now }) :
    environment.kept? shell key = some tree := by
  -- A saved tree reads back as itself, so the file found under the key is the tree.
  rw [kept?_eq, found, Option.bind_some]
  simp only [Cache.tree?, StoredFile.toFile, FieldTree.ofFile, tree.load_save]
  rfl

/-- A tree that the cache has saved is found in its file. -/
theorem keptFile?_of_save {disk : Disk} {now : Int} {cache : Cache}
    (saved : disk.folder? environment.cacheFolder = cache.save now key tree) :
    environment.keptFile? disk key = some { content := .text tree.save, modified := now } := by
  -- The cache has put the file into its folder last.
  rw [keptFile?, saved, Cache.save, Cache.put, Option.bind_some, Dictionary.find?_insert,
    if_pos rfl]

end Environment

/-! ### Surveys -/

/-- An exploration is made by the session, and it tells the tree. -/
theorem applyTo_explore {α : Type} (session : Session) (tree : FieldTree)
    (exploration : Exploration α) :
    applyTo session (explore tree exploration) =
      ((applyTo { tree, session } exploration).1.map
        (·, (applyTo { tree, session } exploration).2.tree),
        (applyTo { tree, session } exploration).2.session) := rfl

namespace SchemaOptions

variable (options : SchemaOptions) (connected : Outcome Session)
  (kept? : CacheKey → Option FieldTree)

/-- The lookups of a discovery find what it is about, and leave a session. -/
inductive Finds : CacheKey → Session → Prop
  | intro {start middle session : Session} {installationId : UInt32} {databaseId : String}
      (connects : connected = .ok start)
      (installation : applyTo start (Call.installationId options.installation) =
        (.ok installationId, middle))
      (database : applyTo middle (Call.findDatabase installationId .contain options.database) =
        (.ok databaseId, session)) :
      Finds { root := session.root, installationId, databaseId } session

/-- The tree that a discovery starts with: the one that is kept, or else one of which nothing but
the database is known. -/
def origin (key : CacheKey) : FieldTree :=
  (if options.refresh then none else kept? key).getD { databaseId := key.databaseId }

/-- A discovery breaks off with an error: there is no connection, one of the lookups fails, or a
fetch does. -/
inductive Breaks : Error → Prop
  | connection {error : Error} (refused : connected = .error error) : Breaks error
  | installation {start after : Session} {error : Error} (connects : connected = .ok start)
      (failed : applyTo start (Call.installationId options.installation) = (.error error, after)) :
      Breaks error
  | database {start middle after : Session} {installationId : UInt32} {error : Error}
      (connects : connected = .ok start)
      (installation : applyTo start (Call.installationId options.installation) =
        (.ok installationId, middle))
      (failed : applyTo middle (Call.findDatabase installationId .contain options.database) =
        (.error error, after)) : Breaks error
  | fetch {key : CacheKey} {session : Session} {after : Discovery} {error : Error}
      (finds : Finds options connected key session)
      (failed : applyTo { tree := options.origin kept? key, session }
        (options.exploration key.installationId) = (.error error, after)) : Breaks error

/-- A discovery finds a tree, and tells how many fields had their labels fetched. -/
structure Discovers (key : CacheKey) (session : Session) (labelled : Option Nat)
    (after : Discovery) : Prop where
  finds : Finds options connected key session
  fetched : applyTo { tree := options.origin kept? key, session }
    (options.exploration key.installationId) = (.ok labelled, after)

variable {options connected kept?}

/-- A discovery breaks off, or it finds a tree. -/
theorem breaks_or_discovers (options : SchemaOptions) (connected : Outcome Session)
    (kept? : CacheKey → Option FieldTree) :
    (∃ error, options.Breaks connected kept? error) ∨ ∃ key session labelled after,
      options.Discovers connected kept? key session labelled after := by
  -- Each stage is entered only when the one in front of it has succeeded.
  cases connected with
  | error error => exact .inl ⟨error, .connection rfl⟩
  | ok start =>
    rcases installation : applyTo start (Call.installationId options.installation) with
      ⟨error | installationId, middle⟩
    · exact .inl ⟨error, .installation rfl installation⟩
    · rcases database : applyTo middle
        (Call.findDatabase installationId .contain options.database) with
        ⟨error | databaseId, session⟩
      · exact .inl ⟨error, .database rfl installation database⟩
      · have finds : options.Finds (.ok start) _ session := .intro rfl installation database
        rcases fetched : applyTo { tree := options.origin kept? _, session }
          (options.exploration installationId) with ⟨error | labelled, after⟩
        · exact .inl ⟨error, .fetch finds fetched⟩
        · exact .inr ⟨_, session, labelled, after, finds, fetched⟩

/-- Once the lookups have found what a discovery is about, the survey fetches what is asked for. -/
theorem Finds.applyTo_survey {key : CacheKey} {session : Session}
    (finds : options.Finds connected key session) (kept? : CacheKey → Option FieldTree) :
    ∃ start, connected = .ok start ∧
      applyTo start (options.survey kept?) = applyTo session (do
        let found ← explore (options.origin kept? key) (options.exploration key.installationId)
        return { key, tree := found.2, labelled := found.1 : Survey }) := by
  -- Both lookups are known to succeed, and only the fetching is left of the survey.
  obtain ⟨connects, installation, database⟩ := finds
  refine ⟨_, connects, ?_⟩
  simp only [survey, applyTo_bind, installation, database, applyTo_get]
  rfl

variable {environment : Environment} {shell : Shell}

/-- A survey tells the tree that a discovery finds. -/
theorem Discovers.applyTo_inSession {key : CacheKey} {session : Session} {labelled : Option Nat}
    {after : Discovery}
    (discovers : options.Discovers (environment.connect shell) kept? key session labelled after) :
    applyTo shell (Activity.inSession (options.survey kept?) environment) =
      (.ok { key, tree := after.tree, labelled }, shell.behind after.session) := by
  -- The session begins with the lookups that the discovery has made already.
  obtain ⟨start, connects, surveyed⟩ := discovers.finds.applyTo_survey kept?
  rw [CommandLine.applyTo_inSession connects, surveyed, applyTo_bind, applyTo_explore,
    discovers.fetched]
  rfl

/-- A survey fails where a discovery breaks off, and it leaves the disk as it is. -/
theorem Breaks.applyTo_inSession {error : Error}
    (breaks : options.Breaks (environment.connect shell) kept? error) :
    ∃ after, applyTo shell (Activity.inSession (options.survey kept?) environment) =
      (.error error, after) ∧ after.disk = shell.disk := by
  -- There is one case for each place at which a survey can break off, in their order.
  cases breaks with
  | connection refused => exact ⟨shell, applyTo_inSession_of_error refused _, rfl⟩
  | installation connects failed =>
    refine exists_applyTo_inSession_of_failed connects ?_
    rw [survey, applyTo_bind, failed]
  | database connects installation failed =>
    refine exists_applyTo_inSession_of_failed connects ?_
    simp only [survey, applyTo_bind, installation, failed]
  | fetch finds failed =>
    obtain ⟨start, connects, surveyed⟩ := finds.applyTo_survey kept?
    refine exists_applyTo_inSession_of_failed connects ?_
    rw [surveyed, applyTo_bind, applyTo_explore, failed]
    rfl

/-- What is fetched goes on with the tree that a discovery starts with. -/
theorem isPartOf_of_exploration {id : UInt32} {labelled : Option Nat} {before after : Discovery}
    (fetched : applyTo before (options.exploration id) = (.ok labelled, after)) :
    before.tree.IsPartOf after.tree := by
  obtain ⟨_, middle, path, rest⟩ := applyTo_bind_eq_ok_iff.1 fetched
  have first := Discovery.isPartOf_of_fetchPath path
  split at rest
  · -- The missing labels are fetched for the tree that the path has left.
    obtain ⟨count, last, labels, told⟩ := applyTo_bind_eq_ok_iff.1 rest
    cases told
    exact first.trans (Discovery.isPartOf_of_fetchMissingLabels labels)
  · cases rest
    exact first

/-! ### The commit -/

/-- Keep a tree in the cache, and save it. -/
def store (options : SchemaOptions) (survey : Survey) : Activity Unit := do
  Activity.keep { survey.key with databaseId := survey.tree.databaseId } survey.tree
  Activity.write options.output (.text survey.tree.save)
  Activity.printLine ("Saved " ++ survey.tree.fields.length.repr ++ " fields of " ++
    survey.key.databaseId ++ " to " ++ options.output)

/-- Tell what has been fetched, and store the tree. -/
def commit (options : SchemaOptions) (survey : Survey) : Activity Unit := do
  match survey.labelled with
  | some count =>
    Activity.printLine ("Fetched value maps of " ++ count.repr ++ " discrete fields")
  | none => pure ()
  options.store survey

/-- A discovery surveys first and commits then. -/
theorem schema_eq (options : SchemaOptions) : schema options = (do
    let cache ← Activity.cache
    let shell ← get
    let survey ← Activity.inSession
      (options.survey fun key => (cache.get shell.diskTime none key).1)
    options.commit survey) := by
  -- What follows the survey is cut off as a part of its own, which leaves the steps as they are.
  unfold schema commit store
  rfl

/-- The survey starts from the cache on the disk. -/
theorem applyTo_schema (options : SchemaOptions) (environment : Environment) (shell : Shell) :
    applyTo shell (schema options environment) = applyTo shell (do
      let survey ← Activity.inSession (options.survey (environment.kept? shell)) environment
      options.commit survey environment) := by
  -- Neither the cache nor the surroundings change when they are looked at.
  rw [schema_eq, Activity.bind_apply, applyTo_bind, Activity.applyTo_cache]
  simp only [Activity.bind_apply]
  rw [applyTo_bind, Activity.applyTo_get]
  rfl

/-- Nothing but the output changes before a tree is stored. -/
theorem exists_applyTo_commit (options : SchemaOptions) (environment : Environment) (shell : Shell)
    (survey : Survey) : ∃ output, applyTo shell (options.commit survey environment) =
      applyTo { shell with output } (options.store survey environment) := by
  -- A line is printed when labels were asked for.
  obtain ⟨key, tree, labelled⟩ := survey
  unfold commit
  cases labelled with
  | none => exact ⟨shell.output, rfl⟩
  | some count =>
    simp only [Activity.bind_apply, applyTo_bind, Activity.applyTo_printLine]
    exact ⟨_, rfl⟩

/-- A tree is kept in the cache and written where the path of the output leads, unless the disk does
not take one of the files. -/
theorem store_cases (options : SchemaOptions) (environment : Environment) (shell : Shell)
    (survey : Survey) :
    let key : CacheKey := { survey.key with databaseId := survey.tree.databaseId }
    ∃ outcome after, applyTo shell (options.store survey environment) = (outcome, after) ∧
      (outcome = .error .storage ∨ outcome = .ok () ∧ ∃ (kept : Disk) (place : Place),
        kept.folder? environment.cacheFolder = Cache.save shell.diskTime key survey.tree
          (shell.disk.folder? environment.cacheFolder) ∧
        kept.resolve? environment.workFolder options.output = some place ∧
        kept.write shell.diskTime place (.text survey.tree.save) = .ok after.disk) := by
  intro key
  simp only [store, Activity.bind_apply, applyTo_bind]
  rcases Activity.keep_cases environment shell key survey.tree with
    ⟨after, failed⟩ | ⟨kept, done, saved⟩
  · -- The cache is written first, and its failure leaves the output unwritten.
    rw [failed]
    exact ⟨_, after, rfl, .inl rfl⟩
  · -- Behind the cache, all that is left is the file of the output.
    rw [done]
    rcases Activity.write_cases environment { shell with disk := kept } options.output
      (.text survey.tree.save) with failed | ⟨place, disk, resolved, written, taken⟩
    · simp only [failed]
      exact ⟨_, _, rfl, .inl rfl⟩
    · simp only [taken]
      exact ⟨_, _, rfl, .inr ⟨rfl, kept, place, saved, resolved, written⟩⟩

/-- A tree that is kept and written is loaded from both files. -/
theorem loaded_of_write {kept : Disk} {now : Int} {key : CacheKey} {tree : FieldTree}
    {cache : Cache} {place : Place} (after : Shell)
    (saved : kept.folder? environment.cacheFolder = cache.save now key tree)
    (resolved : kept.resolve? environment.workFolder options.output = some place)
    (written : kept.write now place (.text tree.save) = .ok after.disk) :
    environment.kept? after key = some tree ∧
      applyTo after (Activity.loadTree options.output environment) = (.ok tree, after) := by
  constructor
  · -- The file that is written holds the same text if it is that of the cache.
    have found := Disk.find?_of_write written environment.cacheFolder key.file
    have before := Environment.keptFile?_of_save saved
    rw [Environment.keptFile?] at before
    rw [before, ite_self] at found
    exact Environment.kept?_of_keptFile? found
  · -- No folder appears or disappears, so that the path leads to the same place afterwards.
    rw [← Disk.resolve?_of_write written] at resolved
    refine Activity.applyTo_loadTree environment after resolved ?_
    rw [Disk.find_of_write written]
    exact tree.load_save

/-- A discovery that breaks off fails before anything is stored. -/
theorem Breaks.applyTo_schema {error : Error}
    (breaks : options.Breaks (environment.connect shell) (environment.kept? shell) error) :
    ∃ after, applyTo shell (schema options environment) = (.error error, after) ∧
      after.disk = shell.disk := by
  -- The session fails before anything is saved, and what follows it is skipped.
  obtain ⟨after, failed, disk_eq⟩ := breaks.applyTo_inSession
  rw [SchemaOptions.applyTo_schema, applyTo_bind, failed]
  exact ⟨after, rfl, disk_eq⟩

/-- A discovery that finds a tree keeps it in the cache and saves it in the output, or the disk does
not take one of the files. -/
theorem Discovers.applyTo_schema {key : CacheKey} {session : Session} {labelled : Option Nat}
    {found : Discovery} (discovers : options.Discovers (environment.connect shell)
      (environment.kept? shell) key session labelled found) :
    let saved := { key with databaseId := found.tree.databaseId }
    ∃ outcome after, applyTo shell (schema options environment) = (outcome, after) ∧
      (outcome = .error .storage ∨ outcome = .ok () ∧
        environment.kept? after saved = some found.tree ∧
        applyTo after (Activity.loadTree options.output environment) =
          (.ok found.tree, after)) := by
  intro saved
  -- After the survey only output and files are left, and only the files can fail.
  obtain ⟨output, committed⟩ := options.exists_applyTo_commit environment
    (shell.behind found.session) { key, tree := found.tree, labelled }
  obtain ⟨outcome, after, stored, ended⟩ := options.store_cases environment
    { shell.behind found.session with output } { key, tree := found.tree, labelled }
  refine ⟨outcome, after, ?_, ended.imp_right ?_⟩
  · rw [SchemaOptions.applyTo_schema, applyTo_bind, discovers.applyTo_inSession]
    exact committed.trans stored
  · -- What has been written is read back, from the cache and from the output.
    rintro ⟨succeeded, kept, place, saved, resolved, written⟩
    exact ⟨succeeded, loaded_of_write after saved resolved written⟩

/-- The tree that is found is of the database that was looked up, and the one that was kept is part
of it, unless the cache was to be refreshed. -/
theorem Discovers.isPartOf {key : CacheKey} {session : Session} {labelled : Option Nat}
    {found : Discovery} (discovers : options.Discovers connected kept? key session labelled found)
    (own : ∀ old ∈ kept? key, old.databaseId = key.databaseId) :
    found.tree.databaseId = key.databaseId ∧
      (options.refresh = false → ∀ old ∈ kept? key, old.IsPartOf found.tree) := by
  -- Whatever is explored is added to the tree that it starts from.
  have part := isPartOf_of_exploration discovers.fetched
  constructor
  · rw [part.database_eq]
    change (options.origin kept? key).databaseId = key.databaseId
    unfold origin
    -- A kept tree is of this database, and so is the one that is started anew.
    cases refresh : options.refresh with
    | true => rfl
    | false =>
      cases kept : kept? key with
      | none => rfl
      | some old => exact own old kept
  · intro refresh old kept
    have origin_eq : options.origin kept? key = old := by
      simp [origin, refresh, Option.mem_def.1 kept]
    exact origin_eq ▸ part

end SchemaOptions

/-- A discovery of a field tree commits all or nothing. When it breaks off, the disk stays as it is.
When it succeeds, the tree that it finds is both kept in the cache and saved in the output, and the
tree that was kept before is part of it unless the cache was to be refreshed. Nothing but a disk
that does not take one of the files makes a discovery fail that does not break off. -/
theorem run_schema_atomic (environment : Environment) (arguments : List String) (shell : Shell)
    (options : SchemaOptions) (read : Command.read arguments = .ok (.schema options))
    (own : ∀ key session, options.Finds (environment.connect shell) key session →
      ∀ old ∈ environment.kept? shell key, old.databaseId = key.databaseId) :
    ∃ ending after, run environment arguments shell = (ending, after) ∧
      (∀ error, options.Breaks (environment.connect shell) (environment.kept? shell) error →
        ending = .failed error ∧ after.disk = shell.disk) ∧
      (ending = .done → ∃ key session labelled found,
        options.Discovers (environment.connect shell) (environment.kept? shell) key session labelled
          found ∧
        environment.kept? after key = some found.tree ∧
        applyTo after (Activity.loadTree options.output environment) = (.ok found.tree, after) ∧
        (options.refresh = false →
          ∀ old ∈ environment.kept? shell key, old.IsPartOf found.tree)) ∧
      (∀ error, ending = .failed error →
        options.Breaks (environment.connect shell) (environment.kept? shell) error ∨
          error = .storage) := by
  rcases ended : run environment arguments shell with ⟨ending, after⟩
  -- The output starts anew, which neither the session nor the cache depends on.
  have broken (error : Error) (breaks : options.Breaks (environment.connect shell)
      (environment.kept? shell) error) : ending = .failed error ∧ after.disk = shell.disk := by
    have breaks' : options.Breaks (environment.connect { shell with output := "" })
      (environment.kept? { shell with output := "" }) error := breaks
    obtain ⟨_, failed, disk_eq⟩ := breaks'.applyTo_schema
    obtain ⟨rfl, rfl⟩ := Prod.mk.inj (ended.symm.trans (run_of_read read failed))
    exact ⟨rfl, disk_eq⟩
  refine ⟨ending, after, rfl, broken, ?_⟩
  rcases options.breaks_or_discovers (environment.connect shell) (environment.kept? shell) with
    ⟨error, breaks⟩ | ⟨key, session, labelled, found, discovers⟩
  · -- A discovery that breaks off does not end well, and it tells its own error.
    obtain ⟨rfl, -⟩ := broken error breaks
    refine ⟨nofun, ?_⟩
    rintro _ ⟨⟩
    exact .inl breaks
  · obtain ⟨database_eq, part⟩ := discovers.isPartOf (own key session discovers.finds)
    have discovers' : options.Discovers (environment.connect { shell with output := "" })
      (environment.kept? { shell with output := "" }) key session labelled found := discovers
    -- The tree is kept under the key that was looked up, for it is of this database.
    obtain ⟨outcome, _, applied, stored⟩ := discovers'.applyTo_schema
    obtain ⟨rfl, rfl⟩ := Prod.mk.inj (ended.symm.trans (run_of_read read applied))
    -- A discovery that finds its tree can only fail for the sake of the disk.
    rcases stored with rfl | ⟨rfl, kept, saved⟩
    · refine ⟨nofun, ?_⟩
      rintro _ ⟨⟩
      exact .inr rfl
    · rw [database_eq] at kept
      exact ⟨fun _ => ⟨key, session, labelled, found, discovers, kept, saved, part⟩, nofun⟩

/-- A discovery is about what its options name, when they name a number and a name in brackets. -/
theorem SchemaOptions.Finds.key_eq {options : SchemaOptions} {connected : Outcome Session}
    {key : CacheKey} {session : Session} {installationId : UInt32}
    (finds : options.Finds connected key session)
    (number : (options.installation.bind fun name => Number.readUInt32? (Text.trim name.toList)) =
      some installationId)
    (bracketed : options.database.toList.head? = some '[') :
    ∃ start, connected = .ok start ∧
      key = { root := start.root, installationId, databaseId := options.database } := by
  -- A number in the options needs no lookup of an installation, and a bracketed name none of a
  -- database.
  obtain ⟨connects, installation, database⟩ := finds
  refine ⟨_, connects, ?_⟩
  rw [Call.installationId, number] at installation
  cases installation
  rw [Call.findDatabase, if_pos bracketed] at database
  cases database
  rfl

/-- A tree that is kept: nothing but the labels of a field is known. -/
def keptTree : FieldTree where
  databaseId := "[x]"
  labels := .ofList [("s", .ofList [(1, "")])]

/-- The key that the tree is kept under. -/
def keptKey : CacheKey where
  root := "http://[::1]/api"
  installationId := 1
  databaseId := "[x]"

/-- A disk with a settings file and the tree. -/
def keepingDisk : Disk :=
  let disk : Disk := { folders := .ofList [("/work", .empty), ("/config/ems", .ofList
    [("settings.conf", {
      content := .text "username = u\npassword = p\nserver_url = http://[::1]\n"
      modified := 0 })])] }
  disk.setFolder sampleEnvironment.cacheFolder
    (Dictionary.empty.insert keptKey.file { content := .text keptTree.save, modified := 0 })

/-- The tree is kept under its key. -/
theorem kept?_keepingDisk (server : Server) :
    sampleEnvironment.kept? { disk := keepingDisk, server } keptKey = some keptTree := by
  -- The folder is that of a cache in which nothing else has been saved.
  have saved : keepingDisk.folder? sampleEnvironment.cacheFolder =
      Cache.save 0 keptKey keptTree none := (Disk.folder?_setFolder ..).trans (if_pos rfl)
  exact Environment.kept?_of_keptFile? (Environment.keptFile?_of_save saved)

/-- A discovery that names the key of the tree is about it, whatever the server does. -/
theorem key_eq_keptKey {options : SchemaOptions} {server : Server} {key : CacheKey}
    {session : Session} (finds : options.Finds
      (sampleEnvironment.connect { disk := keepingDisk, server }) key session)
    (installation : options.installation = some "1") (database : options.database = "[x]") :
    key = keptKey := by
  -- The options name the installation by its number and the database by its identifier.
  have number : (options.installation.bind fun name =>
      Number.readUInt32? (Text.trim name.toList)) = some 1 := by
    rw [installation]
    decide +kernel
  obtain ⟨start, connects, rfl⟩ := finds.key_eq number (by rw [database]; decide)
  -- What is left is the root, which comes from the settings on the disk.
  obtain ⟨settings, loaded, started⟩ := Outcome.bind_eq_ok_iff.1 connects
  obtain ⟨root, root_eq, reads⟩ := Outcome.bind_eq_ok_iff.1 started
  have known : ((sampleEnvironment.load keepingDisk).toOption.bind fun settings =>
      settings.root.toOption) = some keptKey.root := by decide +kernel
  rw [loaded, Except.toOption, Option.bind_some, root_eq] at known
  obtain rfl := Option.some.inj known
  split at reads
  · cases reads
    rw [database]
    rfl
  · cases reads

/-- A field and its labels are found in addition to a tree that is kept. When its labels cannot be
fetched, the field is not stored either. -/
theorem run_schema_atomic_kept :
    let arguments := ["schema", "-d", "[x]", "--ems", "1", "--discrete", "-o", "tree.json"]
    let options : SchemaOptions := {
      database := "[x]", installation := some "1", groups := [], discrete := true
      refresh := false, output := "tree.json" }
    let field : Json := .ofTexts [("id", "b"), ("name", ""), ("type", "discrete")]
    let replies : Server := [.granting "token", .replying 200 (.object [("fields", .list [field])])]
    let labels : Event := .replying 200 (.object [("discreteValues", .ofTexts [("0", "off")])])
    let shell : Shell := { disk := keepingDisk, server := replies ++ [labels] }
    let after := (run sampleEnvironment arguments shell).2
    Command.read arguments = .ok (.schema options) ∧
      (∀ server key session,
        options.Finds (sampleEnvironment.connect { shell with server }) key session →
        ∀ old ∈ sampleEnvironment.kept? shell key, old.databaseId = key.databaseId) ∧
      (∃ tree, sampleEnvironment.kept? after keptKey = some tree ∧
        applyTo after (Activity.loadTree "tree.json" sampleEnvironment) = (.ok tree, after) ∧
        keptTree.IsPartOf tree) ∧
      (run sampleEnvironment arguments { shell with server := replies }).2.disk = keepingDisk := by
  intro arguments options field replies labels shell after
  -- The options are read, and the tree kept under their key is one of its own database.
  have read : Command.read arguments = .ok (.schema options) := rfl
  have own (server : Server) (key : CacheKey) (session : Session)
      (finds : options.Finds (sampleEnvironment.connect { shell with server }) key session) :
      ∀ old ∈ sampleEnvironment.kept? shell key, old.databaseId = key.databaseId := by
    obtain rfl := key_eq_keptKey finds rfl rfl
    intro old found
    obtain rfl := Option.some.inj ((kept?_keepingDisk shell.server).symm.trans found)
    rfl
  refine ⟨read, own, ?_, ?_⟩
  · -- With both replies the run succeeds, so that the theorem names the tree that is stored.
    have succeeds : (run sampleEnvironment arguments shell).1 = .done := by decide +kernel
    obtain ⟨ending, after', ended, -, stored, -⟩ := run_schema_atomic sampleEnvironment arguments
      shell options read (own _)
    rw [ended] at succeeds
    obtain ⟨key, session, _, found, discovers, keeps, saved, part⟩ := stored succeeds
    obtain rfl := key_eq_keptKey discovers.finds rfl rfl
    have after_eq : after = after' := congrArg Prod.snd ended
    rw [after_eq]
    exact ⟨found.tree, keeps, saved, part rfl keptTree (kept?_keepingDisk _)⟩
  · -- Without the labels the run fails, which leaves the disk as it was.
    have fails : (run sampleEnvironment arguments { shell with server := replies }).1 =
        .failed .transport := by decide +kernel
    obtain ⟨ending, after', ended, unchanged, -, broken⟩ := run_schema_atomic sampleEnvironment
      arguments { shell with server := replies } options read (own replies)
    rw [ended] at fails ⊢
    rcases broken _ fails with breaks | storage
    · exact (unchanged _ breaks).2
    · cases storage

end FlightQuery.CommandLine
