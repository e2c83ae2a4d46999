import FlightQuery.Proofs.CommandLine.Config

/-! What activities do to their surroundings: calls change no disk, and runs end as commands do. -/

namespace FlightQuery.CommandLine

open Stateful

namespace Activity

variable {α β : Type} (environment : Environment) (shell : Shell)

/-- Activities that follow one another take place in the same environment. -/
theorem bind_apply (part : Activity α) (next : α → Activity β) :
    (part >>= next) environment = part environment >>= fun value => next value environment := rfl

/-- The environment can be looked at. -/
theorem applyTo_read : applyTo shell ((read : Activity Environment) environment) =
    (.ok environment, shell) := rfl

/-- The surroundings can be looked at. -/
theorem applyTo_get : applyTo shell ((get : Activity Shell) environment) = (.ok shell, shell) := rfl

/-- The cache is the folder at its place. -/
theorem applyTo_cache : applyTo shell (cache environment) =
    (.ok (shell.disk.folder? environment.cacheFolder), shell) := rfl

/-- An outcome is what comes of it. -/
theorem applyTo_ofOutcome (outcome : Outcome α) :
    applyTo shell (ofOutcome outcome environment) = (outcome, shell) := rfl

/-- A line is added to the output. -/
theorem applyTo_printLine (line : String) : applyTo shell (printLine line environment) =
    (.ok (), { shell with output := shell.output ++ (line ++ "\n") }) := rfl

/-- A file that the disk does not take is not written. -/
theorem applyTo_writeAt_of_error {place : Place} {content : Content} {error : Error}
    (refused : shell.disk.write shell.diskTime place content = .error error) :
    applyTo shell (writeAt place content environment) = (.error error, shell) := by
  -- The error is that of the disk, and nothing is set behind it.
  simp only [writeAt, bind_apply, applyTo_bind, applyTo_get, applyTo_ofOutcome, refused]

/-- A file is written where its path leads, unless the disk does not take it. -/
theorem write_cases (path : String) (content : Content) :
    applyTo shell (write path content environment) = (.error .storage, shell) ∨
      ∃ place disk, shell.disk.resolve? environment.workFolder path = some place ∧
        shell.disk.write shell.diskTime place content = .ok disk ∧
        applyTo shell (write path content environment) = (.ok (), { shell with disk }) := by
  -- A path that leads nowhere and a disk that refuses the file fail alike.
  unfold write
  simp only [bind_apply, applyTo_bind, applyTo_get, applyTo_read]
  cases resolved : shell.disk.resolve? environment.workFolder path with
  | none => exact .inl rfl
  | some place =>
    cases written : shell.disk.write shell.diskTime place content with
    | error error =>
      obtain rfl := Disk.eq_storage_of_write written
      exact .inl (applyTo_writeAt_of_error environment shell written)
    | ok disk => exact .inr ⟨place, disk, rfl, written, applyTo_writeAt environment shell written⟩

/-- A tree is kept as the cache on the disk saves it, unless the disk does not take it. -/
theorem keep_cases (key : CacheKey) (tree : FieldTree) :
    (∃ after, applyTo shell (keep key tree environment) = (.error .storage, after)) ∨
      ∃ disk, applyTo shell (keep key tree environment) = (.ok (), { shell with disk }) ∧
        disk.folder? environment.cacheFolder = Cache.save shell.diskTime key tree
          (shell.disk.folder? environment.cacheFolder) := by
  have kept_eq : applyTo shell (keep key tree environment) = _ :=
    applyTo_writeIn environment shell environment.cacheFolder key.file (.text tree.save)
  rw [kept_eq]
  -- The folder may be refused, the file may be refused, or both are taken.
  cases added : shell.disk.addFolders environment.cacheFolder with
  | error error =>
    obtain rfl := Disk.eq_storage_of_addFolders added
    exact .inl ⟨shell, rfl⟩
  | ok made =>
    cases written : made.write shell.diskTime (environment.cacheFolder ++ [key.file])
        (.text tree.save) with
    | error error =>
      obtain rfl := Disk.eq_storage_of_write written
      exact .inl ⟨_, applyTo_writeAt_of_error environment { shell with disk := made } written⟩
    | ok disk =>
      refine .inr ⟨disk, applyTo_writeAt environment { shell with disk := made } written, ?_⟩
      -- The folder that the file is written into is the one before, or a new one, which is empty.
      obtain ⟨_, folder, folder_eq, rfl⟩ := Disk.write_eq_ok_iff.1 written
      rw [Place.parent_append] at folder_eq
      have same := Disk.getD_folder?_of_addFolders added environment.cacheFolder
      rw [folder_eq, Option.getD_some] at same
      rw [Place.parent_append, Place.name_append, Disk.folder?_setFolder, if_pos rfl, same]
      rfl

/-- A tree is loaded from the file that its path leads to. -/
theorem applyTo_loadTree {path : String} {place : Place} {tree : FieldTree}
    (resolved : shell.disk.resolve? environment.workFolder path = some place)
    (loaded : FieldTree.ofFile (shell.disk.find place) = .ok tree) :
    applyTo shell (loadTree path environment) = (.ok tree, shell) := by
  -- Looking for the file reads the surroundings and changes nothing.
  have found : applyTo shell (find path environment) = (.ok (shell.disk.find place), shell) := by
    unfold find
    simp only [bind_apply, applyTo_bind, applyTo_get, applyTo_read, resolved]
    rfl
  unfold loadTree
  rw [bind_apply, applyTo_bind, found]
  simp only [loaded]
  rfl

end Activity

/-! ### Calls -/

/-- The session that is started with the settings on the disk. -/
def Environment.connect (environment : Environment) (shell : Shell) : Outcome Session := do
  let settings ← environment.load shell.disk
  Session.start settings shell.server shell.now

/-- The surroundings behind a session. -/
def Shell.behind (shell : Shell) (session : Session) : Shell :=
  { shell with
    server := session.server
    now := session.now
    exchanges := shell.exchanges ++ session.exchanges }

/-- A call is made in the session that is started. -/
theorem applyTo_inSession {α : Type} {environment : Environment} {shell : Shell}
    {session : Session} (connected : environment.connect shell = .ok session) (call : Call α) :
    applyTo shell (Activity.inSession call environment) =
      ((applyTo session call).1, shell.behind (applyTo session call).2) := by
  -- A session starts from the settings that the disk holds.
  obtain ⟨settings, loaded, started⟩ := Outcome.bind_eq_ok_iff.1 connected
  unfold Activity.inSession
  rw [applyTo_settings_bind, loaded]
  simp only [Activity.bind_apply, applyTo_bind, Activity.applyTo_ofOutcome, Activity.applyTo_get,
    started]
  rfl

/-- A call that fails leaves the disk as it is. -/
theorem exists_applyTo_inSession_of_failed {α : Type} {environment : Environment} {shell : Shell}
    {session : Session} {call : Call α} {error : Error}
    (connected : environment.connect shell = .ok session)
    (failed : (applyTo session call).1 = .error error) :
    ∃ after, applyTo shell (Activity.inSession call environment) = (.error error, after) ∧
      after.disk = shell.disk := by
  -- Only the server and the clock are behind the call, and the disk is not among them.
  rw [applyTo_inSession connected, failed]
  exact ⟨_, rfl, rfl⟩

/-- No call is made when no session is started. -/
theorem applyTo_inSession_of_error {α : Type} {environment : Environment} {shell : Shell}
    {error : Error} (refused : environment.connect shell = .error error) (call : Call α) :
    applyTo shell (Activity.inSession call environment) = (.error error, shell) := by
  -- Either the settings cannot be read, or they do not lead to a server.
  unfold Environment.connect at refused
  unfold Activity.inSession
  rw [applyTo_settings_bind]
  cases loaded : environment.load shell.disk with
  | error error' =>
    rw [loaded] at refused
    cases refused
    rfl
  | ok settings =>
    rw [loaded, Outcome.ok_bind] at refused
    simp only [Activity.bind_apply, applyTo_bind, Activity.applyTo_ofOutcome,
      Activity.applyTo_get, refused]

/-! ### Runs -/

/-- How a run ends with an outcome. -/
def Ending.ofOutcome : Outcome Unit → Ending
  | .ok _ => .done
  | .error error => .failed error

/-- A run ends as its command does, and its output starts anew. -/
theorem run_of_read {environment : Environment} {arguments : List String} {command : Command}
    {shell after : Shell} {outcome : Outcome Unit} (read : Command.read arguments = .ok command)
    (applied : applyTo { shell with output := "" } (command.activity environment) =
      (outcome, after)) :
    run environment arguments shell = (.ofOutcome outcome, after) := by
  change (command.activity environment).run { shell with output := "" } = (outcome, after)
    at applied
  -- The output is the one part of the surroundings that a run resets.
  unfold run
  simp only [read, applied]
  cases outcome <;> rfl

end FlightQuery.CommandLine
