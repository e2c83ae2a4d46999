import FlightQuery.CommandLine.Run
import FlightQuery.Proofs.Disk
import FlightQuery.Proofs.Outcome
import FlightQuery.Proofs.Settings.RoundTrip

/-! Changes of the settings file: the settings that are named are replaced, and no others. -/

namespace FlightQuery.CommandLine

open Stateful

/-- The settings that the settings file of a disk holds. -/
def Environment.load (environment : Environment) (disk : Disk) : Outcome Settings :=
  SettingsFile.load environment.settingsFile.text (disk.find environment.settingsFile)

namespace ConfigOptions

/-- The texts of the settings that are named. -/
def texts (options : ConfigOptions) : List String :=
  [options.username, options.password, options.server].filterMap id

/-- What holds of all texts that are named holds of each one that is. -/
theorem forall_mem_texts_iff {options : ConfigOptions} {holds : String → Prop} :
    (∀ text ∈ options.texts, holds text) ↔ (∀ text ∈ options.username, holds text) ∧
      (∀ text ∈ options.password, holds text) ∧ (∀ text ∈ options.server, holds text) := by
  simp [texts, or_imp, forall_and, @eq_comm _ (some _)]

/-- Settings in which those that are named are replaced. -/
def replace (options : ConfigOptions) (settings : Settings) : Settings :=
  { settings with
    username := options.username.or settings.username
    password := options.password.or settings.password
    server := options.server.or settings.server }

/-- Plain settings have plain texts when plain texts replace some of them. -/
theorem isPlain_replace {options : ConfigOptions} {settings : Settings}
    (plain : ∀ text ∈ options.texts, SettingsFile.IsPlain text)
    (plain' : ∀ text ∈ settings.texts, SettingsFile.IsPlain text) :
    ∀ text ∈ (options.replace settings).texts, SettingsFile.IsPlain text := by
  -- Each setting is the one that is named or else the old one, both of which are plain.
  have of_or {new? old? : Option String} (new : ∀ text ∈ new?, SettingsFile.IsPlain text)
      (old : ∀ text ∈ old?, SettingsFile.IsPlain text) :
      ∀ text ∈ new?.or old?, SettingsFile.IsPlain text := by
    cases new? with
    | none => simpa using old
    | some text => simpa using new
  rw [Settings.forall_mem_texts_iff] at plain' ⊢
  obtain ⟨username, password, server, serverUrl⟩ := plain'
  obtain ⟨username', password', server'⟩ := forall_mem_texts_iff.1 plain
  exact ⟨of_or username' username, of_or password' password, of_or server' server, serverUrl⟩

/-- A change is refused when a server is named and the server of the new settings is not known. -/
theorem update_cases (options : ConfigOptions) (settings : Settings) :
    (options.update settings = .ok (options.replace settings) ∧
      (options.server.isSome → ∃ root, (options.replace settings).root = .ok root)) ∨
    ∃ error, options.update settings = .error error ∧ options.server.isSome ∧
      (options.replace settings).root = .error error := by
  -- The code names the server in the condition, but the root is that of all new settings.
  have update_eq : options.update settings = do
      if options.server.isSome then
        let _ ← (options.replace settings).root
      return options.replace settings := by
    simp only [update, replace, Option.orElse_eq_or]
  rw [update_eq]
  cases server : options.server.isSome with
  | false => exact .inl ⟨rfl, nofun⟩
  | true =>
    cases root : (options.replace settings).root with
    | ok address => exact .inl ⟨rfl, fun _ => ⟨address, rfl⟩⟩
    | error error => exact .inr ⟨error, rfl, rfl, rfl⟩

end ConfigOptions

/-- A file is written at a place when the disk takes it. -/
theorem applyTo_writeAt (environment : Environment) (shell : Shell) {place : Place}
    {content : Content} {disk : Disk}
    (written : shell.disk.write shell.diskTime place content = .ok disk) :
    applyTo shell (Activity.writeAt place content environment) = (.ok (), { shell with disk }) := by
  -- The disk is the only part of the surroundings that is looked at and changed.
  change applyTo shell (Activity.ofOutcome (shell.disk.write shell.diskTime place content)
    environment >>= fun disk => Activity.setDisk disk environment) = _
  rw [written]
  rfl

/-- A folder is made before a file is written into it. -/
theorem applyTo_writeIn (environment : Environment) (shell : Shell) (folder : Place)
    (name : String) (content : Content) :
    applyTo shell (Activity.writeIn folder name content environment) =
      match shell.disk.addFolders folder with
      | .ok disk =>
        applyTo { shell with disk } (Activity.writeAt (folder ++ [name]) content environment)
      | .error error => (.error error, shell) := by
  -- The folder is one step and the file the next, so that the first failure ends both.
  change applyTo shell (Activity.ofOutcome (shell.disk.addFolders folder) environment >>= _) = _
  cases shell.disk.addFolders folder <;> rfl

/-- Plain settings are loaded again when they are written in the place of other settings. -/
theorem exists_writeSettings {environment : Environment} {shell : Shell} {settings old : Settings}
    (plain : ∀ text ∈ settings.texts, SettingsFile.IsPlain text)
    (loaded : environment.load shell.disk = .ok old) :
    ∃ disk, applyTo shell (Activity.writeSettings (SettingsFile.save settings) environment) =
        (.ok (), { shell with disk }) ∧ environment.load disk = .ok settings := by
  obtain ⟨content, found⟩ : ∃ content,
      shell.disk.find environment.settingsFile = .text content := by
    unfold Environment.load at loaded
    cases file : shell.disk.find environment.settingsFile <;> simp_all [SettingsFile.load]
  -- The file is in its folder already, so that the folder need not be made.
  obtain ⟨free, present⟩ := Disk.of_find_eq_text found
  rw [Environment.settingsFile, Place.parent_append] at present
  obtain ⟨disk, written, stored⟩ :=
    Disk.find_write shell.diskTime (SettingsFile.save settings) free present
  -- The folder is left as it is, and the file has the text of the new settings.
  refine ⟨disk, ?_, ?_⟩
  · refine (applyTo_writeIn environment shell environment.settingsFolder settingsName _).trans ?_
    rw [Disk.addFolders_of_isFolder present]
    exact applyTo_writeAt environment shell written
  · rw [Environment.load, Environment.settingsFile, stored]
    exact SettingsFile.load_save_of_isPlain _ plain

/-- What follows when the settings have been read is given those of the file. -/
theorem applyTo_settings_bind {α : Type} (environment : Environment) (shell : Shell)
    (next : Outcome Settings → Activity α) :
    applyTo shell ((Activity.settings >>= next) environment) =
      applyTo shell (next (environment.load shell.disk) environment) := rfl

/-- When the settings are only shown, nothing but the output changes. -/
theorem applyTo_config_of_show (environment : Environment) {options : ConfigOptions}
    (shell : Shell) (shown : options.show = true) :
    ∃ output, applyTo shell (config options environment) = (.ok (), { shell with output }) := by
  unfold config
  rw [if_pos shown, applyTo_settings_bind]
  -- Settings that cannot be loaded are told as such, which is output as well.
  cases environment.load shell.disk with
  | ok settings => exact ⟨_, rfl⟩
  | error error => exact ⟨_, rfl⟩

/-- When settings are named, they are replaced and written, unless the change is refused. -/
theorem applyTo_config {environment : Environment} {options : ConfigOptions} {shell : Shell}
    {settings : Settings} (shown : options.show = false) (named : options.texts ≠ [])
    (loaded : environment.load shell.disk = .ok settings) :
    applyTo shell (config options environment) =
      match options.update settings with
      | .ok settings =>
        applyTo shell (do
          Activity.writeSettings (SettingsFile.save settings) environment
          Activity.printLine "Configuration saved." environment)
      | .error error => (.error error, shell) := by
  -- Some setting is named, so that the code does not ask for one.
  have some_named : ¬ (options.username.isNone && options.password.isNone &&
      options.server.isNone) = true := by
    intro unnamed
    simp_all [ConfigOptions.texts]
  unfold config
  rw [if_neg (by simp [shown]), if_neg some_named, applyTo_settings_bind, loaded]
  -- The change is made before anything is written, so that its failure leaves the file.
  change applyTo shell (Activity.ofOutcome (options.update settings) environment >>= _) = _
  cases options.update settings with
  | ok settings => rfl
  | error error => rfl

/-- A run of a change ends as the change does, and its output starts anew. -/
theorem run_eq {environment : Environment} {arguments : List String} {options : ConfigOptions}
    (shell : Shell) (read : Command.read arguments = .ok (.config options)) :
    run environment arguments shell =
      match applyTo { shell with output := "" } (config options environment) with
      | (.ok _, shell) => (.done, shell)
      | (.error error, shell) => (.failed error, shell) := by
  -- The arguments are read before anything is done, so that only the change is left.
  unfold run
  rw [read]
  rfl

/-- A change replaces exactly the settings that are named in the settings file. It is refused when a
server is named and the server of the new settings is not known, and then the disk stays as it is.
When the settings are only shown, the disk stays as it is as well. A disk has no rights, so that it
takes a file where one has been read, and no change fails for its sake. -/
theorem run_config_replaces (environment : Environment) (arguments : List String) (shell : Shell)
    (options : ConfigOptions) (settings : Settings)
    (read : Command.read arguments = .ok (.config options)) (named : options.texts ≠ [])
    (plain : ∀ text ∈ options.texts, SettingsFile.IsPlain text)
    (loaded : environment.load shell.disk = .ok settings) :
    ∃ ending after, run environment arguments shell = (ending, after) ∧
      if options.show then ending = .done ∧ after.disk = shell.disk
      else
        (ending = .done ∧ environment.load after.disk = .ok (options.replace settings) ∧
          (options.server.isSome → ∃ root, (options.replace settings).root = .ok root)) ∨
        ∃ error, ending = .failed error ∧ after.disk = shell.disk ∧ options.server.isSome ∧
          (options.replace settings).root = .error error := by
  rw [run_eq shell read]
  -- Showing the settings comes first and ends the run, whatever else is named.
  cases shown : options.show with
  | true =>
    obtain ⟨output, shows⟩ := applyTo_config_of_show environment { shell with output := "" } shown
    rw [shows]
    exact ⟨_, _, rfl, rfl, rfl⟩
  | false =>
    have loaded' : environment.load { shell with output := "" }.disk = .ok settings := loaded
    rw [applyTo_config shown named loaded']
    rcases options.update_cases settings with ⟨update, resolves⟩ | ⟨error, update, server, root⟩
    · -- The new settings are plain as the old ones are, so that they are loaded again.
      have plain' := options.isPlain_replace plain (SettingsFile.isPlain_of_load loaded)
      obtain ⟨disk, written, stored⟩ := exists_writeSettings plain' loaded'
      rw [update]
      simp only [applyTo_bind, written]
      exact ⟨_, _, rfl, .inl ⟨rfl, stored, resolves⟩⟩
    · -- A change that is refused is told before the file is touched.
      rw [update]
      exact ⟨_, _, rfl, .inr ⟨error, rfl, rfl, server, root⟩⟩

/-- Places on a disk. -/
def sampleEnvironment : Environment where
  settingsFolder := ["", "config", "ems"]
  cacheFolder := ["", "cache", "ems"]
  workFolder := ["", "work"]

/-- A settings file with a comment, another section and a setting that is made twice. -/
def sampleText : String :=
  "USERNAME : ann ; pilot\n[other]\nserver = stable\n[default]\nPassword=x\npassword = y\n" ++
    "max_trials = 7\n"

/-- The settings of the file. -/
def sampleSettings : Settings where
  username := some "ann"
  password := some "y"
  maxTrials := some 7

/-- A disk with the settings file. -/
def sampleShell : Shell where
  disk := { folders := .ofList [("/config/ems",
    .ofList [("settings.conf", { content := .text sampleText, modified := 0 })])] }

/-- The settings are loaded from the file. -/
theorem load_sampleShell : sampleEnvironment.load sampleShell.disk = .ok sampleSettings := by
  decide +kernel

/-- A user and a server are replaced, and the password and the number of trials are kept. -/
theorem run_config_replaces_server :
    let arguments := ["config", "-uzoe", "--server", "beta"]
    let options : ConfigOptions :=
      { username := some "zoe", password := none, server := some "beta", «show» := false }
    Command.read arguments = .ok (.config options) ∧ options.texts ≠ [] ∧
      (∀ text ∈ options.texts, SettingsFile.IsPlain text) ∧
      sampleEnvironment.load sampleShell.disk = .ok sampleSettings ∧
      (run sampleEnvironment arguments sampleShell).1 = .done ∧
      sampleEnvironment.load (run sampleEnvironment arguments sampleShell).2.disk =
        .ok { sampleSettings with username := some "zoe", server := some "beta" } := by
  intro arguments options
  have read : Command.read arguments = .ok (.config options) := rfl
  have named : options.texts ≠ [] := by decide
  have plain : ∀ text ∈ options.texts, SettingsFile.IsPlain text := by decide +kernel
  have known : (options.replace sampleSettings).root = .ok "https://emsapibeta.ausdig.com/api" := by
    decide +kernel
  refine ⟨read, named, plain, load_sampleShell, ?_⟩
  obtain ⟨ending, after, ended, result⟩ := run_config_replaces sampleEnvironment arguments
    sampleShell options sampleSettings read named plain load_sampleShell
  rw [ended]
  -- The change is not refused, for the server is known.
  rcases result with ⟨done, stored, -⟩ | ⟨error, -, -, -, unknown⟩
  · exact ⟨done, stored⟩
  · rw [known] at unknown
    cases unknown

/-- A user that is named is not set when the settings are only shown. -/
theorem run_config_show_ne :
    let arguments := ["config", "--show", "--username", "bob"]
    let options : ConfigOptions :=
      { username := some "bob", password := none, server := none, «show» := true }
    Command.read arguments = .ok (.config options) ∧ options.texts ≠ [] ∧
      (∀ text ∈ options.texts, SettingsFile.IsPlain text) ∧
      sampleEnvironment.load sampleShell.disk = .ok sampleSettings ∧
      (run sampleEnvironment arguments sampleShell).1 = .done ∧
      sampleEnvironment.load (run sampleEnvironment arguments sampleShell).2.disk ≠
        .ok (options.replace sampleSettings) := by
  intro arguments options
  have read : Command.read arguments = .ok (.config options) := rfl
  have plain : ∀ text ∈ options.texts, SettingsFile.IsPlain text := by decide +kernel
  -- The settings that are named would be others than those of the file.
  have replaced : options.replace sampleSettings ≠ sampleSettings := by decide
  obtain ⟨output, shows⟩ := applyTo_config_of_show sampleEnvironment
    { sampleShell with output := "" } (show options.show = true from rfl)
  rw [run_eq sampleShell read, shows]
  refine ⟨read, by decide, plain, load_sampleShell, rfl, ?_⟩
  -- The file still holds the old settings.
  change sampleEnvironment.load sampleShell.disk ≠ _
  rw [load_sampleShell]
  simpa using replaced.symm

end FlightQuery.CommandLine
