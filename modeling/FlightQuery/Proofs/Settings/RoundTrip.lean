import FlightQuery.Proofs.Json.Numeral
import FlightQuery.Proofs.Outcome
import FlightQuery.Proofs.Settings.Line

/-! Settings that have been saved are loaded again up to the comments in their texts. -/

namespace FlightQuery

/-! ### Texts among settings -/

namespace Settings

/-- The texts among settings. -/
def texts (settings : Settings) : List String :=
  [settings.username, settings.password, settings.server, settings.serverUrl].filterMap id

/-- What holds of all texts among settings holds of each one that is there. -/
theorem forall_mem_texts_iff {settings : Settings} {holds : String → Prop} :
    (∀ text ∈ settings.texts, holds text) ↔
      (∀ text ∈ settings.username, holds text) ∧ (∀ text ∈ settings.password, holds text) ∧
        (∀ text ∈ settings.server, holds text) ∧ (∀ text ∈ settings.serverUrl, holds text) := by
  simp [texts, or_imp, forall_and, @eq_comm _ (some _)]

/-- Settings with other texts, some of which may be left open. -/
def bindTexts (settings : Settings) (change : String → Option String) : Settings :=
  { settings with
    username := settings.username.bind change
    password := settings.password.bind change
    server := settings.server.bind change
    serverUrl := settings.serverUrl.bind change }

/-- Settings stay as they are exactly when each of their texts does. -/
theorem bindTexts_eq_self_iff {settings : Settings} {change : String → Option String} :
    settings.bindTexts change = settings ↔ ∀ text ∈ settings.texts, change text = some text := by
  -- A setting that is missing stays missing, and one that is there is bound to its text.
  have bind_eq_iff (text? : Option String) :
      text?.bind change = text? ↔ ∀ text ∈ text?, change text = some text := by
    cases text? <;> simp
  rw [forall_mem_texts_iff]
  obtain ⟨username, password, server, serverUrl, maxTrials⟩ := settings
  simp only [bindTexts, mk.injEq, bind_eq_iff, and_true]

end Settings

namespace SettingsFile

/-! ### Settings that are saved -/

/-- What stands in front of the comment of a text, if anything does. -/
def uncommented? (value : String) : Option String :=
  (some (String.ofList (uncommented value.toList))).filter fun value => value != ""

/-- A text is all that stands in front of its comment exactly when it has no comment. -/
theorem uncommented?_eq_some_self_iff {value : String} (isValue : IsValue value) :
    uncommented? value = some value ↔ IsUncommented value.toList := by
  rw [← uncommented_eq_self_iff isValue.trimmed, uncommented?, Option.filter_eq_some_iff,
    Option.some_inj]
  -- The text itself is not empty.
  constructor
  · rintro ⟨same, -⟩
    simpa using congrArg String.toList same
  · intro same
    rw [same, String.ofList_toList]
    exact ⟨rfl, by simpa using isValue.nonempty⟩

/-- The entry that a key and a value are read as. -/
def savedEntry (pair : String × Option String) : Entry where
  heading := defaultSection
  key := pair.1
  value := some (String.ofList (uncommented (pair.2.getD "").toList))

/-- The line that a key and a value are saved on. -/
def savedLine (pair : String × Option String) : List Char :=
  entryLine pair.1.toList (pair.2.getD "").toList

/-- A key and a value that can be saved on a line. -/
structure IsPair (pair : String × Option String) : Prop where
  isKey : IsKey pair.1.toList
  isValue : ∀ value ∈ pair.2, IsValue value

/-- The text of a value, or nothing, has a single line and is trimmed. -/
theorem IsPair.trimmed {pair : String × Option String} (isPair : IsPair pair) :
    '\n' ∉ (pair.2.getD "").toList ∧
      Text.trim (pair.2.getD "").toList = (pair.2.getD "").toList := by
  -- A missing value is written as an empty text, which is trimmed.
  cases value? : pair.2 with
  | none => exact ⟨by simp, rfl⟩
  | some value =>
    have isValue := isPair.isValue value value?
    exact ⟨isValue.single, isValue.trimmed⟩

/-- A key and a value are saved on one line. -/
theorem IsPair.newline_notMem {pair : String × Option String} (isPair : IsPair pair) :
    '\n' ∉ savedLine pair := by
  -- A key is a word, so the line can only break inside the value, and that has no line feed.
  have unlisted : '\n' ∉ pair.1.toList := fun member =>
    absurd (isPair.isKey.isWord.visible _ member) (by decide)
  simp [savedLine, entryLine, unlisted, isPair.trimmed.1]

/-- A key and a value are read from their line. -/
theorem IsPair.readLine_eq {pair : String × Option String} (isPair : IsPair pair) :
    readLine (savedLine pair) = .ok (.entry pair.1 (savedEntry pair).value) := by
  rw [savedLine, readLine_entryLine isPair.isKey isPair.trimmed.2, String.ofList_toList]
  rfl

/-- The entries of a file are read from the lines that they have been saved on. -/
theorem readLines_savedLines {pairs : List (String × Option String)}
    (isPair : ∀ pair ∈ pairs, IsPair pair) (number : Nat) :
    readLines number defaultSection
      (splitLines (pairs.flatMap fun pair => savedLine pair ++ ['\n'])) =
        .ok (pairs.map savedEntry) := by
  -- Each line ends in front of the next one, and an empty line comes last.
  induction pairs generalizing number with
  | nil => rfl
  | cons pair pairs ih =>
    obtain ⟨first, others⟩ := List.forall_mem_cons.1 isPair
    have lines_eq : splitLines ((pair :: pairs).flatMap fun pair => savedLine pair ++ ['\n']) =
        savedLine pair :: splitLines (pairs.flatMap fun pair => savedLine pair ++ ['\n']) := by
      rw [List.flatMap_cons, List.append_assoc]
      exact List.splitOn_append_cons_self_of_not_mem first.newline_notMem _
    rw [lines_eq, readLines, first.readLine_eq]
    simp only [ih others (number + 1), Outcome.ok_bind, Outcome.pure_eq_ok]
    rfl

/-- The keys of settings are read as keys. -/
theorem isKey_of_mem_pairs {settings : Settings} {pair : String × Option String}
    (member : pair ∈ pairs settings) : IsKey pair.1.toList := by
  -- The keys are the same for all settings, so each of them can be checked.
  have keys : ∀ key ∈ (pairs settings).map Prod.fst, IsKey key.toList := by
    simp only [pairs, List.map_cons, List.map_nil]
    decide +kernel
  exact keys _ (List.mem_map_of_mem member)

/-- Settings are saved on a line for each of them. -/
theorem toList_save (settings : Settings) :
    (save settings).toList = (pairs settings).flatMap fun pair => savedLine pair ++ ['\n'] := by
  rw [save, String.toList_join, List.flatMap_map]
  simp [savedLine, entryLine]

/-- The value of a setting that has been saved is what stands in front of its comment. -/
theorem value?_savedEntries {settings : Settings} {key : String} {text? : Option String}
    (member : (key, text?) ∈ pairs settings) :
    value? ((pairs settings).map savedEntry) key = text?.bind uncommented? := by
  -- No other setting has the key.
  have found : ((pairs settings).map savedEntry).reverse.find?
      (fun entry => entry.heading == defaultSection && entry.key == key) =
        some (savedEntry (key, text?)) := by
    simp only [pairs, List.mem_cons, List.not_mem_nil, or_false, Prod.mk.injEq] at member
    rcases member with ⟨rfl, rfl⟩ | ⟨rfl, rfl⟩ | ⟨rfl, rfl⟩ | ⟨rfl, rfl⟩ | ⟨rfl, rfl⟩ <;>
      simp [pairs, savedEntry]
  rw [value?, found, Option.bind_some]
  -- A setting that is left open is saved as an empty text, of which nothing is left.
  change uncommented? (text?.getD "") = text?.bind uncommented?
  cases text? with
  | none => rfl
  | some text => rw [Option.getD_some, Option.bind_some]

/-- A digit is visible and starts no comment. -/
theorem readable_of_isDigit {c : Char} (digit : Number.isDigit c) :
    Text.isBlank c = false ∧ startsComment c = false := by
  refine Number.of_isDigit (p := fun c => Text.isBlank c = false ∧ startsComment c = false) ?_ digit
  decide

/-- The digits of a number of trials can stand as a value, and there is no comment in them. -/
theorem isPlain_repr (n : Nat) : IsPlain n.repr := by
  have digits (c : Char) (member : c ∈ n.repr.toList) :
      Text.isBlank c = false ∧ startsComment c = false := by
    rw [Nat.toList_repr] at member
    exact readable_of_isDigit (Number.all_isDigit_toDigits n c member)
  have nonempty : n.repr.toList ≠ [] := by
    rw [Nat.toList_repr]
    exact Nat.toDigits_ne_nil
  -- Digits make up a word, which is trimmed and has no end of a line in it.
  have isWord : Text.IsWord n.repr.toList := ⟨nonempty, fun c member => (digits c member).1⟩
  exact {
    nonempty := fun empty => nonempty (by rw [empty]; rfl)
    single := fun member => absurd (isWord.visible _ member) (by decide)
    trimmed := Text.trim_eq_self isWord.startsBlank isWord.endsBlank
    isUncommented := fun c member => (digits c member).2 }

/-- A number of trials is read back from its digits. -/
theorem readUInt32?_repr (trials : UInt32) :
    Number.readUInt32? trials.toNat.repr.toList = some trials := by
  have digits := Number.all_isDigit_toDigits trials.toNat
  have value_eq : Number.readDigits? (Nat.toDigits 10 trials.toNat) = some trials.toNat := by
    rw [Number.readDigits?, if_pos ⟨Nat.toDigits_ne_nil, List.all_eq_true.2 digits⟩,
      Nat.ofDigitChars_ten_toDigits]
  have bounded : 0 ≤ (trials.toNat : Int) ∧ (trials.toNat : Int) < UInt32.size :=
    ⟨Int.natCast_nonneg _, Int.ofNat_lt.2 trials.toNat_lt⟩
  rw [Nat.toList_repr, Number.readUInt32?]
  · rw [value_eq, Option.bind_some, Number.toUInt32?, if_pos bounded, Int.toNat_natCast,
      UInt32.ofNat_toNat]
  · -- The first digit is no sign.
    intro rest signed
    exact absurd (digits '+' (by simp [signed])) (by decide)

/-- The number of trials that has been saved is read back. -/
theorem maxTrials_savedEntries (settings : Settings) :
    maxTrials ((pairs settings).map savedEntry) = .ok settings.maxTrials := by
  -- Digits have no comment, so that nothing of the number is cut off.
  have text_eq : value? ((pairs settings).map savedEntry) "max_trials" =
      (settings.maxTrials.map fun trials => trials.toNat.repr).bind uncommented? :=
    value?_savedEntries (by simp [pairs])
  rw [maxTrials, text_eq]
  cases settings.maxTrials with
  | none => rfl
  | some trials =>
    have plain := isPlain_repr trials.toNat
    have kept := (uncommented?_eq_some_self_iff plain.toIsValue).2 plain.isUncommented
    simp only [Option.map_some, Option.bind_some, kept, readUInt32?_repr]

/-- What is saved of settings can be read when each of their texts can be. -/
theorem isPair_of_mem_pairs {settings : Settings} (fits : ∀ text ∈ settings.texts, IsValue text)
    {pair : String × Option String} (member : pair ∈ pairs settings) : IsPair pair := by
  refine ⟨isKey_of_mem_pairs member, ?_⟩
  rw [Settings.forall_mem_texts_iff] at fits
  obtain ⟨username, password, server, serverUrl⟩ := fits
  -- There are five pairs, of which only the number of trials is no text of the settings.
  simp only [pairs, List.mem_cons, List.not_mem_nil, or_false] at member
  rcases member with rfl | rfl | rfl | rfl | rfl
  · exact username
  · exact password
  · exact server
  · exact serverUrl
  · intro value saved
    obtain ⟨trials, -, rfl⟩ := Option.map_eq_some_iff.1 saved
    exact (isPlain_repr _).toIsValue

/-- Settings that have been saved are loaded again up to the comments in their texts. -/
theorem load_save (path : String) {settings : Settings}
    (fits : ∀ text ∈ settings.texts, IsValue text) :
    load path (.text (save settings)) = .ok (settings.bindTexts uncommented?) := by
  -- The lines that are written read back as the entries, and each value is found by its key.
  have entries_eq : entries path (save settings) = .ok ((pairs settings).map savedEntry) := by
    rw [entries, toList_save, readLines_savedLines fun pair => isPair_of_mem_pairs fits]
  have username_eq : value? ((pairs settings).map savedEntry) "username" =
      settings.username.bind uncommented? := value?_savedEntries (by simp [pairs])
  have password_eq : value? ((pairs settings).map savedEntry) "password" =
      settings.password.bind uncommented? := value?_savedEntries (by simp [pairs])
  have server_eq : value? ((pairs settings).map savedEntry) "server" =
      settings.server.bind uncommented? := value?_savedEntries (by simp [pairs])
  have serverUrl_eq : value? ((pairs settings).map savedEntry) "server_url" =
      settings.serverUrl.bind uncommented? := value?_savedEntries (by simp [pairs])
  simp only [load, read, entries_eq, Outcome.ok_bind, username_eq, password_eq, server_eq,
    serverUrl_eq, maxTrials_savedEntries]
  rfl

/-- Plain settings stay as they are when the comments in their texts are left out. -/
theorem bindTexts_uncommented?_eq_self_iff {settings : Settings}
    (fits : ∀ text ∈ settings.texts, IsValue text) :
    settings.bindTexts uncommented? = settings ↔
      ∀ text ∈ settings.texts, IsUncommented text.toList := by
  rw [Settings.bindTexts_eq_self_iff]
  exact forall₂_congr fun text member => uncommented?_eq_some_self_iff (fits text member)

/-! ### Settings that are loaded -/

/-- What is read from lines is plain, unless it is empty. -/
theorem isPlain_of_readLines {lines : List (List Char)} {number : Nat} {heading : String}
    {entries : List Entry} (single : ∀ line ∈ lines, '\n' ∉ line)
    (read : readLines number heading lines = .ok entries) :
    ∀ entry ∈ entries, ∀ value ∈ entry.value, value ≠ "" → IsPlain value := by
  -- Each line brings at most one entry in front of those of the other lines.
  induction lines generalizing number heading entries with
  | nil =>
    cases read
    simp
  | cons line lines ih =>
    obtain ⟨first, others⟩ := List.forall_mem_cons.1 single
    rw [readLines] at read
    -- The line has a fault, is blank, is a heading or has an entry.
    split at read
    · cases read
    · exact ih others read
    · exact ih others read
    · next key text line_eq =>
      obtain ⟨rest, rest_eq, entries_eq⟩ := Outcome.bind_eq_ok_iff.1 read
      cases entries_eq
      refine List.forall_mem_cons.2 ⟨fun value valued nonempty => ?_, ih others rest_eq⟩
      cases Option.mem_def.1 valued
      exact isPlain_of_readLine first nonempty line_eq

/-- The value of a setting is plain when the entries are read from lines. -/
theorem isPlain_of_value? {entries : List Entry} {key value : String}
    (plain : ∀ entry ∈ entries, ∀ value ∈ entry.value, value ≠ "" → IsPlain value)
    (valued : value? entries key = some value) : IsPlain value := by
  -- The value comes from the last entry with that key, and it is not empty.
  obtain ⟨found, nonempty⟩ := Option.filter_eq_some_iff.1 valued
  obtain ⟨entry, last, value_eq⟩ := Option.bind_eq_some_iff.1 found
  exact plain entry (List.mem_reverse.1 (List.mem_of_find?_eq_some last)) value value_eq
    (by simpa using nonempty)

/-- All texts among settings that are loaded are plain. -/
theorem isPlain_of_load {path : String} {file : File} {settings : Settings}
    (loaded : load path file = .ok settings) : ∀ text ∈ settings.texts, IsPlain text := by
  -- Only a text is loaded, no folder and no bytes that are none.
  cases file with
  | text content =>
    obtain ⟨entries, entries_eq, rest⟩ := Outcome.bind_eq_ok_iff.1 loaded
    obtain ⟨trials, -, settings_eq⟩ := Outcome.bind_eq_ok_iff.1 rest
    cases settings_eq
    -- Every value stands on a line that has been read, which makes it plain.
    have plain : ∀ entry ∈ entries, ∀ value ∈ entry.value, value ≠ "" → IsPlain value := by
      unfold SettingsFile.entries at entries_eq
      split at entries_eq
      · next read =>
        cases entries_eq
        exact isPlain_of_readLines (fun line => newline_notMem_of_mem_splitLines) read
      · cases entries_eq
      · cases entries_eq
    rw [Settings.forall_mem_texts_iff]
    exact ⟨fun _ => isPlain_of_value? plain, fun _ => isPlain_of_value? plain,
      fun _ => isPlain_of_value? plain, fun _ => isPlain_of_value? plain⟩
  | missing => cases loaded
  | folder => cases loaded
  | binary => cases loaded

/-- Settings that have been saved are loaded again as they were when their texts are plain. -/
theorem load_save_of_isPlain (path : String) {settings : Settings}
    (plain : ∀ text ∈ settings.texts, IsPlain text) :
    load path (.text (save settings)) = .ok settings := by
  -- Plain texts are values without comments, so that loading changes nothing.
  have fits : ∀ text ∈ settings.texts, IsValue text := fun text member =>
    (plain text member).toIsValue
  have same := (bindTexts_uncommented?_eq_self_iff fits).2 fun text member =>
    (plain text member).isUncommented
  rw [load_save path fits, same]

/-- Settings that have been saved are loaded again up to the comments in their texts, and so they
are the same exactly when no text has a comment. -/
theorem load_save_iff (path : String) (settings : Settings)
    (fits : ∀ text ∈ settings.texts, IsValue text) :
    load path (.text (save settings)) = .ok (settings.bindTexts uncommented?) ∧
      (load path (.text (save settings)) = .ok settings ↔
        ∀ text ∈ settings.texts, IsUncommented text.toList) := by
  -- Loading gives what is left without comments, and this is the same only if there are none.
  have loaded := load_save path fits
  refine ⟨loaded, ?_⟩
  rw [loaded, Except.ok.injEq]
  exact bindTexts_uncommented?_eq_self_iff fits

/-- Settings with a password in which a comment starts. -/
def commented : Settings where
  username := some "pilot"
  password := some "a=b: [c];d"
  maxTrials := some 4294967295

/-- A password that has a comment is cut. -/
theorem load_save_iff_commented :
    (∀ text ∈ commented.texts, IsValue text) ∧
      load "settings.conf" (.text (save commented)) =
        .ok { commented with password := some "a=b: [c]" } := by
  -- The settings are values, and what is cut off from them is evaluated.
  have fits : ∀ text ∈ commented.texts, IsValue text := by decide +kernel
  have cut : commented.bindTexts uncommented? =
      { commented with password := some "a=b: [c]" } := by decide +kernel
  exact ⟨fits, cut ▸ (load_save_iff "settings.conf" commented fits).1⟩

/-- A password that has a comment is not loaded again as it was saved. -/
theorem load_save_commented_ne :
    (∀ text ∈ commented.texts, IsValue text) ∧
      load "settings.conf" (.text (save commented)) ≠ .ok commented := by
  decide +kernel

end SettingsFile
end FlightQuery
