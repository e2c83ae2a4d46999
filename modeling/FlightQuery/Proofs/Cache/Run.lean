import FlightQuery.Cache
import FlightQuery.Proofs.Dictionary
import FlightQuery.Proofs.FieldTree.RoundTrip
import FlightQuery.Proofs.Outcome
import Mathlib.Algebra.Ring.Nat

/-! The cache behaves as a map from the names of files to what they hold, in every run. -/

namespace FlightQuery

/-! ### Files -/

/-- A content of some bytes, which may be a text or not. -/
def Content.ofBytes (bytes : ByteArray) : Content :=
  match String.fromUTF8? bytes with
  | some content => .text content
  | none => .binary bytes.size

/-- The bytes of a text are its content. -/
theorem Content.ofBytes_toUTF8 (content : String) : ofBytes content.toUTF8 = .text content := by
  rw [ofBytes, fromUTF8?_toUTF8]

/-- A content has as many bytes as it is made of. -/
theorem Content.size_ofBytes (bytes : ByteArray) : (ofBytes bytes).size = bytes.size := by
  unfold ofBytes String.fromUTF8?
  by_cases valid : bytes.IsValidUTF8
  · rw [dif_pos valid]
    rfl
  · rw [dif_neg valid]
    rfl

/-- A file as its bytes, with the time when it was written, in nanoseconds. -/
structure KeptFile where
  bytes : ByteArray
  modified : Int

namespace KeptFile

/-- The file as it is stored. -/
def stored (kept : KeptFile) : StoredFile where
  content := .ofBytes kept.bytes
  modified := kept.modified

/-- The tree that the file loads to, if it does. -/
def tree? (kept : KeptFile) : Option FieldTree :=
  (FieldTree.ofFile (.ofBytes kept.bytes)).toOption

/-- A file is older than a number of nanoseconds, if there is one. -/
def IsOlderThan (maxAge : Option Nat) (now : Int) (kept : KeptFile) : Prop :=
  ∃ age ∈ maxAge, kept.modified + age < now

instance (maxAge : Option Nat) (now : Int) (kept : KeptFile) :
    Decidable (kept.IsOlderThan maxAge now) :=
  inferInstanceAs (Decidable (∃ _ ∈ _, _))

/-- A file is found with its bytes. -/
theorem toFile_stored (kept : KeptFile) : kept.stored.toFile = .ofBytes kept.bytes := by
  unfold stored StoredFile.toFile Content.ofBytes File.ofBytes
  cases String.fromUTF8? kept.bytes <;> rfl

/-- A tree that is saved is the one that its file loads to. -/
theorem tree?_save (tree : FieldTree) (modified : Int) :
    tree? { bytes := tree.save.toUTF8, modified } = some tree := by
  rw [tree?, File.ofBytes_toUTF8]
  exact Outcome.toOption_eq_some_iff.2 tree.load_save

/-- A file is expired when it is older than the greatest age. -/
theorem isExpired_stored (maxAge : Option Nat) (now : Int) (kept : KeptFile) :
    Cache.isExpired now maxAge kept.stored = decide (kept.IsOlderThan maxAge now) := by
  unfold Cache.isExpired IsOlderThan
  cases maxAge with
  | none => simp
  | some age =>
    -- The time that has passed is compared with the age, or the present with the end of the age.
    have later : (age : Int) < now - kept.stored.modified ↔ kept.modified + age < now := by
      have same : kept.stored.modified = kept.modified := rfl
      omega
    rw [Bool.eq_iff_iff]
    simp only [Option.mem_def, Option.some.injEq, exists_eq_left', decide_eq_true_eq]
    exact later

end KeptFile

/-- The files of trees are those whose names end in the extension, behind something else. -/
theorem Cache.isTreeFile_iff {file : String} :
    isTreeFile file = true ↔ ∃ stem, stem ≠ "" ∧ file = stem ++ ".json" := by
  have split := List.takeWhile_append_dropWhile (p := (· != '.')) (l := file.toList.reverse)
  have stop := List.head?_dropWhile_not (· != '.') file.toList.reverse
  unfold isTreeFile Place.extension?
  rw [beq_iff_eq]
  constructor
  · intro extension
    -- The reversed name is the reversed extension, the point, and something behind it.
    cases behind : file.toList.reverse.dropWhile (· != '.') with
    | nil => simp [behind] at extension
    | cons point stem =>
      cases stem with
      | nil => simp [behind] at extension
      | cons c stem =>
        simp only [behind, Option.some.injEq] at extension
        rw [behind] at split stop
        have letters :
            (file.toList.reverse.takeWhile (· != '.')).reverse = ".json".toList.tail := by
          rw [← String.toList_ofList (l := List.reverse _), extension]
          rfl
        obtain rfl : point = '.' := by simpa using stop
        refine ⟨String.ofList (c :: stem).reverse, by simp [← String.toList_inj], ?_⟩
        rw [← String.toList_inj, ← List.reverse_inj, ← split, List.reverse_eq_iff.1 letters]
        simp only [String.toList_append, List.reverse_append, String.toList_ofList,
          List.reverse_reverse]
        rfl
  · -- The point of the extension is the last one, and something stands in front of it.
    rintro ⟨stem, nonempty, rfl⟩
    have reversed : (stem ++ ".json").toList.reverse =
        ['n', 'o', 's', 'j'] ++ '.' :: stem.toList.reverse := by
      rw [String.toList_append, List.reverse_append]
      rfl
    have visible : stem.toList.reverse ≠ [] := by
      rwa [Ne, List.reverse_eq_nil_iff, String.toList_eq_nil_iff]
    obtain ⟨c, rest, stem_eq⟩ := List.exists_cons_of_ne_nil visible
    rw [reversed, stem_eq]
    rfl

/-! ### Runs -/

namespace Cache

/-- What happens to a cache: it is used, or others change the files of its folder. -/
inductive Operation where
  | save (key : CacheKey) (tree : FieldTree)
  | get (maxAge : Option Nat) (key : CacheKey)
  | remove (key : CacheKey)
  | clear
  | stats
  /-- The time of a file is changed, if it exists. -/
  | touch (file : String) (modified : Int)
  /-- A file is written. -/
  | write (file : String) (bytes : ByteArray)

/-- What an operation results in. -/
inductive Answer where
  | done
  | tree (found : Option FieldTree)
  | removed (count : Nat)
  | amount (stats : CacheStats)

/-- Change the time of a file, if it exists. -/
def touch (file : String) (modified : Int) (cache : Cache) : Cache :=
  cache.map fun folder =>
    match folder.find? file with
    | some stored => folder.insert file { stored with modified }
    | none => folder

/-- Perform an operation at some time. -/
def perform (now : Int) (cache : Cache) : Operation → Answer × Cache
  | .save key tree => (.done, cache.save now key tree)
  | .get maxAge key => (.tree (cache.get now maxAge key).1, (cache.get now maxAge key).2)
  | .remove key => (.done, cache.remove key)
  | .clear => (.removed cache.clear.1, cache.clear.2)
  | .stats => (.amount cache.stats, cache)
  | .touch file modified => (.done, cache.touch file modified)
  | .write file bytes => (.done, cache.put now file (.ofBytes bytes))

/-- An operation and when it is performed. -/
structure Step where
  now : Int
  operation : Operation

/-- The cache after some steps. -/
def after (cache : Cache) (steps : List Step) : Cache :=
  steps.foldl (fun cache step => (cache.perform step.now step.operation).2) cache

/-! ### The map -/

/-- What the cache holds, by the names of the files. -/
abbrev Files := String → Option KeptFile

/-- What an operation makes of a file. No other file matters to that. -/
def Operation.effect (now : Int) (file : String) (kept : Option KeptFile) :
    Operation → Option KeptFile
  | .save key tree =>
    if file = key.file then some { bytes := tree.save.toUTF8, modified := now } else kept
  | .get maxAge key =>
    if file = key.file then kept.filter fun kept => ¬ kept.IsOlderThan maxAge now else kept
  | .remove key => if file = key.file then none else kept
  | .clear => if isTreeFile file then none else kept
  | .stats => kept
  | .touch other modified =>
    if file = other then kept.map fun kept => { kept with modified } else kept
  | .write other bytes => if file = other then some { bytes, modified := now } else kept

/-- Whether an operation makes the folder of the cache. -/
def Operation.makesFolder : Operation → Bool
  | .save .. | .write .. => true
  | _ => false

/-- What becomes of a file that is not there at first. -/
def history (steps : List Step) : Files := fun file =>
  steps.foldl (fun kept step => step.operation.effect step.now file kept) none

/-- All files of trees by their names, which end in the extension, without repetition. -/
structure ListsTrees (files : Files) (names : List String) : Prop where
  distinct : names.Nodup
  mem_iff : ∀ file, file ∈ names ↔
    (files file).isSome = true ∧ ∃ stem, stem ≠ "" ∧ file = stem ++ ".json"

/-- What an operation has to result in when the folder is there or not, and holds some files. -/
inductive Answers (now : Int) (files : Files) (present : Bool) : Operation → Answer → Prop
  | save (key : CacheKey) (tree : FieldTree) : Answers now files present (.save key tree) .done
  | found {maxAge : Option Nat} {key : CacheKey} {kept : KeptFile}
      (exists_eq : files key.file = some kept) (young : ¬ kept.IsOlderThan maxAge now) :
      Answers now files present (.get maxAge key) (.tree kept.tree?)
  | expired {maxAge : Option Nat} {key : CacheKey} {kept : KeptFile}
      (exists_eq : files key.file = some kept) (old : kept.IsOlderThan maxAge now) :
      Answers now files present (.get maxAge key) (.tree none)
  | missing {maxAge : Option Nat} {key : CacheKey} (missing : files key.file = none) :
      Answers now files present (.get maxAge key) (.tree none)
  | remove (key : CacheKey) : Answers now files present (.remove key) .done
  | clear {names : List String} (lists : ListsTrees files names) :
      Answers now files present .clear (.removed names.length)
  | stats {names : List String} (lists : ListsTrees files names) :
      Answers now files present .stats (.amount {
        present
        files := names.length
        size := ((names.filterMap files).map fun kept => kept.bytes.size).sum })
  | touch (file : String) (modified : Int) : Answers now files present (.touch file modified) .done
  | write (file : String) (bytes : ByteArray) : Answers now files present (.write file bytes) .done

/-- A cache holds some files, and no others. -/
def Holds (cache : Cache) (files : Files) : Prop :=
  ∀ file, cache.find? file = (files file).map KeptFile.stored

variable {cache : Cache} {files : Files}

/-- A file that is written is found, and the others as before. -/
theorem find?_put (now : Int) (file other : String) (content : Content) (cache : Cache) :
    (cache.put now file content).find? other =
      if other = file then some { content, modified := now } else cache.find? other := by
  cases cache with
  | none => exact (Dictionary.find?_insert ..).trans (if_congr Iff.rfl rfl rfl)
  | some folder => exact Dictionary.find?_insert ..

/-- A file that is removed is not found any more. -/
theorem find?_removeFile (file other : String) (cache : Cache) :
    (cache.removeFile file).find? other = if other = file then none else cache.find? other := by
  cases cache with
  | none => exact (ite_self _).symm
  | some folder => exact Dictionary.find?_erase ..

/-- A file whose time is changed is found with its content. -/
theorem find?_touch (file other : String) (modified : Int) (cache : Cache) :
    (cache.touch file modified).find? other =
      if other = file then (cache.find? other).map fun stored => { stored with modified }
      else cache.find? other := by
  -- Writing a time neither adds nor removes a file, so that a missing one stays missing.
  cases cache with
  | none => exact (ite_self _).symm
  | some folder =>
    simp only [touch, find?, Option.map_some, Option.bind_some]
    cases found : folder.find? file with
    | none =>
      by_cases same : other = file
      · rw [if_pos same, same, found, Option.map_none]
      · rw [if_neg same]
    | some stored =>
      rw [Dictionary.find?_insert]
      by_cases same : other = file
      · rw [if_pos same, if_pos same, same, found, Option.map_some]
      · rw [if_neg same, if_neg same]

/-- The files of trees are removed when the cache is cleared. -/
theorem find?_clear (file : String) (cache : Cache) :
    cache.clear.2.find? file = if isTreeFile file then none else cache.find? file := by
  cases cache with
  | none => exact (ite_self _).symm
  | some folder =>
    refine (Dictionary.find?_filter ..).trans ?_
    cases isTreeFile file <;> rfl

/-- What is got is the tree in the file of the key, which is removed if it is too old. -/
theorem Holds.get_eq (holds : cache.Holds files) (now : Int) (maxAge : Option Nat)
    (key : CacheKey) : cache.get now maxAge key = match files key.file with
      | none => (none, cache)
      | some kept =>
        if kept.IsOlderThan maxAge now then (none, cache.removeFile key.file)
        else (kept.tree?, cache) := by
  rw [Cache.get, holds key.file]
  cases files key.file with
  | none => rfl
  | some kept =>
    -- Reading the file from the disk and reading its bytes give the same tree.
    have loaded : tree? kept.stored = kept.tree? := by
      rw [tree?, KeptFile.toFile_stored, KeptFile.tree?]
    simp only [Option.map_some, KeptFile.isExpired_stored, decide_eq_true_eq, loaded]

/-- After a step the cache holds what becomes of each file. -/
theorem Holds.perform (holds : cache.Holds files) (now : Int) (operation : Operation) :
    (cache.perform now operation).2.Holds fun file => operation.effect now file (files file) := by
  intro file
  have held := holds file
  cases operation with
  -- Saving puts the bytes of the tree into the file of the key.
  | save key tree =>
    refine (find?_put ..).trans ?_
    simp only [held, Operation.effect]
    split
    · rw [Option.map_some, KeptFile.stored, Content.ofBytes_toUTF8]
    · rfl
  | get maxAge key =>
    -- Only the file of the key can be removed, and only if it is there and too old.
    simp only [Cache.perform, holds.get_eq, Operation.effect]
    by_cases same : file = key.file
    · subst same
      rw [if_pos rfl]
      cases kept_eq : files key.file with
      | none => exact held.trans (congrArg _ kept_eq)
      | some kept =>
        by_cases old : kept.IsOlderThan maxAge now
        · simpa [old, Option.filter_some] using find?_removeFile key.file key.file cache
        · simpa [old, Option.filter_some, kept_eq] using held
    · rw [if_neg same]
      split
      · exact held
      · split
        · rw [find?_removeFile, if_neg same, held]
        · exact held
  | remove key =>
    refine (find?_removeFile ..).trans ?_
    simp only [held, Operation.effect]
    split <;> rfl
  | clear =>
    refine (find?_clear ..).trans ?_
    simp only [held, Operation.effect]
    split <;> rfl
  -- Counting changes nothing.
  | stats => exact held
  | touch other modified =>
    refine (find?_touch ..).trans ?_
    simp only [held, Operation.effect]
    split
    · cases files file <;> rfl
    · rfl
  | write other bytes =>
    refine (find?_put ..).trans ?_
    simp only [held, Operation.effect]
    split <;> rfl

/-- The names of the files of trees are those of the map. -/
theorem Holds.listsTrees (holds : cache.Holds files) :
    ListsTrees files (cache.treeFiles.map Prod.fst) where
  distinct := (Dictionary.nodup_keys (cache.getD .empty)).sublist (List.filter_sublist.map _)
  mem_iff file := by
    have found_iff : (files file).isSome = true ↔
        file ∈ (cache.getD .empty).entries.map Prod.fst := by
      rw [← Dictionary.isSome_find?_iff, ← Option.isSome_map (f := KeptFile.stored), ← holds file]
      cases cache <;> rfl
    -- Trees are told by their names alone, and the names are those that the map has.
    rw [found_iff, ← isTreeFile_iff, treeFiles]
    simp only [List.mem_map, List.mem_filter]
    constructor
    · rintro ⟨entry, ⟨listed, tree⟩, rfl⟩
      exact ⟨⟨entry, listed, rfl⟩, tree⟩
    · rintro ⟨⟨entry, listed, rfl⟩, tree⟩
      exact ⟨entry, ⟨listed, tree⟩, rfl⟩

/-- The sizes of stored files add up to those of their bytes. -/
theorem foldl_size_eq {entries : List (String × StoredFile)}
    (stored : ∀ entry ∈ entries, (files entry.1).map KeptFile.stored = some entry.2)
    (total : Nat) : entries.foldl (fun size entry => size + entry.2.content.size) total =
      total + (((entries.map Prod.fst).filterMap files).map fun kept => kept.bytes.size).sum := by
  -- The induction is on the entries, and the sum so far stays quantified over.
  induction entries generalizing total with
  | nil => simp
  | cons entry entries ih =>
    obtain ⟨first, others⟩ := List.forall_mem_cons.1 stored
    obtain ⟨kept, kept_eq, stored_eq⟩ := Option.map_eq_some_iff.1 first
    have size_eq : entry.2.content.size = kept.bytes.size := by
      rw [← stored_eq, KeptFile.stored, Content.size_ofBytes]
    rw [List.foldl_cons, ih others, List.map_cons, List.filterMap_cons_some kept_eq, List.map_cons,
      List.sum_cons, size_eq, Nat.add_assoc]

/-- The size of the cache is that of the files of trees. -/
theorem Holds.size_eq (holds : cache.Holds files) : cache.stats.size =
    (((cache.treeFiles.map Prod.fst).filterMap files).map fun kept => kept.bytes.size).sum := by
  -- The fold over the listed files adds up what `files` tells of each of them.
  refine (foldl_size_eq (fun entry listed => ?_) 0).trans (Nat.zero_add _)
  rw [← holds entry.1, ← Dictionary.find?_eq_some_iff.2 (List.mem_filter.1 listed).1]
  cases cache <;> rfl

/-- An operation results in what it has to. -/
theorem Holds.answers (holds : cache.Holds files) (now : Int) (operation : Operation) :
    Answers now files cache.isSome operation (cache.perform now operation).1 := by
  -- Only what is got and what is counted depend on the files, the rest answers by its definition.
  cases operation with
  | save key tree => exact .save key tree
  | get maxAge key =>
    simp only [Cache.perform, holds.get_eq]
    -- A file that is there and young enough gives its tree, if it has one.
    cases kept_eq : files key.file with
    | none => exact .missing kept_eq
    | some kept =>
      by_cases old : kept.IsOlderThan maxAge now
      · simpa only [if_pos old] using .expired kept_eq old
      · simpa only [if_neg old] using .found kept_eq old
  | remove key => exact .remove key
  | clear =>
    have answer : Answers now files cache.isSome .clear _ := .clear holds.listsTrees
    rwa [List.length_map] at answer
  | stats =>
    have answer : Answers now files cache.isSome .stats _ := .stats holds.listsTrees
    rwa [List.length_map, ← holds.size_eq] at answer
  | touch file modified => exact .touch file modified
  | write file bytes => exact .write file bytes

/-- The folder is there after an operation if it was there before, or if it is made. -/
theorem isSome_perform (now : Int) (operation : Operation) (cache : Cache) :
    (cache.perform now operation).2.isSome = (cache.isSome || operation.makesFolder) := by
  -- Saving and writing make the folder, and every other operation maps what is there.
  cases operation with
  | save key tree => exact (Bool.or_true _).symm
  | write file bytes => exact (Bool.or_true _).symm
  | get maxAge key =>
    refine Eq.trans ?_ (Bool.or_false _).symm
    rw [Cache.perform, Cache.get]
    split
    · rfl
    · split
      · exact Option.isSome_map ..
      · rfl
  | remove key => exact (Option.isSome_map ..).trans (Bool.or_false _).symm
  | clear => exact (Option.isSome_map ..).trans (Bool.or_false _).symm
  | stats => exact (Bool.or_false _).symm
  | touch file modified => exact (Option.isSome_map ..).trans (Bool.or_false _).symm

/-- After some steps the cache holds the history of each file, and its folder is there if it was
made at any time. -/
theorem holds_after {start : Cache} (fresh : start.Holds fun _ => none) (steps : List Step) :
    (start.after steps).Holds (history steps) ∧
      (start.after steps).isSome =
        (start.isSome || steps.any fun step => step.operation.makesFolder) := by
  -- The last step is taken off, since each operation meets what all earlier ones left.
  induction steps using List.reverseRecOn with
  | nil => exact ⟨fresh, (Bool.or_false _).symm⟩
  | append_singleton steps step ih =>
    -- Both the cache and the history go through the steps from the left.
    have after_eq : start.after (steps ++ [step]) =
        ((start.after steps).perform step.now step.operation).2 := by
      rw [after, List.foldl_append]
      rfl
    have history_eq (file : String) : history (steps ++ [step]) file =
        step.operation.effect step.now file (history steps file) := by
      rw [history, List.foldl_append]
      rfl
    rw [after_eq]
    refine ⟨fun file => ?_, ?_⟩
    · rw [history_eq]
      exact ih.1.perform step.now step.operation file
    · rw [isSome_perform, ih.2, List.any_append, List.any_cons, List.any_nil, Bool.or_false,
        Bool.or_assoc]

/--
The cache behaves as a map from the names of files to their bytes, whatever happens before.

Each operation results in what the history of the files says, and it has its effect on each of them.
A tree that is saved is the one that its file loads to.
-/
theorem behaves_as_map {start : Cache} (fresh : start = none ∨ start = some .empty)
    (steps : List Step) (now : Int) (operation : Operation) :
    Answers now (history steps)
      (start.isSome || steps.any fun step => step.operation.makesFolder) operation
      ((start.after steps).perform now operation).1 ∧
    ((start.after steps).perform now operation).2.Holds
      (fun file => operation.effect now file (history steps file)) ∧
    ∀ (tree : FieldTree) (modified : Int),
      KeptFile.tree? { bytes := tree.save.toUTF8, modified } = some tree := by
  -- No file is kept at the start, be the folder missing or empty.
  have nothing : start.Holds fun _ => none := by
    rcases fresh with rfl | rfl <;> exact fun _ => rfl
  obtain ⟨holds, present_eq⟩ := holds_after nothing steps
  rw [← present_eq]
  exact ⟨holds.answers now operation, holds.perform now operation, KeptFile.tree?_save⟩

/-- A tree that was kept for more than a millisecond is removed when it is got with this greatest
age, and another file stays. -/
theorem behaves_as_map_expired :
    let key : CacheKey :=
      { root := "http://[::1]/api", installationId := 1, databaseId := "flights" }
    let steps : List Step := [
      { now := 0, operation := .write "notes.txt" "keep".toUTF8 },
      { now := 0, operation := .save key { databaseId := "flights" } },
      { now := 0, operation := .touch key.file (-1) }]
    let cache : Cache := after none steps
    let result := cache.perform 1000000 (.get (some 1000000) key)
    (cache.find? key.file).isSome = true ∧
      Answers 1000000 (history steps) true (.get (some 1000000) key) result.1 ∧
      (result.2.find? key.file).isSome = false ∧ (result.2.find? "notes.txt").isSome = true := by
  intro key steps cache result
  -- What is kept at the end is evaluated, and the answer follows from the theorem.
  have evaluated : (cache.find? key.file).isSome = true ∧
      (result.2.find? key.file).isSome = false ∧
      (result.2.find? "notes.txt").isSome = true := by
    decide +kernel
  obtain ⟨kept, removed, other⟩ := evaluated
  have fresh : (none : Cache) = none ∨ (none : Cache) = some .empty := .inl rfl
  obtain ⟨answers, _⟩ := behaves_as_map fresh steps 1000000 (.get (some 1000000) key)
  exact ⟨kept, answers, removed, other⟩

end Cache
end FlightQuery
