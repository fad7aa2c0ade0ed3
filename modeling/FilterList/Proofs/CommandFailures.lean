import FilterList.Proofs.CommandRuns
import FilterList.Proofs.JsonReading
import FilterList.Proofs.Utf8Decoding
import Mathlib.Data.List.Forall2

/-! When commands fail. Lists are loaded all together or, for the first that cannot be read, not at
all. A command that cannot be carried out ends with code 1 and has printed nothing by then. -/

namespace FilterList

/-- The file at the path can be read. -/
def Readable (files : Files) (path : Text) : Prop := ∃ bytes, files path = .ok bytes

namespace LoadedList
variable {files : Files} {paths : List Text}

theorem load_eq_ok_iff {path : Text} {list : LoadedList} :
    load files path = .ok list ↔ ∃ bytes, files path = .ok bytes ∧ list = ofBytes path bytes := by
  unfold load
  cases files path with
  | ok bytes => simp [eq_comm]
  | error reason => simp

/-- What loading comes to: a list for each path in their order, or an error for the first path that
cannot be read. -/
inductive Loads (files : Files) (paths : List Text) : Except LoadError (List LoadedList) → Prop where
  | all {lists : List LoadedList}
      (each : List.Forall₂ (fun path list => load files path = .ok list) paths lists) :
      Loads files paths (.ok lists)
  | first (before after : List Text) (path : Text) (reason : ReadError)
      (split : paths = before ++ path :: after) (earlier : ∀ path ∈ before, Readable files path)
      (failed : files path = .error reason) : Loads files paths (.error (.unreadable path reason))

theorem loads_mapM (files : Files) (paths : List Text) :
    Loads files paths (paths.mapM (load files)) := by
  induction paths with
  | nil => exact .all .nil
  | cons path rest ih =>
    rw [List.mapM_cons]
    cases read : files path with
    | error reason =>
      have failed : load files path = .error (.unreadable path reason) := by rw [load, read]
      rw [failed]
      exact .first [] rest path reason rfl nofun read
    | ok bytes =>
      have loaded : load files path = .ok (ofBytes path bytes) := by rw [load, read]
      rw [loaded]
      cases later : rest.mapM (load files) with
      | ok lists =>
        rw [later] at ih
        cases ih with
        | all each => exact .all (.cons loaded each)
      | error error =>
        rw [later] at ih
        cases ih with
        | first before after other reason split earlier failed =>
          refine .first (path :: before) after other reason (congrArg (path :: ·) split) ?_ failed
          intro before among
          obtain rfl | among := List.mem_cons.mp among
          · exact ⟨bytes, read⟩
          · exact earlier before among

theorem loads_loadAll (files : Files) (nonempty : paths ≠ []) :
    Loads files paths (loadAll files paths) := by
  rw [loadAll, if_neg (by simpa using nonempty)]
  exact loads_mapM files paths

theorem readable_of_loaded {lists : List LoadedList}
    (each : List.Forall₂ (fun path list => load files path = .ok list) paths lists) :
    ∀ path ∈ paths, Readable files path := by
  induction each with
  | nil => exact nofun
  | cons loaded _ ih =>
    obtain ⟨bytes, read, _⟩ := load_eq_ok_iff.mp loaded
    exact List.forall_mem_cons.mpr ⟨⟨bytes, read⟩, ih⟩

theorem isOk_loadAll_iff :
    (loadAll files paths).isOk = true ↔ paths ≠ [] ∧ ∀ path ∈ paths, Readable files path := by
  by_cases empty : paths = []
  · subst empty
    exact ⟨nofun, fun needed => absurd rfl needed.1⟩
  · have loads := loads_loadAll files empty
    cases outcome : loadAll files paths with
    | ok lists =>
      rw [outcome] at loads
      obtain ⟨each⟩ := loads
      exact ⟨fun _ => ⟨empty, readable_of_loaded each⟩, fun _ => rfl⟩
    | error error =>
      rw [outcome] at loads
      obtain ⟨⟩ | ⟨before, after, path, reason, rfl, _, failed⟩ := loads
      refine ⟨nofun, fun needed => ?_⟩
      obtain ⟨bytes, read⟩ := needed.2 path (by simp)
      rw [failed] at read
      cases read

end LoadedList

namespace Command
open Printing

/-- What keeps a command from being carried out: a list that cannot be read, the name of no table, or
requests that cannot be read as text. -/
inductive Hindered (files : Files) (command : Command) : Prop where
  | unreadable (path : Text) (listed : path ∈ command.lists) (failed : ¬ Readable files path)
  | unknownTable (list name : Text) (asked : command = .dump list (some name))
      (unknown : ∀ table : Table, Text.caselessEq table.name.toList name = false)
  | noText (lists : List Text) (requests : Text) (asked : command = .batch lists requests)
      (broken : ∀ text : Text, files requests ≠ .ok text.toUtf8)

section Runs
variable (files : Files) (timings : Timings) (paths : List Text)

theorem isOk_loadLists_iff :
    (loadLists files paths).isOk = true ↔ paths ≠ [] ∧ ∀ path ∈ paths, Readable files path := by
  rw [← LoadedList.isOk_loadAll_iff, loadLists]
  cases LoadedList.loadAll files paths <;> rfl

theorem isOk_readText_iff (path : Text) :
    (readText files path).isOk = true ↔ ∃ text : Text, files path = .ok text.toUtf8 := by
  unfold readText
  cases files path with
  | error reason => simp [Except.isOk, Except.toBool]
  | ok bytes =>
    simp only [Except.ok.injEq, ← Utf8.toText?_eq_some_iff]
    cases Utf8.toText? bytes <;> simp [Except.isOk, Except.toBool]

theorem ofName?_eq_none_iff (name : Text) :
    Table.ofName? name = none ↔
      ∀ table : Table, Text.caselessEq table.name.toList name = false := by
  simp [Table.ofName?, Table.mem_all]

end Runs

theorem not_hindered_iff (files : Files) (command : Command) :
    ¬ command.Hindered files ↔
      (∀ path ∈ command.lists, Readable files path) ∧
      (∀ list name, command = .dump list (some name) → Table.ofName? name ≠ none) ∧
      ∀ lists requests, command = .batch lists requests →
        ∃ text : Text, files requests = .ok text.toUtf8 := by
  constructor
  · intro free
    refine ⟨?_, ?_, ?_⟩
    · intro path listed
      by_contra failed
      exact free (.unreadable path listed failed)
    · intro list name asked unknown
      exact free (.unknownTable list name asked ((ofName?_eq_none_iff name).mp unknown))
    · intro lists requests asked
      by_contra broken
      exact free (.noText lists requests asked (not_exists.mp broken))
  · rintro ⟨readable, known, isText⟩ hindered
    cases hindered with
    | unreadable path listed failed => exact failed (readable path listed)
    | unknownTable list name asked unknown =>
      exact known list name asked ((ofName?_eq_none_iff name).mpr unknown)
    | noText lists requests asked broken =>
      obtain ⟨text, read⟩ := isText lists requests asked
      exact broken text read

/-- A command that is hindered fails before it prints, and any other one ends well. -/
structure Outcome.AllOrNothing (hindered : Prop) (outcome : Outcome) : Prop where
  failed : hindered → outcome.code = 1 ∧ outcome.output = ""
  done : ¬ hindered → outcome.code = 0

namespace Outcome.AllOrNothing
variable {hindered : Prop} {action : Printing Unit}

theorem of_failed {failure : Failure} (hinders : hindered)
    (prints : Prints action {} (.error failure)) : AllOrNothing hindered action.outcome := by
  obtain ⟨output, _, failed⟩ := outcome_of_prints prints
  exact ⟨fun _ => ⟨failed.mpr rfl, output⟩, fun free => absurd hinders free⟩

theorem of_done {more : Printed} (free : ¬ hindered) (prints : Prints action more (.ok ())) :
    AllOrNothing hindered action.outcome :=
  ⟨fun hinders => absurd hinders free, fun _ => (outcome_of_prints prints).2.1.mpr rfl⟩

end Outcome.AllOrNothing

section Hindrances
variable {files : Files} {paths : List Text}

theorem readable_of_loadLists {lists : List LoadedList}
    (loaded : loadLists files paths = .ok lists) : ∀ path ∈ paths, Readable files path :=
  ((isOk_loadLists_iff files paths).mp (by rw [loaded]; rfl)).2

theorem hindered_of_loadLists {command : Command} {failure : Failure} (listed : command.lists ≠ [])
    (failed : loadLists files command.lists = .error failure) : command.Hindered files := by
  by_contra free
  have readable := ((not_hindered_iff files command).mp free).1
  have loaded := (isOk_loadLists_iff files command.lists).mpr ⟨listed, readable⟩
  rw [failed] at loaded
  cases loaded

theorem hindered_of_askedTable {path : Text} {table : Option Text} {failure : Failure}
    (failed : askedTable table = .error failure) : (Command.dump path table).Hindered files := by
  cases table with
  | none => cases failed
  | some name =>
    refine .unknownTable path name rfl ((ofName?_eq_none_iff name).mp ?_)
    cases known : Table.ofName? name with
    | none => rfl
    | some table => simp [askedTable, known] at failed

theorem known_of_askedTable {table : Option Text} {asked : Option Table}
    (came : askedTable table = .ok asked) : ∀ name, table = some name → Table.ofName? name ≠ none := by
  rintro name rfl unknown
  simp [askedTable, unknown] at came

theorem hindered_of_readText {requests : Text} {failure : Failure}
    (failed : readText files requests = .error failure) :
    (Command.batch paths requests).Hindered files := by
  refine .noText paths requests rfl fun text same => ?_
  have read := (isOk_readText_iff files requests).mpr ⟨text, same⟩
  rw [failed] at read
  cases read

end Hindrances

/-! What a command needs is looked at before anything is printed, and nothing fails after that. -/

section AllOrNothing
variable (files : Files) {paths : List Text}

theorem runCheck_allOrNothing (listed : paths ≠ []) (page resource : Text) (trace : Bool) :
    Outcome.AllOrNothing ((Command.check paths page resource trace).Hindered files)
      (runCheck files paths page resource trace).outcome := by
  cases loaded : loadLists files paths with
  | error failure => exact .of_failed (hindered_of_loadLists listed loaded) (Prints.of_error loaded)
  | ok lists =>
    refine .of_done ?_ (prints_runCheck loaded page resource trace)
    exact (not_hindered_iff files _).mpr ⟨readable_of_loadLists loaded, nofun, nofun⟩

theorem runDump_allOrNothing (path : Text) (table : Option Text) :
    Outcome.AllOrNothing ((Command.dump path table).Hindered files)
      (runDump files path table).outcome := by
  cases asked : askedTable table with
  | error failure => exact .of_failed (hindered_of_askedTable asked) (Prints.of_error asked)
  | ok wanted =>
    cases loaded : LoadedList.load files path with
    | error error =>
      have unreadable : ¬ Readable files path := by
        rintro ⟨bytes, read⟩
        rw [LoadedList.load, read] at loaded
        cases loaded
      have failed : (LoadedList.load files path).mapError Failure.load = .error (.load error) := by
        rw [loaded]
        rfl
      exact .of_failed (.unreadable path List.mem_cons_self unreadable)
        (Prints.of_ok asked (Prints.of_error failed))
    | ok list =>
      obtain ⟨bytes, read, _⟩ := LoadedList.load_eq_ok_iff.mp loaded
      refine .of_done ((not_hindered_iff files _).mpr ⟨?_, ?_, nofun⟩) (prints_runDump asked loaded)
      · exact List.forall_mem_singleton.mpr ⟨bytes, read⟩
      · rintro _ name ⟨⟩
        exact known_of_askedTable asked name rfl

variable {json : JsonLibrary} (meets : json.Meets) (listed : paths ≠ [])
include meets listed

theorem runCompile_allOrNothing (timings : Timings) (verbose asJson : Bool) :
    Outcome.AllOrNothing ((Command.compile paths asJson).Hindered files)
      (runCompile json files timings verbose paths asJson).outcome := by
  cases loaded : loadLists files paths with
  | error failure => exact .of_failed (hindered_of_loadLists listed loaded) (Prints.of_error loaded)
  | ok lists =>
    obtain ⟨more, prints⟩ := prints_runCompile meets loaded timings verbose asJson
    refine .of_done ?_ prints
    exact (not_hindered_iff files _).mpr ⟨readable_of_loadLists loaded, nofun, nofun⟩

theorem runBatch_allOrNothing (requests : Text) :
    Outcome.AllOrNothing ((Command.batch paths requests).Hindered files)
      (runBatch json files paths requests).outcome := by
  cases loaded : loadLists files paths with
  | error failure => exact .of_failed (hindered_of_loadLists listed loaded) (Prints.of_error loaded)
  | ok lists =>
    cases read : readText files requests with
    | error failure =>
      exact .of_failed (hindered_of_readText read) (Prints.of_ok loaded (Prints.of_error read))
    | ok text =>
      refine .of_done ((not_hindered_iff files _).mpr ⟨?_, nofun, ?_⟩)
        (prints_runBatch meets loaded read)
      · exact readable_of_loadLists loaded
      · rintro _ _ ⟨⟩
        exact (isOk_readText_iff files requests).mp (by rw [read]; rfl)

end AllOrNothing

theorem perform_allOrNothing {json : JsonLibrary} (meets : json.Meets) (files : Files)
    (timings : Timings) {invocation : Invocation} (listed : invocation.command.lists ≠ [])
    (notBench : ∀ lists passes sample, invocation.command ≠ .bench lists passes sample) :
    Outcome.AllOrNothing (invocation.command.Hindered files)
      (perform json files timings invocation) := by
  obtain ⟨verbose, command⟩ := invocation
  cases command with
  | compile paths asJson => exact runCompile_allOrNothing files meets listed timings verbose asJson
  | dump path table => exact runDump_allOrNothing files path table
  | check paths page resource trace => exact runCheck_allOrNothing files listed page resource trace
  | batch paths requests => exact runBatch_allOrNothing files meets listed requests
  | bench paths passes sample => exact absurd rfl (notBench paths passes sample)

section WellFormed
variable {found : List Given} {paths : List Text}

private theorem exists_of_bind {α β : Type} {part : Except Refusal α} {next : α → Except Refusal β}
    {value : β} (came : part >>= next = .ok value) :
    ∃ first, part = .ok first ∧ next first = .ok value := by
  cases part with
  | error refusal => cases came
  | ok first => exact ⟨first, rfl, came⟩

theorem ne_nil_of_requireInputs (read : requireInputs found = .ok paths) : paths ≠ [] := by
  unfold requireInputs at read
  cases values : Given.values found inputsOption with
  | nil =>
    rw [values] at read
    cases read
  | cons first rest =>
    rw [values] at read
    cases read
    exact List.cons_ne_nil first rest

/-- What a command needs besides its lists is read after these, of which there is at least one. -/
private theorem exists_inputs_of_bind {β : Type} {part : Except Refusal (List Given)}
    {next : List Given → List Text → Except Refusal β} {value : β}
    (came : (part >>= fun found => requireInputs found >>= next found) = .ok value) :
    ∃ found paths, paths ≠ [] ∧ next found paths = .ok value := by
  obtain ⟨found, _, came⟩ := exists_of_bind came
  obtain ⟨paths, inputs, came⟩ := exists_of_bind came
  exact ⟨found, paths, ne_nil_of_requireInputs inputs, came⟩

theorem lists_ne_nil_of_ofArguments {name : Text} {arguments : List Text} {command : Command}
    {verbose : Bool} (read : ofArguments name arguments = .ok (command, verbose)) :
    command.lists ≠ [] := by
  unfold ofArguments at read
  -- By the command's name: compile, dump, check, batch, bench, help, and any other.
  split at read
  · obtain ⟨found, paths, nonempty, read⟩ := exists_inputs_of_bind read
    cases read
    exact nonempty
  · obtain ⟨found, _, read⟩ := exists_of_bind read
    obtain ⟨path, _, read⟩ := exists_of_bind read
    cases read
    exact List.cons_ne_nil path []
  · obtain ⟨found, paths, nonempty, read⟩ := exists_inputs_of_bind read
    obtain ⟨page, _, read⟩ := exists_of_bind read
    obtain ⟨resource, _, read⟩ := exists_of_bind read
    cases read
    exact nonempty
  · obtain ⟨found, paths, nonempty, read⟩ := exists_inputs_of_bind read
    obtain ⟨requests, _, read⟩ := exists_of_bind read
    cases read
    exact nonempty
  · obtain ⟨found, paths, nonempty, read⟩ := exists_inputs_of_bind read
    obtain ⟨passes, _, read⟩ := exists_of_bind read
    obtain ⟨sample, _, read⟩ := exists_of_bind read
    cases read
    exact nonempty
  · cases read
  · cases read

theorem lists_ne_nil {arguments : List Text} {invocation : Invocation}
    (read : Invocation.ofArguments arguments = .ok invocation) : invocation.command.lists ≠ [] := by
  obtain ⟨⟨found, rest⟩, _, read⟩ := exists_of_bind read
  cases rest with
  | nil => cases read
  | cons name rest =>
    obtain ⟨⟨command, verbose⟩, given, read⟩ := exists_of_bind read
    cases read
    exact lists_ne_nil_of_ofArguments given

end WellFormed

theorem parser_meets : parser.Meets where
  listed := by
    intro arguments invocation parsed
    cases read : Invocation.ofArguments arguments with
    | error refusal =>
      change (Invocation.ofArguments arguments).mapError _ = _ at parsed
      rw [read] at parsed
      cases parsed
    | ok asked =>
      change (Invocation.ofArguments arguments).mapError _ = _ at parsed
      rw [read] at parsed
      cases parsed
      exact lists_ne_nil read

/-- Lists are loaded just where there is at least one and all can be read, one for each path in their
order, and the error names the first path that cannot be read. Of a command line that asks for any
command but to measure, the code is 1 just where a list cannot be read, the table's name is unknown,
or the requests cannot be read as text, and then nothing has been printed; else it is 0. This holds
with every parser of arguments and every library for JSON that do as documented. -/
theorem fails_iff_hindered :
    (∀ (files : Files) (paths : List Text),
      ((∃ lists, LoadedList.loadAll files paths = .ok lists) ↔
        paths ≠ [] ∧ ∀ path ∈ paths, Readable files path) ∧
      (∀ lists, LoadedList.loadAll files paths = .ok lists →
        List.Forall₂ (fun path list => ∃ bytes, files path = .ok bytes ∧
          list = LoadedList.ofBytes path bytes ∧ list.path = path) paths lists) ∧
      (paths = [] → LoadedList.loadAll files paths = .error .noPaths) ∧
      ∀ error, paths ≠ [] → LoadedList.loadAll files paths = .error error →
        ∃ before path after reason, paths = before ++ path :: after ∧
          (∀ earlier ∈ before, Readable files earlier) ∧ files path = .error reason ∧
          error.message =
            "Failed to read '" ++ String.ofList path ++ "': " ++ reason.message) ∧
    ∀ (parser : ArgumentParser) (json : JsonLibrary), parser.Meets → json.Meets →
      ∀ (files : Files) (timings : Timings) (arguments : List Text) (invocation : Invocation),
      parser.parse arguments = .ok invocation →
      (∀ lists passes sample, invocation.command ≠ .bench lists passes sample) →
      let outcome := performArguments parser json files timings arguments
      (outcome.code = 1 ↔ invocation.command.Hindered files) ∧
      (outcome.code = 1 → outcome.output = "") ∧
      (¬ invocation.command.Hindered files → outcome.code = 0) := by
  refine ⟨fun files paths => ⟨?_, ?_, ?_, ?_⟩, ?_⟩
  · rw [← LoadedList.isOk_loadAll_iff]
    cases LoadedList.loadAll files paths <;> simp [Except.isOk, Except.toBool]
  · intro lists loaded
    have nonempty : paths ≠ [] := (LoadedList.isOk_loadAll_iff.mp (by rw [loaded]; rfl)).1
    have loads := LoadedList.loads_loadAll files nonempty
    rw [loaded] at loads
    obtain ⟨each⟩ := loads
    refine each.imp ?_
    intro path list came
    obtain ⟨bytes, read, rfl⟩ := LoadedList.load_eq_ok_iff.mp came
    exact ⟨bytes, read, rfl, rfl⟩
  · rintro rfl
    rfl
  · intro error nonempty failed
    have loads := LoadedList.loads_loadAll files nonempty
    rw [failed] at loads
    obtain ⟨⟩ | ⟨before, after, path, reason, split, earlier, unreadable⟩ := loads
    exact ⟨before, path, after, reason, split, earlier, unreadable, rfl⟩
  · intro parser json parses meets files timings arguments invocation parsed notBench outcome
    have performed : outcome = perform json files timings invocation := by
      simp only [outcome, performArguments, parsed]
    obtain ⟨failed, done⟩ :=
      perform_allOrNothing meets files timings (parses.listed parsed) notBench
    rw [← performed] at failed done
    have hindered (code : outcome.code = 1) : invocation.command.Hindered files := by
      by_contra free
      rw [done free] at code
      cases code
    exact ⟨⟨hindered, fun hinders => (failed hinders).1⟩, fun code => (failed (hindered code)).2,
      done⟩

/-- Two lists of which the second is a directory, and requests that are no text. -/
theorem fails_iff_hindered_of_broken_requests :
    let files := (FileTree.ofPaths [("lists/ads.txt".toList, Text.toUtf8 "/ads".toList),
      ("requests".toList, [0x7B, 0xFF])]).read
    let paths := ["lists/ads.txt".toList, "lists".toList, "none".toList]
    let arguments := ["-v", "batch", "-i", "lists/ads.txt", "-r", "requests"].map String.toList
    let command := Command.batch ["lists/ads.txt".toList] "requests".toList
    (paths ≠ [] ∧ LoadedList.loadAll files paths =
        .error (.unreadable "lists".toList .isADirectory) ∧
      ∃ before path after reason, paths = before ++ path :: after ∧
        (∀ earlier ∈ before, Readable files earlier) ∧ files path = .error reason ∧
        "Failed to read 'lists': Is a directory (os error 21)" =
          "Failed to read '" ++ String.ofList path ++ "': " ++ reason.message) ∧
    parser.Meets ∧ Json.library.Meets ∧ parser.parse arguments = .ok ⟨true, command⟩ ∧
    (∀ lists passes sample, command ≠ .bench lists passes sample) ∧ command.Hindered files ∧
    (runArguments files {} arguments).code = 1 ∧ (runArguments files {} arguments).output = "" := by
  intro files paths arguments command
  have nonempty : paths ≠ [] := nofun
  have failed : LoadedList.loadAll files paths = .error (.unreadable "lists".toList .isADirectory) :=
    rfl
  obtain ⟨loads, commands⟩ := fails_iff_hindered
  obtain ⟨_, _, _, named⟩ := loads files paths
  have given : parser.parse arguments = .ok ⟨true, command⟩ := by decide +kernel
  have hindered : command.Hindered files := by
    refine .noText _ _ rfl fun text read => ?_
    have broken : Utf8.toText? [0x7B, 0xFF] = none := by decide +kernel
    rw [Utf8.toText?_eq_some_iff.mpr (Except.ok.inj read)] at broken
    cases broken
  obtain ⟨code, output, _⟩ :=
    commands parser Json.library parser_meets Json.library_meets files {} arguments _ given nofun
  exact ⟨⟨nonempty, failed, named _ nonempty failed⟩, parser_meets, Json.library_meets, given, nofun,
    hindered, code.mpr hindered, output (code.mpr hindered)⟩

end Command

end FilterList
