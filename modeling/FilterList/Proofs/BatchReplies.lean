import FilterList.Proofs.CommandFailures
import FilterList.Proofs.JsonReading
import FilterList.Proofs.ListBytes

/-! What is printed about requests. A batch answers each line of its requests by itself, with one
line of JSON or with none, so requests put together are answered one part after the other. To check
a single request prints the same verdict, with a trace only more before it. -/

namespace FilterList

namespace Text

/-- Lines without control characters, each with a line feed after it, are read as these lines. -/
theorem lines_unlines {texts : List Text} (printable : ∀ text ∈ texts, Json.Printable text) :
    lines (texts.flatMap (· ++ ['\n'])) = texts := by
  have cut : pieces '\n' (texts.flatMap (· ++ ['\n'])) = texts ++ [[]] := by
    induction texts with
    | nil => rfl
    | cons text rest ih =>
      obtain ⟨visible, later⟩ := List.forall_mem_cons.mp printable
      have free : '\n' ∉ text := fun inside => absurd (visible _ inside) (by decide)
      rw [List.flatMap_cons, List.append_assoc, List.singleton_append, pieces_append_separator,
        pieces_of_not_mem free, ih later]
      rfl
  have bare (text : Text) (among : text ∈ texts) : dropTail text ['\r'] = text := by
    have open_ : ¬ ['\r'] <:+ text := fun ends =>
      absurd (printable text among '\r' (ends.subset List.mem_cons_self)) (by decide)
    rw [dropTail, isSuffixOf?_eq_none open_, Option.getD_none]
  simp only [lines, cut, List.dropLast_concat, List.getLast?_concat, lastLine, List.append_nil]
  exact List.map_congr_left bare |>.trans (List.map_id _)

end Text

namespace Command
open Printing

section Replies

theorem plain_ofText? (text : Option Text) : (Json.ofText? text).Plain := by
  cases text with
  | none => exact .null
  | some text => exact .string text

theorem plain_segmentsJson (segments : Segments) : (segmentsJson segments).Plain := by
  refine .array fun item among => ?_
  obtain ⟨text, _, rfl⟩ := List.mem_map.mp among
  exact .string text

theorem plain_entryJson (entry : Entry) : (entryJson entry).Plain := by
  unfold entryJson
  split <;> refine .object ?_ <;>
    simp only [List.forall_mem_cons, List.not_mem_nil, false_imp_iff, implies_true,
      Json.Plain.string, plain_segmentsJson, and_self]

theorem plain_verdictMembers (verdict : Verdict) :
    ∀ member ∈ verdictMembers verdict, member.2.Plain := by
  have table (placement : Option Placement) : ((placement.map fun placement =>
      Json.string placement.table.name.toList).getD .null).Plain := by
    cases placement with
    | none => exact .null
    | some placement => exact .string _
  have entry (placement : Option Placement) : ((placement.map fun placement =>
      entryJson placement.entry).getD .null).Plain := by
    cases placement with
    | none => exact .null
    | some placement => exact plain_entryJson placement.entry
  simp only [verdictMembers, decisionMembers, List.cons_append, List.nil_append,
    List.forall_mem_cons, List.not_mem_nil, false_imp_iff, implies_true, and_true]
  exact ⟨.bool _, table _, entry _, plain_ofText? _⟩

theorem verdictMembers_others (verdict : Verdict) :
    ∀ member ∈ verdictMembers verdict, member.1 ≠ "page" ∧ member.1 ≠ "url" := by
  simp [verdictMembers, decisionMembers]

theorem plain_replyJson (probe : Probe) (verdict : Verdict) : (replyJson probe verdict).Plain := by
  refine .object fun member among => ?_
  obtain asked | told := List.mem_append.mp among
  · simp only [List.mem_cons, List.not_mem_nil, or_false] at asked
    obtain rfl | rfl := asked <;> exact .string _
  · exact plain_verdictMembers _ member told

variable {json : JsonLibrary} (subscriptions : Subscriptions)

/-- A reply is written for the request of a line that is one. -/
theorem reply?_eq_some_iff {line text : Text} :
    reply? json subscriptions line = some text ↔ Text.trim line ≠ [] ∧
      ∃ probe, json.readProbe (Text.trim line) = .ok probe ∧
        json.write (replyJson probe (subscriptions.decide probe.request)) = .ok text := by
  unfold reply?
  by_cases blank : Text.trim line = []
  · simp [blank]
  cases json.readProbe (Text.trim line) with
  | error reason => simp [blank]
  | ok probe =>
    cases written : json.write (replyJson probe (subscriptions.decide probe.request)) <;>
      simp [blank, written, Except.toOption]

/-- The replies to a text are those to its parts between line feeds. -/
theorem replies_pieces (text : Text) :
    (Text.lines text).filterMap (reply? json subscriptions) =
      (text.pieces '\n').filterMap (reply? json subscriptions) := by
  have trimmed (lines : List Text) : lines.filterMap (reply? json subscriptions) =
      (lines.map Text.trim).filterMap (reply? json subscriptions) := by
    rw [List.filterMap_map]
    refine List.filterMap_congr fun line _ => ?_
    rw [Function.comp_apply, reply?, reply?, Text.trim_trim]
  obtain ⟨rest, idle, parts⟩ := Text.map_trim_pieces text
  rw [trimmed (Text.lines text), trimmed (text.pieces '\n'), parts, List.filterMap_append]
  obtain rfl | rfl := idle <;> exact (List.append_nil _).symm

theorem replies_append (before after : Text) :
    (Text.lines (before ++ '\n' :: after)).filterMap (reply? json subscriptions) =
      (Text.lines before).filterMap (reply? json subscriptions) ++
        (Text.lines after).filterMap (reply? json subscriptions) := by
  simp only [replies_pieces, Text.pieces_append_separator, List.filterMap_append]

end Replies

section Runs
variable {files : Files} {paths : List Text} {subscriptions : Subscriptions}

theorem exists_load (nonempty : paths ≠ []) (readable : ∀ path ∈ paths, Readable files path) :
    ∃ subscriptions, Subscriptions.load files paths = .ok subscriptions := by
  have succeeds := LoadedList.isOk_loadAll_iff.mpr ⟨nonempty, readable⟩
  unfold Subscriptions.load
  cases outcome : LoadedList.loadAll files paths with
  | ok lists => exact ⟨.ofLoaded lists, rfl⟩
  | error error =>
    rw [outcome] at succeeds
    cases succeeds

theorem loadLists_of_load (loaded : Subscriptions.load files paths = .ok subscriptions) :
    ∃ lists, loadLists files paths = .ok lists ∧ Subscriptions.ofLoaded lists = subscriptions := by
  unfold Subscriptions.load at loaded
  unfold loadLists
  cases all : LoadedList.loadAll files paths with
  | error error =>
    rw [all] at loaded
    cases loaded
  | ok lists =>
    rw [all] at loaded
    cases loaded
    exact ⟨lists, rfl, rfl⟩

theorem readText_of_toUtf8 {requests text : Text} (read : files requests = .ok text.toUtf8) :
    readText files requests = .ok text := by
  have decoded := Utf8.toText?_eq_some_iff.mpr (rfl : text.toUtf8 = text.toUtf8)
  simp only [readText, read, decoded]

theorem toList_unlines (texts : List Text) :
    (Outcome.unlines (texts.map String.ofList)).toList = texts.flatMap (· ++ ['\n']) := by
  simp [Outcome.unlines, String.toList_join, List.flatMap_map, Function.comp_def]

theorem verdictLine_eq (verdict : Verdict) :
    verdictLine verdict = verdict.decision.render ++
      (verdict.list.elim "" fun list => " (" ++ String.ofList list ++ ")") := by
  unfold verdictLine
  cases verdict.list with
  | none => exact String.append_empty.symm
  | some list => simp only [Option.elim_some, String.append_assoc]

theorem perform_check (loaded : Subscriptions.load files paths = .ok subscriptions)
    (json : JsonLibrary) (timings : Timings) (verbose : Bool) (page resource : Text) (trace : Bool) :
    let outcome := perform json files timings ⟨verbose, .check paths page resource trace⟩
    outcome.code = 0 ∧ outcome.output = Outcome.unlines
      ((if trace then (subscriptions.evaluate (.ofUrls page resource)).events.map eventLine
        else []) ++ [verdictLine (subscriptions.decide (.ofUrls page resource))]) := by
  obtain ⟨lists, came, rfl⟩ := loadLists_of_load loaded
  obtain ⟨output, code, _⟩ := outcome_of_prints (prints_runCheck came page resource trace)
  exact ⟨code.mpr rfl, output⟩

variable {json : JsonLibrary} (meets : json.Meets)
include meets

theorem perform_batch (loaded : Subscriptions.load files paths = .ok subscriptions)
    {requests text : Text} (read : files requests = .ok text.toUtf8) (timings : Timings)
    (verbose : Bool) :
    let outcome := perform json files timings ⟨verbose, .batch paths requests⟩
    outcome.code = 0 ∧ outcome.output = Outcome.unlines
      (((Text.lines text).filterMap (reply? json subscriptions)).map String.ofList) := by
  obtain ⟨lists, came, rfl⟩ := loadLists_of_load loaded
  obtain ⟨output, code, _⟩ :=
    outcome_of_prints (prints_runBatch meets came (readText_of_toUtf8 read))
  exact ⟨code.mpr rfl, output.trans String.append_empty⟩

theorem lines_unlines_replies (subscriptions : Subscriptions) (text : Text) :
    Text.lines (Outcome.unlines
        (((Text.lines text).filterMap (reply? json subscriptions)).map String.ofList)).toList =
      (Text.lines text).filterMap (reply? json subscriptions) := by
  rw [toList_unlines]
  apply Text.lines_unlines
  intro answer among
  obtain ⟨line, _, answered⟩ := List.mem_filterMap.mp among
  obtain ⟨_, probe, _, written⟩ := (reply?_eq_some_iff subscriptions).mp answered
  exact meets.printable (plain_replyJson probe _) written

end Runs

/-- Over lists that can be read, a batch prints one reply for each line that is a request, in the order
of the lines. A reply is a line of JSON with the request and the verdict on it, and it is read back as
the request; a blank line or one that is no request has none, so requests put together are answered as
each part is. To check a request prints the same verdict with the same list, and to trace it only
prints the events before that. This holds with every library for JSON that does as documented. -/
theorem replies_agree {json : JsonLibrary} (meets : json.Meets) {files : Files} {paths : List Text}
    (nonempty : paths ≠ []) (readable : ∀ path ∈ paths, Readable files path) :
    ∃ subscriptions, Subscriptions.load files paths = .ok subscriptions ∧
      (∀ timings verbose requests text, files requests = .ok text.toUtf8 →
        let outcome := perform json files timings ⟨verbose, .batch paths requests⟩
        outcome.code = 0 ∧
        outcome.output = Outcome.unlines
          (((Text.lines text).filterMap (reply? json subscriptions)).map String.ofList) ∧
        Text.lines outcome.output.toList =
          (Text.lines text).filterMap (reply? json subscriptions)) ∧
      (∀ line, Text.trim line = [] ∨ (∀ probe, json.readProbe (Text.trim line) ≠ .ok probe) →
        reply? json subscriptions line = none) ∧
      (∀ line probe, Text.trim line ≠ [] → json.readProbe (Text.trim line) = .ok probe →
        ∃ reply, reply? json subscriptions line = some reply ∧
          json.write (.object ([("page", .string probe.page), ("url", .string probe.resource)] ++
            verdictMembers (subscriptions.decide (.ofUrls probe.page probe.resource)))) =
              .ok reply ∧
          json.readProbe reply = .ok probe) ∧
      (∀ timings verbose first second both before after, files first = .ok (Text.toUtf8 before) →
        files second = .ok (Text.toUtf8 after) →
        files both = .ok (Text.toUtf8 (before ++ '\n' :: after)) →
        (perform json files timings ⟨verbose, .batch paths both⟩).output =
          (perform json files timings ⟨verbose, .batch paths first⟩).output ++
            (perform json files timings ⟨verbose, .batch paths second⟩).output) ∧
      ∀ timings verbose page resource,
        let request := Request.ofUrls page resource
        let verdict := subscriptions.decide request
        let untraced := perform json files timings ⟨verbose, .check paths page resource false⟩
        let traced := perform json files timings ⟨verbose, .check paths page resource true⟩
        untraced.code = 0 ∧ traced.code = 0 ∧
        untraced.output = verdict.decision.render ++
          (verdict.list.elim "" fun list => " (" ++ String.ofList list ++ ")") ++ "\n" ∧
        traced.output = Outcome.unlines ((subscriptions.evaluate request).events.map eventLine) ++
          untraced.output := by
  obtain ⟨subscriptions, loaded⟩ := exists_load nonempty readable
  refine ⟨subscriptions, loaded, ?_, ?_, ?_, ?_, ?_⟩
  · intro timings verbose requests text read outcome
    obtain ⟨code, output⟩ := perform_batch meets loaded read timings verbose
    refine ⟨code, output, ?_⟩
    rw [output, lines_unlines_replies meets]
  · intro line idle
    apply Option.eq_none_iff_forall_ne_some.mpr
    intro reply answered
    obtain ⟨visible, probe, read, _⟩ := (reply?_eq_some_iff subscriptions).mp answered
    obtain blank | malformed := idle
    · exact visible blank
    · exact malformed probe read
  · intro line probe visible read
    let verdict := subscriptions.decide probe.request
    obtain ⟨reply, written⟩ := meets.writes (replyJson probe verdict)
    refine ⟨reply, (reply?_eq_some_iff subscriptions).mpr ⟨visible, probe, read, written⟩, written, ?_⟩
    exact meets.reads_written (plain_verdictMembers verdict) (verdictMembers_others verdict) written
  · intro timings verbose first second both before after readFirst readSecond readBoth
    rw [(perform_batch meets loaded readFirst timings verbose).2,
      (perform_batch meets loaded readSecond timings verbose).2,
      (perform_batch meets loaded readBoth timings verbose).2,
      replies_append, List.map_append, Outcome.unlines_append]
  · intro timings verbose page resource request verdict untraced traced
    obtain ⟨code, output⟩ := perform_check loaded json timings verbose page resource false
    obtain ⟨codeTraced, outputTraced⟩ := perform_check loaded json timings verbose page resource true
    have last : Outcome.unlines [verdictLine verdict] = verdictLine verdict ++ "\n" := by
      simp [Outcome.unlines]
    refine ⟨code, codeTraced, ?_, ?_⟩
    · rw [← verdictLine_eq, ← last]
      exact output
    · exact outputTraced.trans ((Outcome.unlines_append _ _).trans
        (congrArg _ output.symm))

/-- Requests on lines that end both ways: an object with one more member, a blank line, one that is no
JSON, and a pair on the last line, whose resource URL ends with a line feed. -/
theorem replies_agree_on_mixed_lines :
    let paths := ["ads.txt".toList]
    let first := "\x7b\"url\": \"http://a.test/ads\", \"page\": \"\", \"more\": [1]\x7d\r\n \t".toList
    let second := "\x7b\"page\"\n[\"\", \"http://a.test/\\n\"]".toList
    let files := (FileTree.ofPaths [("ads.txt".toList, Text.toUtf8 "! Title: T\n/ads".toList),
      ("first".toList, Text.toUtf8 first), ("second".toList, Text.toUtf8 second),
      ("both".toList, Text.toUtf8 (first ++ '\n' :: second))]).read
    let replies (requests : String) := (run files {} ⟨false, .batch paths requests.toList⟩).output
    let checked (trace : Bool) :=
      (run files {} ⟨false, .check paths [] "http://a.test/ads".toList trace⟩).output
    Json.library.Meets ∧ paths ≠ [] ∧ (∀ path ∈ paths, Readable files path) ∧
    replies "both" = replies "first" ++ replies "second" ∧
    replies "first" = "\x7b\"page\":\"\",\"url\":\"http://a.test/ads\",\"blocked\":true," ++
      "\"matchedTable\":\"mainBlackList\",\"matchedEntry\":\x7b\"kind\":\"pattern\"," ++
      "\"segments\":[\"/ads\"]\x7d,\"list\":\"T\"\x7d\n" ∧
    replies "second" = "\x7b\"page\":\"\",\"url\":\"http://a.test/\\n\",\"blocked\":false," ++
      "\"matchedTable\":null,\"matchedEntry\":null,\"list\":null\x7d\n" ∧
    checked false = "blocked by mainBlackList [/ads] (T)\n" ∧
    ∃ events : List Event, checked true =
      Outcome.unlines (events.map eventLine) ++ checked false := by
  intro paths first second files replies checked
  have nonempty : paths ≠ [] := List.cons_ne_nil _ _
  have readable : ∀ path ∈ paths, Readable files path :=
    List.forall_mem_singleton.mpr ⟨_, rfl⟩
  obtain ⟨subscriptions, -, -, -, -, joined, verdict⟩ :=
    replies_agree Json.library_meets nonempty readable
  obtain ⟨-, -, -, traced⟩ := verdict {} false [] "http://a.test/ads".toList
  refine ⟨Json.library_meets, nonempty, readable,
    joined {} false _ _ _ first second rfl rfl rfl, ?_, ?_, ?_, _, traced⟩
  · decide +kernel
  · decide +kernel
  · decide +kernel

end Command

end FilterList
