import FilterList.Command.Run

/-! What the parts of a command's run print. A part adds to what has been printed and looks at none of
it, so it prints the same after any other. -/

namespace FilterList.Command

namespace Outcome

theorem unlines_append (before after : List String) :
    unlines (before ++ after) = unlines before ++ unlines after := by
  simp [unlines, String.join_append]

end Outcome

instance : Append Printed where
  append before more := ⟨before.output ++ more.output, before.errors ++ more.errors⟩

namespace Printed

theorem append_empty (before : Printed) : before ++ ({} : Printed) = before := by
  change Printed.mk (before.output ++ "") (before.errors ++ "") = before
  rw [String.append_empty, String.append_empty]

theorem empty_append (more : Printed) : ({} : Printed) ++ more = more := by
  change Printed.mk ("" ++ more.output) ("" ++ more.errors) = more
  rw [String.empty_append, String.empty_append]

theorem append_assoc (before more last : Printed) :
    before ++ more ++ last = before ++ (more ++ last) := by
  change Printed.mk (_ ++ _ ++ _) (_ ++ _ ++ _) = Printed.mk (_ ++ (_ ++ _)) (_ ++ (_ ++ _))
  rw [String.append_assoc, String.append_assoc]

/-- Lines printed as results. -/
def ofLines (lines : List String) : Printed := ⟨Outcome.unlines lines, ""⟩

theorem ofLines_concat (before more : List String) :
    ofLines (before ++ more) = ofLines before ++ ofLines more := by
  rw [ofLines, Outcome.unlines_append]
  rfl

end Printed

namespace Printing
variable {α β : Type}

/-- Whatever has been printed before, the action prints `more` and comes to this result. -/
def Prints (action : Printing α) (more : Printed) (result : Except Failure α) : Prop :=
  ∀ before, action.run.run before = (result, before ++ more)

theorem prints_pure (value : α) : Prints (pure value) {} (.ok value) := by
  intro before
  rw [before.append_empty]
  rfl

theorem prints_ofExcept (part : Except Failure α) : Prints (ofExcept part) {} part := by
  intro before
  rw [before.append_empty]
  cases part <;> rfl

theorem prints_print (lines : List String) : Prints (print lines) (.ofLines lines) (.ok ()) := by
  intro before
  change (_, Printed.mk _ before.errors) = (_, Printed.mk _ (before.errors ++ ""))
  rw [String.append_empty]
  rfl

theorem prints_report (line : String) : Prints (report line) ⟨"", line ++ "\n"⟩ (.ok ()) := by
  intro before
  change (_, Printed.mk before.output (_ ++ _ ++ _)) = (_, Printed.mk (before.output ++ "") _)
  rw [String.append_empty, String.append_assoc]

section Sequences
variable {action : Printing α} {next : α → Printing β} {more last : Printed} {value : α}
  {result : Except Failure β} {failure : Failure}

theorem Prints.bind (first : Prints action more (.ok value)) (rest : Prints (next value) last result) :
    Prints (action >>= next) (more ++ last) result := by
  intro before
  rw [← Printed.append_assoc, ← rest (before ++ more)]
  change (action.run >>= ExceptT.bindCont next) before = _
  change ((fun outcome => ExceptT.bindCont next outcome.1 outcome.2) (action.run.run before)) = _
  rw [first before]
  rfl

theorem Prints.bind_error (first : Prints action more (.error failure)) :
    Prints (action >>= next) more (.error failure) := by
  intro before
  change ((fun outcome => ExceptT.bindCont next outcome.1 outcome.2) (action.run.run before)) = _
  rw [first before]
  rfl

theorem Prints.of_error {part : Except Failure α} (came : part = .error failure) :
    Prints (ofExcept part >>= next) {} (.error failure) := by
  subst came
  exact (prints_ofExcept _).bind_error

/-- A step that succeeds and prints nothing. -/
theorem Prints.of_ok {part : Except Failure α} (came : part = .ok value)
    (rest : Prints (next value) last result) : Prints (ofExcept part >>= next) last result := by
  subst came
  rw [← last.empty_append]
  exact (prints_ofExcept _).bind rest

end Sequences

theorem outcome_of_prints {action : Printing Unit} {more : Printed} {result : Except Failure Unit}
    (prints : Prints action more result) :
    action.outcome.output = more.output ∧ (action.outcome.code = 0 ↔ result.isOk = true) ∧
      (action.outcome.code = 1 ↔ result.isOk = false) := by
  unfold outcome
  rw [prints {}, Printed.empty_append]
  cases result with
  | ok _ => exact ⟨rfl, ⟨fun _ => rfl, fun _ => rfl⟩, ⟨nofun, nofun⟩⟩
  | error _ => exact ⟨rfl, ⟨nofun, nofun⟩, ⟨fun _ => rfl, fun _ => rfl⟩⟩

end Printing

open Printing

section Runs
variable {json : JsonLibrary} {files : Files} {paths : List Text} {lists : List LoadedList}

theorem prints_runCheck (loaded : loadLists files paths = .ok lists) (page resource : Text)
    (trace : Bool) :
    let scan := (Subscriptions.ofLoaded lists).evaluate (.ofUrls page resource)
    Prints (runCheck files paths page resource trace)
      (.ofLines ((if trace then scan.events.map eventLine else []) ++ [verdictLine (.ofScan scan)]))
      (.ok ()) := by
  intro scan
  cases trace with
  | false => exact Prints.of_ok loaded (prints_print _)
  | true =>
    rw [Printed.ofLines_concat]
    exact Prints.of_ok loaded ((prints_print _).bind (prints_print _))

theorem prints_runDump {path : Text} {table : Option Text} {asked : Option Table}
    {list : LoadedList} (known : askedTable table = .ok asked)
    (loaded : LoadedList.load files path = .ok list) :
    Prints (runDump files path table) (.ofLines (dumpLines list.rules asked)) (.ok ()) := by
  refine Prints.of_ok known (Prints.of_ok ?_ (prints_print _))
  rw [loaded]
  rfl

variable (meets : json.Meets)
include meets

theorem prints_runCompile (loaded : loadLists files paths = .ok lists) (timings : Timings)
    (verbose asJson : Bool) :
    ∃ more, Prints (runCompile json files timings verbose paths asJson) more (.ok ()) := by
  cases asJson with
  | false => exact ⟨_, Prints.of_ok loaded (prints_print _)⟩
  | true =>
    obtain ⟨text, written⟩ := meets.spreads (reportJson timings lists)
    refine ⟨_, Prints.of_ok loaded (Prints.of_ok ?_ (prints_print [String.ofList text]))⟩
    rw [written]
    rfl

end Runs

section Replies
variable (json : JsonLibrary) (subscriptions : Subscriptions)

/-- What a batch prints for a line of its requests, if anything. -/
def reply? (line : Text) : Option Text :=
  if Text.trim line = [] then none
  else
    match json.readProbe (Text.trim line) with
    | .error _ => none
    | .ok probe => (json.write (replyJson probe (subscriptions.decide probe.request))).toOption

/-- The counts after a line. -/
def BatchCounts.after (counts : BatchCounts) (line : Text) : BatchCounts :=
  if Text.trim line = [] then counts
  else
    match json.readProbe (Text.trim line) with
    | .error _ => { counts with malformed := counts.malformed + 1 }
    | .ok probe =>
      let blocked := (subscriptions.decide probe.request).decision.isBlocked
      { counts with answered := counts.answered + 1, blocked := counts.blocked + blocked.toNat }

variable {json subscriptions} (meets : json.Meets)
include meets

theorem prints_answerLine (counts : BatchCounts) (line : Text) :
    Prints (answerLine json subscriptions counts line)
      (.ofLines ((reply? json subscriptions line).toList.map String.ofList))
      (.ok (counts.after json subscriptions line)) := by
  unfold answerLine reply? BatchCounts.after
  by_cases blank : Text.trim line = []
  · simp only [blank, List.isEmpty_nil, if_true]
    exact prints_pure counts
  have visible : ¬ (Text.trim line).isEmpty = true := by simpa using blank
  simp only [if_neg blank, if_neg visible]
  cases json.readProbe (Text.trim line) with
  | error reason => exact prints_pure _
  | ok probe =>
    obtain ⟨text, written⟩ :=
      meets.writes (replyJson probe (subscriptions.decide probe.request))
    have came : (json.write (replyJson probe (subscriptions.decide probe.request))).mapError
        Failure.verdictUnwritten = .ok text := by
      rw [written]
      rfl
    refine Prints.of_ok came ?_
    dsimp only
    rw [written]
    rw [← Printed.append_empty (.ofLines _)]
    exact (prints_print [String.ofList text]).bind (prints_pure _)

theorem prints_answerLines (lines : List Text) (counts : BatchCounts) :
    Prints (lines.foldlM (answerLine json subscriptions) counts)
      (.ofLines ((lines.filterMap (reply? json subscriptions)).map String.ofList))
      (.ok (lines.foldl (BatchCounts.after json subscriptions) counts)) := by
  induction lines generalizing counts with
  | nil => exact prints_pure counts
  | cons line rest ih =>
    have split : ((line :: rest).filterMap (reply? json subscriptions)).map String.ofList =
        (reply? json subscriptions line).toList.map String.ofList ++
          (rest.filterMap (reply? json subscriptions)).map String.ofList := by
      rw [List.filterMap_cons]
      cases reply? json subscriptions line <;> rfl
    rw [split, Printed.ofLines_concat, List.foldlM_cons]
    exact (prints_answerLine meets counts line).bind (ih _)

theorem prints_runBatch {files : Files} {paths : List Text} {lists : List LoadedList}
    {requests text : Text} (loaded : loadLists files paths = .ok lists)
    (read : readText files requests = .ok text) :
    let counts := (Text.lines text).foldl (BatchCounts.after json (.ofLoaded lists)) {}
    Prints (runBatch json files paths requests)
      (.ofLines (((Text.lines text).filterMap (reply? json (.ofLoaded lists))).map
        String.ofList) ++ ⟨"", counts.summary ++ "\n"⟩) (.ok ()) :=
  Prints.of_ok loaded (Prints.of_ok read
    ((prints_answerLines meets _ _).bind (prints_report _)))

end Replies

end FilterList.Command
