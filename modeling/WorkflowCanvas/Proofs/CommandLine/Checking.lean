import WorkflowCanvas.Proofs.CommandLine.Running
import WorkflowCanvas.Proofs.Validation.Exact

/-! What the command `validate` prints: one line for each issue of the report on a graph and one for
each error in the settings of a node, beside lines for warnings and one for the verdict. -/
namespace WorkflowCanvas
open Script

theorem GraphReport.isValid_iff (report : GraphReport) :
    report.isValid = true ↔ report.errorCount = 0 := by
  rw [isValid, errorCount, Nat.add_eq_zero_iff, List.length_eq_zero_iff, List.length_eq_zero_iff,
    List.flatMap_eq_nil_iff]
  simp [ConfigReport.isValid]

namespace Command

/-! ### Lines -/

/-- Whether a line starts like those for issues or like those for errors. A line is what is printed at
once, whatever stands in its texts. -/
def tellsProblem (line : String) : Bool :=
  "  issue: ".toList.isPrefixOf line.toList || "  error   ".toList.isPrefixOf line.toList

theorem tellsProblem_issue (text : String) : tellsProblem ("  issue: " ++ text) = true := by
  simp [tellsProblem, String.toList_append]

theorem tellsProblem_error (text : String) : tellsProblem ("  error   " ++ text) = true := by
  simp [tellsProblem, String.toList_append]

theorem not_tellsProblem_warning (text : String) : tellsProblem ("  warning " ++ text) = false := by
  have hstart : "  warning ".toList = [' ', ' ', 'w', 'a', 'r', 'n', 'i', 'n', 'g', ' '] := by decide
  simp [tellsProblem, String.toList_append, hstart, List.isPrefixOf]

theorem head?_of_tellsProblem {line : String} (h : tellsProblem line = true) :
    line.toList.head? = some ' ' := by
  rw [tellsProblem, Bool.or_eq_true, List.isPrefixOf_iff_prefix, List.isPrefixOf_iff_prefix] at h
  obtain ⟨rest, hrest⟩ | ⟨rest, hrest⟩ := h
  · rw [← hrest]
    rfl
  · rw [← hrest]
    rfl

theorem not_tellsProblem_count (n : Nat) (text : String) :
    tellsProblem (toString n ++ text) = false := by
  by_contra h
  have hhead := head?_of_tellsProblem (by simpa using h)
  rw [String.toList_append, Nat.toList_repr] at hhead
  cases hn : Nat.toDigits 10 n with
  | nil => exact Nat.toDigits_ne_nil hn
  | cons c digits =>
    rw [hn] at hhead
    obtain rfl : c = ' ' := Option.some.inj hhead
    have hdigit := Nat.isDigit_of_mem_toDigits (by decide) (by decide) (hn ▸ List.mem_cons_self)
    exact absurd hdigit (by decide)

/-! ### Reports -/

theorem countP_settingLines {errors warnings : KeyMap String}
    {errorLine warningLine : String × String → String}
    (herrors : ∀ x ∈ errors, tellsProblem (errorLine x) = true)
    (hwarnings : ∀ x ∈ warnings, tellsProblem (warningLine x) = false) :
    (errors.map errorLine ++ warnings.map warningLine).countP tellsProblem = errors.length := by
  have hcount : (errors.map errorLine).countP tellsProblem = errors.length := by
    rw [List.countP_map, List.countP_eq_length]
    exact herrors
  have hnone : (warnings.map warningLine).countP tellsProblem = 0 := by
    rw [List.countP_map, List.countP_eq_zero]
    intro x hx
    simp [hwarnings x hx]
  rw [List.countP_append, hcount, hnone, Nat.add_zero]

/-- There is a line for each issue and for each error, and no other line starts like them. -/
theorem countP_reportLines (report : GraphReport) :
    (reportLines report).countP tellsProblem = report.errorCount := by
  have hissues : (report.issues.map fun issue => s!"  issue: {issue.toJson.compact}").countP
      tellsProblem = report.issues.length := by
    rw [List.countP_map, List.countP_eq_length]
    exact fun issue _ => tellsProblem_issue _
  have hverdict : tellsProblem (if report.isValid then "Pipeline is valid"
      else s!"{report.errorCount} problem(s) found") = false := by
    split
    · decide
    · exact not_tellsProblem_count report.errorCount _
  rw [reportLines, List.countP_append, List.countP_append, hissues, List.countP_flatMap,
    List.countP_singleton, hverdict, GraphReport.errorCount, List.length_flatMap, KeyMap.values,
    List.map_map]
  refine congrArg (report.issues.length + ·) (congrArg List.sum (List.map_congr_left ?_))
  rintro ⟨node, found⟩ -
  refine countP_settingLines ?_ ?_
  · rintro ⟨key, message⟩ -
    simp only [String.append_assoc]
    exact tellsProblem_error _
  · rintro ⟨key, message⟩ -
    simp only [String.append_assoc]
    exact not_tellsProblem_warning _

theorem validateScript_shows (server : Request → Reply) {d : Disk} {file : String} {record : Record}
    {g : Graph} (h : Holds d file record g) : Shows server d (validateScript file)
      (s!"Validating pipeline: {record.name}" :: reportLines (Catalogue.registry.validate g))
      (.ok ()) :=
  (loadCanvas_shows server {} h).silent ((Shows.say _).bind (Shows.sayAll _))

theorem not_tellsProblem_name (name : String) :
    tellsProblem s!"Validating pipeline: {name}" = false := by
  by_contra h
  have hhead := head?_of_tellsProblem (by simpa using h)
  rw [String.toList_append] at hhead
  cases hhead

end Command

/-- The report on a graph is exact, and it is valid if there are no errors to count. There are as many
errors as lines that tell of one, also among those that the command prints for a pipeline file. -/
theorem Registry.validate_outcome {g : Graph} (hg : g.WellFormed) (r : Registry) :
    (r.validate g).Exact r g ∧
    ((r.validate g).isValid = true ↔ (r.validate g).errorCount = 0) ∧
    (Command.reportLines (r.validate g)).countP Command.tellsProblem = (r.validate g).errorCount ∧
    ∀ (server : Request → Reply) (d : Disk) (session : Session) (file : String) (record : Record),
      Command.Holds d file record g →
      ∃ lines, Shows server d ((Command.validate file).script session) lines (.ok ()) ∧
        lines.countP Command.tellsProblem = (Catalogue.registry.validate g).errorCount := by
  refine ⟨validate_exact hg r, GraphReport.isValid_iff _, Command.countP_reportLines _,
    fun server d session file record hfile => ?_⟩
  refine ⟨_, Command.validateScript_shows server hfile, ?_⟩
  rw [List.countP_cons, Command.not_tellsProblem_name, Command.countP_reportLines]
  rfl

/-- A registry with one type, which has a setting that is required and may not be connected. -/
def strictRegistry : Registry where
  definitions :=
    [{ type := "step", label := "Step", category := "steps",
       fields := [{ key := "name", label := "Name", kind := .text, required := true }] }]

/-- Two nodes with an edge each way, of which one is at a handle that neither end has, and a node of no
known type that an edge joins to itself. -/
def faulty : Graph where
  nodes := [.fresh "b" "step", .fresh "x" "ghost", .fresh "a" "step"]
  edges := [⟨"on", "a", "b", some "side", some "side", false⟩, ⟨"back", "b", "a", none, none, false⟩,
    ⟨"round", "x", "x", some "side", none, false⟩]

theorem Registry.validate_outcome_faulty : faulty.WellFormed ∧
    (strictRegistry.validate faulty).issues = [.unknownNodeType "x" "ghost",
      .disallowedConnection "on" "step" "step", .unknownHandle "on" "side",
      .unknownHandle "on" "side", .disallowedConnection "back" "step" "step", .noEntryPoint,
      .blocked ["b", "x", "a"]] ∧
    (strictRegistry.validate faulty).errorCount = 9 ∧
    (strictRegistry.validate faulty).Exact strictRegistry faulty ∧
    ¬(strictRegistry.validate faulty).isValid = true ∧
    (Command.reportLines (strictRegistry.validate faulty)).countP Command.tellsProblem = 9 ∧
    ∃ lines, Shows (fun _ => .down) RunRequest.rowDisk
        ((Command.validate "row.json").script ⟨"", ⟨0⟩, fun _ => 0⟩) lines (.ok ()) ∧
      lines.countP Command.tellsProblem = 5 := by
  have hfaulty : faulty.WellFormed := ⟨by decide, by decide, by decide, by decide⟩
  have hcount : (strictRegistry.validate faulty).errorCount = 9 := by decide +kernel
  obtain ⟨hexact, hvalid, hlines, -⟩ := validate_outcome hfaulty strictRegistry
  have hrow : ((Record.parse RunRequest.rowText).toOption.bind fun record => record.graph.toOption.map
      fun g => (Catalogue.registry.validate g).errorCount) = some 5 := by
    decide +kernel
  obtain ⟨record, hrecord, hrow⟩ := Option.bind_eq_some_iff.mp hrow
  obtain ⟨g, hgraph, hrow⟩ := Option.map_eq_some_iff.mp hrow
  have hparse := RunRequest.ok_of_toOption hrecord
  have hg := RunRequest.ok_of_toOption hgraph
  obtain ⟨-, -, -, hprints⟩ := validate_outcome (Graph.load_ok hg).2 Catalogue.registry
  obtain ⟨lines, hshows, hproblems⟩ := hprints (fun _ => .down) RunRequest.rowDisk
    ⟨"", ⟨0⟩, fun _ => 0⟩ "row.json" record ⟨_, RunRequest.rowDisk_read, hparse, hg⟩
  refine ⟨hfaulty, by decide +kernel, hcount, hexact, ?_, hlines.trans hcount, lines, hshows,
    hproblems.trans hrow⟩
  rw [hvalid, hcount]
  decide

end WorkflowCanvas
