import PodNet.Proofs.FailedCalls
import PodNet.Proofs.Json.Records
import PodNet.Proofs.SearchPath
import PodNet.Proofs.Tables

/-!
# Reports of failed plugins

A plugin that fails leaves a process that ended badly, and perhaps a report on its standard output.
That report goes through everything above it: the list of plugins, the attachments with their rollback
or sweep, the controller, and the program, which prints an object and ends. Nothing on that way changes
it (`CommandLine.run_reports`), and what is printed can be read back as the report
(`CommandLine.Answer.Reports`). Without a report of the plugin, one is made of how its process ended
and what it wrote to standard error.
-/

namespace PodNet

/-! ### Processes -/

/-- **A process of the node**: the plugin was executed after other calls, the machine started a process
for that, and the process left an outcome. Executing plugins changes no files, so the process was
started on those that are there now. -/
structure Node.Ran (node : Node) (d : Directory) (machine : Machine) (before : List Call)
    (e : Execution) (o : Outcome) : Prop where
  called : ∃ answer after, node.calls = before ++ ⟨e, answer⟩ :: after
  started : ∃ launch, PluginProcess.launch d node.files e = .ok launch ∧
    machine (before.map Call.execution) launch = .ok o

/-- **The failure of the process is the one that decides**: the process was run to attach, or it is the
first to detach that fails, and does know the container. -/
inductive Decisive (i : Invocation) (before : List Call) (e : Execution) (o : Outcome) : Prop
  | attaching (asked : i.command = .add) (attaches : e.command = .add)
  | detaching (asked : i.command = .del) (passed : ∀ b ∈ before, b.Tolerated)
    (counts : ∀ own, CniError.ofBytes? o.stdout = some own → own.code ≠ 3)

namespace PluginProcess

variable {d : Directory} {machine : Machine} {fs : FileSystem} {history : List Execution}
  {e : Execution} {o : Outcome}

theorem executor_eq {l : Launch} (hlaunch : launch d fs e = .ok l)
    (ho : machine history l = .ok o) : executor d machine fs history e = answer e o := by
  simp only [executor, hlaunch, ho, bind, Except.bind]

/-- A process of the node has its answer there. -/
theorem exists_calls_eq_of_ran {node : Node} {before : List Call}
    (answered : node.AnsweredBy (executor d machine)) (h : node.Ran d machine before e o) :
    ∃ after, node.calls = before ++ ⟨e, answer e o⟩ :: after := by
  obtain ⟨⟨own, after, hcalls⟩, l, hlaunch, ho⟩ := h
  have hown : own = answer e o := (answered before _ after hcalls).trans (executor_eq hlaunch ho)
  exact ⟨after, hown ▸ hcalls⟩

/-- A process that ended badly is a plugin that failed, with a report. -/
theorem answer_of_failed (h : o.ending ≠ .exited 0) :
    answer e o = .error (.delegateFailed e.plugin e.parameters.interface (report e.plugin o)) :=
  if_neg h

/-- **The report is what the plugin printed**, if that is one. -/
theorem report_of_printed {own : CniError} (h : CniError.ofBytes? o.stdout = some own)
    (plugin : String) : report plugin o = own := by
  rw [report, h, Option.getD_some]

/-- **Otherwise it is made of what the plugin wrote to standard error.** -/
theorem report_of_none (h : CniError.ofBytes? o.stdout = none) (plugin : String) :
    report plugin o = ⟨107, plugin ++ " exited with " ++ o.ending.text,
      some (Text.trim (Bytes.lossy o.stderr))⟩ := by
  rw [report, h, Option.getD_none]
  rfl

/-- If that is text, it is the details. -/
theorem details_of_ofString {t : String} (h : CniError.ofBytes? o.stdout = none)
    (text : o.stderr = Bytes.ofString t) (plugin : String) :
    (report plugin o).details = some (Text.trim t) := by
  rw [report_of_none h, text, Bytes.lossy_ofString]

/-- A failure with a report of its own code counts, and so does one without a report. -/
theorem not_tolerated (failed : o.ending ≠ .exited 0)
    (counts : ∀ own, CniError.ofBytes? o.stdout = some own → own.code ≠ 3) :
    ¬ Call.Tolerated ⟨e, answer e o⟩ := by
  rw [answer_of_failed failed]
  rintro (⟨out, hout⟩ | ⟨plugin, interface, own, hown, hcode⟩)
  · cases hout
  · cases hown
    cases hprinted : CniError.ofBytes? o.stdout with
    | none =>
      rw [report_of_none hprinted] at hcode
      cases hcode
    | some own =>
      rw [report_of_printed hprinted] at hcode
      exact counts own hprinted hcode

end PluginProcess

/-! ### What is printed of a report -/

namespace CniError

open Json (present)

open Json.Document (ofJson)

/-- The object that reports an error, as fields. -/
def fields (e : CniError) (cniVersion : String) : List (String × Option Json) :=
  [("cniVersion", some (.str cniVersion)), ("code", some (.nat e.code)), ("msg", some (.str e.msg)),
    ("details", e.details.map .str)]

theorem nodup_fields (e : CniError) (cniVersion : String) :
    ((e.fields cniVersion).map Prod.fst).Nodup := by
  simp [fields]

/-- What is printed has just these fields, those with a value. -/
theorem printed_eq (e : CniError) (cniVersion : String) :
    ∃ members, e.printed cniVersion = .obj members ∧
      members.Perm (present (e.fields cniVersion)) := by
  have hmembers : [("cniVersion", Json.str cniVersion), ("code", .nat e.code), ("msg", .str e.msg)] ++
      (e.details.map fun d => ("details", Json.str d)).toList = present (e.fields cniVersion) := by
    cases hdetails : e.details <;> simp [fields, present, hdetails]
  refine ⟨_, rfl, ?_⟩
  rw [hmembers]
  refine Table.ofList_perm ?_
  have hsub : ((present (e.fields cniVersion)).map Prod.fst).Sublist
      ((e.fields cniVersion).map Prod.fst) := by
    cases hdetails : e.details <;> simp [fields, present, hdetails]
  exact hsub.nodup (e.nodup_fields cniVersion)

/-- The code of a report that was read has 32 bits. -/
theorem code_lt_of_ofBytes? {b : Bytes} {e : CniError} (h : ofBytes? b = some e) :
    e.code < Nat.pow 2 32 := by
  obtain ⟨d, -, hd⟩ := Option.bind_eq_some_iff.mp h
  unfold ofDocument? at hd
  obtain ⟨read, -, hread⟩ := Option.bind_eq_some_iff.mp hd
  split at hread
  · obtain ⟨code, hcode, hrest⟩ := Option.bind_eq_some_iff.mp hread
    obtain ⟨msg, -, hrest⟩ := Option.bind_eq_some_iff.mp hrest
    obtain ⟨details, -, hrest⟩ := Option.bind_eq_some_iff.mp hrest
    cases hrest
    obtain ⟨field, -, hfield⟩ := Option.bind_eq_some_iff.mp hcode
    exact Json.Document.lt_of_nat? hfield
  · cases hread

/-- A report is read from any object with its fields. -/
theorem ofDocument?_of_perm {e : CniError} (small : e.code < Nat.pow 2 32) {cniVersion : String}
    {members : List (String × Json)} (h : members.Perm (present (e.fields cniVersion))) :
    ofDocument? (ofJson (.obj members)) = some e := by
  have hrecord := Json.Document.record?_of_subset (e.nodup_fields cniVersion)
    (List.subset_cons_self _ _) h
  have hcode : Json.Document.nat? 32 (ofJson (.nat e.code)) = some e.code :=
    Json.Document.nat?_nat small
  unfold ofDocument?
  simp only [List.map_cons, List.map_nil, Option.map_some] at hrecord
  rw [hrecord]
  show (do
    let code ← Json.Document.nat? 32 (ofJson (.nat e.code))
    let msg ← some e.msg
    let details ← Json.Document.withDefault none Json.Document.textOrNull?
      ((e.details.map Json.str).map ofJson)
    return (⟨code, msg, details⟩ : CniError)) = _
  rw [hcode, withDefault_textOrNull]
  rfl

/-- The numbers in what is printed are integers. -/
theorem exact_of_perm {e : CniError} (small : e.code < Nat.pow 2 32) {cniVersion : String}
    {members : List (String × Json)} (h : members.Perm (present (e.fields cniVersion))) :
    (Json.obj members).Exact := by
  rw [Json.exact_obj_congr h]
  refine Json.exact_present fun f hf v hv => ?_
  simp only [fields, List.mem_cons, List.not_mem_nil, or_false] at hf
  rcases hf with rfl | rfl | rfl | rfl
  · cases hv
    trivial
  · cases hv
    have bound : e.code < 0x100000000 := small
    show (-0x8000000000000000 : Int) ≤ e.code ∧ (e.code : Int) < 0x10000000000000000
    omega
  · cases hv
    trivial
  · obtain ⟨s, -, rfl⟩ := Option.map_eq_some_iff.mp hv
    trivial

/-- **What is printed can be read back**, a line with it as well. -/
theorem ofBytes?_printed {e : CniError} (small : e.code < Nat.pow 2 32) (cniVersion : String) :
    ofBytes? (Bytes.ofString ((e.printed cniVersion).compact ++ "\n")) = some e := by
  obtain ⟨members, hmembers, hperm⟩ := e.printed_eq cniVersion
  rw [ofBytes?, hmembers, Json.Document.read?_compact_line (exact_of_perm small hperm),
    Option.bind_some, ofDocument?_of_perm small hperm]

end CniError

/-- The version of settings is the one that they name, and `0.3.1` in the stead of a blank one. -/
theorem Settings.version_of_parse {stdin : Bytes} {s : Settings} (h : parse stdin = .ok s) :
    ∃ own, (Json.Document.read? stdin).bind ofDocument? = some own ∧
      s.cniVersion = if Text.trim own.cniVersion = "" then "0.3.1" else own.cniVersion := by
  unfold parse at h
  cases hread : (Json.Document.read? stdin).bind ofDocument? with
  | none =>
    rw [hread] at h
    cases h
  | some own =>
    rw [hread] at h
    cases h
    refine ⟨own, rfl, ?_⟩
    by_cases hblank : Text.trim own.cniVersion = "" <;>
      simp [Text.nonBlank, hblank, defaultCniVersion]

/-! ### The answer of the program -/

namespace CommandLine

/-- **The answer reports an error**: the program fails, and prints on one line an object with the
fields of the report, in compact form. Whoever reads it reads the report. -/
structure Answer.Reports (a : Answer) (cniVersion : String) (e : CniError) : Prop where
  status : a.status = 1
  stdout : ∃ members, a.stdout = (Json.obj members).compact ++ "\n" ∧
    members.Perm (Json.present (e.fields cniVersion))
  readable : CniError.ofBytes? (Bytes.ofString a.stdout) = some e

/-- A failure is answered with its report. -/
theorem answer_reports {f : Failure} (small : f.report.code < Nat.pow 2 32) (cniVersion : String) :
    (answer cniVersion (.error (.failed f))).Reports cniVersion f.report := by
  obtain ⟨members, hmembers, hperm⟩ := f.report.printed_eq cniVersion
  refine ⟨rfl, ⟨members, ?_, hperm⟩, CniError.ofBytes?_printed small cniVersion⟩
  rw [← hmembers]
  rfl

variable {w : Surroundings} {stdin : Bytes} {files : FileSystem} {i : Invocation} {s : Settings}

/-- The settings that come with an invocation are read from standard input. -/
theorem parse_of_decode (h : decode w stdin = .ok (i, some s)) : Settings.parse stdin = .ok s := by
  unfold decode at h
  split_ifs at h
  · cases h
  · cases hi : Invocation.ofEnvironment w.environment stdin with
    | error f =>
      rw [hi] at h
      cases h
    | ok own =>
      rw [hi] at h
      have hread : (if own.command = .version ∧ Invocation.isBlankInput stdin = true
          then Except.ok (own, none)
          else Settings.parse stdin >>= fun s => pure (own, some s)) = .ok (i, some s) := h
      split_ifs at hread
      · cases hread
      · cases hparse : Settings.parse stdin with
        | error f =>
          rw [hparse] at hread
          cases hread
        | ok parsed =>
          rw [hparse] at hread
          cases hread
          rfl

variable {c : Controller} {node : Node}

/-- Serving an invocation that attaches is attaching, and printing the result. -/
theorem serve_add (asked : i.command = .add) :
    serve c i = c.add i >>= fun r => pure (r.output c.settings.cniVersion) := by
  rw [serve, asked]

/-- Serving an invocation that detaches is detaching. -/
theorem serve_del (asked : i.command = .del) : serve c i = c.del i >>= fun _ => pure "" := by
  rw [serve, asked]

/-- **What decides is what serving fails with**: that the plugin failed, with its report. -/
theorem serve_fails {machine : Machine} {d : Directory}
    (executes : c.executor = PluginProcess.executor d machine) (fresh : node.journal = [])
    {before : List Call} {e : Execution} {o : Outcome} (failed : o.ending ≠ .exited 0)
    (decisive : Decisive i before e o)
    (ran : ((serve c i).runOn node).2.Ran d machine before e o) :
    ((serve c i).runOn node).1 = .error
      (.delegateFailed e.plugin e.parameters.interface (PluginProcess.report e.plugin o)) := by
  have hanswer := PluginProcess.answer_of_failed failed (e := e)
  cases decisive with
  | attaching asked attaches =>
    rw [serve_add asked, Task.runOn_bind_pure] at ran ⊢
    dsimp only at ran ⊢
    have answered := c.add_answeredBy i fresh
    rw [executes] at answered
    obtain ⟨after, hcalls⟩ := PluginProcess.exists_calls_eq_of_ran answered ran
    rw [← Task.calls_of_fresh fresh] at hcalls
    have hmem : ⟨e, PluginProcess.answer e o⟩ ∈ (c.add i).calls node := by
      rw [hcalls]
      exact List.mem_append_right before List.mem_cons_self
    rw [c.add_fails i hmem attaches hanswer]
    rfl
  | detaching asked passed counts =>
    rw [serve_del asked, Task.runOn_bind_pure] at ran ⊢
    dsimp only at ran ⊢
    have answered := c.del_answeredBy i fresh
    rw [executes] at answered
    obtain ⟨after, hcalls⟩ := PluginProcess.exists_calls_eq_of_ran answered ran
    rw [← Task.calls_of_fresh fresh] at hcalls
    rw [c.del_fails i hcalls passed (PluginProcess.not_tolerated failed counts) hanswer]
    rfl

/-- A run with settings without access to what it needs. -/
theorem runWith_of_error {fault : Fault} (haccess : access w files i s = .error fault) :
    runWith w files i s = (.error fault, ⟨files, []⟩) := by
  -- the equation lemma of the definition would take long to derive
  delta runWith
  rw [haccess]

/-- A run with settings, where there is access to what it needs. -/
theorem runWith_of_ok {client : Option Kubernetes.Client} (haccess : access w files i s = .ok client) :
    runWith w files i s =
      (((serve (controller w i s client) i).runOn ⟨files, []⟩).1.mapError .failed,
        ((serve (controller w i s client) i).runOn ⟨files, []⟩).2) := by
  delta runWith
  rw [haccess]
  rfl

/-- A run whose environment and settings are legible. -/
theorem run_eq (decoded : decode w stdin = .ok (i, some s)) :
    run w stdin files = (answer s.cniVersion (runWith w files i s).1, (runWith w files i s).2) := by
  rw [run, decoded]

/-- **What decides is what the program fails with.** -/
theorem runWith_fails {before : List Call} {e : Execution} {o : Outcome}
    (failed : o.ending ≠ .exited 0) (decisive : Decisive i before e o)
    (ran : (runWith w files i s).2.Ran ⟨s.networks, searchPath i s⟩ w.machine before e o) :
    (runWith w files i s).1 = .error (.failed
      (.delegateFailed e.plugin e.parameters.interface (PluginProcess.report e.plugin o))) := by
  cases haccess : access w files i s with
  | error fault =>
    -- without access nothing is executed
    obtain ⟨⟨answer, after, hcalls⟩, -⟩ := ran
    rw [runWith_of_error haccess] at hcalls
    cases List.append_ne_nil_of_right_ne_nil before (List.cons_ne_nil _ after) hcalls.symm
  | ok client =>
    rw [runWith_of_ok haccess] at ran ⊢
    dsimp only at ran ⊢
    rw [serve_fails rfl rfl failed decisive ran]
    rfl

/-- **Reports of failed plugins arrive.** Let the environment and the settings be legible, and let a
process of a plugin end badly that decides: it was run to attach, or it is the first to detach that
fails and counts. Then, whatever is executed afterwards, the program reports an error in the version
that the settings name. If the plugin printed a report, that is what is reported; otherwise the code is
107, and the details are what the plugin wrote to standard error. -/
theorem run_reports (w : Surroundings) (stdin : Bytes) (files : FileSystem) (i : Invocation)
    (s : Settings) (decoded : decode w stdin = .ok (i, some s)) (before : List Call) (e : Execution)
    (o : Outcome)
    (ran : (run w stdin files).2.Ran ⟨s.networks, searchPath i s⟩ w.machine before e o)
    (failed : o.ending ≠ .exited 0) (decisive : Decisive i before e o) :
    ∃ settings report, (Json.Document.read? stdin).bind Settings.ofDocument? = some settings ∧
      (run w stdin files).1.Reports
        (if Text.trim settings.cniVersion = "" then "0.3.1" else settings.cniVersion) report ∧
      (∀ own, CniError.ofBytes? o.stdout = some own → report = own) ∧
      (CniError.ofBytes? o.stdout = none →
        report.code = 107 ∧ report.details = some (Text.trim (Bytes.lossy o.stderr)) ∧
          ∀ t, o.stderr = Bytes.ofString t → report.details = some (Text.trim t)) := by
  obtain ⟨settings, hsettings, hversion⟩ := Settings.version_of_parse (parse_of_decode decoded)
  rw [run_eq decoded] at ran ⊢
  dsimp only at ran ⊢
  rw [runWith_fails failed decisive ran]
  have small : (PluginProcess.report e.plugin o).code < Nat.pow 2 32 := by
    cases hprinted : CniError.ofBytes? o.stdout with
    | none =>
      rw [PluginProcess.report_of_none hprinted]
      show 107 < 0x100000000
      omega
    | some own =>
      rw [PluginProcess.report_of_printed hprinted]
      exact CniError.code_lt_of_ofBytes? hprinted
  refine ⟨settings, PluginProcess.report e.plugin o, hsettings, ?_,
    fun own hown => PluginProcess.report_of_printed hown _, fun hnone => ?_⟩
  · rw [← hversion]
    exact answer_reports (f := .delegateFailed _ _ _) small s.cniVersion
  · have hreport := PluginProcess.report_of_none hnone e.plugin
    exact ⟨congrArg CniError.code hreport, congrArg CniError.details hreport,
      fun t text => PluginProcess.details_of_ofString hnone text e.plugin⟩

/-- Settings that name a version and have `bridge` attached. -/
def bridgeSettings : Settings :=
  { Settings.default with
    cniVersion := "0.4.0"
    name := ""
    type := ""
    defaultPlugin := some "bridge"
    networkDirectory := some ""
    binaryDirectory := some "/"
    persistBuiltins := false }

/-- These settings on standard input. -/
def bridgeInput : Bytes :=
  Bytes.ofString (Json.compact (.obj [("cniVersion", .str "0.4.0"), ("default_plugin", .str "bridge"),
    ("cni_net_dir", .str ""), ("cni_bin_dir", .str "/"),
    ("persist_synthesized_configs", .bool false)]))

/-- What `bridge` reports. -/
def tryLater : CniError := ⟨11, "try again later", none⟩

theorem code_tryLater : tryLater.code < Nat.pow 2 32 := by
  show 11 < 0x100000000
  omega

/-- The process that `bridge` leaves: it prints its report and ends badly. -/
def failedBridge : Outcome :=
  ⟨Bytes.ofString ((tryLater.printed "0.3.1").compact ++ "\n"), [], .exited 1⟩

/-- Another one: it prints no report, and complains on standard error. -/
def brokenBridge : Outcome :=
  ⟨Bytes.ofString "oops", Bytes.ofString "  no bridge cni0\n", .killed 9⟩

/-- It prints no report. -/
theorem ofBytes?_brokenBridge : CniError.ofBytes? brokenBridge.stdout = none := by decide +kernel

/-- An environment in which a container is to be attached for no pod. -/
def unreadyEnvironment (name : String) : Option String :=
  [("CNI_COMMAND", "ADD"), ("CNI_CONTAINERID", "c1"), ("CNI_NETNS", "/ns/c1")].lookup name

/-- Surroundings with it, in which all processes leave the same. -/
def unready (o : Outcome) : Surroundings where
  environment := unreadyEnvironment
  machine _ _ := .ok o
  service _ := none

/-- The invocation there, with a configuration on standard input. -/
def unreadyInvocation (stdin : Bytes) : Invocation := ⟨.add, "c1", "/ns/c1", "eth0", "", [], stdin⟩

theorem ofEnvironment_unready {stdin : Bytes} (nonblank : Invocation.isBlankInput stdin = false) :
    Invocation.ofEnvironment unreadyEnvironment stdin = .ok (unreadyInvocation stdin) := by
  have hpresent : Invocation.checkPresent .add "c1" "/ns/c1" stdin = .ok () := by
    rw [Invocation.checkPresent, nonblank]
    rfl
  show (Invocation.checkPresent .add "c1" "/ns/c1" stdin >>= _) = _
  rw [hpresent]
  rfl

section Unready

variable (o : Outcome)

theorem decode_unready {stdin : Bytes} (short : ¬ maxConfigLength < stdin.length)
    (nonblank : Invocation.isBlankInput stdin = false) (hparse : Settings.parse stdin = .ok s) :
    decode (unready o) stdin = .ok (unreadyInvocation stdin, some s) := by
  have hi : Invocation.ofEnvironment (unready o).environment stdin =
      .ok (unreadyInvocation stdin) := ofEnvironment_unready nonblank
  rw [decode, if_neg short, hi]
  show (Settings.parse stdin >>= _) = _
  rw [hparse]
  rfl

theorem read_bridgeInput :
    (Json.Document.read? bridgeInput).bind Settings.ofDocument? = some bridgeSettings := by
  have hread : Json.Document.read? bridgeInput = some _ :=
    Json.Document.read?_compact ⟨trivial, trivial, trivial, trivial, trivial, trivial⟩
  rw [hread]
  rfl

theorem decode_bridgeInput :
    decode (unready o) bridgeInput = .ok (unreadyInvocation bridgeInput, some bridgeSettings) := by
  have hparse : Settings.parse bridgeInput = .ok bridgeSettings := by
    rw [Settings.parse, read_bridgeInput]
    rfl
  exact decode_unready o (by decide +kernel) (by decide +kernel) hparse

/-- The execution of `bridge`. -/
def bridgeExecution : Execution :=
  .ofPlugin .add (.forRequest ⟨"c1", "/ns/c1", none, []⟩ (.plain (.plugin "bridge") "eth0"))
    Controller.bridgeList none ("bridge", Builtin.bridge)

/-- `bridge` is run where it is installed. -/
theorem launch_bridgeExecution :
    ∃ l, PluginProcess.launch ⟨"", ["/"]⟩ Controller.bridgeNode.files bridgeExecution = .ok l := by
  have hresolve : Controller.bridgeNode.files.resolve (Path.join "/" "bridge") =
      .ok (.entry ["bridge"] (.file [] 0o755)) :=
    FileSystem.resolve_root ⟨by decide, by decide, by decide, by decide⟩ (by decide) (by rfl) (by rfl)
  have hruns : Controller.bridgeNode.files.mayRun (Path.join "/" "bridge") = true := by
    rw [FileSystem.mayRun, hresolve]
    rfl
  have hfound : Directory.findBinary ⟨"", ["/"]⟩ Controller.bridgeNode.files "bridge" =
      some (Path.join "/" "bridge") := by
    show [Path.join "/" "bridge"].find? Controller.bridgeNode.files.isFile = _
    rw [List.find?_cons, FileSystem.isFile_of_mayRun hruns]
  exact ⟨⟨Path.join "/" "bridge", _, _⟩,
    PluginProcess.launch_eq_ok_iff.mpr ⟨hfound, fun _ => hruns, by rfl, rfl, rfl⟩⟩

/-- What serves the invocation there. -/
def unreadyController : Controller :=
  controller (unready o) (unreadyInvocation bridgeInput) bridgeSettings none

variable {o}

/-- `bridge` fails there if processes end badly. -/
theorem exists_answer_unready (failed : o.ending ≠ .exited 0) (history : List Execution) :
    ∃ f, (unreadyController o).executor Controller.bridgeNode.files history bridgeExecution =
      .error f := by
  obtain ⟨l, hlaunch⟩ := launch_bridgeExecution
  have hleft : (unready o).machine history l = .ok o := rfl
  exact ⟨_, (PluginProcess.executor_eq hlaunch hleft).trans
    (PluginProcess.answer_of_failed failed)⟩

/-- Executing `bridge` is then all that attaching does. -/
theorem add_unready (failed : o.ending ≠ .exited 0) :
    ∃ outcome answer asked, (∀ e ∈ asked, Event.IsQuestion e) ∧
      ((unreadyController o).add (unreadyInvocation bridgeInput)).runOn Controller.bridgeNode =
        (outcome, ⟨Controller.bridgeNode.files, asked ++ [.executed bridgeExecution answer]⟩) := by
  obtain ⟨args, hargs, hnobody⟩ :
      ∃ args, (unreadyInvocation bridgeInput).podArgs = .ok args ∧ args.pod = none :=
    ⟨_, by rfl, by rfl⟩
  have hserves : (unreadyController o).resolver.Serves Controller.bridgeNode.files "bridge"
      Controller.bridgeList Controller.bridgeNode.files := Controller.serves_bridge
  have hchosen : ((unreadyController o).selector.choose (unreadyController o).settings
      (unreadyController o).directory Controller.bridgeNode.files).plugin = .ok "bridge" := rfl
  have hrun : ∃ asked, (∀ e ∈ asked, Event.IsQuestion e) ∧
      ((unreadyController o).add (unreadyInvocation bridgeInput)).runOn Controller.bridgeNode = _ :=
    Controller.exists_add_runOn_without_pod hargs hnobody hchosen hserves
  obtain ⟨asked, hasked, hrun⟩ := hrun
  obtain ⟨f, hanswer⟩ := exists_answer_unready failed (executionsOf asked)
  have hall : (Delegation.addAll (unreadyController o).executor
      (Controller.sandbox (unreadyInvocation bridgeInput) none)
      [Controller.defaultAttachment "bridge" Controller.bridgeList]).runOn
        ⟨Controller.bridgeNode.files, [] ++ asked⟩ = _ :=
    Delegation.addAll_of_first_fails (by rfl) hanswer
  exact ⟨_, _, asked, hasked, hrun.trans (Task.runOn_bind_error hall _)⟩

/-- The process of `bridge` that ends badly is the first one. -/
theorem ran_unready (failed : o.ending ≠ .exited 0) :
    (run (unready o) bridgeInput Controller.bridgeNode.files).2.Ran ⟨"", ["/"]⟩ (unready o).machine []
      bridgeExecution o := by
  obtain ⟨outcome, answer, asked, hasked, hadd⟩ := add_unready failed
  obtain ⟨l, hlaunch⟩ := launch_bridgeExecution
  have haccess : access (unready o) Controller.bridgeNode.files (unreadyInvocation bridgeInput)
      bridgeSettings = .ok none := by rfl
  have hleft : (run (unready o) bridgeInput Controller.bridgeNode.files).2 =
      ⟨Controller.bridgeNode.files, asked ++ [.executed bridgeExecution answer]⟩ := by
    have hserve : ((serve (unreadyController o) (unreadyInvocation bridgeInput)).runOn
        Controller.bridgeNode).2 = _ := congrArg Prod.snd (Task.runOn_bind_pure _ _ _)
    rw [run_eq (decode_bridgeInput o), runWith_of_ok haccess]
    exact hserve.trans (congrArg Prod.snd hadd)
  have hnone : asked.filterMap Event.call? = [] :=
    List.filterMap_eq_nil_iff.mpr fun e he => (hasked e he).call?_eq_none
  rw [hleft]
  refine ⟨⟨answer, [], ?_⟩, l, hlaunch, rfl⟩
  rw [Node.calls, List.filterMap_append, hnone]
  rfl

end Unready

/-- What `bridge` reports arrives, in the version that the settings name; where it prints no report,
what it complains about does. -/
theorem run_reports_tryLater :
    (decode (unready failedBridge) bridgeInput =
        .ok (unreadyInvocation bridgeInput, some bridgeSettings) ∧
      (run (unready failedBridge) bridgeInput Controller.bridgeNode.files).2.Ran ⟨"", ["/"]⟩
        (unready failedBridge).machine [] bridgeExecution failedBridge ∧
      (run (unready failedBridge) bridgeInput Controller.bridgeNode.files).1.Reports "0.4.0"
        tryLater) ∧
    (run (unready brokenBridge) bridgeInput Controller.bridgeNode.files).2.Ran ⟨"", ["/"]⟩
        (unready brokenBridge).machine [] bridgeExecution brokenBridge ∧
      ∃ report, (run (unready brokenBridge) bridgeInput Controller.bridgeNode.files).1.Reports
        "0.4.0" report ∧ report.code = 107 ∧ report.details = some "no bridge cni0" := by
  have hran : (run (unready failedBridge) bridgeInput Controller.bridgeNode.files).2.Ran ⟨"", ["/"]⟩
      (unready failedBridge).machine [] bridgeExecution failedBridge := ran_unready (by decide)
  have hran' : (run (unready brokenBridge) bridgeInput Controller.bridgeNode.files).2.Ran ⟨"", ["/"]⟩
      (unready brokenBridge).machine [] bridgeExecution brokenBridge := ran_unready (by decide)
  obtain ⟨settings, report, hsettings, hreports, hprinted, -⟩ :=
    run_reports (unready failedBridge) bridgeInput Controller.bridgeNode.files _ _
      (decode_bridgeInput _) [] _ _ hran (by decide) (.attaching rfl rfl)
  obtain ⟨settings', report', hsettings', hreports', -, hbroken⟩ :=
    run_reports (unready brokenBridge) bridgeInput Controller.bridgeNode.files _ _
      (decode_bridgeInput _) [] _ _ hran' (by decide) (.attaching rfl rfl)
  have hreport : report = tryLater :=
    hprinted tryLater (CniError.ofBytes?_printed code_tryLater "0.3.1")
  obtain ⟨hcode, -, hdetails⟩ := hbroken ofBytes?_brokenBridge
  rw [read_bridgeInput] at hsettings hsettings'
  cases hsettings
  cases hsettings'
  rw [hreport] at hreports
  exact ⟨⟨decode_bridgeInput _, hran, hreports⟩, hran', report', hreports', hcode,
    (hdetails _ rfl).trans (by rfl)⟩

end CommandLine

end PodNet
