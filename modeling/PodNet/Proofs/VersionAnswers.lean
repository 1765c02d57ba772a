import PodNet.Proofs.Reports

/-!
# Asking for the version

Who asks which versions the program supports names no container, and need not name anything else. The
answer should depend on the settings only. It does where standard input is blank. But with settings the
program first reads the arguments of the invocation, and makes a client of the cluster if they name a
pod; where one of these fails it reports that, and tells no versions (`CommandLine.Barred`). So two
environments get the same answer just if neither is refused or both are refused alike
(`CommandLine.version_answers_agree_iff`), and a pod named where there is no cluster is enough for
different answers (`CommandLine.version_refused_for_pod`). Where a client comes from is up to the
client library, and nothing is assumed of it.
-/

namespace PodNet

/-- The environment asks for the version. -/
def Surroundings.AsksVersion (w : Surroundings) : Prop :=
  ∃ word, w.environment "CNI_COMMAND" = some word ∧ Text.trim word = "VERSION"

/-- The arguments in the environment. -/
def Surroundings.arguments (w : Surroundings) : String :=
  Text.trim ((w.environment "CNI_ARGS").getD "")

namespace CommandLine

variable {w w' : Surroundings} {stdin : Bytes} {files files' : FileSystem} {i : Invocation}
  {s : Settings} {fault : Fault} {a : Answer}

/-! ### What is told, and what is not -/

/-- **The answer tells the versions**: the program succeeds, and prints an object with the version of the
settings and the list of those that it supports. -/
structure Answer.TellsVersions (a : Answer) (cniVersion : String) : Prop where
  status : a.status = 0
  stdout : a.stdout = (Json.obj [("cniVersion", .str cniVersion), ("supportedVersions",
    .arr [.str "0.3.0", .str "0.3.1", .str "0.4.0", .str "1.0.0"])]).compact

/-- Standard input holds settings, within the greatest length. -/
structure Configured (stdin : Bytes) (s : Settings) : Prop where
  short : stdin.length ≤ maxConfigLength
  nonblank : Invocation.isBlankInput stdin = false
  parsed : Settings.parse stdin = .ok s

/-- **Access is barred**: the arguments in the environment cannot be read, or they name a pod and no
client can be made of the settings. -/
inductive Barred (w : Surroundings) (files : FileSystem) (s : Settings) : Fault → Prop
  | arguments {failure} (unread : PodArgs.parse w.arguments = .error failure) :
      Barred w files s (.failed failure)
  | cluster {who fault} (read : PodArgs.parse w.arguments = .ok who) (named : who.pod ≠ none)
      (noClient : Kubernetes.Client.ofSettings w.library s w.environment files = .error fault) :
      Barred w files s (.noAccess fault)

/-- **The question is refused** with an answer, as access is barred. -/
def Refuses (w : Surroundings) (stdin : Bytes) (files : FileSystem) (a : Answer) : Prop :=
  ∃ s fault, Configured stdin s ∧ Barred w files s fault ∧ a = answer s.cniVersion (.error fault)

theorem tellsVersions_versionText (cniVersion : String) :
    (⟨0, versionText cniVersion⟩ : Answer).TellsVersions cniVersion :=
  ⟨rfl, rfl⟩

theorem status_answer_error (cniVersion : String) (fault : Fault) :
    (answer cniVersion (.error fault)).status ≠ 0 := by
  show (if fault.aborts then (⟨101, ""⟩ : Answer) else _).status ≠ 0
  split_ifs
  · show 101 ≠ 0
    omega
  · show 1 ≠ 0
    omega

/-! ### Reading the question -/

theorem exists_ofEnvironment (asks : w.AsksVersion) (stdin : Bytes) :
    ∃ i, Invocation.ofEnvironment w.environment stdin = .ok i ∧ i.command = .version ∧
      i.args = w.arguments := by
  obtain ⟨word, hword, htrim⟩ := asks
  have hcommand : Command.parse (Text.trim word) = .ok .version := by
    rw [htrim]
    rfl
  unfold Invocation.ofEnvironment
  rw [hword]
  dsimp only
  rw [hcommand]
  exact ⟨_, rfl, rfl, rfl⟩

/-- What is read where the version is asked for. -/
theorem exists_decode (asks : w.AsksVersion) (stdin : Bytes) :
    ∃ i, i.command = .version ∧ i.args = w.arguments ∧ decode w stdin =
      if maxConfigLength < stdin.length then
        .error (.invalidEnvelope (.configTooLong maxConfigLength))
      else if Invocation.isBlankInput stdin = true then .ok (i, none)
      else (Settings.parse stdin).map fun s => (i, some s) := by
  obtain ⟨i, hi, hcommand, hargs⟩ := exists_ofEnvironment asks stdin
  refine ⟨i, hcommand, hargs, ?_⟩
  unfold decode
  split_ifs with hlong hblank
  · rfl
  · rw [hi]
    show (if i.command = .version ∧ Invocation.isBlankInput stdin = true then _ else _) = _
    rw [if_pos ⟨hcommand, hblank⟩]
    rfl
  · rw [hi]
    show (if i.command = .version ∧ Invocation.isBlankInput stdin = true then _ else _) = _
    rw [if_neg fun h => hblank h.2]
    cases Settings.parse stdin <;> rfl

/-- Access fails just if it is barred. -/
theorem access_eq_error_iff (hargs : i.args = w.arguments) :
    access w files i s = .error fault ↔ Barred w files s fault := by
  unfold access Invocation.podArgs
  rw [hargs]
  constructor
  · intro h
    cases hread : PodArgs.parse w.arguments with
    | error f =>
      rw [hread] at h
      cases h
      exact .arguments hread
    | ok who =>
      rw [hread] at h
      change (if who.pod.isNone = true then Except.ok none else _) = Except.error fault at h
      split_ifs at h with hnobody
      cases hclient : Kubernetes.Client.ofSettings w.library s w.environment files with
      | error own =>
        rw [hclient] at h
        cases h
        exact .cluster hread (by simpa using hnobody) hclient
      | ok c =>
        rw [hclient] at h
        cases h
  · intro h
    cases h with
    | arguments unread =>
      rw [unread]
      rfl
    | @cluster who _ read named noClient =>
      rw [read]
      show (if who.pod.isNone = true then Except.ok none else _) = _
      rw [if_neg (by simpa using named), noClient]
      rfl

/-- Serving the question is telling the versions. -/
theorem serve_version {c : Controller} {node : Node} (asked : i.command = .version) :
    (serve c i).runOn node = (.ok (versionText c.settings.cniVersion), node) := by
  rw [serve, asked]
  rfl

/-! ### Answers -/

/-- **With settings the answer depends on access**, which is not barred, or by one fault. -/
theorem run_of_configured (asks : w.AsksVersion) (configured : Configured stdin s)
    (files : FileSystem) :
    (∀ fault, ¬Barred w files s fault) ∧
        run w stdin files = (⟨0, versionText s.cniVersion⟩, ⟨files, []⟩) ∨
      ∃ fault, (∀ own, Barred w files s own ↔ own = fault) ∧
        run w stdin files = (answer s.cniVersion (.error fault), ⟨files, []⟩) := by
  obtain ⟨i, hcommand, hargs, hdecode⟩ := exists_decode asks stdin
  rw [if_neg (Nat.not_lt.mpr configured.short), configured.nonblank, if_neg Bool.false_ne_true,
    configured.parsed] at hdecode
  rw [run_eq hdecode]
  simp only [← access_eq_error_iff hargs]
  cases haccess : access w files i s with
  | error fault =>
    rw [runWith_of_error haccess]
    exact .inr ⟨fault, fun own => by rw [Except.error.injEq, eq_comm], rfl⟩
  | ok client =>
    rw [runWith_of_ok haccess, serve_version hcommand]
    exact .inl ⟨nofun, rfl⟩

/-- **Without settings standard input decides.** -/
theorem run_of_not_configured (asks : w.AsksVersion) (asks' : w'.AsksVersion)
    (h : ∀ s, ¬Configured stdin s) (files files' : FileSystem) :
    (run w stdin files).2 = ⟨files, []⟩ ∧ (run w stdin files).1 = (run w' stdin files').1 := by
  obtain ⟨i, -, -, hdecode⟩ := exists_decode asks stdin
  obtain ⟨i', -, -, hdecode'⟩ := exists_decode asks' stdin
  rw [run, run, hdecode, hdecode']
  split_ifs with hlong hblank
  · exact ⟨rfl, rfl⟩
  · exact ⟨rfl, rfl⟩
  · cases hparsed : Settings.parse stdin with
    | error f => exact ⟨rfl, rfl⟩
    | ok s => exact absurd ⟨Nat.not_lt.mp hlong, eq_false_of_ne_true hblank, hparsed⟩ (h s)

theorem Configured.unique {s' : Settings} (h : Configured stdin s) (h' : Configured stdin s') :
    s = s' :=
  Except.ok.inj (h.parsed.symm.trans h'.parsed)

/-- Where standard input is blank the default version is told. -/
theorem run_of_blank (asks : w.AsksVersion) (short : stdin.length ≤ maxConfigLength)
    (blank : Invocation.isBlankInput stdin = true) :
    run w stdin files = (⟨0, versionText defaultCniVersion⟩, ⟨files, []⟩) := by
  obtain ⟨i, -, -, hdecode⟩ := exists_decode asks stdin
  rw [run, hdecode, if_neg (Nat.not_lt.mpr short), if_pos blank]
  rfl

/-- Nothing is done on the node. -/
theorem run_leaves (asks : w.AsksVersion) (stdin : Bytes) (files : FileSystem) :
    (run w stdin files).2 = ⟨files, []⟩ := by
  by_cases hconfigured : ∃ s, Configured stdin s
  · obtain ⟨s, configured⟩ := hconfigured
    rcases run_of_configured asks configured files with ⟨-, hrun⟩ | ⟨fault, -, hrun⟩ <;> rw [hrun]
  · push Not at hconfigured
    exact (run_of_not_configured asks asks hconfigured files files).1

/-- With settings the program fails just if it refuses the question. -/
theorem refuses_iff (asks : w.AsksVersion) (configured : Configured stdin s) :
    Refuses w stdin files a ↔ (run w stdin files).1 = a ∧ a.status ≠ 0 := by
  have hrefuses : Refuses w stdin files a ↔
      ∃ fault, Barred w files s fault ∧ a = answer s.cniVersion (.error fault) := by
    constructor
    · rintro ⟨own, fault, configured', h, ha⟩
      cases configured.unique configured'
      exact ⟨fault, h, ha⟩
    · exact fun ⟨fault, h, ha⟩ => ⟨s, fault, configured, h, ha⟩
  rw [hrefuses]
  rcases run_of_configured asks configured files with ⟨hfree, hrun⟩ | ⟨fault, hbarred, hrun⟩
  · rw [hrun]
    refine iff_of_false (fun ⟨fault, h, _⟩ => hfree fault h) ?_
    rintro ⟨rfl, hstatus⟩
    exact hstatus rfl
  · simp only [hbarred, hrun, exists_eq_left]
    exact ⟨fun h => ⟨h.symm, h ▸ status_answer_error _ _⟩, fun h => h.1.symm⟩

/-- With settings a program that succeeds tells the versions. -/
theorem fst_run_of_status (asks : w.AsksVersion) (configured : Configured stdin s)
    (hstatus : (run w stdin files).1.status = 0) :
    (run w stdin files).1 = ⟨0, versionText s.cniVersion⟩ := by
  rcases run_of_configured asks configured files with ⟨-, hrun⟩ | ⟨fault, -, hrun⟩
  · rw [hrun]
  · rw [hrun] at hstatus
    exact absurd hstatus (status_answer_error _ _)

/-- Answers are the same just if the question is refused alike. -/
theorem fst_run_eq_iff (asks : w.AsksVersion) (asks' : w'.AsksVersion) :
    (run w stdin files).1 = (run w' stdin files').1 ↔
      ∀ a, Refuses w stdin files a ↔ Refuses w' stdin files' a := by
  by_cases hconfigured : ∃ s, Configured stdin s
  · obtain ⟨s, configured⟩ := hconfigured
    simp only [refuses_iff asks configured, refuses_iff asks' configured]
    refine ⟨fun h a => by rw [h], fun h => ?_⟩
    by_cases hstatus : (run w stdin files).1.status = 0
    · by_cases hstatus' : (run w' stdin files').1.status = 0
      · rw [fst_run_of_status asks configured hstatus, fst_run_of_status asks' configured hstatus']
      · exact ((h _).mpr ⟨rfl, hstatus'⟩).1
    · exact ((h _).mp ⟨rfl, hstatus⟩).1.symm
  · push Not at hconfigured
    refine iff_of_true (run_of_not_configured asks asks' hconfigured files files').2 fun a => ?_
    exact iff_of_false (fun ⟨s, _, h, _⟩ => hconfigured s h) fun ⟨s, _, h, _⟩ => hconfigured s h

/-- **Two environments that ask for the version are answered alike just if they are refused alike.**
Nothing is done on the node. Blank standard input is answered with the versions, whatever else the
environment holds. With settings the versions are told just if access is not barred, and otherwise the
program fails and tells what bars it. So the answers of two environments, with any files, are the same
just if both are told the versions, or both are refused with the same answer. -/
theorem version_answers_agree_iff (asks : w.AsksVersion) (asks' : w'.AsksVersion) (stdin : Bytes)
    (files files' : FileSystem) :
    (run w stdin files).2 = ⟨files, []⟩ ∧
    (stdin.length ≤ maxConfigLength → Invocation.isBlankInput stdin = true →
      (run w stdin files).1.TellsVersions "0.3.1") ∧
    (∀ s, Configured stdin s →
      ((run w stdin files).1.TellsVersions s.cniVersion ↔ ∀ fault, ¬Barred w files s fault) ∧
      ∀ fault, Barred w files s fault →
        (run w stdin files).1 = answer s.cniVersion (.error fault) ∧
          (run w stdin files).1.status ≠ 0) ∧
    ((run w stdin files).1 = (run w' stdin files').1 ↔
      ∀ a, Refuses w stdin files a ↔ Refuses w' stdin files' a) := by
  refine ⟨run_leaves asks stdin files, fun short blank => ?_, fun s configured => ?_,
    fst_run_eq_iff asks asks'⟩
  · rw [run_of_blank asks short blank]
    exact tellsVersions_versionText _
  · rcases run_of_configured asks configured files with ⟨hfree, hrun⟩ | ⟨fault, hbarred, hrun⟩
    · rw [hrun]
      exact ⟨iff_of_true (tellsVersions_versionText _) hfree, fun fault h => absurd h (hfree fault)⟩
    · have hstatus := status_answer_error s.cniVersion fault
      rw [hrun]
      refine ⟨iff_of_false (fun h => hstatus h.status) fun h => h fault ((hbarred _).mpr rfl), ?_⟩
      intro own h
      rw [(hbarred own).mp h]
      exact ⟨rfl, hstatus⟩

/-- Surroundings in which the version is asked for, with further variables. -/
def asking (more : List (String × String)) : Surroundings where
  environment name := (("CNI_COMMAND", "VERSION") :: more).lookup name
  machine _ _ := .error .notASupportedOperation
  service _ := none

/-- Settings that set nothing, on standard input. -/
def emptyInput : Bytes :=
  Bytes.ofString (Json.compact (.obj []))

/-- What is read of them. -/
def emptySettings : Settings :=
  { Settings.default with name := "", type := "" }

/-- Settings that say where the cluster is, on standard input. -/
def rootInput : Bytes :=
  Bytes.ofString (Json.compact (.obj [("policy", .obj [("k8s_api_root", .str "http://10.96.0.1")])]))

/-- What is read of them. -/
def rootSettings : Settings :=
  { emptySettings with policy := { PolicySettings.empty with apiRoot := some "http://10.96.0.1" } }

theorem asksVersion_asking (more : List (String × String)) : (asking more).AsksVersion :=
  ⟨"VERSION", rfl, by decide⟩

theorem configured_emptyInput : Configured emptyInput emptySettings := by
  have hread : Json.Document.read? emptyInput = some _ := Json.Document.read?_compact ⟨⟩
  refine ⟨by decide, by decide, ?_⟩
  rw [Settings.parse, hread]
  rfl

theorem configured_rootInput : Configured rootInput rootSettings := by
  have hread : Json.Document.read? rootInput = some _ :=
    Json.Document.read?_compact ⟨⟨trivial, trivial⟩, trivial⟩
  refine ⟨by decide +kernel, by decide +kernel, ?_⟩
  rw [Settings.parse, hread]
  rfl

/-- Arguments that name no pod bar nothing. -/
theorem not_barred_of_pod {who : PodArgs} (read : PodArgs.parse w.arguments = .ok who)
    (nobody : who.pod = none) : ¬Barred w files s fault := by
  rintro (unread | ⟨read', named, -⟩)
  · rw [read] at unread
    cases unread
  · rw [read] at read'
    cases read'
    exact named nobody

/-- Nothing is barred where the arguments can be read and a client can be made. -/
theorem not_barred_of_client {who : PodArgs} {c : Kubernetes.Client}
    (read : PodArgs.parse w.arguments = .ok who)
    (hclient : Kubernetes.Client.ofSettings w.library s w.environment files = .ok c) :
    ¬Barred w files s fault := by
  rintro (unread | ⟨-, -, noClient⟩)
  · rw [read] at unread
    cases unread
  · rw [hclient] at noClient
    cases noClient

theorem parse_arguments_asking : PodArgs.parse (asking []).arguments = .ok ⟨none, none⟩ := by
  have harguments : (asking []).arguments = "" := by rfl
  rw [harguments]
  rfl

/-- A pod makes no difference where a client can be made, nor does an unknown argument that is to be
ignored. -/
theorem version_answers_agree_traced :
    (run (asking [("CNI_ARGS", "IgnoreUnknown=1;TRACE=a;K8S_POD_NAME=web")]) rootInput
        ⟨[], []⟩).1.TellsVersions "0.3.1" ∧
      (run (asking [("CNI_ARGS", "IgnoreUnknown=1;TRACE=a;K8S_POD_NAME=web")]) rootInput
        ⟨[], []⟩).1 = (run (asking []) rootInput ⟨[], []⟩).1 := by
  generalize htraced : asking [("CNI_ARGS", "IgnoreUnknown=1;TRACE=a;K8S_POD_NAME=web")] = traced
  have harguments : traced.arguments = "IgnoreUnknown=1;TRACE=a;K8S_POD_NAME=web" := by
    subst htraced
    rfl
  have hread : PodArgs.parse traced.arguments = .ok ⟨some "web", none⟩ := by
    rw [harguments]
    rfl
  have hclient : Kubernetes.Client.ofSettings traced.library rootSettings traced.environment
      ⟨[], []⟩ = .ok ⟨⟨some "http", "10.96.0.1", ""⟩, true⟩ := by
    subst htraced
    rfl
  have hopen (fault : Fault) : ¬Barred traced ⟨[], []⟩ rootSettings fault :=
    not_barred_of_client hread hclient
  obtain ⟨-, -, htells, hsame⟩ := version_answers_agree_iff (htraced ▸ asksVersion_asking _)
    (asksVersion_asking []) rootInput ⟨[], []⟩ ⟨[], []⟩
  refine ⟨(htells rootSettings configured_rootInput).1.mpr hopen, hsame.mpr fun a => ?_⟩
  refine iff_of_false ?_ ?_
  · rintro ⟨s, fault, hs, hbarred, -⟩
    cases hs.unique configured_rootInput
    exact hopen fault hbarred
  · rintro ⟨s, fault, -, hbarred, -⟩
    exact not_barred_of_pod parse_arguments_asking rfl hbarred

/-- **A pod makes a difference**: where one is named and no cluster is found, no versions are told. -/
theorem version_refused_for_pod :
    (run (asking []) emptyInput ⟨[], []⟩).1.TellsVersions "0.3.1" ∧
      (run (asking []) emptyInput ⟨[], []⟩).1.succeeded = true ∧
      (run (asking [("CNI_ARGS", "K8S_POD_NAME=web")]) emptyInput ⟨[], []⟩).1.succeeded = false ∧
      ∃ trouble, (run (asking [("CNI_ARGS", "K8S_POD_NAME=web")]) emptyInput ⟨[], []⟩).1 =
        ⟨1, (((Fault.noAccess (.nothingFound trouble)).report.printed "0.3.1").compact ++ "\n")⟩ := by
  have htells : (run (asking []) emptyInput ⟨[], []⟩).1.TellsVersions "0.3.1" := by
    rcases run_of_configured (asksVersion_asking []) configured_emptyInput ⟨[], []⟩ with
      ⟨-, hrun⟩ | ⟨fault, hbarred, -⟩
    · rw [hrun]
      exact tellsVersions_versionText _
    · exact absurd ((hbarred fault).mpr rfl) (not_barred_of_pod parse_arguments_asking rfl)
  have hrefused : ∃ trouble, (run (asking [("CNI_ARGS", "K8S_POD_NAME=web")]) emptyInput
      ⟨[], []⟩).1 = answer "0.3.1" (.error (.noAccess (.nothingFound (.told trouble)))) := by
    generalize hnamed : asking [("CNI_ARGS", "K8S_POD_NAME=web")] = named
    have harguments : named.arguments = "K8S_POD_NAME=web" := by
      subst hnamed
      rfl
    have hread : PodArgs.parse named.arguments = .ok ⟨some "web", none⟩ := by
      rw [harguments]
      rfl
    have hclient : ∃ trouble, Kubernetes.Client.ofSettings named.library emptySettings
        named.environment ⟨[], []⟩ = .error (.nothingFound (.told trouble)) := by
      subst hnamed
      exact ⟨_, rfl⟩
    obtain ⟨trouble, hclient⟩ := hclient
    rcases run_of_configured (hnamed ▸ asksVersion_asking _) configured_emptyInput ⟨[], []⟩ with
      ⟨hfree, -⟩ | ⟨fault, hbarred, hrun⟩
    · exact absurd (.cluster hread nofun hclient) (hfree _)
    · refine ⟨trouble, ?_⟩
      rw [hrun, ← (hbarred _).mp (.cluster hread nofun hclient)]
      rfl
  obtain ⟨trouble, hrefused⟩ := hrefused
  refine ⟨htells, ?_, ?_, .told trouble, hrefused⟩
  · rw [Answer.succeeded, htells.status]
    rfl
  · rw [hrefused]
    rfl

end CommandLine

end PodNet
