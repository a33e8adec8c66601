import BeanDiscovery.Proofs.Visits

/-!
# Starting a container

Many tests may be discovered and started over one container, by one bootstrap or by several that hand the
container over. The main statement says which of the calls starts it: the first start whose discovery ends
well, and no call before or after it. Hook calls put questions to the container and do not start it, so a
discovery leaves it as it is whatever the plugins do.
-/
namespace BeanDiscovery.Bootstrap

inductive Request where
  | discover (registry : TypeRegistry) (scanner : Scanner) (configuration : TestConfiguration)
  | start (registry : TypeRegistry) (scanner : Scanner) (configuration : TestConfiguration)
  /-- Another bootstrap goes on with the container. -/
  | handOver (scans : ScanCache) (plugins : List Plugin) (assembler : Assembler)

def after (bootstrap : Bootstrap) : Request → Bootstrap
  | .discover registry scanner configuration =>
    (bootstrap.discover registry scanner configuration).2
  | .start registry scanner configuration => (bootstrap.start registry scanner configuration).2
  | .handOver scans plugins assembler => { bootstrap with scans, plugins, assembler }

def afterAll (bootstrap : Bootstrap) (requests : List Request) : Bootstrap :=
  requests.foldl after bootstrap

theorem afterAll_append (bootstrap : Bootstrap) (first rest : List Request) :
    bootstrap.afterAll (first ++ rest) = (bootstrap.afterAll first).afterAll rest :=
  List.foldl_append

/-! ## One start -/

section Start
variable {bootstrap : Bootstrap} {registry : TypeRegistry} {scanner : Scanner}
  {configuration : TestConfiguration} {error : DiscoveryError} {report : Report}

theorem start_of_error
    (h : (bootstrap.discover registry scanner configuration).1.result = .error error) :
    bootstrap.start registry scanner configuration =
      bootstrap.discover registry scanner configuration := by
  simp only [start, h]

theorem start_of_ok
    (h : (bootstrap.discover registry scanner configuration).1.result = .ok report)
    (hdeployment : bootstrap.container.deployment = none) :
    bootstrap.start registry scanner configuration =
      ((bootstrap.discover registry scanner configuration).1,
        { (bootstrap.discover registry scanner configuration).2 with
          container := { bootstrap.container with deployment := some report.descriptor } }) := by
  simp only [start, h, container_discover, Container.start, hdeployment]

theorem start_of_isStarted
    (h : (bootstrap.discover registry scanner configuration).1.result = .ok report)
    (hstarted : bootstrap.container.isStarted = true) :
    bootstrap.start registry scanner configuration =
      ({ (bootstrap.discover registry scanner configuration).1 with
          result := .error (.container "container already started") },
        (bootstrap.discover registry scanner configuration).2) := by
  simp only [start, h, container_discover, Container.start_of_isStarted hstarted]

end Start

/-! ## Requests -/

variable {bootstrap : Bootstrap}

/-- A request leaves a container without deployment unless it is a start whose discovery ends well. -/
theorem deployment_after (h : bootstrap.container.deployment = none) (request : Request) :
    (bootstrap.after request).container.deployment = none ↔
      ∀ registry scanner configuration, request = .start registry scanner configuration →
        ∃ error, (bootstrap.discover registry scanner configuration).1.result = .error error := by
  cases request with
  | discover registry scanner configuration => exact ⟨fun _ _ _ _ hsame => (nomatch hsame), fun _ => h⟩
  | handOver scans plugins assembler => exact ⟨fun _ _ _ _ hsame => (nomatch hsame), fun _ => h⟩
  | start registry scanner configuration =>
    cases hresult : (bootstrap.discover registry scanner configuration).1.result with
    | error error =>
      refine ⟨fun _ _ _ _ hsame => ?_, fun _ => ?_⟩
      · cases hsame
        exact ⟨error, hresult⟩
      · rw [after, start_of_error hresult]
        exact h
    | ok report =>
      rw [after, start_of_ok hresult h]
      refine ⟨fun hnone => (nomatch hnone), fun hfails => ?_⟩
      obtain ⟨error, herror⟩ := hfails registry scanner configuration rfl
      cases hresult.symm.trans herror

theorem container_after_of_isStarted (h : bootstrap.container.isStarted = true)
    (request : Request) : (bootstrap.after request).container = bootstrap.container := by
  cases request with
  | discover registry scanner configuration => rfl
  | start registry scanner configuration => exact container_start_of_isStarted h _ _ _
  | handOver scans plugins assembler => rfl

/-- Requests leave a started container as it is. -/
theorem container_afterAll_of_isStarted (h : bootstrap.container.isStarted = true)
    (requests : List Request) : (bootstrap.afterAll requests).container = bootstrap.container := by
  induction requests generalizing bootstrap with
  | nil => rfl
  | cons request requests ih =>
    have hfirst := container_after_of_isStarted h request
    exact (ih (by rwa [hfirst])).trans hfirst

theorem deployment_afterAll (h : bootstrap.container.deployment = none) (requests : List Request) :
    (bootstrap.afterAll requests).container.deployment = none ↔
      ∀ first registry scanner configuration rest,
        requests = first ++ .start registry scanner configuration :: rest →
        ∃ error, ((bootstrap.afterAll first).discover registry scanner
          configuration).1.result = .error error := by
  induction requests generalizing bootstrap with
  | nil => exact ⟨fun _ _ _ _ _ _ hsplit => by simp at hsplit, fun _ => h⟩
  | cons request requests ih =>
    have hafter := deployment_after h request
    by_cases hfirst : (bootstrap.after request).container.deployment = none
    · refine (ih hfirst).trans ⟨fun hall first registry scanner configuration rest hsplit => ?_,
        fun hall first registry scanner configuration rest hsplit => ?_⟩
      · cases first with
        | nil =>
          cases hsplit
          exact hafter.1 hfirst registry scanner configuration rfl
        | cons _ first =>
          cases hsplit
          exact hall first registry scanner configuration rest rfl
      · exact hall (request :: first) registry scanner configuration rest (congrArg _ hsplit)
    · -- the first request starts the container, and the others leave it started
      refine iff_of_false (fun hnone => hfirst ?_) fun hall => hfirst (hafter.2 ?_)
      · have hstarted : (bootstrap.after request).container.isStarted = true :=
          Option.isSome_iff_ne_none.2 hfirst
        rwa [← container_afterAll_of_isStarted hstarted requests]
      · rintro registry scanner configuration rfl
        exact hall [] registry scanner configuration requests rfl

/-- The first start whose discovery ends well decides the deployment. -/
theorem deployment_of_first_start {first rest : List Request} {registry : TypeRegistry} {scanner : Scanner}
    {configuration : TestConfiguration} {report : Report}
    (h : (bootstrap.afterAll first).container.deployment = none)
    (hreport : ((bootstrap.afterAll first).discover registry scanner configuration).1.result =
      .ok report) :
    ((bootstrap.afterAll first).start registry scanner configuration).1.result = .ok report ∧
      (bootstrap.afterAll (first ++ .start registry scanner configuration :: rest)).container =
        { (bootstrap.afterAll first).container with deployment := some report.descriptor } := by
  have hstart := start_of_ok hreport h
  have hcontainer : ((bootstrap.afterAll first).after
      (.start registry scanner configuration)).container =
        { (bootstrap.afterAll first).container with deployment := some report.descriptor } :=
    congrArg (·.2.container) hstart
  have hstarted : ((bootstrap.afterAll first).after
      (.start registry scanner configuration)).container.isStarted = true := by
    rw [hcontainer]
    rfl
  refine ⟨(congrArg (·.1.result) hstart).trans hreport, ?_⟩
  rw [afterAll_append]
  exact (container_afterAll_of_isStarted hstarted rest).trans hcontainer

/-- Over any sequence of requests a container is started all at once or not at all. A container that was not
started stays without deployment as long as the discovery of every start fails. The first start whose
discovery ends well returns the report of the discovery, and from then on the container has the deployment
of this report. A discovery leaves the container as it is, and so does a start that fails: with the error of
the discovery, or because the container is started. -/
theorem deployment_of_requests (h : bootstrap.container.deployment = none)
    (requests : List Request) :
    let present := bootstrap.afterAll requests
    (present.container.deployment = none ↔
      ∀ first registry scanner configuration rest,
        requests = first ++ .start registry scanner configuration :: rest →
        ∃ error, ((bootstrap.afterAll first).discover registry scanner
          configuration).1.result = .error error) ∧
    (∀ first registry scanner configuration rest report,
      requests = first ++ .start registry scanner configuration :: rest →
      (bootstrap.afterAll first).container.deployment = none →
      ((bootstrap.afterAll first).discover registry scanner configuration).1.result = .ok report →
      ((bootstrap.afterAll first).start registry scanner configuration).1.result = .ok report ∧
        present.container.deployment = some report.descriptor) ∧
    ∀ registry scanner configuration,
      let discovery := present.discover registry scanner configuration
      let start := present.start registry scanner configuration
      discovery.2.container = present.container ∧
      (∀ error, discovery.1.result = .error error →
        start.1.result = .error error ∧ start.2.container = present.container) ∧
      (∀ report, discovery.1.result = .ok report → present.container.deployment ≠ none →
        start.1.result = .error (.container "container already started") ∧
          start.2.container = present.container) := by
  intro present
  refine ⟨deployment_afterAll h requests, ?_, ?_⟩
  · rintro first registry scanner configuration rest report rfl hnone hreport
    obtain ⟨hresult, hcontainer⟩ := deployment_of_first_start hnone hreport
    exact ⟨hresult, congrArg (·.deployment) hcontainer⟩
  · intro registry scanner configuration discovery start
    refine ⟨rfl, fun error herror => ?_, fun report hreport hdeployment => ?_⟩
    · rw [show start = discovery from start_of_error herror]
      exact ⟨herror, rfl⟩
    · have hstarted : present.container.isStarted = true := Option.isSome_iff_ne_none.2 hdeployment
      rw [show start = _ from start_of_isStarted hreport hstarted]
      exact ⟨rfl, rfl⟩

/-- A test is started, discovered again and started again. -/
theorem deployment_circle :
    let bootstrap : Bootstrap := { plugins := [Run.circlePlugin], assembler := {} }
    let requests : List Request :=
      [.start Run.circle.registry Run.circle.scanner Run.circle.configuration,
        .discover Run.circle.registry Run.circle.scanner Run.circle.configuration,
        .start Run.circle.registry Run.circle.scanner Run.circle.configuration]
    (bootstrap.afterAll requests).container.deployment = some Run.circleReport.descriptor := by
  intro bootstrap requests
  have hnone : bootstrap.container.deployment = none := rfl
  have hreport : ((bootstrap.afterAll []).discover Run.circle.registry Run.circle.scanner
      Run.circle.configuration).1.result = .ok Run.circleReport := Run.report_circle
  obtain ⟨-, hfirst, -⟩ := deployment_of_requests hnone requests
  exact (hfirst [] _ _ _ _ _ rfl hnone hreport).2

end BeanDiscovery.Bootstrap
