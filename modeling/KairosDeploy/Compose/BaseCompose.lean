import KairosDeploy.Library.HexDigest
import KairosDeploy.Compose.SharedChecks

/-!
# `validate_compose`

The validator of the base and LIVE Compose models.  Its tests are translated
one by one; they are grouped by the part of the model that they read, in the
order of the source.
-/

namespace KairosDeploy.Compose.BaseCompose

open KairosDeploy.Library.PyNumber
open KairosDeploy.Library.JsonValue
open KairosDeploy.Library.PyObject
open KairosDeploy.Library.HexDigest
open KairosDeploy.Compose.SharedChecks

/-! ## Constants -/

/-- `APP_SERVICES`. -/
def appServices : List String :=
  ["aggregator", "execution-engine", "macro-strategist", "quant-scouts",
    "risk-manager", "router", "strategy-engine", "text-scouts"]

/-- `SOURCE_SERVICES`, sorted. -/
def sourceServices : List String :=
  ["aggregator", "execution-engine", "macro-strategist", "ops-exporter",
    "quant-scouts", "risk-manager", "router", "strategy-engine",
    "text-scouts"]

/-- `EXPECTED_SERVICES`. -/
def expectedServices : List String :=
  sourceServices ++ ["redis", "timescaledb", "prometheus", "grafana"]

/-- `EGRESS_SERVICES`. -/
def egressServices : List String :=
  ["quant-scouts", "text-scouts", "aggregator", "macro-strategist",
    "execution-engine"]

/-- `EXPECTED_REDIS_IMAGE`. -/
def expectedRedisImage : String :=
  "redis:8.2.8-alpine3.22@sha256:" ++
    "a7859ed111db3c1f5404a973a4747505d559fb5ca32d37e447afc0ef845a2103"

/-- `FORBIDDEN_SECRET_ENV`, sorted. -/
def forbiddenSecretEnv : List String :=
  ["GRAFANA_ADMIN_PASSWORD", "KAIROS_BRIGHTDATA_API_TOKEN",
    "KAIROS_CCXT_API_KEY", "KAIROS_CCXT_SECRET", "KAIROS_DEEPSEEK_API_KEY",
    "KAIROS_EVEDEX_JWT", "KAIROS_EVEDEX_PRIVATE_KEY",
    "KAIROS_OPENAI_API_KEY", "KAIROS_PERSISTENCE_DATABASE_URL",
    "KAIROS_REDDIT_CLIENT_ID", "KAIROS_REDDIT_CLIENT_SECRET",
    "KAIROS_REDIS_PASSWORD", "KAIROS_X_BEARER_TOKEN", "POSTGRES_PASSWORD",
    "REDIS_PASSWORD"]

/-- `COMMON_BINDINGS`. -/
def commonBindings : List (String × String) :=
  [("KAIROS_REDIS_URL", "/run/secrets/redis_url"),
    ("KAIROS_PERSISTENCE_DATABASE_URL",
      "/run/secrets/persistence_database_url")]

/-- `BASE_SECRET_FILES`. -/
def baseSecretFiles : List (String × String) :=
  ["redis_password", "redis_url", "postgres_password",
    "persistence_database_url", "grafana_admin_password", "openai_api_key",
    "x_bearer_token"].map fun name => (name, name)

/-- `BASE_COMMON_ENVIRONMENT_KEYS`. -/
def baseCommonEnvironmentKeys : List String :=
  ["KAIROS_ENVIRONMENT", "KAIROS_LOG_LEVEL", "KAIROS_LOG_JSON",
    "KAIROS_BUS_BACKEND", "KAIROS_PERSISTENCE_MIGRATION_PROFILE",
    "KAIROS_SECRET_BINDINGS", "KAIROS_TRADING_SYMBOLS"]

/-- `BASE_SOURCE_ENVIRONMENT_KEYS`. -/
def baseSourceEnvironmentKeys : List (String × List String) :=
  [("quant-scouts", baseCommonEnvironmentKeys),
    ("strategy-engine",
      baseCommonEnvironmentKeys ++
        ["KAIROS_TRADING_MODE", "KAIROS_ENABLED_STRATEGY_IDS"]),
    ("text-scouts",
      baseCommonEnvironmentKeys ++
        ["KAIROS_PROCESSING_SCOPE_SHA256", "KAIROS_REDDIT_USER_AGENT",
          "KAIROS_X_MONTHLY_BUDGET_MICROUSD",
          "KAIROS_X_POST_READ_UNIT_COST_MICROUSD",
          "KAIROS_X_USER_READ_UNIT_COST_MICROUSD"]),
    ("router", baseCommonEnvironmentKeys),
    ("aggregator",
      baseCommonEnvironmentKeys ++
        ["KAIROS_CANDIDATE_REQUIRE_MACRO_CONTEXT",
          "KAIROS_CANDIDATE_REQUIRE_TEXT_CONTEXT"]),
    ("macro-strategist", baseCommonEnvironmentKeys),
    ("risk-manager",
      baseCommonEnvironmentKeys ++
        ["KAIROS_REQUIRE_RECONCILED_ACCOUNT",
          "KAIROS_ACCOUNT_SNAPSHOT_MAX_AGE_S",
          "KAIROS_REQUIRE_STRATEGIC_ALLOCATION"]),
    ("execution-engine",
      baseCommonEnvironmentKeys ++
        ["KAIROS_EXCHANGE", "KAIROS_TRADING_MODE", "KAIROS_ACCOUNT_ID",
          "KAIROS_ACCOUNT_SNAPSHOT_INTERVAL_S",
          "KAIROS_DRY_RUN_EQUITY_USD", "KAIROS_EVEDEX_EXCHANGE_URL",
          "KAIROS_EVEDEX_CHAIN_ID"]),
    ("ops-exporter",
      baseCommonEnvironmentKeys ++
        ["KAIROS_METRICS_HOST", "KAIROS_METRICS_PORT"])]

/-- `BASE_INFRASTRUCTURE_ENVIRONMENT_KEYS`. -/
def baseInfrastructureEnvironmentKeys : List (String × List String) :=
  [("redis", []),
    ("timescaledb",
      ["POSTGRES_USER", "POSTGRES_PASSWORD_FILE", "POSTGRES_DB"]),
    ("prometheus", []),
    ("grafana",
      ["GF_SECURITY_ADMIN_USER", "GF_SECURITY_ADMIN_PASSWORD__FILE",
        "GF_USERS_ALLOW_SIGN_UP", "GF_ANALYTICS_REPORTING_ENABLED",
        "GF_ANALYTICS_CHECK_FOR_UPDATES"])]

/-- `BASE_SERVICE_NETWORKS`. -/
def baseServiceNetworks : List (String × List String) :=
  [("redis", ["bus"]), ("timescaledb", ["data"]),
    ("quant-scouts", ["bus", "data", "observability", "egress"]),
    ("strategy-engine", ["bus", "data", "observability"]),
    ("text-scouts", ["bus", "data", "observability", "egress"]),
    ("router", ["bus", "data", "observability"]),
    ("aggregator", ["bus", "data", "observability", "egress"]),
    ("macro-strategist", ["bus", "data", "observability", "egress"]),
    ("risk-manager", ["bus", "data", "observability"]),
    ("execution-engine", ["bus", "data", "observability", "egress"]),
    ("ops-exporter", ["bus", "data", "observability", "management"]),
    ("prometheus", ["observability", "management"]),
    ("grafana", ["observability", "management"])]

/-- `expected_provider_secrets`: the binding, its secret and its path. -/
def expectedProviderSecrets :
    List (String × List (String × String × String)) :=
  let openai :=
    ("KAIROS_OPENAI_API_KEY", "openai_api_key",
      "/run/secrets/openai_api_key")
  [("text-scouts",
      [openai,
        ("KAIROS_X_BEARER_TOKEN", "x_bearer_token",
          "/run/secrets/x_bearer_token")]),
    ("aggregator", [openai]), ("macro-strategist", [openai])]

/-- The provider secrets of a service. -/
def providersOf (name : String) : List (String × String × String) :=
  (expectedProviderSecrets.lookup name).getD []

/-- `expected_sources`. -/
def expectedSources (name : String) : List String :=
  ["redis_url", "persistence_database_url"] ++
    (providersOf name).map fun provider => provider.2.1

/-- `expected_bindings`. -/
def expectedBindings (name : String) : List (String × String) :=
  commonBindings ++
    (providersOf name).map fun provider => (provider.1, provider.2.2)

/-- `expected_infrastructure_secrets`. -/
def expectedInfrastructureSecrets : List (String × List String) :=
  [("redis", ["redis_password"]), ("timescaledb", ["postgres_password"]),
    ("prometheus", []), ("grafana", ["grafana_admin_password"])]

/-- `expected_volume_targets`. -/
def expectedMounts : List (String × List Mount) :=
  [("redis", [⟨"/data", "volume", "redis-data", false⟩]),
    ("timescaledb",
      [⟨"/var/lib/postgresql/data", "volume", "ts-data", false⟩,
        ⟨"/docker-entrypoint-initdb.d/001-kairos.sql", "bind",
          "/timescaledb/schema.sql", true⟩]),
    ("prometheus",
      [⟨"/prometheus", "volume", "prometheus-data", false⟩,
        ⟨"/etc/prometheus/prometheus.yml", "bind",
          "/monitoring/prometheus.yml", true⟩,
        ⟨"/etc/prometheus/alerts.yml", "bind",
          "/monitoring/alerts.base.yml", true⟩]),
    ("grafana",
      [⟨"/var/lib/grafana", "volume", "grafana-data", false⟩,
        ⟨"/etc/grafana/provisioning/datasources/kairos.yml", "bind",
          "/monitoring/grafana-datasource.yml", true⟩])]

/-- `expected_named_volumes`. -/
def expectedNamedVolumes : List String :=
  ["redis-data", "ts-data", "prometheus-data", "grafana-data"]

/-- The internal networks of the allow-list. -/
def internalNetworks : List String :=
  ["bus", "data", "observability", "management"]

/-- `expected_networks`. -/
def expectedNetworks : List String :=
  internalNetworks ++ ["egress"]

/-- What the validator is called with besides the model and the lock. -/
structure Setting extends Host where
  live : Bool
  allowExampleValues : Bool

variable (setting : Setting)

/-! ## Services -/

/-- The loop over all services. -/
def checkService (name : String) (service : Json) : Findings :=
  findings
    [finding ((getKey service "env_file").map truthy)
        (name ++ ": env_file is forbidden"),
      finding ((getKey service "privileged").map truthy)
        (name ++ ": privileged containers are forbidden"),
      checkOptions name service,
      checkDockerSocket setting.builtins
        ": mounting the Docker socket is forbidden" name service,
      checkEnvironmentKeys
        ": environment keys must match the exact allow-list"
        (if name ∈ sourceServices then baseSourceEnvironmentKeys.lookup name
          else baseInfrastructureEnvironmentKeys.lookup name)
        name service,
      checkNetworks ": networks must match the exact isolation map"
        baseServiceNetworks name service,
      do
        let environment ← environmentOf service
        let keys ← pySet environment
        findings
          (forbiddenSecretEnv.map fun secret =>
            finding (some (hasText keys secret))
              (name ++ ": secret " ++ secret ++
                " must be file-mounted, not an environment value"))]

/-- `_validate_source_service`. -/
def validateSourceService (name : String) (service source : Json) :
    Findings := do
  let builtins := setting.builtins
  let repository ← (getOr source "repository" (.text "")).map builtins.str
  let revision ← (getOr source "revision" (.text "")).map builtins.str
  let build ← (getOr service "build" (.object [])).map orDict
  let contexts ← contextMap builtins build
  let context ← (getOr build "context" (.text "")).map builtins.str
  let args ← buildArgs build
  let argNames ← pySet args
  let extra ← getKey source "extra"
  let argText := fun (key : String) =>
    (getOr args key (.text "")).map builtins.str
  let sourceText := fun (key : String) =>
    (getOr source key (.text "")).map builtins.str
  let packageDir ← sourceText "package_dir"
  let extraText ← sourceText "extra"
  let command ← sourceText "command"
  findings
    [finding
        (some (!sameSources (contexts.map Prod.fst) ["service"]))
        (name ++ ": named build contexts must match the exact allow-list"),
      finding
        (some
          (lastOf contexts "service" ≠
            some (repository ++ ".git#" ++ revision)))
        (name ++ ": named build context differs from sources.lock.json"),
      finding (some (!setting.isRepository context))
        (name ++
          ": Docker build context must be this deployment repository"),
      finding
        ((getKey build "dockerfile").map fun value =>
          !isText "docker/Dockerfile" value)
        (name ++ ": Dockerfile differs from the reviewed allow-list"),
      finding
        ((getKey build "pull").map fun value =>
          match value with
          | .bool true => false
          | _ => true)
        (name ++ ": builds must refresh digest-pinned base images"),
      finding
        (some
          (!sameTexts argNames
            (["PACKAGE_DIR", "SOURCE_REPOSITORY", "SOURCE_REVISION"] ++
              if truthy extra then ["SERVICE_EXTRA"] else [])))
        (name ++ ": build arguments must match the exact allow-list"),
      finding ((argText "SOURCE_REVISION").map fun text => text ≠ revision)
        (name ++ ": OCI source revision differs from the source lock"),
      finding
        ((argText "SOURCE_REPOSITORY").map fun text => text ≠ repository)
        (name ++ ": OCI source repository differs from the source lock"),
      finding ((argText "PACKAGE_DIR").map fun text => text ≠ packageDir)
        (name ++ ": package directory differs from the source lock"),
      finding ((argText "SERVICE_EXTRA").map fun text => text ≠ extraText)
        (name ++ ": build extra differs from the source lock"),
      finding
        ((getOr service "command" (.array [])).map fun value =>
          !value.pyEq (.array [.text command]))
        (name ++ ": command differs from the source lock")]

/-- The networks, bindings and settings of a source service. -/
def checkSourceWiring (name : String) (service : Json) : Findings := do
  let builtins := setting.builtins
  let networks ← networksOf service
  let volumes ← getKey service "volumes"
  let entries ← bindings builtins service
  let sources ← secretSources builtins service
  let environment ← environmentOf service
  let bus ← getOr environment "KAIROS_BUS_BACKEND" (.text "")
  let profile ← getKey environment "KAIROS_PERSISTENCE_MIGRATION_PROFILE"
  let logJson ← getKey environment "KAIROS_LOG_JSON"
  let egress := hasText networks "egress"
  let management := hasText networks "management"
  findings
    [finding (some (!egressServices.contains name && egress))
        (name ++ ": egress is forbidden outside the exact allow-list"),
      finding (some (sourceServices.contains name && truthy volumes))
        (name ++ ": application bind/volume mounts are forbidden"),
      finding
        (some
          (!(["bus", "data", "observability"].all (hasText networks))))
        (name ++ ": bus, data, and observability networks are required"),
      finding
        (some
          (appServices.contains name &&
            egressServices.contains name != egress))
        (name ++ ": egress network assignment violates the allow-list"),
      finding (some (name = "ops-exporter" && !management))
        ("ops-exporter: management network is required for loopback " ++
          "publishing"),
      finding (some (appServices.contains name && management))
        (name ++
          ": management network is forbidden for application services"),
      finding
        (some
          (!commonBindings.all fun binding =>
            lastOf entries binding.1 = some binding.2))
        (name ++ ": durable Redis/database secret bindings are required"),
      finding
        (some
          (!(["redis_url", "persistence_database_url"].all
            sources.contains)))
        (name ++ ": durable Redis/database secret files are required"),
      finding (some (builtins.casefold (builtins.str bus) ≠ "redis"))
        (name ++ ": durable runtime requires the Redis bus backend"),
      finding (some (!isText "controlled-runtime" profile))
        (name ++
          ": shared database requires the controlled-runtime profile"),
      finding (some (!isTrue builtins logJson))
        (name ++ ": structured JSON logs must remain enabled")]

/-- The loop over the source services. -/
def checkSourceService (services : Members) (lockServices : Json)
    (name : String) : Findings := do
  let service := serviceOf services name
  let source ← getOr lockServices name (.object [])
  findings
    [validateSourceService setting name service source,
      checkHardening ": root filesystem must be read-only"
        ": all Linux capabilities must be dropped" name service,
      checkDependencies name service,
      checkSourceWiring setting name service]

/-- The processing scope of the text scouts. -/
def checkProcessingScope (services : Members) : Findings := do
  let environment ← environmentOf (serviceRaw services "text-scouts")
  let scope ← getOr environment "KAIROS_PROCESSING_SCOPE_SHA256" (.text "")
  let text := setting.builtins.str scope
  if isSha256 text then
    finding
      (some
        (text = String.ofList (List.replicate 64 '0') &&
          !setting.allowExampleValues))
      ("text-scouts: synthetic CI processing scope is not deployment " ++
        "authority")
  else
    some
      ["text-scouts: operator-provisioned processing scope must be a " ++
        "lowercase SHA-256"]

/-- The execution engine. -/
def checkExecution (services : Members) : Findings := do
  let execution := serviceOf services "execution-engine"
  let environment ← environmentOf execution
  let build ← getOr execution "build" (.object [])
  let args ← buildArgs build
  let extra ← getKey args "SERVICE_EXTRA"
  let sources ← secretSources setting.builtins execution
  let entries ← bindings setting.builtins execution
  let keys ← pySet environment
  let mode ← getKey environment "KAIROS_TRADING_MODE"
  let retired :=
    sources.contains "evedex_jwt" || sources.contains "evedex_private_key"
  findings
    ([finding (some (!isText "evedex" extra))
        "execution-engine must build with SERVICE_EXTRA=evedex",
      finding (some (hasText keys "KAIROS_DRY_RUN"))
        ("execution-engine: retired KAIROS_DRY_RUN switch must be " ++
          "removed")] ++
      if setting.live then
        [finding (some (!isText "LIVE" mode))
          "live Compose must explicitly select TradingMode=LIVE",
        finding (some retired)
          ("live Compose must not mount retired static EVEDEX " ++
            "credentials"),
        finding
          (some
            ((lastOf entries "KAIROS_EVEDEX_JWT").isSome ||
              (lastOf entries "KAIROS_EVEDEX_PRIVATE_KEY").isSome))
          ("live Compose must not bind retired static EVEDEX " ++
            "credentials")]
      else
        [finding (some (!isText "DRY_RUN" mode))
          "base Compose must explicitly select TradingMode=DRY_RUN",
        finding (some retired)
          "base Compose must not mount EVEDEX live credentials"])

/-! ## Secrets -/

/-- The provider secrets of one service. -/
def checkProviders (services : Members)
    (entry : String × List (String × String × String)) : Findings := do
  let service := serviceOf services entry.1
  let entries ← bindings setting.builtins service
  let sources ← secretSources setting.builtins service
  findings
    (entry.2.map fun provider =>
      findings
        [finding (some (!sources.contains provider.2.1))
            (entry.1 ++ ": expected provider secret file " ++
              provider.2.1 ++ " is missing"),
          finding
            (some (lastOf entries provider.1 ≠ some provider.2.2))
            (entry.1 ++ ": expected provider binding " ++ provider.1 ++
              " is missing")])

/-- The exact secrets and bindings of a source service. -/
def checkSecrets (services : Members) (name : String) : Findings := do
  let service := serviceOf services name
  let sources ← secretSources setting.builtins service
  let entries ← bindings setting.builtins service
  findings
    [finding (some (!sameSources sources (expectedSources name)))
        (name ++ ": secret source set must match the exact allow-list"),
      finding (some (!sameEntries entries (expectedBindings name)))
        (name ++ ": secret bindings must match the exact allow-list")]

/-- The top-level secrets. -/
def checkTopLevelSecrets (config : Members) : Findings :=
  (checkSecretFiles setting.builtins "kairos"
      ("top-level secret definitions must match the exact active base " ++
        "allow-list")
      ": resolved secret aliases another Compose project"
      "top-level secret files must resolve to distinct paths"
      baseSecretFiles config).map Prod.fst

/-! ## Settings -/

/-- The budget of the text scouts. -/
def checkBudget (services : Members) : Findings := do
  let environment ← environmentOf (serviceRaw services "text-scouts")
  let budget ← getOr environment "KAIROS_X_MONTHLY_BUDGET_MICROUSD" .null
  match setting.builtins.int budget with
  | none => some ["text-scouts: X monthly runtime budget must be an integer"]
  | some budget =>
      finding (some (budget ≠ 2000000))
        ("text-scouts: X monthly budget must equal the $2 qualification " ++
          "ceiling")

/-- The strategies, the aggregator and the risk manager. -/
def checkSettings (services : Members) : Findings := do
  let builtins := setting.builtins
  let strategy ← environmentOf (serviceRaw services "strategy-engine")
  let mode ← getKey strategy "KAIROS_TRADING_MODE"
  let enabled ← getKey strategy "KAIROS_ENABLED_STRATEGY_IDS"
  let aggregator ← environmentOf (serviceRaw services "aggregator")
  let macroContext ←
    getKey aggregator "KAIROS_CANDIDATE_REQUIRE_MACRO_CONTEXT"
  let textContext ←
    getKey aggregator "KAIROS_CANDIDATE_REQUIRE_TEXT_CONTEXT"
  let risk ← environmentOf (serviceRaw services "risk-manager")
  let reconciled ← getKey risk "KAIROS_REQUIRE_RECONCILED_ACCOUNT"
  let allocation ← getKey risk "KAIROS_REQUIRE_STRATEGIC_ALLOCATION"
  let execution ← environmentOf (serviceOf services "execution-engine")
  let interval ← getKey execution "KAIROS_ACCOUNT_SNAPSHOT_INTERVAL_S"
  let maximum ← getKey risk "KAIROS_ACCOUNT_SNAPSHOT_MAX_AGE_S"
  findings
    [finding (some (!isText "DRY_RUN" mode))
        "strategy-engine: base topology must remain DRY_RUN",
      finding (some (!isText "[]" enabled))
        "strategy-engine: rejected alpha sleeves must remain disabled",
      finding (some (!isTrue builtins macroContext))
        "aggregator: candidate Macro context must be required",
      finding (some (!isTrue builtins textContext))
        "aggregator: candidate Text context must be required",
      finding (some (!isTrue builtins reconciled))
        "risk-manager reconciliation gate must stay enabled",
      finding (some (!isTrue builtins allocation))
        "risk-manager strategic allocation gate must stay enabled",
      match builtins.floatGe interval maximum with
      | none =>
          some
            ["account snapshot cadence and freshness window must be " ++
              "numeric"]
      | some slower =>
          finding (some slower)
            ("account snapshot cadence must be faster than Risk " ++
              "freshness window")]

/-! ## Infrastructure -/

/-- `service.get("healthcheck") or {}`, then `get("test") or []`, joined. -/
def healthText (service : Json) : Option String := do
  let health ← getKey service "healthcheck"
  let test ← getKey (orDict health) "test"
  let parts ← iterate (orList test)
  return joined setting.builtins parts

/-- Redis, TimescaleDB and Grafana. -/
def checkInfrastructure (services : Members) : Findings := do
  let builtins := setting.builtins
  let redis := serviceOf services "redis"
  let image ← getOr redis "image" (.text "")
  let command ← getKey redis "command"
  let commandParts ← iterate (orList command)
  let redisCommand := joined builtins commandParts
  let redisHealth ← healthText setting redis
  let redisPorts ← getKey redis "ports"
  let redisSources ← secretSources builtins redis
  let timescale := serviceOf services "timescaledb"
  let timescalePorts ← getKey timescale "ports"
  let timescaleEnvironment ← environmentOf timescale
  let passwordFile ← getKey timescaleEnvironment "POSTGRES_PASSWORD_FILE"
  let timescaleHealth ← healthText setting timescale
  let grafana := serviceOf services "grafana"
  let grafanaEnvironment ← environmentOf grafana
  let adminFile ←
    getKey grafanaEnvironment "GF_SECURITY_ADMIN_PASSWORD__FILE"
  findings
    [finding (some (builtins.str image ≠ expectedRedisImage))
        "Redis image must match the pinned 8.2.8 runtime",
      finding (some (truthy redisPorts))
        "Redis must not publish a host port",
      finding
        (some
          (!hasPart "requirepass" redisCommand ||
            !hasPart "/run/secrets/redis_password" redisCommand))
        "Redis must read and enforce its password file",
      finding (some (!hasPart "/run/secrets/redis_password" redisHealth))
        "Redis healthcheck must authenticate from its password file",
      finding (some (!redisSources.contains "redis_password"))
        "Redis password secret is missing",
      finding (some (truthy timescalePorts))
        "TimescaleDB must not publish a host port",
      finding (some (!isText "/run/secrets/postgres_password" passwordFile))
        "TimescaleDB must use POSTGRES_PASSWORD_FILE",
      finding
        (some
          (!hasPart "/proc/1/comm" timescaleHealth ||
            !hasPart "pg_isready" timescaleHealth))
        "TimescaleDB healthcheck must exclude the temporary init server",
      finding
        (some (!isText "/run/secrets/grafana_admin_password" adminFile))
        "Grafana must use an admin password file"]

/-- The loop over the observability services. -/
def checkObservability (services : Members) (name : String) :
    Findings := do
  let service := serviceRaw services name
  let networks ← networksOf service
  let health ← healthText setting service
  findings
    [finding (some (!hasText networks "management"))
        (name ++ ": management network is required"),
      finding (some (!hasPart "127.0.0.1" health))
        (name ++ ": a loopback healthcheck is required"),
      checkLoopback setting.builtins
        ": published ports must bind to 127.0.0.1" name service]

/-- The images of the infrastructure services. -/
def checkImage (services : Members) (name : String) : Findings :=
  finding
    ((getOr (serviceRaw services name) "image" (.text "")).map fun image =>
      !isPinnedImage (setting.builtins.str image))
    (name ++ ": image must use tag plus sha256 digest")

/-! ## Networks -/

/-- The top-level networks. -/
def checkTopLevelNetworks (config : Members) : Findings := do
  let networks ←
    dictOf (orDict ((getMember config "networks").getD (.object [])))
  findings
    [finding
        (some
          (!sameSources (networks.map Prod.fst) expectedNetworks))
        "top-level networks must match the exact allow-list",
      findings
        (networks.map fun network =>
          finding
            ((getKey (orDict network.2) "name").map fun name =>
              !ownName ("kairos_" ++ network.1) name)
            (network.1 ++
              ": resolved network aliases another Compose project")),
      findings
        (internalNetworks.map fun name =>
          finding
            ((getKey (serviceRaw networks name) "internal").map fun value =>
              match value with
              | .bool true => false
              | _ => true)
            (name ++ ": network must be internal")),
      finding
        ((getKey (serviceRaw networks "egress") "internal").map fun value =>
          match value with
          | .bool true => true
          | _ => false)
        "egress must remain the sole external connectivity network"]

/-! ## The validator -/

/-- `validate_compose`. -/
def validateCompose (config lock : Members) : Findings := do
  let services ←
    dictOf (orDict ((getMember config "services").getD (.object [])))
  let lockServices := orDict ((getMember lock "services").getD (.object []))
  findings
    [finding
        (some (!isText "kairos" ((getMember config "name").getD .null)))
        "base Compose project name must be exactly kairos",
      finding
        (some (!sameSources (services.map Prod.fst) expectedServices))
        ("rendered Compose service set is incomplete or contains " ++
          "unexpected services"),
      findings
        (services.map fun entry => checkService setting entry.1 entry.2),
      checkUsers services,
      findings
        (sourceServices.map
          (checkSourceService setting services lockServices)),
      checkProcessingScope setting services,
      checkExecution setting services,
      findings (expectedProviderSecrets.map (checkProviders setting services)),
      findings (sourceServices.map (checkSecrets setting services)),
      checkTopLevelSecrets setting config,
      checkBudget setting services,
      checkSettings setting services,
      checkInfrastructure setting services,
      checkInfrastructureSecrets setting.builtins
        ": infrastructure secret set must match the exact allow-list"
        expectedInfrastructureSecrets services,
      findings
        (expectedMounts.map fun entry =>
          checkMounts setting.builtins "allow-list" services entry.1
            entry.2),
      checkNamedVolumes "kairos"
        "top-level volumes must match the exact allow-list"
        expectedNamedVolumes config,
      findings
        (["ops-exporter", "prometheus", "grafana"].map
          (checkObservability setting services)),
      findings
        (["redis", "timescaledb", "prometheus", "grafana"].map
          (checkImage setting services)),
      checkTopLevelNetworks config]

end KairosDeploy.Compose.BaseCompose
