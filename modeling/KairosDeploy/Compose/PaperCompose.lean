import KairosDeploy.Compose.SharedChecks

/-!
# `validate_paper_compose`

The validator of the PAPER Compose model, translated like the one of the base
model.
-/

namespace KairosDeploy.Compose.PaperCompose

open KairosDeploy.Library.PyNumber
open KairosDeploy.Library.JsonValue
open KairosDeploy.Library.PyObject
open KairosDeploy.Compose.SharedChecks

/-! ## Constants -/

/-- `PAPER_SOURCE_SERVICES`, sorted. -/
def paperSourceServices : List String :=
  ["canary-controller", "execution-engine", "ops-exporter", "quant-scouts",
    "risk-manager", "strategy-engine"]

/-- `PAPER_EXPECTED_SERVICES`. -/
def paperExpectedServices : List String :=
  paperSourceServices ++ ["redis", "timescaledb", "prometheus", "grafana"]

/-- `PAPER_EGRESS_SERVICES`. -/
def paperEgressServices : List String :=
  ["quant-scouts", "execution-engine"]

/-- `PAPER_DEV_SYMBOLS`. -/
def paperDevSymbols : String :=
  "[\"BTCUSDT\",\"ETHUSDT\",\"SOLUSDT\",\"BNBUSDT\",\"XRPUSDT\"]"

/-- `PAPER_DEV_SYMBOL_MAP`. -/
def paperDevSymbolMap : String :=
  "\x7b\"BTCUSDT\":\"BTCUSD:DEV\",\"ETHUSDT\":\"ETHUSD:DEV\"," ++
    "\"SOLUSDT\":\"SOLUSD:DEV\",\"BNBUSDT\":\"BNBUSD:DEV\"," ++
    "\"XRPUSDT\":\"XRPUSD:DEV\"\x7d"

/-- `EXPECTED_REDIS_IMAGE`. -/
def expectedRedisImage : String :=
  "redis:8.2.8-alpine3.22@sha256:" ++
    "a7859ed111db3c1f5404a973a4747505d559fb5ca32d37e447afc0ef845a2103"

/-- `PAPER_ENDPOINTS`. -/
def paperEndpoints : List (String × String) :=
  [("KAIROS_EVEDEX_EXCHANGE_URL", "https://trading-api.evedex.tech"),
    ("KAIROS_EVEDEX_AUTH_URL", "https://auth-api.evedex.tech"),
    ("KAIROS_EVEDEX_WEBSOCKET_URL",
      "wss://ws.evedex.tech/connection/websocket"),
    ("KAIROS_EVEDEX_WEBSOCKET_PREFIX", "futures-perp-dev"),
    ("KAIROS_EVEDEX_CHAIN_ID", "16182")]

/-- `COMMON_BINDINGS`. -/
def commonBindings : List (String × String) :=
  [("KAIROS_REDIS_URL", "/run/secrets/paper_redis_url"),
    ("KAIROS_PERSISTENCE_DATABASE_URL",
      "/run/secrets/paper_persistence_database_url")]

/-- `PAPER_SECRET_FILES`. -/
def paperSecretFiles : List (String × String) :=
  [("paper_redis_password", "redis_password"),
    ("paper_redis_url", "redis_url"),
    ("paper_postgres_password", "postgres_password"),
    ("paper_persistence_database_url", "persistence_database_url"),
    ("paper_grafana_admin_password", "grafana_admin_password"),
    ("evedex_dev_api_key", "evedex_dev_api_key"),
    ("evedex_dev_private_key", "evedex_dev_private_key")]

/-- `FORBIDDEN_PAPER_SERVICES`. -/
def forbiddenPaperServices : List String :=
  ["text-scouts", "router", "aggregator", "macro-strategist", "llm"]

/-- `FORBIDDEN_PAPER_SECRET_SOURCES`. -/
def forbiddenPaperSecretSources : List String :=
  ["openai_api_key", "deepseek_api_key", "x_bearer_token", "evedex_jwt",
    "evedex_private_key", "ccxt_api_key", "ccxt_secret"]

/-- `FORBIDDEN_PAPER_ENV`. -/
def forbiddenPaperEnv : List String :=
  ["KAIROS_DRY_RUN", "KAIROS_OPENAI_API_KEY", "KAIROS_DEEPSEEK_API_KEY",
    "KAIROS_X_BEARER_TOKEN", "KAIROS_EVEDEX_JWT",
    "KAIROS_EVEDEX_PRIVATE_KEY", "KAIROS_CCXT_API_KEY",
    "KAIROS_CCXT_SECRET"]

/-- `PAPER_COMMON_ENVIRONMENT`. -/
def paperCommonEnvironment : List (String × String) :=
  [("KAIROS_ENVIRONMENT", "paper"), ("KAIROS_LOG_LEVEL", "INFO"),
    ("KAIROS_LOG_JSON", "true"), ("KAIROS_BUS_BACKEND", "redis"),
    ("KAIROS_TRADING_SYMBOLS", paperDevSymbols)]

/-- The keys that all source services have. -/
def paperCommonKeys : List String :=
  paperCommonEnvironment.map Prod.fst ++ ["KAIROS_SECRET_BINDINGS"]

/-- `expected_quant`. -/
def expectedQuant : List (String × String) :=
  [("KAIROS_ENABLE_VENUE_QUALITY_GATE", "true"),
    ("KAIROS_SNAPSHOT_INTERVAL_S", "5"),
    ("KAIROS_FUNDING_INTERVAL_S", "30"),
    ("KAIROS_KLINE_RECONCILIATION_INTERVAL_S", "5"),
    ("KAIROS_KLINE_FINALITY_DELAY_S", "5"),
    ("KAIROS_MAXIMUM_BINANCE_FUTURE_SKEW_MS", "2000"),
    ("KAIROS_EVEDEX_DEV_BASE_URL", "https://trading-api.evedex.tech"),
    ("KAIROS_VENUE_QUALITY_INTERVAL_S", "30"),
    ("KAIROS_MAXIMUM_ABS_BASIS_BPS", "25"),
    ("KAIROS_MAXIMUM_EVEDEX_SPREAD_BPS", "25"),
    ("KAIROS_MAXIMUM_EVEDEX_SLIPPAGE_BPS", "25"),
    ("KAIROS_MAXIMUM_VENUE_BOOK_AGE_MS", "5000"),
    ("KAIROS_MAXIMUM_VENUE_TIMESTAMP_SKEW_MS", "2000")]

/-- `PAPER_SOURCE_ENVIRONMENT_KEYS`. -/
def paperSourceEnvironmentKeys : List (String × List String) :=
  let canary :=
    ["KAIROS_TRADING_MODE", "KAIROS_EVEDEX_PROFILE",
      "KAIROS_PAPER_ACCOUNT_ID", "KAIROS_PAPER_STRATEGY_ALLOWLIST",
      "KAIROS_REQUIRE_RECONCILED_ACCOUNT",
      "KAIROS_REQUIRE_STRATEGIC_ALLOCATION"]
  [("quant-scouts", paperCommonKeys ++ expectedQuant.map Prod.fst),
    ("strategy-engine",
      paperCommonKeys ++
        ["KAIROS_TRADING_MODE", "KAIROS_ENABLED_STRATEGY_IDS"]),
    ("risk-manager", paperCommonKeys ++ canary),
    ("canary-controller", paperCommonKeys ++ canary),
    ("execution-engine",
      paperCommonKeys ++
        ["KAIROS_TRADING_MODE", "KAIROS_EXCHANGE", "KAIROS_ACCOUNT_ID",
          "KAIROS_EVEDEX_PROFILE", "KAIROS_EVEDEX_EXCHANGE_URL",
          "KAIROS_EVEDEX_AUTH_URL", "KAIROS_EVEDEX_WEBSOCKET_URL",
          "KAIROS_EVEDEX_WEBSOCKET_PREFIX", "KAIROS_EVEDEX_CHAIN_ID",
          "KAIROS_EVEDEX_DEV_SYMBOL_MAP",
          "KAIROS_EVEDEX_DEV_EXPECTED_ACCOUNT_ID",
          "KAIROS_EVEDEX_DEV_API_KEY_FILE",
          "KAIROS_EVEDEX_DEV_PRIVATE_KEY_FILE",
          "KAIROS_EVEDEX_SIDECAR_NODE"]),
    ("ops-exporter",
      paperCommonKeys ++ ["KAIROS_METRICS_HOST", "KAIROS_METRICS_PORT"])]

/-- `PAPER_INFRASTRUCTURE_ENVIRONMENT_KEYS`. -/
def paperInfrastructureEnvironmentKeys : List (String × List String) :=
  [("redis", []),
    ("timescaledb",
      ["POSTGRES_USER", "POSTGRES_PASSWORD_FILE", "POSTGRES_DB"]),
    ("prometheus", []),
    ("grafana",
      ["GF_SECURITY_ADMIN_USER", "GF_SECURITY_ADMIN_PASSWORD__FILE",
        "GF_USERS_ALLOW_SIGN_UP", "GF_ANALYTICS_REPORTING_ENABLED",
        "GF_ANALYTICS_CHECK_FOR_UPDATES"])]

/-- `PAPER_SERVICE_NETWORKS`. -/
def paperServiceNetworks : List (String × List String) :=
  [("redis", ["paper-bus"]), ("timescaledb", ["paper-data"]),
    ("quant-scouts",
      ["paper-bus", "paper-data", "paper-observability", "paper-egress"]),
    ("strategy-engine", ["paper-bus", "paper-data", "paper-observability"]),
    ("risk-manager", ["paper-bus", "paper-data", "paper-observability"]),
    ("canary-controller",
      ["paper-bus", "paper-data", "paper-observability"]),
    ("execution-engine",
      ["paper-bus", "paper-data", "paper-observability", "paper-egress"]),
    ("ops-exporter",
      ["paper-bus", "paper-data", "paper-observability",
        "paper-management"]),
    ("prometheus", ["paper-observability", "paper-management"]),
    ("grafana", ["paper-observability", "paper-management"])]

/-- `expected_secret_sources`. -/
def expectedSecretSources (name : String) : List String :=
  ["paper_redis_url", "paper_persistence_database_url"] ++
    if name = "execution-engine" then
      ["evedex_dev_api_key", "evedex_dev_private_key"]
    else
      []

/-- `expected_infrastructure_secrets`. -/
def expectedInfrastructureSecrets : List (String × List String) :=
  [("redis", ["paper_redis_password"]),
    ("timescaledb", ["paper_postgres_password"]), ("prometheus", []),
    ("grafana", ["paper_grafana_admin_password"])]

/-- `expected_volume_targets`. -/
def expectedMounts : List (String × List Mount) :=
  [("redis", [⟨"/data", "volume", "paper-redis-data", false⟩]),
    ("timescaledb",
      [⟨"/var/lib/postgresql/data", "volume", "paper-ts-data", false⟩,
        ⟨"/docker-entrypoint-initdb.d/001-kairos.sql", "bind",
          "/timescaledb/schema.sql", true⟩]),
    ("prometheus",
      [⟨"/prometheus", "volume", "paper-prometheus-data", false⟩,
        ⟨"/etc/prometheus/prometheus.yml", "bind",
          "/monitoring/prometheus.yml", true⟩,
        ⟨"/etc/prometheus/alerts.yml", "bind", "/monitoring/alerts.yml",
          true⟩]),
    ("grafana",
      [⟨"/var/lib/grafana", "volume", "paper-grafana-data", false⟩,
        ⟨"/etc/grafana/provisioning/datasources/kairos.yml", "bind",
          "/monitoring/grafana-datasource.yml", true⟩])]

/-- `expected_named_volumes`. -/
def expectedNamedVolumes : List String :=
  ["paper-redis-data", "paper-ts-data", "paper-prometheus-data",
    "paper-grafana-data"]

/-- The internal networks of the allow-list. -/
def internalNetworks : List String :=
  ["paper-bus", "paper-data", "paper-observability", "paper-management"]

/-- The networks of the execution engine, and `paper-management`. -/
def expectedNetworks : List String :=
  internalNetworks ++ ["paper-egress"]

/-- `PAPER_ACCOUNT_PATTERN.fullmatch`. -/
def isPaperAccount (account : String) : Bool :=
  let first := "kairos-paper-dev-".toList
  let rest := account.toList.drop first.length
  let plain := fun (character : Char) =>
    ('a' ≤ character && character ≤ 'z') || character.isDigit
  first.isPrefixOf account.toList && !rest.isEmpty && rest.length ≤ 48 &&
    rest.all (fun character => plain character || character = '-') &&
    rest.head?.any plain && rest.getLast?.any plain

variable (host : Host)

/-! ## Services -/

/-- The loop over all services. -/
def checkService (name : String) (service : Json) : Findings := do
  let environment ← environmentOf service
  let networks ← networksOf service
  let keys ← pySet environment
  let sources ← secretSources host.builtins service
  let volumes ← getKey service "volumes"
  findings
    [finding ((getKey service "env_file").map truthy)
        (name ++ ": env_file is forbidden"),
      finding ((getKey service "privileged").map truthy)
        (name ++ ": privileged mode is forbidden"),
      checkOptions name service,
      finding (some (forbiddenPaperEnv.any (hasText keys)))
        (name ++
          ": legacy/live/paid credential environment is forbidden"),
      finding (some (forbiddenPaperSecretSources.any sources.contains))
        (name ++ ": live or paid provider secret is forbidden"),
      finding
        (some
          (!paperEgressServices.contains name &&
            hasText networks "paper-egress"))
        (name ++
          ": PAPER egress is forbidden outside the exact allow-list"),
      checkDockerSocket host.builtins ": Docker socket mount is forbidden"
        name service,
      finding (some (paperSourceServices.contains name && truthy volumes))
        (name ++ ": PAPER application bind/volume mounts are forbidden"),
      checkEnvironmentKeys
        ": environment keys must match the exact PAPER allow-list"
        (if name ∈ paperSourceServices then
            paperSourceEnvironmentKeys.lookup name
          else paperInfrastructureEnvironmentKeys.lookup name)
        name service,
      checkNetworks ": networks must match the exact PAPER isolation map"
        paperServiceNetworks name service]

/-- `_validate_source_build`. -/
def validateSourceBuild (name : String) (service source : Json) :
    Findings := do
  let builtins := host.builtins
  let repository ← (getOr source "repository" (.text "")).map builtins.str
  let revision ← (getOr source "revision" (.text "")).map builtins.str
  let build ← (getOr service "build" (.object [])).map orDict
  let contexts ← contextMap builtins build
  let context ← (getOr build "context" (.text "")).map builtins.str
  let args ← buildArgs build
  let argNames ← pySet args
  let argText := fun (key : String) =>
    (getOr args key (.text "")).map builtins.str
  let packageDir ← (getKey source "package_dir").map builtins.str
  let extra ← (getOr source "extra" (.text "")).map builtins.str
  let command ← getKey source "command"
  findings
    [finding
        (some (!sameSources (contexts.map Prod.fst) ["service"]))
        (name ++ ": PAPER build contexts must match the exact allow-list"),
      finding
        (some
          (lastOf contexts "service" ≠
            some (repository ++ ".git#" ++ revision)))
        (name ++ ": PAPER build context differs from its immutable lock"),
      finding (some (!host.isRepository context))
        (name ++
          ": PAPER Docker build context must be this deployment " ++
            "repository"),
      finding
        ((getKey build "dockerfile").map fun value =>
          !isText
            (if name = "execution-engine" then
                "docker/Dockerfile.paper-execution"
              else "docker/Dockerfile")
            value)
        (name ++ ": PAPER Dockerfile differs from the reviewed allow-list"),
      finding
        ((getKey build "pull").map fun value =>
          match value with
          | .bool true => false
          | _ => true)
        (name ++ ": PAPER builds must refresh digest-pinned base images"),
      finding
        (some
          (!sameTexts argNames
            ["PACKAGE_DIR", "SERVICE_EXTRA", "SOURCE_REPOSITORY",
              "SOURCE_REVISION"]))
        (name ++
          ": PAPER build arguments must match the exact allow-list"),
      finding ((argText "PACKAGE_DIR").map fun text => text ≠ packageDir)
        (name ++
          ": build argument PACKAGE_DIR differs from the PAPER lock"),
      finding
        ((argText "SOURCE_REPOSITORY").map fun text => text ≠ repository)
        (name ++
          ": build argument SOURCE_REPOSITORY differs from the PAPER lock"),
      finding ((argText "SOURCE_REVISION").map fun text => text ≠ revision)
        (name ++
          ": build argument SOURCE_REVISION differs from the PAPER lock"),
      finding ((argText "SERVICE_EXTRA").map fun text => text ≠ extra)
        (name ++ ": build extra differs from the PAPER lock"),
      finding
        ((getKey service "command").map fun value =>
          !value.pyEq (.array [command]))
        (name ++ ": runtime command differs from the PAPER lock")]

/-- The networks, secrets and settings of a source service. -/
def checkSourceWiring (name : String) (service : Json) : Findings := do
  let builtins := host.builtins
  let networks ← networksOf service
  let entries ← bindings builtins service
  let sources ← secretSources builtins service
  let ports ← getKey service "ports"
  let environment ← environmentOf service
  let egress := hasText networks "paper-egress"
  findings
    ([finding
        (some
          (!(["paper-bus", "paper-data", "paper-observability"].all
            (hasText networks))))
        (name ++
          ": isolated PAPER bus/data/observability networks are required"),
      finding (some (paperEgressServices.contains name != egress))
        (name ++ ": PAPER egress assignment violates the allow-list"),
      finding (some (!sameEntries entries commonBindings))
        (name ++
          ": secret bindings must match the exact PAPER allow-list"),
      finding (some (!sameSources sources (expectedSecretSources name)))
        (name ++
          ": secret source set must match the exact PAPER allow-list"),
      finding (some (name ≠ "ops-exporter" && truthy ports))
        (name ++
          ": application ports must not be published to the host")] ++
      paperCommonEnvironment.map fun entry =>
        finding
          ((getOr environment entry.1 (.text "")).map fun value =>
            builtins.str value ≠ entry.2)
          (name ++ ": common PAPER setting " ++ entry.1 ++ " must be " ++
            entry.2))

/-- The loop over the source services. -/
def checkSourceService (services : Members) (lockServices : Json)
    (name : String) : Findings := do
  let service := serviceOf services name
  let source ← getOr lockServices name (.object [])
  findings
    [validateSourceBuild host name service source,
      checkHardening ": PAPER root filesystem must be read-only"
        ": all capabilities must be dropped" name service,
      checkDependencies name service,
      checkSourceWiring host name service]

/-! ## Settings -/

/-- The mode, the environment and the symbols of a trading service. -/
def checkTrading (services : Members) (name : String) : Findings := do
  let environment ← environmentOf (serviceOf services name)
  findings
    [finding
        ((getKey environment "KAIROS_TRADING_MODE").map fun value =>
          !isText "PAPER" value)
        (name ++ ": KAIROS_TRADING_MODE must be PAPER"),
      finding
        ((getOr environment "KAIROS_ENVIRONMENT" (.text "")).map
          fun value =>
            host.builtins.casefold (host.builtins.str value) ≠ "paper")
        (name ++ ": KAIROS_ENVIRONMENT must be paper"),
      finding
        ((getKey environment "KAIROS_TRADING_SYMBOLS").map fun value =>
          !isText paperDevSymbols value)
        (name ++ ": exact five-symbol PAPER universe is required")]

/-- The strategy engine, the risk manager and the canary controller. -/
def checkCanary (services : Members) : Findings := do
  let builtins := host.builtins
  let strategy ← environmentOf (serviceOf services "strategy-engine")
  let enabled ← getKey strategy "KAIROS_ENABLED_STRATEGY_IDS"
  let risk ← environmentOf (serviceOf services "risk-manager")
  let riskProfile ← getKey risk "KAIROS_EVEDEX_PROFILE"
  let riskAllowlist ← getKey risk "KAIROS_PAPER_STRATEGY_ALLOWLIST"
  let riskAccount ← getKey risk "KAIROS_PAPER_ACCOUNT_ID"
  let riskAccountText ← getOr risk "KAIROS_PAPER_ACCOUNT_ID" (.text "")
  let canary := serviceOf services "canary-controller"
  let canaryEnvironment ← environmentOf canary
  let profiles ← getKey canary "profiles"
  let restart ← getOr canary "restart" (.text "")
  let canaryAccount ← getKey canaryEnvironment "KAIROS_PAPER_ACCOUNT_ID"
  let canaryProfile ← getKey canaryEnvironment "KAIROS_EVEDEX_PROFILE"
  let canaryAllowlist ←
    getKey canaryEnvironment "KAIROS_PAPER_STRATEGY_ALLOWLIST"
  let sources ← secretSources builtins canary
  findings
    [finding (some (!isText "[]" enabled))
        "strategy-engine: PAPER alpha must remain REJECT_ALL",
      finding (some (!isText "DEV" riskProfile))
        "risk-manager: EVEDEX profile must be DEV",
      finding (some (!isText "[\"technical-canary@1\"]" riskAllowlist))
        "risk-manager: only the technical canary revision may be armed",
      finding (some (!isPaperAccount (builtins.str riskAccountText)))
        ("risk-manager: dedicated PAPER account must use the " ++
          "kairos-paper-dev-* namespace"),
      findings
        (["KAIROS_REQUIRE_RECONCILED_ACCOUNT",
            "KAIROS_REQUIRE_STRATEGIC_ALLOCATION"].map fun flag =>
          finding
            ((getKey risk flag).map fun value => !isTrue builtins value)
            ("risk-manager: " ++ flag ++ " must remain enabled")),
      finding
        (some
          (!profiles.pyEq (.array [.text "canary"]) ||
            builtins.casefold (builtins.str restart) ≠ "no"))
        ("canary-controller: must remain an explicit one-shot canary " ++
          "profile"),
      finding (some (!canaryAccount.pyEq riskAccount))
        "canary-controller: dedicated account must match risk-manager",
      finding (some (!isText "DEV" canaryProfile))
        "canary-controller: EVEDEX profile must be DEV",
      finding (some (!isText "[\"technical-canary@1\"]" canaryAllowlist))
        ("canary-controller: only the technical canary revision may be " ++
          "armed"),
      finding
        (some
          (!sources.all
            ["paper_redis_url",
              "paper_persistence_database_url"].contains))
        ("canary-controller: exchange and paid-provider credentials are " ++
          "forbidden")]

/-- The quant scouts. -/
def checkQuant (services : Members) : Findings := do
  let builtins := host.builtins
  let environment ← environmentOf (serviceOf services "quant-scouts")
  findings
    (expectedQuant.map fun entry =>
      finding
        ((getOr environment entry.1 (.text "")).map fun value =>
          builtins.casefold (builtins.str value) ≠
            builtins.casefold entry.2)
        ("quant-scouts: " ++ entry.1 ++ " must be " ++ entry.2))

/-- The execution engine. -/
def checkExecution (services : Members) : Findings := do
  let builtins := host.builtins
  let execution := serviceOf services "execution-engine"
  let environment ← environmentOf execution
  let build ← getOr execution "build" (.object [])
  let dockerfile ← getKey build "dockerfile"
  let risk ← environmentOf (serviceOf services "risk-manager")
  let riskAccount ← getKey risk "KAIROS_PAPER_ACCOUNT_ID"
  let profile ← getKey environment "KAIROS_EVEDEX_PROFILE"
  let exchange ← getOr environment "KAIROS_EXCHANGE" (.text "")
  let symbolMap ← getKey environment "KAIROS_EVEDEX_DEV_SYMBOL_MAP"
  let account ← getKey environment "KAIROS_ACCOUNT_ID"
  let expectedAccount ←
    getOr environment "KAIROS_EVEDEX_DEV_EXPECTED_ACCOUNT_ID" (.text "")
  let sources ← secretSources builtins execution
  let apiKey ← getKey environment "KAIROS_EVEDEX_DEV_API_KEY_FILE"
  let privateKey ← getKey environment "KAIROS_EVEDEX_DEV_PRIVATE_KEY_FILE"
  let node ← getKey environment "KAIROS_EVEDEX_SIDECAR_NODE"
  findings
    [finding (some (!isText "docker/Dockerfile.paper-execution" dockerfile))
        ("execution-engine: PAPER must use the bundled Node sidecar " ++
          "Dockerfile"),
      findings
        (paperEndpoints.map fun entry =>
          finding
            ((getOr environment entry.1 (.text "")).map fun value =>
              builtins.str value ≠ entry.2)
            ("execution-engine: " ++ entry.1 ++
              " differs from official DEV")),
      finding (some (!isText "DEV" profile))
        "execution-engine: EVEDEX profile must be DEV",
      finding (some (builtins.casefold (builtins.str exchange) ≠ "evedex"))
        "execution-engine: PAPER exchange must be exactly EVEDEX",
      finding (some (!isText paperDevSymbolMap symbolMap))
        "execution-engine: exact EVEDEX DEV symbol map is required",
      finding (some (!account.pyEq riskAccount))
        "execution-engine: dedicated account must match risk-manager",
      finding
        (some (strip (builtins.str expectedAccount).toList).isEmpty)
        ("execution-engine: expected remote DEV account identity is " ++
          "required"),
      finding
        (some
          (!(["evedex_dev_api_key", "evedex_dev_private_key"].all
            sources.contains)))
        ("execution-engine: separate DEV API and signing key secrets " ++
          "are required"),
      finding (some (!isText "/run/secrets/evedex_dev_api_key" apiKey))
        "execution-engine: DEV API key must be passed only as a file",
      finding
        (some (!isText "/run/secrets/evedex_dev_private_key" privateKey))
        "execution-engine: DEV private key must be passed only as a file",
      finding (some (!isText "/usr/local/bin/node" node))
        ("execution-engine: sidecar runtime must be the absolute " ++
          "image-pinned /usr/local/bin/node")]

/-! ## Secrets -/

/-- `path.rsplit("/", maxsplit=1)[0]`, and what follows the last slash. -/
def splitLast (path : List Char) : List Char × List Char :=
  match path.reverse.dropWhile fun character => character ≠ '/' with
  | [] => (path, path)
  | _ :: before =>
      (before.reverse,
        (path.reverse.takeWhile fun character => character ≠ '/').reverse)

/-- The top-level secrets. -/
def checkTopLevelSecrets (config : Members) : Findings := do
  let (found, paths) ←
    checkSecretFiles host.builtins "kairos-paper"
      "top-level secret definitions must match the exact PAPER allow-list"
      ": resolved secret resource aliases another Compose project"
      "top-level PAPER secret files must resolve to distinct paths"
      paperSecretFiles config
  let parents := (paths.map fun path => (splitLast path.toList).1).dedup
  let others ←
    findings
      [finding (some (parents.length ≠ 1))
          ("top-level PAPER secret files must share one dedicated " ++
            "directory"),
        finding
          (some
            (parents.any fun parent =>
              (splitLast
                  (parent.reverse.dropWhile fun character =>
                    character = '/').reverse).2 =
                "secrets".toList))
          ("PAPER secrets must not reuse the base deployment secret " ++
            "directory")]
  return found ++ others

/-! ## Infrastructure and networks -/

/-- Redis and TimescaleDB. -/
def checkInfrastructure (services : Members) : Findings := do
  let redis := serviceOf services "redis"
  let image ← getKey redis "image"
  let redisPorts ← getKey redis "ports"
  let redisSources ← secretSources host.builtins redis
  let timescale := serviceOf services "timescaledb"
  let timescalePorts ← getKey timescale "ports"
  let timescaleEnvironment ← environmentOf timescale
  let passwordFile ← getKey timescaleEnvironment "POSTGRES_PASSWORD_FILE"
  findings
    [finding
        (some (!isText expectedRedisImage image || truthy redisPorts))
        "PAPER Redis must use the pinned image without a host port",
      finding (some (!redisSources.contains "paper_redis_password"))
        "PAPER Redis password secret is missing",
      finding (some (truthy timescalePorts))
        "PAPER TimescaleDB must not publish a host port",
      finding
        (some (!isText "/run/secrets/paper_postgres_password" passwordFile))
        "PAPER TimescaleDB must read its isolated password file"]

/-- The images of the infrastructure services. -/
def checkImage (services : Members) (name : String) : Findings :=
  finding
    ((getOr (serviceOf services name) "image" (.text "")).map fun image =>
      !isPinnedImage (host.builtins.str image))
    (name ++ ": infrastructure image must use tag plus sha256 digest")

/-- The top-level networks. -/
def checkTopLevelNetworks (config : Members) : Findings := do
  let networks ←
    dictOf (orDict ((getMember config "networks").getD (.object [])))
  findings
    [finding
        (some
          (!sameSources (networks.map Prod.fst) expectedNetworks))
        "top-level PAPER networks must match the exact allow-list",
      findings
        (internalNetworks.map fun name =>
          finding
            ((getKey (serviceOf networks name) "internal").map fun value =>
              match value with
              | .bool true => false
              | _ => true)
            (name ++ ": network must be internal")),
      finding
        ((getKey (serviceOf networks "paper-egress") "internal").map
          fun value =>
            match value with
            | .bool true => true
            | _ => false)
        ("paper-egress: network must permit only allow-listed outbound " ++
          "clients"),
      findings
        (networks.map fun network =>
          findings
            [finding
                ((getKey (orDict network.2) "name").map fun name =>
                  !ownName ("kairos-paper_" ++ network.1) name)
                (network.1 ++
                  ": resolved network aliases another Compose project"),
              finding
                ((getKey (orDict network.2) "internal").map fun value =>
                  network.1 ≠ "paper-egress" &&
                    match value with
                    | .bool true => false
                    | _ => true)
                (network.1 ++
                  ": only paper-egress may provide external " ++
                    "connectivity")])]

/-! ## The validator -/

/-- `validate_paper_compose`. -/
def validatePaperCompose (config lock : Members) : Findings := do
  let services ←
    dictOf (orDict ((getMember config "services").getD (.object [])))
  let lockServices := orDict ((getMember lock "services").getD (.object []))
  findings
    [finding
        (some
          (!isText "kairos-paper" ((getMember config "name").getD .null)))
        "PAPER Compose project name must be exactly kairos-paper",
      finding
        (some (!sameSources (services.map Prod.fst) paperExpectedServices))
        ("rendered PAPER service set is incomplete or contains " ++
          "unexpected services"),
      finding
        (some
          (forbiddenPaperServices.any (services.map Prod.fst).contains))
        ("PAPER technical canary must not start LLM/feed/review " ++
          "services"),
      findings
        (services.map fun entry => checkService host entry.1 entry.2),
      checkUsers services,
      findings
        (paperSourceServices.map
          (checkSourceService host services lockServices)),
      findings
        (["strategy-engine", "risk-manager", "canary-controller",
            "execution-engine"].map (checkTrading host services)),
      checkCanary host services,
      checkQuant host services,
      checkExecution host services,
      checkTopLevelSecrets host config,
      checkInfrastructureSecrets host.builtins
        ": infrastructure secret set must match the exact PAPER allow-list"
        expectedInfrastructureSecrets services,
      findings
        (expectedMounts.map fun entry =>
          checkMounts host.builtins "PAPER allow-list" services entry.1
            entry.2),
      checkNamedVolumes "kairos-paper"
        "top-level PAPER volumes must match the exact allow-list"
        expectedNamedVolumes config,
      checkInfrastructure host services,
      findings
        (["redis", "timescaledb", "prometheus", "grafana"].map
          (checkImage host services)),
      checkTopLevelNetworks config,
      findings
        (["ops-exporter", "prometheus", "grafana"].map fun name =>
          checkLoopback host.builtins
            ": observability ports must bind only to loopback" name
            (serviceOf services name))]

end KairosDeploy.Compose.PaperCompose
