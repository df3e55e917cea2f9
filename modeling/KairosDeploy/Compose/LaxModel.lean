import KairosDeploy.Library.TextBytes
import KairosDeploy.Compose.Accepted

/-!
# An accepted base model

A base Compose model that `validate_compose` accepts.  It does three things
that the validator does not look at: the strategy engine publishes a port,
Redis mounts a host directory in the short syntax, and the text scouts mount
their two provider secrets under each other's names.
-/

namespace KairosDeploy.Compose.LaxModel

open KairosDeploy.Library.JsonValue
open KairosDeploy.Library.PyObject
open KairosDeploy.Library.TextBytes
open KairosDeploy.Compose.SharedChecks
open KairosDeploy.Compose.BaseCompose
open KairosDeploy.Compose.Accepted

/-- Built-in functions that agree with the real ones on the values of the
model. -/
def plainBuiltins : Builtins where
  repr := fun _ => ""
  int := fun value =>
    match value with
    | .text text => if text = "2000000" then some 2000000 else none
    | _ => none
  floatGe := fun left right =>
    match left, right with
    | .text left, .text right =>
        if left = "5" ∧ right = "30" then some false else none
    | _, _ => none
  casefold := asciiLower
  lower := asciiLower

/-- The setting of the CI run of the validator. -/
def plainSetting : Setting where
  builtins := plainBuiltins
  isRepository := fun text => text = "."
  live := false
  allowExampleValues := true

/-- A list of texts. -/
def texts (items : List String) : Json :=
  .array (items.map .text)

/-- The revision of all sources. -/
def revision : String :=
  "0123456789abcdef0123456789abcdef01234567"

/-- The repository of a source service. -/
def repository (name : String) : String :=
  "https://github.com/Kairos-cryptoAI/kairos-" ++ name

/-- The extra of a source service. -/
def extraOf (name : String) : Members :=
  if name = "execution-engine" then [("extra", .text "evedex")] else []

/-- The entry of a source service in the lock. -/
def lockEntry (name : String) : String × Json :=
  (name,
    .object
      ([("repository", .text (repository name)),
          ("revision", .text revision), ("package_dir", .text "."),
          ("command", .text name)] ++ extraOf name))

/-- The lock. -/
def plainLock : Members :=
  [("services", .object (sourceServices.map lockEntry))]

/-- The build of a source service. -/
def build (name : String) : Json :=
  .object
    [("context", .text "."), ("dockerfile", .text "docker/Dockerfile"),
      ("pull", .bool true),
      ("additional_contexts",
        .object
          [("service", .text (repository name ++ ".git#" ++ revision))]),
      ("args",
        .object
          ([("PACKAGE_DIR", .text "."),
              ("SOURCE_REPOSITORY", .text (repository name)),
              ("SOURCE_REVISION", .text revision)] ++
            (extraOf name).map fun extra => ("SERVICE_EXTRA", extra.2)))]

/-- The environment that all source services have. -/
def commonEnvironment (bindings : String) : Members :=
  [("KAIROS_ENVIRONMENT", .text "prod"), ("KAIROS_LOG_LEVEL", .text "INFO"),
    ("KAIROS_LOG_JSON", .text "true"), ("KAIROS_BUS_BACKEND", .text "redis"),
    ("KAIROS_PERSISTENCE_MIGRATION_PROFILE", .text "controlled-runtime"),
    ("KAIROS_SECRET_BINDINGS", .text bindings),
    ("KAIROS_TRADING_SYMBOLS", .text "[]")]

/-- The bindings that all source services have. -/
def commonItems : String :=
  "KAIROS_REDIS_URL=/run/secrets/redis_url," ++
    "KAIROS_PERSISTENCE_DATABASE_URL=" ++
      "/run/secrets/persistence_database_url"

/-- The bindings of a provider that are added to the common ones. -/
def openaiItem : String :=
  ",KAIROS_OPENAI_API_KEY=/run/secrets/openai_api_key"

/-- The binding of the other provider. -/
def bearerItem : String :=
  ",KAIROS_X_BEARER_TOKEN=/run/secrets/x_bearer_token"

/-- A secret that is mounted under its own name. -/
def plainSecret (name : String) : Json :=
  .text name

/-- A secret that is mounted under another name. -/
def renamedSecret (name target : String) : Json :=
  .object [("source", .text name), ("target", .text target)]

/-- A source service. -/
def sourceService (name items : String) (environment : Members)
    (networks : List String) (secrets : List Json) (others : Members) :
    String × Json :=
  (name,
    .object
      ([("build", build name), ("command", texts [name]),
          ("read_only", .bool true), ("cap_drop", texts ["ALL"]),
          ("security_opt", texts ["no-new-privileges:true"]),
          ("init", .bool true),
          ("depends_on",
            .object
              (["redis", "timescaledb"].map fun dependency =>
                (dependency,
                  .object [("condition", .text "service_healthy")]))),
          ("environment", .object (commonEnvironment items ++ environment)),
          ("networks", texts networks),
          ("secrets",
            .array
              ([plainSecret "redis_url",
                  plainSecret "persistence_database_url"] ++ secrets))] ++
        others))

/-- The networks of a service without egress. -/
def inside : List String :=
  ["bus", "data", "observability"]

/-- The networks of a service with egress. -/
def outside : List String :=
  ["bus", "data", "observability", "egress"]

/-- A health check. -/
def healthcheck (command : String) : String × Json :=
  ("healthcheck", .object [("test", texts ["CMD-SHELL", command])])

/-- A health check of the own port. -/
def localHealth : String × Json :=
  healthcheck "wget http://127.0.0.1:9100"

/-- A port that is published on the loopback address. -/
def localPorts : String × Json :=
  ("ports", texts ["127.0.0.1:9100:9100"])

/-- A mount of the allow-list. -/
def mountOf (mount : Mount) : Json :=
  .object
    [("type", .text mount.kind), ("source", .text mount.source),
      ("target", .text mount.target), ("read_only", .bool mount.readOnly)]

/-- The mounts of an infrastructure service. -/
def mountsOf (name : String) : List Json :=
  ((expectedMounts.lookup name).getD []).map mountOf

/-- The image of an infrastructure service. -/
def image : Json :=
  .text
    ("image:1@sha256:" ++
      "a7859ed111db3c1f5404a973a4747505d559fb5ca32d37e447afc0ef845a2103")

/-- The port that the strategy engine publishes on all addresses. -/
def publishedPort : Json :=
  .text "8080:8080"

/-- The host directory that Redis mounts. -/
def hostDirectory : Json :=
  .text "/etc:/host"

/-- The text scouts, with the secrets of their two providers exchanged. -/
def textScouts : String × Json :=
  sourceService "text-scouts" (commonItems ++ openaiItem ++ bearerItem)
    [("KAIROS_PROCESSING_SCOPE_SHA256",
        .text (String.ofList (List.replicate 64 '0'))),
      ("KAIROS_REDDIT_USER_AGENT", .text "kairos"),
      ("KAIROS_X_MONTHLY_BUDGET_MICROUSD", .text "2000000"),
      ("KAIROS_X_POST_READ_UNIT_COST_MICROUSD", .text "1"),
      ("KAIROS_X_USER_READ_UNIT_COST_MICROUSD", .text "1")]
    outside
    [renamedSecret "openai_api_key" "x_bearer_token",
      renamedSecret "x_bearer_token" "openai_api_key"]
    []

/-- The strategy engine, with a published port. -/
def strategyEngine : String × Json :=
  sourceService "strategy-engine" commonItems
    [("KAIROS_TRADING_MODE", .text "DRY_RUN"),
      ("KAIROS_ENABLED_STRATEGY_IDS", .text "[]")]
    inside [] [("ports", .array [publishedPort])]

/-- The other source services. -/
def otherSources : Members :=
  [sourceService "quant-scouts" commonItems [] outside [] [],
    sourceService "router" commonItems [] inside [] [],
    sourceService "aggregator" (commonItems ++ openaiItem)
      [("KAIROS_CANDIDATE_REQUIRE_MACRO_CONTEXT", .text "true"),
        ("KAIROS_CANDIDATE_REQUIRE_TEXT_CONTEXT", .text "true")]
      outside [plainSecret "openai_api_key"] [],
    sourceService "macro-strategist" (commonItems ++ openaiItem) [] outside
      [plainSecret "openai_api_key"] [],
    sourceService "risk-manager" commonItems
      [("KAIROS_REQUIRE_RECONCILED_ACCOUNT", .text "true"),
        ("KAIROS_ACCOUNT_SNAPSHOT_MAX_AGE_S", .text "30"),
        ("KAIROS_REQUIRE_STRATEGIC_ALLOCATION", .text "true")]
      inside [] [],
    sourceService "execution-engine" commonItems
      [("KAIROS_EXCHANGE", .text "evedex"),
        ("KAIROS_TRADING_MODE", .text "DRY_RUN"),
        ("KAIROS_ACCOUNT_ID", .text "account"),
        ("KAIROS_ACCOUNT_SNAPSHOT_INTERVAL_S", .text "5"),
        ("KAIROS_DRY_RUN_EQUITY_USD", .text "1"),
        ("KAIROS_EVEDEX_EXCHANGE_URL", .text "https://evedex"),
        ("KAIROS_EVEDEX_CHAIN_ID", .text "1")]
      outside [] [],
    sourceService "ops-exporter" commonItems
      [("KAIROS_METRICS_HOST", .text "0.0.0.0"),
        ("KAIROS_METRICS_PORT", .text "9100")]
      (inside ++ ["management"]) [] [localHealth, localPorts]]

/-- Redis, with a host directory. -/
def redis : String × Json :=
  ("redis",
    .object
      [("image", .text expectedRedisImage), ("user", .text "redis:redis"),
        ("command",
          texts ["requirepass $(cat /run/secrets/redis_password)"]),
        healthcheck "redis-cli -a $(cat /run/secrets/redis_password) ping",
        ("networks", texts ["bus"]),
        ("secrets", .array [plainSecret "redis_password"]),
        ("volumes", .array (mountsOf "redis" ++ [hostDirectory]))])

/-- The other infrastructure services. -/
def otherInfrastructure : Members :=
  [("timescaledb",
      .object
        [("image", image), ("user", .text "postgres:postgres"),
          ("environment",
            .object
              [("POSTGRES_USER", .text "kairos"),
                ("POSTGRES_PASSWORD_FILE",
                  .text "/run/secrets/postgres_password"),
                ("POSTGRES_DB", .text "kairos")]),
          healthcheck "grep postgres /proc/1/comm && pg_isready",
          ("networks", texts ["data"]),
          ("secrets", .array [plainSecret "postgres_password"]),
          ("volumes", .array (mountsOf "timescaledb"))]),
    ("prometheus",
      .object
        [("image", image),
          ("networks", texts ["observability", "management"]),
          localHealth, localPorts,
          ("volumes", .array (mountsOf "prometheus"))]),
    ("grafana",
      .object
        [("image", image),
          ("networks", texts ["observability", "management"]),
          ("environment",
            .object
              [("GF_SECURITY_ADMIN_USER", .text "admin"),
                ("GF_SECURITY_ADMIN_PASSWORD__FILE",
                  .text "/run/secrets/grafana_admin_password"),
                ("GF_USERS_ALLOW_SIGN_UP", .text "false"),
                ("GF_ANALYTICS_REPORTING_ENABLED", .text "false"),
                ("GF_ANALYTICS_CHECK_FOR_UPDATES", .text "false")]),
          localHealth, localPorts,
          ("secrets", .array [plainSecret "grafana_admin_password"]),
          ("volumes", .array (mountsOf "grafana"))])]

/-- The services of the model. -/
def laxServices : Members :=
  textScouts :: strategyEngine :: redis ::
    (otherSources ++ otherInfrastructure)

/-- The networks of the model. -/
def laxNetworks : Members :=
  ("egress", .object []) ::
    internalNetworks.map fun name =>
      (name, .object [("internal", .bool true)])

/-- The model. -/
def laxConfig : Members :=
  [("name", .text "kairos"), ("services", .object laxServices),
    ("secrets",
      .object
        (baseSecretFiles.map fun file =>
          (file.1,
            .object [("file", .text ("/srv/kairos/secrets/" ++ file.2))]))),
    ("volumes",
      .object (expectedNamedVolumes.map fun name => (name, .object []))),
    ("networks", .object laxNetworks)]

/-! ## The model is accepted -/

/-- The binding of the provider of three services. -/
def openaiEntry : String × String :=
  ("KAIROS_OPENAI_API_KEY", "/run/secrets/openai_api_key")

/-- The binding of the other provider. -/
def bearerEntry : String × String :=
  ("KAIROS_X_BEARER_TOKEN", "/run/secrets/x_bearer_token")

theorem bindingEntries_of
    {raw : String} {characters : List Char}
    (spelled : raw.toList = characters) :
    bindingEntries raw =
      (((characters.splitOn ',').map strip).filter
        fun part => !part.isEmpty).filterMap bindingEntry := by
  rw [bindingEntries, spelled]

/-- The binding lists of the model, read. -/
theorem bindingEntries_lax :
    bindingEntries commonItems = commonBindings ∧
      bindingEntries (commonItems ++ openaiItem) =
        commonBindings ++ [openaiEntry] ∧
      bindingEntries (commonItems ++ openaiItem ++ bearerItem) =
        commonBindings ++ [openaiEntry, bearerEntry] := by
  have common : commonItems.toList = _ :=
    toList_append_of
      (toList_append_of String.toList_ofList String.toList_ofList)
      String.toList_ofList
  have openai : (commonItems ++ openaiItem).toList = _ :=
    toList_append_of common String.toList_ofList
  have both : (commonItems ++ openaiItem ++ bearerItem).toList = _ :=
    toList_append_of openai String.toList_ofList
  refine ⟨?_, ?_, ?_⟩
  · rw [bindingEntries_of common]
    decide +kernel
  · rw [bindingEntries_of openai]
    decide +kernel
  · rw [bindingEntries_of both]
    decide +kernel

/-- The bindings of a service of the model. -/
abbrev boundTo (name : String) : Option (List (String × String)) :=
  bindings plainSetting.builtins (serviceOf laxServices name)

theorem bound_common :
    boundTo "execution-engine" = some commonBindings ∧
      boundTo "ops-exporter" = some commonBindings ∧
      boundTo "quant-scouts" = some commonBindings ∧
      boundTo "risk-manager" = some commonBindings ∧
      boundTo "router" = some commonBindings ∧
      boundTo "strategy-engine" = some commonBindings := by
  rw [← bindingEntries_lax.1]
  exact ⟨rfl, rfl, rfl, rfl, rfl, rfl⟩

theorem bound_openai :
    boundTo "aggregator" = some (commonBindings ++ [openaiEntry]) ∧
      boundTo "macro-strategist" =
        some (commonBindings ++ [openaiEntry]) := by
  rw [← bindingEntries_lax.2.1]
  exact ⟨rfl, rfl⟩

theorem bound_both :
    boundTo "text-scouts" =
      some (commonBindings ++ [openaiEntry, bearerEntry]) := by
  rw [← bindingEntries_lax.2.2]
  rfl

/-- The sources of the lock. -/
abbrev lockSources : Json :=
  orDict ((getMember plainLock "services").getD (.object []))

/-- The checks that read the bindings have no findings. -/
theorem checks_lax :
    (∀ name ∈ sourceServices,
        checkSourceService plainSetting laxServices lockSources name =
          some []) ∧
      (∀ name ∈ sourceServices,
        checkSecrets plainSetting laxServices name = some []) ∧
      (∀ entry ∈ expectedProviderSecrets,
        checkProviders plainSetting laxServices entry = some []) ∧
      checkExecution plainSetting laxServices = some [] := by
  obtain ⟨execution, exporter, quant, risk, router, strategy⟩ :=
    bound_common
  obtain ⟨aggregator, strategist⟩ := bound_openai
  refine ⟨?_, ?_, ?_, ?_⟩
  · simp only [sourceServices, List.forall_mem_cons, List.not_mem_nil,
      false_implies, implies_true, and_true, checkSourceService,
      checkSourceWiring, execution, exporter, quant, risk, router, strategy,
      aggregator, strategist, bound_both]
    decide +kernel
  · simp only [sourceServices, List.forall_mem_cons, List.not_mem_nil,
      false_implies, implies_true, and_true, checkSecrets, execution,
      exporter, quant, risk, router, strategy, aggregator, strategist,
      bound_both]
    decide +kernel
  · simp only [expectedProviderSecrets, List.forall_mem_cons,
      List.not_mem_nil, false_implies, implies_true, and_true, checkProviders,
      aggregator, strategist, bound_both]
    decide +kernel
  · simp only [checkExecution, execution]
    decide +kernel

theorem serviceNames_lax :
    sameSources (laxServices.map Prod.fst) expectedServices = true := by
  have names :
      laxServices.map Prod.fst =
        ["text-scouts", "strategy-engine", "redis", "quant-scouts", "router",
          "aggregator", "macro-strategist", "risk-manager",
          "execution-engine", "ops-exporter", "timescaledb", "prometheus",
          "grafana"] :=
    rfl
  have expected : ∀ name ∈ laxServices.map Prod.fst,
      name ∈ expectedServices := by
    rw [names]
    simp only [List.forall_mem_cons]
    simp [expectedServices, sourceServices]
  have present : ∀ name ∈ expectedServices,
      name ∈ laxServices.map Prod.fst := by
    rw [names]
    simp only [expectedServices, sourceServices, List.cons_append,
      List.nil_append, List.forall_mem_cons]
    simp
  exact (sameSources_iff _ _).2 fun name => ⟨expected name, present name⟩

/-- A character that no reading of a path changes. -/
def isPlain (character : Char) : Bool :=
  character ≠ '\\' && character.toLower = character

theorem slashes_of_plain
    {text : String} (plain : text.toList.all isPlain = true) :
    slashes text = text := by
  rw [List.all_eq_true] at plain
  have kept :
      (text.toList.map fun character =>
        if character = '\\' then '/' else character) = text.toList := by
    conv_rhs => rw [← List.map_id text.toList]
    refine List.map_congr_left fun character listed => ?_
    have known := plain character listed
    simp only [isPlain, Bool.and_eq_true, decide_eq_true_eq] at known
    rw [if_neg known.1, id]
  rw [slashes, kept, String.ofList_toList]

theorem asciiLower_of_plain
    {text : String} (plain : text.toList.all isPlain = true) :
    asciiLower text = text := by
  rw [List.all_eq_true] at plain
  have kept : text.toList.map Char.toLower = text.toList := by
    conv_rhs => rw [← List.map_id text.toList]
    refine List.map_congr_left fun character listed => ?_
    have known := plain character listed
    simp only [isPlain, Bool.and_eq_true, decide_eq_true_eq] at known
    rw [known.2, id]
  rw [asciiLower, kept, String.ofList_toList]

/-- The file of a top-level secret of the model. -/
abbrev secretPath (file : String × String) : String :=
  "/srv/kairos/secrets/" ++ file.2

theorem plain_append
    {left right : String} {front back : List Char}
    (start : left.toList = front) (rest : right.toList = back)
    (plain : (front ++ back).all isPlain = true) :
    (left ++ right).toList.all isPlain = true := by
  rw [toList_append_of start rest]
  exact plain

theorem plain_secretPath :
    ∀ file ∈ baseSecretFiles,
      (secretPath file).toList.all isPlain = true := by
  unfold secretPath
  simp only [baseSecretFiles, List.map_cons, List.map_nil,
    List.forall_mem_cons, List.not_mem_nil, false_implies, implies_true,
    and_true]
  and_intros
  all_goals
    exact plain_append String.toList_ofList String.toList_ofList (by decide)

theorem endsWith_secretPath (file : String × String) :
    endsWith (secretPath file) ("/" ++ file.2) = true := by
  have slash : "/".toList = ['/'] := by
    rw [String.toList_ofList]
  have split : "/srv/kairos/secrets/".toList =
      "/srv/kairos/secrets".toList ++ ['/'] := by
    rw [String.toList_ofList, String.toList_ofList]
    rfl
  unfold secretPath endsWith
  rw [List.isSuffixOf_iff_suffix, String.toList_append,
    String.toList_append, slash, split, List.append_assoc]
  exact List.suffix_append _ _

theorem checkTopLevelSecrets_lax :
    checkTopLevelSecrets plainSetting laxConfig = some [] := by
  have names : (baseSecretFiles.map Prod.fst).Nodup := by
    simp [baseSecretFiles]
  have same : baseSecretFiles.map Prod.snd = baseSecretFiles.map Prod.fst :=
    rfl
  have read : ∀ file ∈ baseSecretFiles,
      asciiLower (slashes (secretPath file)) = secretPath file := by
    intro file listed
    have plain := plain_secretPath file listed
    rw [slashes_of_plain plain, asciiLower_of_plain plain]
  have distinct :
      (baseSecretFiles.map fun file =>
        asciiLower (slashes (secretPath file))).Nodup := by
    rw [List.map_congr_left read]
    have paths : baseSecretFiles.map secretPath =
        (baseSecretFiles.map Prod.snd).map ("/srv/kairos/secrets/" ++ ·) :=
      rfl
    rw [paths, same]
    exact names.map fun _ _ equal => (String.append_right_inj _).1 equal
  have located : ∀ file ∈ baseSecretFiles,
      endsWith (slashes (secretPath file)) ("/" ++ file.2) = true := by
    intro file listed
    rw [slashes_of_plain (plain_secretPath file listed)]
    exact endsWith_secretPath file
  have defined :
      orDict ((getMember laxConfig "secrets").getD (.object [])) =
        .object
          (baseSecretFiles.map fun file =>
            (file.1, secretFile (secretPath file))) := by
    unfold laxConfig secretFile
    rfl
  unfold checkTopLevelSecrets
  rw [checkSecretFiles_of_files plainSetting.builtins secretPath defined
    names located distinct]
  rfl

/-- The validator accepts the model. -/
theorem validateCompose_lax :
    validateCompose plainSetting laxConfig plainLock = some [] := by
  have services :
      dictOf (orDict ((getMember laxConfig "services").getD (.object []))) =
        some laxServices :=
    rfl
  unfold validateCompose
  rw [services, Option.bind_eq_bind, Option.bind_some, findings_eq_nil_iff]
  simp only [List.forall_mem_cons]
  refine
    ⟨by decide +kernel, by rw [serviceNames_lax]; rfl, by decide +kernel,
      by decide +kernel,
      (findings_map_eq_nil_iff _ _).2 checks_lax.1,
      by decide +kernel, checks_lax.2.2.2,
      (findings_map_eq_nil_iff _ _).2 checks_lax.2.2.1,
      (findings_map_eq_nil_iff _ _).2 checks_lax.2.1,
      checkTopLevelSecrets_lax, by decide +kernel, by decide +kernel,
      by decide +kernel, by decide +kernel, by decide +kernel,
      by decide +kernel, by decide +kernel, by decide +kernel,
      by decide +kernel, fun _ none => nomatch none⟩

end KairosDeploy.Compose.LaxModel
