import QmtExecution.Authority.Database
import QmtExecution.Journal
import Mathlib.Data.Finmap

/-! The record of an account's Runtime Authority: its checks, and the JSON document it is stored
as and read back from. -/

namespace QmtExecution

inductive JsonFloat
  | finite (value : ℚ)
  | infinity (negative : Bool)
  | nan
  deriving DecidableEq

/-- A JSON value as `json.loads` gives it. -/
inductive JsonValue
  | null
  | bool (value : Bool)
  | int (value : ℤ)
  | float (value : JsonFloat)
  | str (value : String)
  | array (items : List JsonValue)
  | object (fields : List (String × JsonValue))

/-- A JSON document: an object, whose fields have no order, or any other value. -/
inductive JsonDocument
  | object (fields : Finmap fun _ : String => JsonValue)
  | other (value : JsonValue)

/-- What the host gives to the authority code. `intOfText` and `reprOf` stand for `int` of a string
and for the text of a number or a container; both may refuse with a `ValueError`. The laws are
those of `pathlib` and `uuid`: a resolved path resolves to itself, the empty path is not absolute,
and there are UUIDs. -/
structure AuthorityHost (ι : Type) where
  root : String
  pid : ι → String
  resolvePath : String → String
  isAbsolute : String → Bool
  isUuid : String → Bool
  intOfText : String → Option ℤ
  reprOf : JsonValue → Option String
  sha256 : String → String
  resolvePath_idem : ∀ path, resolvePath (resolvePath path) = resolvePath path
  absolute_ne : ∀ path, isAbsolute path = true → path ≠ ""
  uuid_valid : ∃ text, text ≠ "" ∧ isUuid text = true

structure AccountAuthority where
  schemaVersion : ℤ
  authorityId : String
  accountKey : String
  environment : String
  accountType : ℤ
  accountIdSha256 : String
  coordinationDbPath : String
  coordinationDbUuid : String
  deriving DecidableEq

def authoritySchemaVersion : ℤ := 1

def CoordinationDbIdentity.make (schemaVersion : ℤ) (accountKey dbUuid authorityId : String) :
    Except Exc CoordinationDbIdentity :=
  if positive : 0 < schemaVersion then
    if account : accountKey = "" then
      .error ⟨.coordinationError, "account_key must be a non-empty string"⟩
    else if uuid : dbUuid = "" then
      .error ⟨.coordinationError, "db_uuid must be a non-empty string"⟩
    else if authority : authorityId = "" then
      .error ⟨.coordinationError, "authority_id must be a non-empty string"⟩
    else .ok ⟨schemaVersion, accountKey, dbUuid, authorityId, positive, account, uuid, authority⟩
  else .error ⟨.coordinationError, "identity schema_version must be a positive int"⟩

def runtimeAuthorityError (message : String) : Exc := ⟨.runtimeAuthorityError, message⟩

def isSpace (c : Char) : Bool :=
  c.val ∈ [0x9, 0xA, 0xB, 0xC, 0xD, 0x1C, 0x1D, 0x1E, 0x1F, 0x20, 0x85, 0xA0, 0x1680, 0x2028, 0x2029,
    0x202F, 0x205F, 0x3000] || (0x2000 ≤ c.val && c.val ≤ 0x200A)

def strip (value : String) : String :=
  .ofList ((value.toList.dropWhile isSpace).reverse.dropWhile isSpace).reverse

def requireAccountKey (accountKey : String) : Except Exc String :=
  if accountKey = "" then .error (runtimeAuthorityError "account_key must be a non-empty string")
  else .ok accountKey

def requireEnvironment (environment : String) : Except Exc String :=
  if environment ∈ ["simulation", "live"] then .ok environment
  else .error (runtimeAuthorityError "environment must be 'simulation' or 'live'")

def isDigest (digest : String) : Bool :=
  digest.toList.length = 64 && digest.toList.all (· ∈ hexDigits)

def requireAccountIdSha256 (accountIdSha256 : String) : Except Exc String :=
  let digest := lower (strip accountIdSha256)
  if isDigest digest then .ok digest
  else .error (runtimeAuthorityError "account_id_sha256 must be a SHA-256 hex digest")

variable {ι : Type} (host : AuthorityHost ι)

def requireUuid (value label : String) : Except Exc String :=
  if value = "" then .error (runtimeAuthorityError (label ++ " must be a non-empty string"))
  else if host.isUuid value then .ok value
  else .error (runtimeAuthorityError (label ++ " is not a valid UUID"))

def accountKeyFromBindingIdentity (environment : String) (accountType : ℤ) (accountIdSha256 : String) :
    Except Exc String :=
  if environment ∉ ["simulation", "live"] then
    .error ⟨.coordinationError, "environment must be simulation or live"⟩
  else
    let digest := lower (strip accountIdSha256)
    if !isDigest digest then
      .error ⟨.coordinationError, "account_id_sha256 must be a SHA-256 digest"⟩
    else .ok (host.sha256 ("qmt-execution-core|" ++ environment ++ "|" ++ toString accountType ++ "|" ++
      digest))

namespace AccountAuthority

def requireSchemaVersion (schemaVersion : ℤ) : Except Exc Unit :=
  if schemaVersion ≤ 0 then
    .error (runtimeAuthorityError "authority schema_version must be a positive int")
  else .ok ()

def requireCoordinationDbPath (path : String) : Except Exc Unit :=
  if path = "" then
    .error (runtimeAuthorityError "coordination_db_path must be a non-empty string")
  else if host.isAbsolute path then .ok ()
  else .error (runtimeAuthorityError "coordination_db_path must be absolute")

/-- The checks of `__post_init__`. -/
def validate (authority : AccountAuthority) : Except Exc AccountAuthority := do
  let _ ← requireSchemaVersion authority.schemaVersion
  let _ ← requireUuid host authority.authorityId "authority_id"
  let _ ← requireAccountKey authority.accountKey
  let _ ← requireEnvironment authority.environment
  let _ ← requireAccountIdSha256 authority.accountIdSha256
  let _ ← requireCoordinationDbPath host authority.coordinationDbPath
  let _ ← requireUuid host authority.coordinationDbUuid "coordination_db_uuid"
  .ok authority

end AccountAuthority

/-- `int(value)`. -/
def JsonValue.toInt : JsonValue → Except Exc ℤ
  | .int value => .ok value
  | .bool value => .ok (if value then 1 else 0)
  | .float (.finite value) => .ok (value.num.tdiv value.den)
  | .float (.infinity _) => .error ⟨.other "OverflowError", "cannot convert float infinity to integer"⟩
  | .float .nan => .error ⟨.valueError, "cannot convert float NaN to integer"⟩
  | .str text =>
      match host.intOfText text with
      | some value => .ok value
      | none => .error ⟨.valueError, "invalid literal for int() with base 10: " ++ text⟩
  | .null | .array _ | .object _ =>
      .error ⟨.typeError, "int() argument must be a string, a bytes-like object or a real number"⟩

/-- `str(value)`. -/
def JsonValue.toStr (value : JsonValue) : Except Exc String :=
  match value with
  | .str text => .ok text
  | .null => .ok "None"
  | .bool true => .ok "True"
  | .bool false => .ok "False"
  | .int _ | .float _ | .array _ | .object _ =>
      match host.reprOf value with
      | some text => .ok text
      | none => .error ⟨.valueError, "Exceeds the limit (4300 digits) for integer string conversion"⟩

namespace AccountAuthority

def toPayload (authority : AccountAuthority) : JsonDocument :=
  .object (List.toFinmap [
    ⟨"schema_version", .int authority.schemaVersion⟩,
    ⟨"authority_id", .str authority.authorityId⟩,
    ⟨"account_key", .str authority.accountKey⟩,
    ⟨"environment", .str authority.environment⟩,
    ⟨"account_type", .int authority.accountType⟩,
    ⟨"account_id_sha256", .str authority.accountIdSha256⟩,
    ⟨"coordination_db_path", .str authority.coordinationDbPath⟩,
    ⟨"coordination_db_uuid", .str authority.coordinationDbUuid⟩])

def required : Finset String :=
  {"schema_version", "authority_id", "account_key", "environment", "account_type",
    "account_id_sha256", "coordination_db_path", "coordination_db_uuid"}

def intField (fields : Finmap fun _ : String => JsonValue) (name : String) : Except Exc ℤ :=
  match fields.lookup name with
  | some value => value.toInt host
  | none => .error ⟨.keyError, name⟩

def strField (fields : Finmap fun _ : String => JsonValue) (name : String) : Except Exc String :=
  match fields.lookup name with
  | some value => value.toStr host
  | none => .error ⟨.keyError, name⟩

/-- The conversions and the checks inside the `try` of `from_payload`. -/
def readFields (fields : Finmap fun _ : String => JsonValue) : Except Exc AccountAuthority := do
  let schemaVersion ← intField host fields "schema_version"
  let authorityId ← strField host fields "authority_id"
  let accountKey ← strField host fields "account_key"
  let environment ← strField host fields "environment"
  let accountType ← intField host fields "account_type"
  let accountIdSha256 ← strField host fields "account_id_sha256"
  let coordinationDbPath ← strField host fields "coordination_db_path"
  let coordinationDbUuid ← strField host fields "coordination_db_uuid"
  validate host ⟨schemaVersion, authorityId, accountKey, environment, accountType, accountIdSha256,
    coordinationDbPath, coordinationDbUuid⟩

def fromPayload : JsonDocument → Except Exc AccountAuthority
  | .other _ => .error (runtimeAuthorityError "authority payload must be a JSON object")
  | .object fields =>
      if fields.keys ≠ required then
        .error (runtimeAuthorityError "authority payload fields do not match the schema")
      else match readFields host fields with
      | .ok authority => .ok authority
      | .error exc =>
          if exc.isA .keyError || exc.isA .typeError || exc.isA .valueError then
            .error (runtimeAuthorityError "authority payload is malformed")
          else .error exc

def identity (authority : AccountAuthority) : Except Exc CoordinationDbIdentity :=
  CoordinationDbIdentity.make 1 authority.accountKey authority.coordinationDbUuid authority.authorityId

end AccountAuthority

/-! What the checks accept. -/

theorem CoordinationDbIdentity.make_ok {schemaVersion : ℤ} {accountKey dbUuid authorityId : String}
    {identity : CoordinationDbIdentity}
    (made : make schemaVersion accountKey dbUuid authorityId = .ok identity) :
    identity.row = ⟨accountKey, dbUuid, authorityId, schemaVersion⟩ := by
  unfold make at made
  split_ifs at made
  cases made
  rfl

theorem requireUuid_of {value label : String} (filled : value ≠ "")
    (valid : host.isUuid value = true) : requireUuid host value label = .ok value := by
  rw [requireUuid, if_neg filled, if_pos valid]

theorem requireAccountKey_of {accountKey : String} (filled : accountKey ≠ "") :
    requireAccountKey accountKey = .ok accountKey := if_neg filled

theorem requireEnvironment_ok {environment checked : String}
    (required : requireEnvironment environment = .ok checked) :
    environment ∈ ["simulation", "live"] ∧ checked = environment := by
  unfold requireEnvironment at required
  split_ifs at required with known
  cases required
  exact ⟨known, rfl⟩

theorem requireAccountIdSha256_ok {accountIdSha256 digest : String}
    (required : requireAccountIdSha256 accountIdSha256 = .ok digest) :
    isDigest digest = true ∧ digest = lower (strip accountIdSha256) := by
  unfold requireAccountIdSha256 at required
  by_cases valid : isDigest (lower (strip accountIdSha256)) = true
  · have same := Except.ok.inj ((if_pos valid).symm.trans required)
    rw [← same]
    exact ⟨valid, rfl⟩
  · have refused := (if_neg valid).symm.trans required
    exact nomatch refused

theorem hexDigit_plain : ∀ c ∈ hexDigits, isSpace c = false ∧ c.toLower = c := by
  have every : (hexDigits.all fun c => !isSpace c && c.toLower = c) = true := by decide
  intro c hex
  simpa using List.all_eq_true.1 every c hex

theorem dropWhile_isSpace {characters : List Char} (hex : ∀ c ∈ characters, c ∈ hexDigits) :
    characters.dropWhile isSpace = characters := by
  cases characters with
  | nil => rfl
  | cons c rest => simp [(hexDigit_plain c (hex c List.mem_cons_self)).1]

theorem lower_strip_digest {digest : String} (valid : isDigest digest = true) :
    lower (strip digest) = digest := by
  have hex : ∀ c ∈ digest.toList, c ∈ hexDigits := by
    intro c listed
    simp only [isDigest, Bool.and_eq_true, List.all_eq_true, decide_eq_true_eq] at valid
    exact valid.2 c listed
  have reversed : ∀ c ∈ digest.toList.reverse, c ∈ hexDigits := by
    intro c listed
    exact hex c (List.mem_reverse.1 listed)
  have stripped : strip digest = digest := by
    rw [strip, dropWhile_isSpace hex, dropWhile_isSpace reversed, List.reverse_reverse,
      String.ofList_toList]
  have same : digest.toList.map Char.toLower = digest.toList.map id := by
    apply List.map_congr_left
    intro c listed
    exact (hexDigit_plain c (hex c listed)).2
  rw [stripped, lower, same, List.map_id, String.ofList_toList]

theorem requireAccountIdSha256_digest {digest : String} (valid : isDigest digest = true) :
    requireAccountIdSha256 digest = .ok digest := by
  unfold requireAccountIdSha256
  dsimp only
  rw [lower_strip_digest valid, if_pos valid]

namespace AccountAuthority

variable {host} {authority checked : AccountAuthority}

theorem validate_of (positive : 0 < authority.schemaVersion) (authorityFilled : authority.authorityId ≠ "")
    (authorityValid : host.isUuid authority.authorityId = true) (key : authority.accountKey ≠ "")
    (environment : authority.environment ∈ ["simulation", "live"])
    (digest : isDigest authority.accountIdSha256 = true)
    (absolute : host.isAbsolute authority.coordinationDbPath = true)
    (dbFilled : authority.coordinationDbUuid ≠ "")
    (dbValid : host.isUuid authority.coordinationDbUuid = true) :
    authority.validate host = .ok authority := by
  have version : requireSchemaVersion authority.schemaVersion = .ok () := if_neg (not_le.2 positive)
  have known : requireEnvironment authority.environment = .ok authority.environment := if_pos environment
  have path : requireCoordinationDbPath host authority.coordinationDbPath = .ok () := by
    rw [requireCoordinationDbPath, if_neg (host.absolute_ne _ absolute), if_pos absolute]
  unfold validate
  rw [version, requireUuid_of host authorityFilled authorityValid, requireAccountKey_of key, known,
    requireAccountIdSha256_digest digest, path, requireUuid_of host dbFilled dbValid]
  rfl

theorem validate_same (valid : authority.validate host = .ok checked) : checked = authority := by
  obtain ⟨_, _, valid⟩ := except_bind valid
  obtain ⟨_, _, valid⟩ := except_bind valid
  obtain ⟨_, _, valid⟩ := except_bind valid
  obtain ⟨_, _, valid⟩ := except_bind valid
  obtain ⟨_, _, valid⟩ := except_bind valid
  obtain ⟨_, _, valid⟩ := except_bind valid
  obtain ⟨_, _, valid⟩ := except_bind valid
  cases valid
  rfl

structure PayloadFields where
  schemaVersion : JsonValue
  authorityId : JsonValue
  accountKey : JsonValue
  environment : JsonValue
  accountType : JsonValue
  accountIdSha256 : JsonValue
  coordinationDbPath : JsonValue
  coordinationDbUuid : JsonValue

namespace PayloadFields

def list (values : PayloadFields) : List (Sigma fun _ : String => JsonValue) := [
  ⟨"schema_version", values.schemaVersion⟩,
  ⟨"authority_id", values.authorityId⟩,
  ⟨"account_key", values.accountKey⟩,
  ⟨"environment", values.environment⟩,
  ⟨"account_type", values.accountType⟩,
  ⟨"account_id_sha256", values.accountIdSha256⟩,
  ⟨"coordination_db_path", values.coordinationDbPath⟩,
  ⟨"coordination_db_uuid", values.coordinationDbUuid⟩]

def fields (values : PayloadFields) : Finmap fun _ : String => JsonValue := values.list.toFinmap

variable (values : PayloadFields)

theorem fields_lookup (name : String) : values.fields.lookup name = values.list.dlookup name :=
  Finmap.dlookup_list_toFinmap name values.list

theorem fields_keys : values.fields.keys = required := by
  ext name
  rw [Finmap.mem_keys, fields, Finmap.mem_list_toFinmap]
  simp [list, required, exists_or]

theorem lookup_schemaVersion : values.fields.lookup "schema_version" = some values.schemaVersion :=
  values.fields_lookup _

theorem lookup_authorityId : values.fields.lookup "authority_id" = some values.authorityId :=
  values.fields_lookup _

theorem lookup_accountKey : values.fields.lookup "account_key" = some values.accountKey :=
  values.fields_lookup _

theorem lookup_environment : values.fields.lookup "environment" = some values.environment :=
  values.fields_lookup _

theorem lookup_accountType : values.fields.lookup "account_type" = some values.accountType :=
  values.fields_lookup _

theorem lookup_accountIdSha256 : values.fields.lookup "account_id_sha256" = some values.accountIdSha256 :=
  values.fields_lookup _

theorem lookup_coordinationDbPath : values.fields.lookup "coordination_db_path" = some values.coordinationDbPath :=
  values.fields_lookup _

theorem lookup_coordinationDbUuid : values.fields.lookup "coordination_db_uuid" = some values.coordinationDbUuid :=
  values.fields_lookup _

theorem readFields_fields (host : AuthorityHost ι) : readFields host values.fields = (do
    let schemaVersion ← values.schemaVersion.toInt host
    let authorityId ← values.authorityId.toStr host
    let accountKey ← values.accountKey.toStr host
    let environment ← values.environment.toStr host
    let accountType ← values.accountType.toInt host
    let accountIdSha256 ← values.accountIdSha256.toStr host
    let coordinationDbPath ← values.coordinationDbPath.toStr host
    let coordinationDbUuid ← values.coordinationDbUuid.toStr host
    validate host ⟨schemaVersion, authorityId, accountKey, environment, accountType, accountIdSha256,
      coordinationDbPath, coordinationDbUuid⟩) := by
  simp only [readFields, intField, strField, lookup_schemaVersion, lookup_authorityId,
    lookup_accountKey, lookup_environment, lookup_accountType, lookup_accountIdSha256,
    lookup_coordinationDbPath, lookup_coordinationDbUuid]

theorem exists_fields {payload : Finmap fun _ : String => JsonValue} (keys : payload.keys = required) :
    ∃ values : PayloadFields, payload = values.fields := by
  have present : ∀ name ∈ required, ∃ value, payload.lookup name = some value := by
    intro name listed
    rw [← keys, Finmap.mem_keys] at listed
    exact Finmap.mem_iff.1 listed
  obtain ⟨schemaVersion, found_schemaVersion⟩ := present "schema_version" (by decide)
  obtain ⟨authorityId, found_authorityId⟩ := present "authority_id" (by decide)
  obtain ⟨accountKey, found_accountKey⟩ := present "account_key" (by decide)
  obtain ⟨environment, found_environment⟩ := present "environment" (by decide)
  obtain ⟨accountType, found_accountType⟩ := present "account_type" (by decide)
  obtain ⟨accountIdSha256, found_accountIdSha256⟩ := present "account_id_sha256" (by decide)
  obtain ⟨coordinationDbPath, found_coordinationDbPath⟩ := present "coordination_db_path" (by decide)
  obtain ⟨coordinationDbUuid, found_coordinationDbUuid⟩ := present "coordination_db_uuid" (by decide)
  refine ⟨⟨schemaVersion, authorityId, accountKey, environment, accountType, accountIdSha256,
    coordinationDbPath, coordinationDbUuid⟩, ?_⟩
  apply Finmap.ext_lookup
  intro name
  by_cases listed : name ∈ required
  · simp only [required, Finset.mem_insert, Finset.mem_singleton] at listed
    rcases listed with rfl | rfl | rfl | rfl | rfl | rfl | rfl | rfl
    · rw [found_schemaVersion, lookup_schemaVersion]
    · rw [found_authorityId, lookup_authorityId]
    · rw [found_accountKey, lookup_accountKey]
    · rw [found_environment, lookup_environment]
    · rw [found_accountType, lookup_accountType]
    · rw [found_accountIdSha256, lookup_accountIdSha256]
    · rw [found_coordinationDbPath, lookup_coordinationDbPath]
    · rw [found_coordinationDbUuid, lookup_coordinationDbUuid]
  · have missing : payload.lookup name = none := by
      rw [Finmap.lookup_eq_none, ← Finmap.mem_keys, keys]
      exact listed
    rw [missing]
    apply Eq.symm
    rw [Finmap.lookup_eq_none, ← Finmap.mem_keys, fields_keys]
    exact listed

end PayloadFields

def values (authority : AccountAuthority) : PayloadFields where
  schemaVersion := .int authority.schemaVersion
  authorityId := .str authority.authorityId
  accountKey := .str authority.accountKey
  environment := .str authority.environment
  accountType := .int authority.accountType
  accountIdSha256 := .str authority.accountIdSha256
  coordinationDbPath := .str authority.coordinationDbPath
  coordinationDbUuid := .str authority.coordinationDbUuid

theorem toPayload_values : authority.toPayload = .object authority.values.fields := rfl

theorem fromPayload_toPayload (valid : authority.validate host = .ok authority) :
    fromPayload host authority.toPayload = .ok authority := by
  have read : readFields host authority.values.fields = .ok authority :=
    (PayloadFields.readFields_fields _ host).trans valid
  rw [toPayload_values, fromPayload, if_neg (not_not.2 authority.values.fields_keys), read]

theorem identity_row {identity : CoordinationDbIdentity} (made : authority.identity = .ok identity) :
    identity.row = ⟨authority.accountKey, authority.coordinationDbUuid, authority.authorityId, 1⟩ :=
  CoordinationDbIdentity.make_ok made

end AccountAuthority

end QmtExecution
