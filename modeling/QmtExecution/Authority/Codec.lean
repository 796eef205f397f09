import QmtExecution.Authority.Bootstrap

/-! The decoder of authority records converts every field before the record checks it. When it
accepts a payload that no record is written as, and when another exception than
`RuntimeAuthorityError` escapes from it. -/

namespace QmtExecution

variable {ι : Type} (host : AuthorityHost ι)

/-- The exceptions that `from_payload` turns into a `RuntimeAuthorityError`, or raises itself. -/
def Exc.Malformed (exc : Exc) : Prop :=
  exc.isA .keyError ∨ exc.isA .typeError ∨ exc.isA .valueError ∨ exc.isA .runtimeAuthorityError

namespace JsonValue

def Infinite : JsonValue → Prop
  | .float (.infinity _) => True
  | _ => False

def IsInt (value : JsonValue) : Prop := ∃ number, value = .int number

def IsStr (value : JsonValue) : Prop := ∃ text, value = .str text

variable {host} {value : JsonValue}

theorem toInt_error {exc : Exc} (raised : value.toInt host = .error exc) :
    exc.Malformed ∨ value.Infinite := by
  cases value with
  | float number =>
      cases number with
      | infinity => exact .inr trivial
      | finite => cases raised
      | nan =>
          cases raised
          exact .inl (.inr (.inr (.inl rfl)))
  | str text =>
      unfold toInt at raised
      dsimp only at raised
      split at raised
      · cases raised
      · cases raised
        exact .inl (.inr (.inr (.inl rfl)))
  | int number => cases raised
  | bool flag => cases raised
  | null =>
      cases raised
      exact .inl (.inr (.inl rfl))
  | array items =>
      cases raised
      exact .inl (.inr (.inl rfl))
  | object fields =>
      cases raised
      exact .inl (.inr (.inl rfl))

theorem toInt_infinite (infinite : value.Infinite) :
    value.toInt host = .error ⟨.other "OverflowError", "cannot convert float infinity to integer"⟩ := by
  unfold Infinite at infinite
  split at infinite
  · rfl
  · cases infinite

theorem toStr_error {exc : Exc} (raised : value.toStr host = .error exc) : exc.Malformed := by
  unfold toStr at raised
  split at raised
  · cases raised
  · cases raised
  · cases raised
  · cases raised
  all_goals
    split at raised
    · cases raised
    · cases raised
      exact .inr (.inr (.inl rfl))

end JsonValue

def Rejects {α : Type} (result : Except Exc α) : Prop :=
  ∀ exc, result = .error exc → exc.isA .runtimeAuthorityError

section Rejects

variable {α β : Type}

theorem Rejects.ok (value : α) : Rejects (.ok value : Except Exc α) := fun _ raised => by cases raised

theorem Rejects.error (message : String) :
    Rejects (.error (runtimeAuthorityError message) : Except Exc α) := by
  intro exc raised
  cases raised
  rfl

theorem Rejects.bind {first : Except Exc α} {next : α → Except Exc β} (rejects : Rejects first)
    (rest : ∀ value, Rejects (next value)) : Rejects (first >>= next) := by
  intro exc raised
  cases first with
  | error refused => exact rejects exc (by cases raised; rfl)
  | ok value => exact rest value exc raised

theorem Rejects.ite {condition : Prop} [Decidable condition] {yes no : Except Exc α}
    (positive : Rejects yes) (negative : Rejects no) : Rejects (if condition then yes else no) := by
  split_ifs
  · exact positive
  · exact negative

end Rejects

namespace AccountAuthority

theorem requireUuid_rejects (value label : String) : Rejects (requireUuid host value label) :=
  .ite (.error _) (.ite (.ok _) (.error _))

theorem requireAccountIdSha256_rejects (digest : String) : Rejects (requireAccountIdSha256 digest) := by
  unfold requireAccountIdSha256
  exact .ite (.ok _) (.error _)

theorem validate_rejects (authority : AccountAuthority) : Rejects (authority.validate host) := by
  apply Rejects.bind (.ite (.error _) (.ok _))
  intro _
  apply Rejects.bind (requireUuid_rejects host _ _)
  intro _
  apply Rejects.bind (.ite (.error _) (.ok _))
  intro _
  apply Rejects.bind (.ite (.ok _) (.error _))
  intro _
  apply Rejects.bind (requireAccountIdSha256_rejects _)
  intro _
  apply Rejects.bind (.ite (.error _) (.ite (.ok _) (.error _)))
  intro _
  apply Rejects.bind (requireUuid_rejects host _ _)
  intro _
  exact .ok _

namespace PayloadFields

variable (values : PayloadFields)

/-- `int` and `str` make these values of the fields. -/
structure Converts (authority : AccountAuthority) : Prop where
  schemaVersion : values.schemaVersion.toInt host = .ok authority.schemaVersion
  authorityId : values.authorityId.toStr host = .ok authority.authorityId
  accountKey : values.accountKey.toStr host = .ok authority.accountKey
  environment : values.environment.toStr host = .ok authority.environment
  accountType : values.accountType.toInt host = .ok authority.accountType
  accountIdSha256 : values.accountIdSha256.toStr host = .ok authority.accountIdSha256
  coordinationDbPath : values.coordinationDbPath.toStr host = .ok authority.coordinationDbPath
  coordinationDbUuid : values.coordinationDbUuid.toStr host = .ok authority.coordinationDbUuid

/-- The integer fields are JSON integers, and the others are JSON strings. -/
structure Native : Prop where
  schemaVersion : values.schemaVersion.IsInt
  authorityId : values.authorityId.IsStr
  accountKey : values.accountKey.IsStr
  environment : values.environment.IsStr
  accountType : values.accountType.IsInt
  accountIdSha256 : values.accountIdSha256.IsStr
  coordinationDbPath : values.coordinationDbPath.IsStr
  coordinationDbUuid : values.coordinationDbUuid.IsStr

def Overflows : Prop :=
  values.schemaVersion.Infinite ∨
    ((∃ number, values.schemaVersion.toInt host = .ok number) ∧
      (∃ text, values.authorityId.toStr host = .ok text) ∧
      (∃ text, values.accountKey.toStr host = .ok text) ∧
      (∃ text, values.environment.toStr host = .ok text) ∧ values.accountType.Infinite)

variable {host values} {authority : AccountAuthority}

theorem readFields_ok (read : readFields host values.fields = .ok authority) :
    values.Converts host authority ∧ authority.validate host = .ok authority := by
  rw [readFields_fields] at read
  obtain ⟨schemaVersion, one, read⟩ := except_bind read
  obtain ⟨authorityId, two, read⟩ := except_bind read
  obtain ⟨accountKey, three, read⟩ := except_bind read
  obtain ⟨environment, four, read⟩ := except_bind read
  obtain ⟨accountType, five, read⟩ := except_bind read
  obtain ⟨accountIdSha256, six, read⟩ := except_bind read
  obtain ⟨coordinationDbPath, seven, read⟩ := except_bind read
  obtain ⟨coordinationDbUuid, eight, read⟩ := except_bind read
  have same := validate_same read
  subst same
  exact ⟨⟨one, two, three, four, five, six, seven, eight⟩, read⟩

theorem readFields_of (converts : values.Converts host authority) :
    readFields host values.fields = authority.validate host := by
  rw [readFields_fields, converts.schemaVersion, converts.authorityId, converts.accountKey,
    converts.environment, converts.accountType, converts.accountIdSha256, converts.coordinationDbPath,
    converts.coordinationDbUuid]
  rfl

theorem bind_error {α β : Type} {first : Except Exc α} {next : α → Except Exc β} {exc : Exc}
    (raised : (first >>= next) = .error exc) :
    first = .error exc ∨ ∃ value, first = .ok value ∧ next value = .error exc := by
  cases first with
  | error refused =>
      cases raised
      exact .inl rfl
  | ok value => exact .inr ⟨value, rfl, raised⟩

theorem readFields_error {exc : Exc} (raised : readFields host values.fields = .error exc) :
    exc.Malformed ∨ values.Overflows host := by
  rw [readFields_fields] at raised
  obtain refused | ⟨schemaVersion, one, raised⟩ := bind_error raised
  · exact (JsonValue.toInt_error refused).imp_right .inl
  obtain refused | ⟨authorityId, two, raised⟩ := bind_error raised
  · exact .inl (JsonValue.toStr_error refused)
  obtain refused | ⟨accountKey, three, raised⟩ := bind_error raised
  · exact .inl (JsonValue.toStr_error refused)
  obtain refused | ⟨environment, four, raised⟩ := bind_error raised
  · exact .inl (JsonValue.toStr_error refused)
  obtain refused | ⟨accountType, _, raised⟩ := bind_error raised
  · apply (JsonValue.toInt_error refused).imp_right
    intro infinite
    exact .inr ⟨⟨schemaVersion, one⟩, ⟨authorityId, two⟩, ⟨accountKey, three⟩, ⟨environment, four⟩,
      infinite⟩
  obtain refused | ⟨_, _, raised⟩ := bind_error raised
  · exact .inl (JsonValue.toStr_error refused)
  obtain refused | ⟨_, _, raised⟩ := bind_error raised
  · exact .inl (JsonValue.toStr_error refused)
  obtain refused | ⟨_, _, raised⟩ := bind_error raised
  · exact .inl (JsonValue.toStr_error refused)
  exact .inl (.inr (.inr (.inr (validate_rejects host _ exc raised))))

theorem readFields_overflows (overflows : values.Overflows host) : readFields host values.fields =
    .error ⟨.other "OverflowError", "cannot convert float infinity to integer"⟩ := by
  rw [readFields_fields]
  obtain infinite | ⟨⟨_, one⟩, ⟨_, two⟩, ⟨_, three⟩, ⟨_, four⟩, infinite⟩ := overflows
  · rw [JsonValue.toInt_infinite infinite]
    rfl
  · rw [one, two, three, four, JsonValue.toInt_infinite infinite]
    rfl

theorem native_iff (converts : values.Converts host authority) :
    values.Native ↔ values = authority.values := by
  constructor
  · intro native
    obtain ⟨schemaVersion, one⟩ := native.schemaVersion
    obtain ⟨authorityId, two⟩ := native.authorityId
    obtain ⟨accountKey, three⟩ := native.accountKey
    obtain ⟨environment, four⟩ := native.environment
    obtain ⟨accountType, five⟩ := native.accountType
    obtain ⟨accountIdSha256, six⟩ := native.accountIdSha256
    obtain ⟨coordinationDbPath, seven⟩ := native.coordinationDbPath
    obtain ⟨coordinationDbUuid, eight⟩ := native.coordinationDbUuid
    obtain ⟨schema, id, key, env, type, digest, path, uuid⟩ := converts
    cases values
    dsimp only at *
    subst one two three four five six seven eight
    unfold AccountAuthority.values
    rw [← Except.ok.inj schema, ← Except.ok.inj id, ← Except.ok.inj key, ← Except.ok.inj env,
      ← Except.ok.inj type, ← Except.ok.inj digest, ← Except.ok.inj path, ← Except.ok.inj uuid]
  · rintro rfl
    exact ⟨⟨_, rfl⟩, ⟨_, rfl⟩, ⟨_, rfl⟩, ⟨_, rfl⟩, ⟨_, rfl⟩, ⟨_, rfl⟩, ⟨_, rfl⟩, ⟨_, rfl⟩⟩

theorem fields_injective {others : PayloadFields} (same : values.fields = others.fields) :
    values = others := by
  have lookups : ∀ name, values.fields.lookup name = others.fields.lookup name := by
    intro name
    rw [same]
  have one := lookups "schema_version"
  have two := lookups "authority_id"
  have three := lookups "account_key"
  have four := lookups "environment"
  have five := lookups "account_type"
  have six := lookups "account_id_sha256"
  have seven := lookups "coordination_db_path"
  have eight := lookups "coordination_db_uuid"
  rw [lookup_schemaVersion, lookup_schemaVersion] at one
  rw [lookup_authorityId, lookup_authorityId] at two
  rw [lookup_accountKey, lookup_accountKey] at three
  rw [lookup_environment, lookup_environment] at four
  rw [lookup_accountType, lookup_accountType] at five
  rw [lookup_accountIdSha256, lookup_accountIdSha256] at six
  rw [lookup_coordinationDbPath, lookup_coordinationDbPath] at seven
  rw [lookup_coordinationDbUuid, lookup_coordinationDbUuid] at eight
  cases values
  cases others
  dsimp only at *
  rw [Option.some.inj one, Option.some.inj two, Option.some.inj three, Option.some.inj four,
    Option.some.inj five, Option.some.inj six, Option.some.inj seven, Option.some.inj eight]

end PayloadFields

/-- The decoder returns the record that the payload is written from, in every spelling, or it
raises a `RuntimeAuthorityError`. -/
def Strict (payload : JsonDocument) : Prop :=
  match fromPayload host payload with
  | .ok authority => authority.toPayload = payload ∧ isDigest authority.accountIdSha256 = true
  | .error exc => exc.isA .runtimeAuthorityError

variable {host}

theorem fromPayload_fields (values : PayloadFields) : fromPayload host (.object values.fields) =
    match readFields host values.fields with
    | .ok authority => .ok authority
    | .error exc =>
        if exc.isA .keyError || exc.isA .typeError || exc.isA .valueError then
          .error (runtimeAuthorityError "authority payload is malformed")
        else .error exc := by
  unfold fromPayload
  exact if_neg (not_not.2 values.fields_keys)

theorem strict_fields (values : PayloadFields) : Strict host (.object values.fields) ↔
    ¬ values.Overflows host ∧ ∀ authority, values.Converts host authority →
      authority.validate host = .ok authority →
        values.Native ∧ isDigest authority.accountIdSha256 = true := by
  unfold Strict
  rw [fromPayload_fields]
  cases read : readFields host values.fields with
  | ok authority =>
      obtain ⟨converts, valid⟩ := PayloadFields.readFields_ok read
      constructor
      · intro strict
        obtain ⟨same, canonical⟩ := strict
        refine ⟨?_, ?_⟩
        · intro overflows
          cases read.symm.trans (PayloadFields.readFields_overflows overflows)
        · intro other others checked
          cases read.symm.trans ((PayloadFields.readFields_of others).trans checked)
          have written := JsonDocument.object.inj (authority.toPayload_values.symm.trans same)
          exact ⟨(PayloadFields.native_iff converts).2 (PayloadFields.fields_injective written.symm),
            canonical⟩
      · intro condition
        obtain ⟨native, canonical⟩ := condition.2 authority converts valid
        refine ⟨?_, canonical⟩
        rw [toPayload_values, ← (PayloadFields.native_iff converts).1 native]
  | error exc =>
      obtain malformed | overflows := PayloadFields.readFields_error read
      · refine iff_of_true ?_ ⟨?_, ?_⟩
        · dsimp only
          split_ifs with caught
          · rfl
          · simp only [Bool.or_eq_true, not_or] at caught
            obtain key | type | value | refused := malformed
            · exact absurd key caught.1.1
            · exact absurd type caught.1.2
            · exact absurd value caught.2
            · exact refused
        · intro overflows
          cases read.symm.trans (PayloadFields.readFields_overflows overflows)
          obtain key | type | value | refused := malformed
          · cases key
          · cases type
          · cases value
          · cases refused
        · intro authority converts valid
          cases read.symm.trans ((PayloadFields.readFields_of converts).trans valid)
      · cases read.symm.trans (PayloadFields.readFields_overflows overflows)
        refine iff_of_false ?_ fun condition => condition.1 overflows
        intro refused
        cases refused

/-- Every record is read back from what it is written as. A payload is read as such a record, or
refused with a `RuntimeAuthorityError`, exactly when, if it has the required fields, no infinite
number is the first field that does not convert, and, where the converted fields pass the checks of
the record, they were integers and strings already and the digest is spelled in lower case. -/
theorem codec_strict_iff (host : AuthorityHost ι) :
    (∀ authority : AccountAuthority, authority.validate host = .ok authority →
      fromPayload host authority.toPayload = .ok authority) ∧
    ∀ payload, Strict host payload ↔ ∀ values : PayloadFields, payload = .object values.fields →
      ¬ values.Overflows host ∧ ∀ authority, values.Converts host authority →
        authority.validate host = .ok authority →
          values.Native ∧ isDigest authority.accountIdSha256 = true := by
  refine ⟨fun _ valid => fromPayload_toPayload valid, ?_⟩
  intro payload
  cases payload with
  | other value =>
      apply iff_of_true rfl
      intro values same
      cases same
  | object fields =>
      by_cases keys : fields.keys = required
      · obtain ⟨values, rfl⟩ := PayloadFields.exists_fields keys
        rw [strict_fields]
        constructor
        · intro condition others same
          rw [← PayloadFields.fields_injective (JsonDocument.object.inj same)]
          exact condition
        · intro condition
          exact condition values rfl
      · apply iff_of_true
        · unfold Strict
          rw [fromPayload, if_pos keys]
          rfl
        · intro values same
          rw [JsonDocument.object.inj same] at keys
          exact absurd values.fields_keys keys

def loosePayload (schemaVersion : JsonFloat) : PayloadFields where
  schemaVersion := .float schemaVersion
  authorityId := .str "12345678-1234-4234-8234-123456789abc"
  accountKey := .str AccountRuntimeAuthority.plainArgs.accountKey
  environment := .str "simulation"
  accountType := .int 2
  accountIdSha256 := .str AccountRuntimeAuthority.plainArgs.accountIdSha256
  coordinationDbPath := .str "/root/coordination.db"
  coordinationDbUuid := .str "12345678-1234-4234-8234-123456789abc"

def looseAuthority : AccountAuthority where
  schemaVersion := 1
  authorityId := "12345678-1234-4234-8234-123456789abc"
  accountKey := AccountRuntimeAuthority.plainArgs.accountKey
  environment := "simulation"
  accountType := 2
  accountIdSha256 := AccountRuntimeAuthority.plainArgs.accountIdSha256
  coordinationDbPath := "/root/coordination.db"
  coordinationDbUuid := "12345678-1234-4234-8234-123456789abc"

theorem looseAuthority_valid :
    looseAuthority.validate AccountRuntimeAuthority.plainHost = .ok looseAuthority :=
  validate_of (by decide) (by decide) (by decide) (by decide) (by decide) (by decide) (by decide)
    (by decide) (by decide)

theorem loosePayload_converts :
    (loosePayload (.finite (3 / 2))).Converts AccountRuntimeAuthority.plainHost looseAuthority where
  schemaVersion := by
    have fraction : ((3 / 2 : ℚ).num.tdiv (3 / 2 : ℚ).den) = 1 := by
      norm_num
      rfl
    exact congrArg Except.ok fraction
  authorityId := rfl
  accountKey := rfl
  environment := rfl
  accountType := rfl
  accountIdSha256 := rfl
  coordinationDbPath := rfl
  coordinationDbUuid := rfl

/-- A fraction is taken for the schema version, and an infinite one raises `OverflowError`. -/
theorem codec_not_strict :
    ¬ Strict AccountRuntimeAuthority.plainHost (.object (loosePayload (.finite (3 / 2))).fields) ∧
    ¬ Strict AccountRuntimeAuthority.plainHost (.object (loosePayload (.infinity false)).fields) := by
  constructor
  · intro strict
    obtain ⟨_, condition⟩ := (strict_fields _).1 strict
    obtain ⟨native, _⟩ := condition looseAuthority loosePayload_converts looseAuthority_valid
    obtain ⟨number, same⟩ := native.schemaVersion
    cases same
  · intro strict
    exact ((strict_fields _).1 strict).1 (.inl trivial)

end AccountAuthority

end QmtExecution
