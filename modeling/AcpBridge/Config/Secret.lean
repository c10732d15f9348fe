import AcpBridge.Startup

/-! Secret references: where the client key is looked up, and what a failed lookup says. -/
namespace AcpBridge

/-- Errors of the keychain library, with their display texts. -/
inductive KeyringError
  | noEntry
  | ambiguous (matching : ℕ)
  | noStorageAccess (err : String)
  | platformFailure (err : String)
  | noDefaultStore
  /-- The entry is no text; these are its raw bytes. -/
  | badEncoding (bytes : List UInt8)
  | other (err : String)
deriving DecidableEq

/-- Where secrets are kept. -/
structure SecretStores where
  /-- `std::env::var` -/
  var : String → Option String
  /-- `std::fs::read_to_string` -/
  readToString : String → Except String String
  /-- `keyring::Entry::new` and `get_password` on a thread of their own; `none` when it panics -/
  getPassword : String → String → Option (Except KeyringError String)

/-- Split on the first slash; the account may contain slashes. -/
def parseKeychainReference (rest : String) : Except ConfigError (String × String) :=
  match Str.splitOnce rest.toList ['/'] with
  | none => .error (.secret ("keychain reference 'keychain:" ++ rest ++
      "' is missing an account; the form is 'keychain:<service>/<account>'"))
  | some (service, account) =>
    if service.isEmpty then .error (.secret ("keychain reference has an empty service; " ++
      "the form is 'keychain:<service>/<account>'"))
    else if account.isEmpty then .error (.secret ("keychain reference has an empty account; " ++
      "the form is 'keychain:<service>/<account>'"))
    else .ok (String.ofList service, String.ofList account)

def mapKeyringError (service account : String) (err : KeyringError) : ConfigError :=
  .secret (match err with
  | .noEntry => "keychain entry not found for service '" ++ service ++ "', account '" ++ account ++
      "'; create it first (macOS: security add-generic-password -s '" ++ service ++ "' -a '" ++
      account ++ "' -w)"
  | .ambiguous matching => "keychain holds " ++ toString matching ++
      " entries matching service '" ++ service ++ "', account '" ++ account ++
      "'; delete the duplicates so exactly one remains"
  | .noStorageAccess err => "keychain access denied for service '" ++ service ++ "', account '" ++
      account ++ "': " ++ err ++ "; unlock the keychain or grant this binary access, then retry"
  | .platformFailure err => "keychain unavailable (" ++ err ++ "); on Linux a Secret Service " ++
      "provider (GNOME Keyring or KWallet) must be running on the session D-Bus"
  | .noDefaultStore => "no OS keychain is available on this platform for service '" ++ service ++
      "', account '" ++ account ++ "'; use an env: or file: reference instead"
  | .badEncoding _ => "keychain entry for service '" ++ service ++ "', account '" ++ account ++
      "' is not valid UTF-8; re-create it as a plain-text password"
  | .other err => "keychain lookup failed for service '" ++ service ++ "', account '" ++ account ++
      "': " ++ err)

def literalMessage : String :=
  "client_key must be a secret reference (env:NAME, file:/path, or " ++
    "keychain:<service>/<account>), never a literal"

namespace SecretStores
variable (stores : SecretStores)

def keychainLookup (service account : String) : Except ConfigError String :=
  match stores.getPassword service account with
  | none => .error (.secret "keychain lookup thread panicked")
  | some result => result.mapError (mapKeyringError service account)

/-- Resolve an `env:`, `file:` or `keychain:` reference; anything else is a literal. -/
def resolveSecret (reference : String) : Except ConfigError String :=
  match Str.stripPrefix reference.toList "env:".toList with
  | some var =>
    match stores.var (String.ofList var) with
    | some secret => .ok secret
    | none => .error (.secret ("environment variable '" ++ String.ofList var ++ "' is not set"))
  | none =>
    match Str.stripPrefix reference.toList "file:".toList with
    | some path =>
      match stores.readToString (String.ofList path) with
      | .ok contents => .ok (String.ofList (Str.trim contents.toList))
      | .error err =>
        .error (.secret ("cannot read '" ++ String.ofList path ++ "': " ++ err))
    | none =>
      match Str.stripPrefix reference.toList "keychain:".toList with
      | some rest => do
        let (service, account) ← parseKeychainReference (String.ofList rest)
        stores.keychainLookup service account
      | none => .error (.secret literalMessage)

end SecretStores

/-- A start-up whose files and secrets are those of the stores. -/
def Environment.over {Client : Type} (env : Environment Client) (stores : SecretStores) :
    Environment Client :=
  { env with readToString := stores.readToString, resolveSecret := stores.resolveSecret }

/-- A client key that is no reference. -/
def IsLiteral (reference : String) : Prop :=
  Str.stripPrefix reference.toList "env:".toList = none ∧
    Str.stripPrefix reference.toList "file:".toList = none ∧
    Str.stripPrefix reference.toList "keychain:".toList = none

instance (reference : String) : Decidable (IsLiteral reference) :=
  inferInstanceAs (Decidable (_ ∧ _))

theorem stripPrefix_toList {reference pre : String} {t : Str} :
    Str.stripPrefix reference.toList pre.toList = some t ↔ reference = pre ++ String.ofList t := by
  rw [Str.stripPrefix_eq_some, ← String.toList_inj, String.toList_append, String.toList_ofList]

/-- A keychain reference is accepted when it splits into a service without a slash and an
account, and then into no others. -/
theorem parseKeychainReference_eq_ok {rest service account : String} :
    parseKeychainReference rest = .ok (service, account) ↔
      rest = service ++ "/" ++ account ∧ service ≠ "" ∧ account ≠ "" ∧ '/' ∉ service.toList := by
  have hempty : ∀ l : Str, l.isEmpty = true ↔ String.ofList l = "" := by
    intro l
    rw [← String.toList_inj, String.toList_ofList]
    simp
  constructor
  · intro h
    unfold parseKeychainReference at h
    cases hsplit : Str.splitOnce rest.toList ['/'] with
    | none => simp [hsplit] at h
    | some pair =>
      obtain ⟨left, right⟩ := pair
      simp only [hsplit] at h
      split_ifs at h with hleft hright
      obtain ⟨rfl, rfl⟩ : String.ofList left = service ∧ String.ofList right = account := by
        simpa using h
      have hrest := (Str.splitOnce_eq_some.mp hsplit).1
      refine ⟨?_, fun he => hleft ((hempty left).mpr he), fun he => hright ((hempty right).mpr he),
        ?_⟩
      · rw [← String.toList_inj, hrest]
        simp
      · rw [String.toList_ofList]
        exact Str.splitOnce_not_mem hsplit
  · rintro ⟨rfl, hservice, haccount, hslash⟩
    have hsplit : Str.splitOnce (service ++ "/" ++ account).toList ['/'] =
        some (service.toList, account.toList) := by
      rw [String.toList_append, String.toList_append]
      exact Str.splitOnce_append hslash
    have hne : ∀ {t : String}, t ≠ "" → t.toList.isEmpty = false := by
      intro t ht
      rw [Bool.eq_false_iff]
      intro he
      exact ht (by simpa using (hempty t.toList).mp he)
    rw [parseKeychainReference, hsplit]
    simp only [hne hservice, hne haccount, Bool.false_eq_true, if_false, String.ofList_toList]

theorem stripPrefix_of_append (pre t : String) :
    Str.stripPrefix (pre ++ t).toList pre.toList = some t.toList := by
  rw [String.toList_append]
  exact Str.stripPrefix_append

theorem stripPrefix_of_ne {pre other : String} {c d : Char} {p o : Str} (hp : pre.toList = c :: p)
    (ho : other.toList = d :: o) (hne : c ≠ d) (t : String) :
    Str.stripPrefix (other ++ t).toList pre.toList = none := by
  rw [← Option.not_isSome_iff_eq_none, Option.isSome_iff_exists]
  rintro ⟨rest, hrest⟩
  rw [Str.stripPrefix_eq_some, String.toList_append, hp, ho] at hrest
  simp only [List.cons_append, List.cons.injEq] at hrest
  exact hne hrest.1.symm

namespace SecretStores
variable (stores : SecretStores)

theorem resolveSecret_env (name : String) : stores.resolveSecret ("env:" ++ name) =
    match stores.var name with
    | some secret => .ok secret
    | none => .error (.secret ("environment variable '" ++ name ++ "' is not set")) := by
  simp only [resolveSecret, stripPrefix_of_append, String.ofList_toList]

theorem resolveSecret_file (path : String) : stores.resolveSecret ("file:" ++ path) =
    match stores.readToString path with
    | .ok contents => .ok (String.ofList (Str.trim contents.toList))
    | .error err => .error (.secret ("cannot read '" ++ path ++ "': " ++ err)) := by
  have henv := @stripPrefix_of_ne "env:" "file:" _ _ _ _ rfl rfl (by decide) path
  simp only [resolveSecret, henv, stripPrefix_of_append, String.ofList_toList]

theorem resolveSecret_keychain (rest : String) : stores.resolveSecret ("keychain:" ++ rest) =
    (parseKeychainReference rest).bind fun entry => stores.keychainLookup entry.1 entry.2 := by
  have henv := @stripPrefix_of_ne "env:" "keychain:" _ _ _ _ rfl rfl (by decide) rest
  have hfile := @stripPrefix_of_ne "file:" "keychain:" _ _ _ _ rfl rfl (by decide) rest
  simp only [resolveSecret, henv, hfile, stripPrefix_of_append, String.ofList_toList]
  rfl

theorem resolveSecret_literal {reference : String} (h : IsLiteral reference) :
    stores.resolveSecret reference = .error (.secret literalMessage) := by
  obtain ⟨henv, hfile, hkeychain⟩ := h
  simp only [resolveSecret, henv, hfile, hkeychain]

theorem reference_cases (reference : String) : (∃ name, reference = "env:" ++ name) ∨
    (∃ path, reference = "file:" ++ path) ∨ (∃ rest, reference = "keychain:" ++ rest) ∨
    IsLiteral reference := by
  cases henv : Str.stripPrefix reference.toList "env:".toList with
  | some name => exact .inl ⟨_, stripPrefix_toList.mp henv⟩
  | none =>
    right
    cases hfile : Str.stripPrefix reference.toList "file:".toList with
    | some path => exact .inl ⟨_, stripPrefix_toList.mp hfile⟩
    | none =>
      right
      cases hkeychain : Str.stripPrefix reference.toList "keychain:".toList with
      | some rest => exact .inl ⟨_, stripPrefix_toList.mp hkeychain⟩
      | none => exact .inr ⟨henv, hfile, hkeychain⟩

theorem keychainLookup_eq_ok {service account secret : String} :
    stores.keychainLookup service account = .ok secret ↔
      stores.getPassword service account = some (.ok secret) := by
  unfold keychainLookup
  cases stores.getPassword service account with
  | none => simp
  | some result => cases result <;> simp [Except.mapError]

/-- What a reference resolves to: the environment variable, the trimmed file or the keychain entry
that its scheme names, and nothing else. -/
theorem resolveSecret_eq_ok {reference secret : String} :
    stores.resolveSecret reference = .ok secret ↔
      (∃ name, reference = "env:" ++ name ∧ stores.var name = some secret) ∨
      (∃ path contents, reference = "file:" ++ path ∧
        stores.readToString path = .ok contents ∧
        secret = String.ofList (Str.trim contents.toList)) ∨
      ∃ service account, reference = "keychain:" ++ (service ++ "/" ++ account) ∧ service ≠ "" ∧
        account ≠ "" ∧ '/' ∉ service.toList ∧
        stores.getPassword service account = some (.ok secret) := by
  constructor
  · intro h
    obtain ⟨name, rfl⟩ | ⟨path, rfl⟩ | ⟨rest, rfl⟩ | hliteral := reference_cases reference
    · rw [resolveSecret_env] at h
      cases hvar : stores.var name with
      | none => simp [hvar] at h
      | some value =>
        obtain rfl : value = secret := by simpa [hvar] using h
        exact .inl ⟨name, rfl, hvar⟩
    · rw [resolveSecret_file] at h
      cases hread : stores.readToString path with
      | error err => simp [hread] at h
      | ok contents =>
        have hsecret : String.ofList (Str.trim contents.toList) = secret := by
          simpa [hread] using h
        exact .inr (.inl ⟨path, contents, rfl, hread, hsecret.symm⟩)
    · rw [resolveSecret_keychain] at h
      cases hparse : parseKeychainReference rest with
      | error err => simp [hparse, Except.bind] at h
      | ok entry =>
        obtain ⟨service, account⟩ := entry
        obtain ⟨rfl, hservice, haccount, hslash⟩ := parseKeychainReference_eq_ok.mp hparse
        have hlookup : stores.keychainLookup service account = .ok secret := by
          simpa [hparse, Except.bind] using h
        exact .inr (.inr ⟨service, account, rfl, hservice, haccount, hslash,
          stores.keychainLookup_eq_ok.mp hlookup⟩)
    · rw [stores.resolveSecret_literal hliteral] at h
      simp at h
  · rintro (⟨name, rfl, hvar⟩ | ⟨path, contents, rfl, hread, rfl⟩ |
      ⟨service, account, rfl, hservice, haccount, hslash, hpassword⟩)
    · rw [resolveSecret_env, hvar]
    · rw [resolveSecret_file, hread]
    · have hparse := parseKeychainReference_eq_ok.mpr
        ⟨(rfl : service ++ "/" ++ account = _), hservice, haccount, hslash⟩
      rw [resolveSecret_keychain, hparse]
      exact stores.keychainLookup_eq_ok.mpr hpassword

end SecretStores

/-- The error without the raw bytes. -/
def KeyringError.blind : KeyringError → KeyringError
  | .badEncoding _ => .badEncoding []
  | err => err

/-- What a lookup gave, without the secret. -/
def blindPassword (result : Except KeyringError String) : Except KeyringError Unit :=
  (result.mapError KeyringError.blind).map fun _ => ()

theorem mapKeyringError_blind (service account : String) (err : KeyringError) :
    mapKeyringError service account err.blind = mapKeyringError service account err := by
  cases err <;> rfl

/-- The stores answer alike but for the secrets themselves. -/
structure SecretStores.SameBut (a b : SecretStores) : Prop where
  var : ∀ name, (a.var name).isSome = (b.var name).isSome
  file : ∀ path, ((a.readToString path).map fun _ => ()) = (b.readToString path).map fun _ => ()
  password : ∀ service account, (a.getPassword service account).map blindPassword =
    (b.getPassword service account).map blindPassword

namespace SecretStores
variable {a b : SecretStores}

theorem keychainLookup_blind (stores : SecretStores) (service account : String) :
    ((stores.keychainLookup service account).map fun _ => ()) =
      match (stores.getPassword service account).map blindPassword with
      | none => .error (.secret "keychain lookup thread panicked")
      | some result => result.mapError (mapKeyringError service account) := by
  unfold keychainLookup
  cases stores.getPassword service account with
  | none => rfl
  | some result =>
    cases result with
    | ok secret => rfl
    | error err => simp [blindPassword, Except.map, Except.mapError, mapKeyringError_blind]

/-- Whether a reference resolves, and what is said if it does not, is no matter of the secrets. -/
theorem SameBut.resolveSecret (h : a.SameBut b) (reference : String) :
    ((a.resolveSecret reference).map fun _ => ()) =
      (b.resolveSecret reference).map fun _ => () := by
  obtain ⟨name, rfl⟩ | ⟨path, rfl⟩ | ⟨rest, rfl⟩ | hliteral := reference_cases reference
  · have hvar := h.var name
    rw [resolveSecret_env, resolveSecret_env]
    cases ha : a.var name <;> cases hb : b.var name <;> simp_all [Except.map]
  · have hfile := h.file path
    rw [resolveSecret_file, resolveSecret_file]
    cases ha : a.readToString path <;> cases hb : b.readToString path <;> simp_all [Except.map]
  · rw [resolveSecret_keychain, resolveSecret_keychain]
    cases parseKeychainReference rest with
    | error err => rfl
    | ok entry =>
      obtain ⟨service, account⟩ := entry
      change ((a.keychainLookup service account).map fun _ => ()) =
        (b.keychainLookup service account).map fun _ => ()
      rw [keychainLookup_blind, keychainLookup_blind, h.password]
  · rw [a.resolveSecret_literal hliteral, b.resolveSecret_literal hliteral]

end SecretStores
end AcpBridge
