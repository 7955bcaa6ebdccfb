import HttpService.Duration
import HttpService.Event
import HttpService.Failure
import HttpService.Locale
import HttpService.OpenApi.Page
import HttpService.Settings.EnvFile
import HttpService.Text.Letter

/-!
# Service settings

Settings are layered: defaults, then variables with a common start, then explicit entries. A key
names a setting whatever its case and its `_` and `-`. An entry changes at most the setting its key
names; an entry that is refused changes nothing; a key that names none is only warned about.
-/

set_option autoImplicit false

namespace HttpService

/-- The certificate and key files of a secured listener. -/
structure TlsSettings where
  enable : Bool
  certFile : String
  keyFile : String
  deriving DecidableEq, Repr

/-- Every setting of a service. -/
structure Settings where
  /-- `host:port`. -/
  address : String
  name : String
  locale : Locale
  readTimeout : Duration
  writeTimeout : Duration
  idleTimeout : Duration
  maxHeaderBytes : Nat
  healthCheck : Bool
  tls : TlsSettings
  gracefulTimeout : Duration
  gracefulWaitTime : Duration
  openapiPath : String
  swaggerPath : String
  swaggerTemplate : String
  metricsPath : String
  deriving DecidableEq, Repr

namespace Settings

def default : Settings where
  address := "0.0.0.0:8000"
  name := "maltose"
  locale := .en
  readTimeout := .ofSecs 60
  writeTimeout := .zero
  idleTimeout := .ofSecs 60
  maxHeaderBytes := 10 * 1024
  healthCheck := true
  tls := ⟨false, "", ""⟩
  gracefulTimeout := .ofSecs 10
  gracefulWaitTime := .zero
  openapiPath := "/openapi.json"
  swaggerPath := "/swagger"
  swaggerTemplate := Page.defaultTemplate
  metricsPath := ""

/-- The settings that a key may name. -/
inductive Key
  | address | name | locale | readTimeout | writeTimeout | idleTimeout | maxHeaderBytes
  | healthCheck | tlsEnable | tlsCertFile | tlsKeyFile | gracefulTimeout | gracefulWaitTime
  | openapiPath | swaggerPath | swaggerTemplate | metricsPath
  deriving DecidableEq, Repr

/-- The lower-case name of a setting. -/
def Key.text : Key → String
  | .address => "address"
  | .name => "name"
  | .locale => "locale"
  | .readTimeout => "readtimeout"
  | .writeTimeout => "writetimeout"
  | .idleTimeout => "idletimeout"
  | .maxHeaderBytes => "maxheaderbytes"
  | .healthCheck => "healthcheck"
  | .tlsEnable => "tlsenable"
  | .tlsCertFile => "tlscertfile"
  | .tlsKeyFile => "tlskeyfile"
  | .gracefulTimeout => "gracefultimeout"
  | .gracefulWaitTime => "gracefulwaittime"
  | .openapiPath => "openapipath"
  | .swaggerPath => "swaggerpath"
  | .swaggerTemplate => "swaggertemplate"
  | .metricsPath => "metricspath"

def Key.all : List Key :=
  [.address, .name, .locale, .readTimeout, .writeTimeout, .idleTimeout, .maxHeaderBytes,
   .healthCheck, .tlsEnable, .tlsCertFile, .tlsKeyFile, .gracefulTimeout, .gracefulWaitTime,
   .openapiPath, .swaggerPath, .swaggerTemplate, .metricsPath]

/-- A key without `_` and `-`, in lower case. -/
def normaliseKey (key : String) : String :=
  String.ofList ((key.toList.filter fun c => c != '_' && c != '-').flatMap Text.toLower)

/-- The setting a key names. -/
def Key.ofText? (key : String) : Option Key :=
  Key.all.find? (·.text = normaliseKey key)

/-- A bare `:port` listens on every interface. -/
def normaliseAddress (address : String) : String :=
  if address.toList.head? = some ':' then "0.0.0.0" ++ address else address

/-- Reads a switch. -/
def switch? (text : String) : Option Bool :=
  let name := String.ofList (text.toList.map Char.toLower)
  if ["true", "1", "yes", "on"].contains name then some true
  else if ["false", "0", "no", "off"].contains name then some false
  else none

/-- Why a value is refused. -/
inductive Refusal
  | invalid
  | tooLong
  deriving DecidableEq, Repr

/-- A duration that is malformed is invalid; one that does not fit is too long. -/
def duration (text : String) : Except Refusal Duration :=
  match Duration.parse text with
  | .ok d => .ok d
  | .error .malformed => .error .invalid
  | .error .tooLong => .error .tooLong

/-- What a reader finds, or an invalid value. -/
def valid {α : Type} : Option α → Except Refusal α
  | some x => .ok x
  | none => .error .invalid

/-- Puts what was read into the settings held in place, unless it was refused. -/
def store {α : Type} (read : Except Refusal α) (put : Settings → α → Settings) :
    EStateM Refusal Settings Unit := do
  let v ← (match read with
    | .ok v => pure v
    | .error r => throw r)
  modify fun s => put s v

/-- Gives a setting the value written by a text. Blanks around a value are dropped, except for the
page template. -/
def Key.assign (raw : String) : Key → EStateM Refusal Settings Unit
  | .address => store (.ok (normaliseAddress (Text.trim raw))) fun s v => { s with address := v }
  | .name => store (.ok (Text.trim raw)) fun s v => { s with name := v }
  | .locale => store (valid (Locale.parse? (Text.trim raw))) fun s v => { s with locale := v }
  | .readTimeout => store (duration (Text.trim raw)) fun s v => { s with readTimeout := v }
  | .writeTimeout => store (duration (Text.trim raw)) fun s v => { s with writeTimeout := v }
  | .idleTimeout => store (duration (Text.trim raw)) fun s v => { s with idleTimeout := v }
  | .maxHeaderBytes =>
    store (valid (Decimal.unsigned? 64 (Text.trim raw))) fun s v => { s with maxHeaderBytes := v }
  | .healthCheck => store (valid (switch? (Text.trim raw))) fun s v => { s with healthCheck := v }
  | .tlsEnable => store (valid (switch? (Text.trim raw))) fun s v => { s with tls.enable := v }
  | .tlsCertFile => store (.ok (Text.trim raw)) fun s v => { s with tls.certFile := v }
  | .tlsKeyFile => store (.ok (Text.trim raw)) fun s v => { s with tls.keyFile := v }
  | .gracefulTimeout => store (duration (Text.trim raw)) fun s v => { s with gracefulTimeout := v }
  | .gracefulWaitTime =>
    store (duration (Text.trim raw)) fun s v => { s with gracefulWaitTime := v }
  | .openapiPath => store (.ok (Text.trim raw)) fun s v => { s with openapiPath := v }
  | .swaggerPath => store (.ok (Text.trim raw)) fun s v => { s with swaggerPath := v }
  | .swaggerTemplate => store (.ok raw) fun s v => { s with swaggerTemplate := v }
  | .metricsPath => store (.ok (Text.trim raw)) fun s v => { s with metricsPath := v }

/-- Why an entry is refused: its value is invalid, or names a length of time beyond all bounds. -/
inductive EntryError
  | config (e : ConfigError)
  | tooLong
  deriving DecidableEq, Repr

/-- The error of an entry whose value is refused: it shows key and value as they were written. -/
def Refusal.error (key value : String) : Refusal → EntryError
  | .invalid => .config (.invalid key value)
  | .tooLong => .tooLong

/-- The warning about a key that names no setting. -/
def unknownKey (key : String) : Event :=
  .warning "unknown server configuration key ignored" [("key", key)]

/-- Applies one entry to the settings held in place; gives the warnings. -/
def update (key value : String) : EStateM EntryError Settings (List Event) :=
  match Key.ofText? key with
  | none => pure [unknownKey key]
  | some k => do
    (k.assign value).adaptExcept (Refusal.error key value)
    return []

/-- Applies one entry; gives the settings and the warnings. -/
def set (s : Settings) (key value : String) : Except EntryError (Settings × List Event) :=
  match update key value s with
  | .ok events s => .ok (s, events)
  | .error e _ => .error e

/-- Applies entries in order up to the first refused one; gives the warnings either way. -/
def merge (s : Settings) : List (String × String) → Except EntryError Settings × List Event
  | [] => (.ok s, [])
  | (key, value) :: rest =>
    match s.set key value with
    | .error e => (.error e, [])
    | .ok (s, events) =>
      let (result, more) := merge s rest
      (result, events ++ more)

/-- The failure that a configuration error becomes. -/
def refused (e : ConfigError) : Failure :=
  .wrap [.foreign e.message] "invalid server configuration"

/-- Defaults and entries. -/
def ofEntries (entries : List (String × String)) : Except EntryError Settings × List Event :=
  default.merge entries

/-- The start of the variables that hold settings. -/
def variablePrefix : String := "MALTOSE_SERVER_"

/-- The entries that an environment holds. -/
def entriesOf (env : Environment) : List (String × String) :=
  env.filterMap fun (key, value) => (Text.dropFront? variablePrefix key).map (·, value)

/-- Defaults, the environment, then explicit entries. -/
def load (env : Environment) (overrides : List (String × String)) :
    Except EntryError Settings × List Event :=
  match default.merge (entriesOf env) with
  | (.error e, events) => (.error e, events)
  | (.ok s, events) =>
    let (result, more) := s.merge overrides
    (result, events ++ more)

end Settings

/-- Checks that both files are named and exist. -/
def TlsSettings.validate (isFile : String → Bool) (t : TlsSettings) : Except ConfigError Unit :=
  let missing := [("tlsCertFile", t.certFile), ("tlsKeyFile", t.keyFile)].filter fun (_, path) =>
    path = "" || !isFile path
  match missing.map (·.1) with
  | [] => .ok ()
  | [key] => .error (.missing key)
  | keys => .error (.missingMultiple keys)

end HttpService
