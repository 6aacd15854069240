import HourlyUsage.Disk.Basic
import HourlyUsage.Log.Sink
import HourlyUsage.Settings.Store
/-!
# Settings of the application

Besides texts and a port these are the allowed origins and the settings of the store. The origins
are a JSON value or a list with commas between its pieces; a JSON text inside a JSON text is read
once more. The store's settings can be given as one JSON object. In production no origin may be the
wildcard.

At start the environment file is looked for, and what was set is logged.

Sources: `AppSettings` with `parse_cors_origins`, `validate_log_format` and
`validate_production_configuration`; `find_env_file`; `log_deployment_configuration`.
-/
namespace HourlyUsage

/-- The origins that browsers may send requests from. -/
inductive Origins where
  | list (origins : List Text)
  /-- One text in place of a list. -/
  | single (origin : Text)
  deriving DecidableEq

namespace Origins

/-- The wildcard, which stands for every origin. -/
def wildcard : Text := text "*"

/-- Whether `t` begins or continues with `stem` somewhere. -/
def occursIn (stem : Text) : Text → Bool
  | [] => stem.isEmpty
  | c :: rest => (Text.after? stem (c :: rest)).isSome || occursIn stem rest

/-- Whether an origin is among the origins; in a single text, whether it occurs there. -/
def contains (origin : Text) : Origins → Bool
  | list origins => origins.contains origin
  | single t => occursIn origin t

/-- The origins one by one; a single text counts as its code points. -/
def toList : Origins → List Text
  | list origins => origins
  | single t => t.map fun c => [c]

end Origins

structure AppSettings where
  environment : Text
  port : Int
  logLevel : Text
  logFormat : Text
  origins : Origins
  store : StoreSettings
  deriving DecidableEq

namespace AppSettings

open Validation

/-- Why there are no settings. -/
inductive LoadError where
  /-- A value is not JSON where it has to be. -/
  | unreadable (name : Text) (source : Environment.Source) (fault : Json.Fault)
  | invalid (findings : List Finding)
  deriving DecidableEq

/-- The words for a value that is not JSON where it has to be. -/
def unreadableMessage (name : Text) (source : Environment.Source) : Text :=
  Text.concat [text "error parsing value for field \"", name, text "\" from source \"",
    source.label, text "\""]

def LoadError.lines : LoadError → List Text
  | unreadable name source _ => [unreadableMessage name source]
  | invalid findings => findings.map Finding.line

def standard : AppSettings where
  environment := text "development"
  port := 1400
  logLevel := text "info"
  logFormat := text "json"
  origins := .list [text "http://localhost:5151"]
  store := .standard

def portBounds : Bounds := ⟨1, some 65535⟩

/-- The environment whose settings are held to stricter rules. -/
def production : Text := text "production"

/-! ## Log format -/

def logFormats : List Text := [text "json", text "text"]

/-- Checks a log format, whose case does not count (`validate_log_format`). -/
def checkLogFormat (v : Json) : Except Problem Text :=
  match textOfJson v with
  | .error p => .error p
  | .ok t =>
    if logFormats.contains t.toLower then .ok t.toLower
    else .error (.rule (text "HDFS_USAGE_LOG_FORMAT must be 'json' or 'text'. Got: " ++ t))

/-! ## Origins -/

/-- The names of the origins; the first one that is set counts. -/
def originNames : List Text := [text "hdfs_usage_allow_origins", text "cors_origins"]

def originsName : Text := text "hdfs_usage_allow_origins"

/-- The value that a text stands for: JSON if it can be read so, and else the text itself. A null
stands for no value. -/
def jsonOrText (t : Text) : Option Json :=
  match Json.parse t with
  | .ok .null => none
  | .ok v => some v
  | .error _ => some (.str t)

/-- The name under which a source sets the origins, and their text. A null counts as not set. -/
def originsIn (e : Environment) (source : Environment.Source) : Option (Text × Text) :=
  (originNames.findSome? fun name => (e.valueIn name source).map fun t => (name, t)).filter
    fun (_, t) => (jsonOrText t).isSome

/-- The text of the origins. For one name the process environment comes first. -/
def originsText? (e : Environment) : Option Text :=
  let found := (originsIn e .process).toList ++ (originsIn e .file).toList
  originNames.findSome? fun name => Assoc.get? name found

/-- The pieces between commas, without blanks around them and without empty ones. -/
def pieces (t : Text) : List Text :=
  ((Text.splitAll 0x2C t).map (Text.trim CodePoint.isSpace)).filter fun piece => !piece.isEmpty

/-- A text that was handed over as origins is read as JSON, and else as pieces between commas
(`parse_cors_origins`). -/
def unfoldOrigins : Json → Except Problem Json
  | .str t =>
    match Json.parse t with
    | .ok v => .ok v
    | .error .malformed => .ok (.arr ((pieces t).map .str))
    | .error (.numeralTooLong digits) => .error (.rule (Numeral.tooLongMessage digits))
  | v => .ok v

/-- The items of a list of texts, and what is wrong with those that are none. -/
def checkItems (items : List Json) : Except (List Finding) (List Text) :=
  let checked := items.map textOfJson
  let problems := checked.zipIdx.filterMap fun (r, i) =>
    match r with
    | .ok _ => none
    | .error p => some ⟨[.index i], p⟩
  if problems.isEmpty then .ok (checked.filterMap Except.toOption) else .error problems

/-- The list of texts that a value is. -/
def checkList : Json → Except (List Finding) (List Text)
  | .arr items => checkItems items
  | _ => .error [⟨[], .notAList⟩]

/-- The origins that a value stands for: a text or a list of texts. -/
def checkOrigins (v : Json) : Except (List Finding) Origins :=
  match unfoldOrigins v with
  | .error p => .error [⟨[], p⟩]
  | .ok v =>
    match textOfJson v, checkList v with
    | .ok t, _ => .ok (.single t)
    | .error _, .ok origins => .ok (.list origins)
    | .error p, .error fs =>
      .error (⟨[.name (text "str")], p⟩ :: fs.map (Finding.within (text "list[str]")))

/-- The origins, or the standard ones where no value is given. -/
def originsSetting (e : Environment) : Except (List Finding) Origins :=
  match (originsText? e).bind jsonOrText with
  | none => .ok standard.origins
  | some v => (checkOrigins v).mapError fun fs => fs.map (Finding.within originsName)

/-! ## Settings of the store -/

def storeName : Text := text "store"

def storeTypeName : Text := text "StoreSettings"

/-- A field of the store's settings under its exact name, whatever its case. -/
def canonical (name : Text) : Text :=
  ([StoreSettings.pathName, StoreSettings.batchSizeName].find? fun n =>
    n.toLower = name.toLower).getD name

/-- The value that a source gives the store's settings. -/
def storeIn (e : Environment) (source : Environment.Source) : Except LoadError (Option Json) :=
  match e.valueIn storeName source with
  | none => .ok none
  | some t =>
    match Json.parse t with
    | .error fault => .error (.unreadable storeName source fault)
    | .ok .null => .ok none
    | .ok (.obj fields) =>
      .ok (some (.obj (Assoc.ofList (fields.map fun (n, v) => (canonical n, v)))))
    | .ok v => .ok (some v)

/-- Two values of the store's settings together; where both are objects, field by field. -/
def merge (first? second? : Option Json) : Option Json :=
  match first?, second? with
  | some (.obj first), some (.obj second) =>
    some (.obj (first.foldl (fun m (n, v) => Assoc.set n v m) second))
  | some v, _ => some v
  | none, v? => v?

/-- The store's settings from the value given for them. -/
def checkStore (e : Environment) (v : Json) : Except (List Finding) StoreSettings :=
  match v with
  | .obj fields =>
    (StoreSettings.load fields e).mapError fun fs => fs.map (Finding.within storeName)
  | _ => .error [⟨[.name storeName], .notAnObject storeTypeName⟩]

/-! ## All settings -/

def wildcardMessage : Text :=
  text ("Wildcard CORS origin is not allowed when HDFS_USAGE_ENV=production. " ++
    "Set HDFS_USAGE_ALLOW_ORIGINS to the reporting UI URL.")

/-- Settings that pass every check of their own must pass those that concern several at once
(`validate_production_configuration`). -/
def checkTogether (s : AppSettings) : Except LoadError AppSettings :=
  if s.environment = production && s.origins.contains Origins.wildcard then
    .error (.invalid [⟨[], .rule wildcardMessage⟩])
  else .ok s

/-- The settings made in an environment that pass every check of their own, once the value given for
the store's settings is known. -/
def draftWith (e : Environment) (store? : Option Json) : Except LoadError AppSettings :=
  let textSetting (name : String) (standard : Text) (check : Json → Except Problem Text) :=
    let name := text name
    StoreSettings.setting name ((e.value? name).map .str) standard check
  let environment := textSetting "HDFS_USAGE_ENV" standard.environment textOfJson
  let portName := text "HDFS_USAGE_PORT"
  let port := StoreSettings.setting portName ((e.value? portName).map .str) standard.port
    (StoreSettings.checkInt portBounds)
  let logLevel := textSetting "HDFS_USAGE_LOG_LEVEL" standard.logLevel textOfJson
  let logFormat := textSetting "HDFS_USAGE_LOG_FORMAT" standard.logFormat checkLogFormat
  let origins := originsSetting e
  let store? := store?.map (checkStore e)
  -- Without a value of their own the store's settings are made apart; their problems come alone.
  match store?, StoreSettings.load [] e with
  | none, .error fs => .error (.invalid fs)
  | store?, standing =>
    match environment, port, logLevel, logFormat, origins, store?.getD standing with
    | .ok environment, .ok port, .ok logLevel, .ok logFormat, .ok origins, .ok store =>
      .ok { environment, port, logLevel, logFormat, origins, store }
    | environment, port, logLevel, logFormat, origins, store =>
      .error (.invalid (StoreSettings.findings environment ++ StoreSettings.findings port ++
        StoreSettings.findings logLevel ++ StoreSettings.findings logFormat ++
        StoreSettings.findings origins ++ StoreSettings.findings store))

/-- The settings made in an environment that pass every check of their own. -/
def draft (e : Environment) : Except LoadError AppSettings :=
  match storeIn e .process, storeIn e .file with
  | .error x, _ => .error x
  | .ok _, .error x => .error x
  | .ok first?, .ok second? => draftWith e (merge first? second?)

/-- The settings made in an environment (`AppSettings`). -/
def load (e : Environment) : Except LoadError AppSettings :=
  match draft e with
  | .error x => .error x
  | .ok s => checkTogether s

def logDefaults (s : AppSettings) : Log.Defaults := ⟨s.logLevel, s.logFormat⟩

end AppSettings

/-! ## Settings at start -/

namespace Disk

def environmentFileName : Text := text ".env"

/-- The environment file that is read: the one in the working directory, or else the one above it.
Where there is neither, the bare name stands (`find_env_file`). -/
def environmentFile (d : Disk) : Text :=
  let here := d.workingDirectory ++ [environmentFileName]
  let above := Path.parent d.workingDirectory ++ [environmentFileName]
  if (d.node? here).isSome then Path.toText here
  else if (d.node? above).isSome then Path.toText above
  else environmentFileName

end Disk

namespace AppSettings

def rule (width : Nat) (c : CodePoint) : Log.Entry := .info (Text.fill width c)

/-- What is logged about the settings (`log_deployment_configuration`). -/
def deploymentEntries (s : AppSettings) (workingDirectory : Path) : List Log.Entry :=
  [rule 80 0x2D,
    .info (text (if s.environment = production then "PRODUCTION MODE" else "DEVELOPMENT MODE")),
    .info [],
    .info (text "Usage store:      " ++ s.store.resolvedPath workingDirectory),
    .info (Text.concat [text "Scan batch size:  ", Numeral.ofInt s.store.batchSize, text " rows"]),
    .info (text "CORS Origins:     " ++ Text.join (text ", ") s.origins.toList),
    rule 80 0x2D]

end AppSettings

end HourlyUsage
